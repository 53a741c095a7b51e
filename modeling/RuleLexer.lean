import RuleLexer.Files.Tree
import RuleLexer.Main
import RuleLexer.Proofs.Category
import RuleLexer.Proofs.Command.Choice
import RuleLexer.Proofs.Command.Check
import RuleLexer.Proofs.Command.Collect
import RuleLexer.Proofs.Command.Input
import RuleLexer.Proofs.Definition
import RuleLexer.Proofs.OrderedMap
import RuleLexer.Proofs.Regex.Bounds
import RuleLexer.Proofs.RuleFile.Blocks
import RuleLexer.Proofs.RuleFile.Decode
import RuleLexer.Proofs.RuleFile.RoundTrip
import RuleLexer.Proofs.RuleTable.Alike
import RuleLexer.Proofs.RuleTable.Build
import RuleLexer.Proofs.RuleTable.Targets
import RuleLexer.Proofs.Scan.Alike
import RuleLexer.Proofs.Scan.FirstRule
import RuleLexer.Proofs.Scan.Iteration
import RuleLexer.Proofs.Scan.Nesting
import RuleLexer.Proofs.Scan.Offsets
import RuleLexer.Proofs.Scan.Partition
import RuleLexer.Proofs.Scan.Run
import RuleLexer.Proofs.Scan.Specification
import RuleLexer.Proofs.Scan.Stack
import RuleLexer.Proofs.Scan.Step
import RuleLexer.Proofs.Source.Lines
import RuleLexer.Proofs.Source.Records
import RuleLexer.Proofs.Source.Slices
import RuleLexer.Proofs.Text.Slice
import RuleLexer.Proofs.Token.Tiles
import RuleLexer.Proofs.Toml.Document
import RuleLexer.Proofs.Toml.Key
import RuleLexer.Proofs.Toml.Sections
import RuleLexer.Proofs.Toml.StringForm
import RuleLexer.Proofs.Toml.Value
import RuleLexer.RuleFile.Writer
import RuleLexer.Proofs.Regex.Outcome
import RuleLexer.Proofs.Bundled.Atomic
import RuleLexer.Proofs.Glob
import RuleLexer.Proofs.Grouping
import RuleLexer.Proofs.Toml.Interleaving
import RuleLexer.Proofs.RuleFile.Listing
import RuleLexer.Proofs.Command.TextOutput
import RuleLexer.Proofs.Bundled.Comments
import RuleLexer.Proofs.Bundled.Escapes
import RuleLexer.Proofs.Bundled.Numbers
import RuleLexer.Proofs.Bundled.PlainText
import RuleLexer.Proofs.Bundled.Strings
import RuleLexer.Proofs.Bundled.Keywords
import RuleLexer.Proofs.Regex.Matches
import RuleLexer.Proofs.Regex.SingleCharacter
import RuleLexer.Proofs.Scan.Lookbehind
import RuleLexer.Proofs.Token.Coalesce
import RuleLexer.Proofs.Token.MaximalRuns
import RuleLexer.Proofs.Source.Positions
import RuleLexer.Proofs.RuleTable.Faults
import RuleLexer.Proofs.RuleTable.Image
import RuleLexer.Proofs.RuleTable.Reachable
import RuleLexer.Proofs.Scan.Recovery
import RuleLexer.Proofs.Scan.Unreachable
