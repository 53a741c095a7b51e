import RuleLexer.Command.Check
import RuleLexer.Proofs.Command.Collect
import RuleLexer.Proofs.RuleTable.Targets

/-!
# Checked rule files

The check of a rule file and the command for tokens with this rule file lead to the same table, by
different ways. What the check reports is the size of the definition in the file, since compiling
keeps every state and every rule. After a check that succeeds only an input that cannot be read
fails the command for tokens; after a check that fails it fails in the same way, before it reads any
input.
-/

namespace RuleLexer

variable {files : FileSystem} {path : String} {failure : CommandError}

namespace CheckReport

variable {report : CheckReport}

/-- The check reports on the table that the rule file leads to where it is chosen. -/
theorem ofFile_eq (files : FileSystem) (path : String) (settings : Settings) :
    ofFile files path =
      ofTable <$> (LexerChoice.rulesFile path).resolve files settings none := by
  simp only [ofFile, LexerChoice.resolve, LexerChoice.definition]
  cases loadRulesFile files path with
  | error failure => rfl
  | ok definition =>
      cases compileDefinition definition with
      | error failure => rfl
      | ok table => rfl

theorem resolve_of_ofFile (checked : ofFile files path = .ok report) (settings : Settings) :
    ∃ table, (LexerChoice.rulesFile path).resolve files settings none = .ok table := by
  rw [ofFile_eq files path settings] at checked
  cases resolved : (LexerChoice.rulesFile path).resolve files settings none with
  | error failure => simp [resolved, Functor.map, Except.map] at checked
  | ok table => exact ⟨table, rfl⟩

theorem resolve_of_ofFile_eq_error (checked : ofFile files path = .error failure)
    (settings : Settings) :
    (LexerChoice.rulesFile path).resolve files settings none = .error failure := by
  rw [ofFile_eq files path settings] at checked
  cases resolved : (LexerChoice.rulesFile path).resolve files settings none with
  | error other =>
      rw [resolved] at checked
      cases checked
      rfl
  | ok table => simp [resolved, Functor.map, Except.map] at checked

/-- A report counts the states and the rules of the definition in the file. -/
theorem counts_of_ofFile (checked : ofFile files path = .ok report) :
    ∃ definition, loadRulesFile files path = .ok definition ∧
      report.states = definition.states.size ∧ report.rules = definition.ruleCount := by
  simp only [ofFile, bind, Except.bind_eq_ok_iff, pure, Except.pure, Except.ok.injEq] at checked
  rcases checked with ⟨definition, loaded, table, compiled, rfl⟩
  rw [compileDefinition, Except.mapError_eq_ok_iff, RuleTable.build_eq_ok_iff] at compiled
  exact ⟨definition, loaded, compiled.stateCount, compiled.ruleCount⟩

end CheckReport

namespace TokensRequest

variable {request : TokensRequest} {standardInput : Contents} {settings : Settings}
  {gathering : Gathering CommandError FileTokens}

theorem exists_runWith_iff :
    (∃ output, request.runWith files standardInput settings gathering = .ok output) ↔
      ∃ answers, request.collect files standardInput settings gathering = .ok answers := by
  rw [runWith]
  cases request.collect files standardInput settings gathering with
  | error failure => simp [bind, Except.bind]
  | ok answers => cases request.format <;> simp [bind, Except.bind, pure, Except.pure]

theorem runWith_eq_error
    (fails : request.collect files standardInput settings gathering = .error failure) :
    request.runWith files standardInput settings gathering = .error failure := by
  rw [runWith, fails]
  rfl

/-- With a lexer that all inputs have in common, only an input that cannot be read fails the
command. -/
theorem exists_collect_iff_readable (once : request.arguments.count "-" ≤ 1)
    (fixed : request.choice.isFixed = true)
    (lexer : ∃ table, request.choice.resolve files settings none = .ok table) :
    (∃ answers, request.collect files standardInput settings gathering = .ok answers) ↔
      ∀ input ∈ Input.named request.arguments, input.IsReadable files standardInput := by
  constructor
  · rintro ⟨answers, collected⟩
    rcases Input.readable_or_exists_first (Input.named request.arguments) with
      readable | ⟨before, input, after, failure, parts, readable, fails⟩
    · exact readable
    · have ends : request.OneByOne files standardInput settings (.error failure) :=
        .reading once (fun _ => lexer) parts readable fails
      rw [collect_eq_of_oneByOne ends] at collected
      cases collected
  · intro readable
    rcases lexer with ⟨table, resolved⟩
    have lexers : ∀ input ∈ Input.named request.arguments,
        ∃ table, request.choice.resolve files settings input.path? = .ok table := by
      intro input _
      rw [LexerChoice.resolve_of_isFixed fixed input.path? none]
      exact ⟨table, resolved⟩
    rcases exists_answersAlone readable lexers with ⟨answers, each⟩
    exact ⟨answers, collect_eq_of_oneByOne (.answers once each)⟩

theorem choice_of_rules (rules : request.rules = some path) :
    request.choice = .rulesFile path := by
  rw [choice, rules]
  rfl

end TokensRequest

/-- After a check that succeeds, the report counts the states and the rules of the definition in the
file, and the command for tokens with this file succeeds exactly if every input can be read. After a
check that fails, the command fails in the same way, whatever the inputs are. -/
theorem CheckReport.predicts_tokens {request : TokensRequest}
    (rules : request.rules = some path) (once : request.arguments.count "-" ≤ 1)
    (files : FileSystem) (standardInput : Contents) (settings : Settings)
    (gathering : Gathering CommandError FileTokens) :
    (∀ report, ofFile files path = .ok report →
      (∃ definition, loadRulesFile files path = .ok definition ∧
        report.states = definition.states.size ∧ report.rules = definition.ruleCount) ∧
      ((∃ output, request.runWith files standardInput settings gathering = .ok output) ↔
        ∀ input ∈ Input.named request.arguments, input.IsReadable files standardInput)) ∧
    (∀ failure, ofFile files path = .error failure →
      request.runWith files standardInput settings gathering = .error failure) := by
  have chosen : request.choice = .rulesFile path := TokensRequest.choice_of_rules rules
  have fixed : request.choice.isFixed = true := by
    rw [chosen]
    rfl
  constructor
  · intro report checked
    have lexer := resolve_of_ofFile checked settings
    rw [← chosen] at lexer
    refine ⟨counts_of_ofFile checked, ?_⟩
    rw [TokensRequest.exists_runWith_iff]
    exact TokensRequest.exists_collect_iff_readable once fixed lexer
  · intro failure checked
    have fails := resolve_of_ofFile_eq_error checked settings
    rw [← chosen] at fails
    apply TokensRequest.runWith_eq_error
    apply TokensRequest.collect_eq_of_oneByOne
    exact .lexer once fixed fails

namespace TokensRequest

/-- Standard input, with a rule file that may be there. -/
def withOwnRules : TokensRequest where
  rules := some "rules/spl.toml"

/-- A file that is missing, with a rule file that is missing as well. -/
def withMissingRules : TokensRequest where
  arguments := ["missing.spl"]
  rules := some "missing.toml"

end TokensRequest

namespace CheckReport

open LexerChoice (ownFiles load_ownLanguage exists_build_ownLanguage)

theorem exists_ofFile_ownFiles : ∃ report, ofFile ownFiles "rules/spl.toml" = .ok report := by
  rcases exists_build_ownLanguage with ⟨table, built⟩
  refine ⟨ofTable table, ?_⟩
  rw [ofFile, load_ownLanguage]
  simp only [compileDefinition, built, Except.mapError, bind, Except.bind, pure, Except.pure]

/-- What the operating system says where reading is not permitted. -/
def notPermitted : SystemFault where
  description := "Permission denied (os error 13)"

/-- The files where the rule file is there but must not be read. -/
def lockedFiles : FileSystem :=
  .ofList [("rules/spl.toml", .file (.failing notPermitted))]

/-- The rule file that is there has one state with one rule; the command succeeds if standard input
can be read, and not if it fails. A rule file that must not be read is what the command fails with.
So is one that is missing, although the input is missing too. -/
theorem predicts_tokens_ownFiles :
    (∃ report output, ofFile ownFiles "rules/spl.toml" = .ok report ∧
      report.states = 1 ∧ report.rules = 1 ∧
      TokensRequest.withOwnRules.runWith ownFiles "x".toUTF8 {} .inOrder = .ok output ∧
      ¬ ∃ output, TokensRequest.withOwnRules.runWith ownFiles (.failing notPermitted) {} .inOrder =
        .ok output) ∧
    TokensRequest.withOwnRules.runWith lockedFiles "x".toUTF8 {} .inOrder =
      .error (.reading (.system notPermitted)) ∧
    TokensRequest.withMissingRules.runWith ownFiles "x".toUTF8 {} .inOrder =
      .error (.arguments (.ruleFileNotFound "missing.toml")) := by
  have once : TokensRequest.withOwnRules.arguments.count "-" ≤ 1 := by decide
  refine ⟨?_, ?_, ?_⟩
  · rcases exists_ofFile_ownFiles with ⟨report, checked⟩
    have predicted := predicts_tokens rfl once ownFiles "x".toUTF8 {} .inOrder
    rcases predicted.1 report checked with ⟨⟨definition, loaded, states, rules⟩, succeeds⟩
    rw [load_ownLanguage] at loaded
    cases loaded
    have readable : ∀ input ∈ Input.named TokensRequest.withOwnRules.arguments,
        input.IsReadable ownFiles "x".toUTF8 := by
      intro input mem
      cases List.mem_singleton.mp mem
      exact ⟨"x", rfl⟩
    rcases succeeds.mpr readable with ⟨output, printed⟩
    refine ⟨report, output, checked, states, rules, printed, ?_⟩
    have predicted := predicts_tokens rfl once ownFiles (.failing notPermitted) {} .inOrder
    rw [(predicted.1 report checked).2]
    intro readable
    rcases readable .standard (List.mem_singleton_self _) with ⟨text, holds⟩
    cases holds
  · have checked : ofFile lockedFiles "rules/spl.toml" =
        .error (.reading (.system notPermitted)) := by
      rw [ofFile, loadRulesFile_of_entry rfl]
      rfl
    exact (predicts_tokens rfl once lockedFiles "x".toUTF8 {} .inOrder).2 _ checked
  · have once : TokensRequest.withMissingRules.arguments.count "-" ≤ 1 := by decide
    have checked : ofFile ownFiles "missing.toml" =
        .error (.arguments (.ruleFileNotFound "missing.toml")) := by
      rw [ofFile, loadRulesFile_of_not_isFile rfl]
      rfl
    exact (predicts_tokens rfl once ownFiles "x".toUTF8 {} .inOrder).2 _ checked

end CheckReport

end RuleLexer
