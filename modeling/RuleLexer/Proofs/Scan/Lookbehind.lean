import RuleLexer.Proofs.Regex.SingleCharacter
import RuleLexer.Proofs.RuleTable.Build
import RuleLexer.Proofs.Scan.FirstRule

/-!
# Lookbehind

The lookbehind of a rule is meant to match the character before the position as a whole. Only the
preferred match is tried, so a pattern that prefers to match nothing there refuses a character that
another of its ways would take. All other patterns let the rule go on exactly at the characters that
they match, in whatever order their alternatives stand.
-/

namespace RuleLexer

namespace Regex

/-- The expression of a written pattern. -/
def Expr.ofText (text : String) : Except PatternError Expr := do
  let pattern ← Pattern.read text.toList
  pattern.toExpr

theorem Program.ofText_eq_ok_iff {text : String} {program : Program} :
    ofText text = .ok program ↔ ∃ expr, Expr.ofText text = .ok expr ∧ program = expr.toProgram := by
  simp only [ofText, Expr.ofText, bind, Except.bind_eq_ok_iff, pure, Except.pure, Except.ok.injEq]
  constructor
  · rintro ⟨pattern, read, expr, meant, rfl⟩
    exact ⟨expr, ⟨pattern, read, meant⟩, rfl⟩
  · rintro ⟨expr, ⟨pattern, read, meant⟩, rfl⟩
    exact ⟨pattern, read, expr, meant, rfl⟩

end Regex

namespace Rule

open Regex

variable {rule : Rule} {expr : Expr} {before rest : List Char}

theorem allows_iff (present : rule.lookbehind = some expr.toProgram) :
    rule.allows before.reverse rest = true ↔
      ∃ front char, before = front ++ [char] ∧ expr.Matches front [char] rest ∧
        ¬ expr.PrefersNothing front char rest := by
  simp only [allows_eq_true_iff, LookbehindHolds, present, Option.some.injEq, forall_eq',
    ← Expr.match?_takes_single_iff, Option.map_eq_some_iff, exists_and_left]

end Rule

namespace RuleDef

open Regex

variable {states : OrderedMap (List RuleDef)} {site : RuleSite} {definition : RuleDef} {rule : Rule}
  {pattern : String}

theorem exists_lookbehind (compiled : definition.compile states site = .ok rule)
    (present : definition.lookbehind = some pattern) :
    ∃ expr, Expr.ofText pattern = .ok expr ∧ rule.lookbehind = some expr.toProgram := by
  have compiles := (compile_eq_ok_iff.mp compiled).lookbehind
  simp only [compileLookbehind, present] at compiles
  split at compiles
  · cases compiles
  · rename_i program read
    rcases Program.ofText_eq_ok_iff.mp read with ⟨expr, meant, rfl⟩
    exact ⟨expr, meant, (Except.ok.inj compiles).symm⟩

/-- The lookbehind of a rule lets it go on exactly if there is a character before the position, the
pattern matches it as a whole, and the pattern does not prefer to match nothing there. -/
theorem lookbehind_matches_previous (compiled : definition.compile states site = .ok rule)
    (present : definition.lookbehind = some pattern) :
    ∃ expr, Expr.ofText pattern = .ok expr ∧ ∀ before rest,
      rule.allows before.reverse rest = true ↔
        ∃ front char, before = front ++ [char] ∧ expr.Matches front [char] rest ∧
          ¬ expr.PrefersNothing front char rest := by
  rcases exists_lookbehind compiled present with ⟨expr, meant, lookbehind⟩
  refine ⟨expr, meant, ?_⟩
  intro before rest
  exact Rule.allows_iff lookbehind

/-- A rule that may stand at the start of the text or after a comma. -/
def afterStartOrComma : RuleDef :=
  { pattern := "x", category := .keyword, lookbehind := some "^|," }

theorem lookbehind_matches_previous_comma :
    ∃ rule, afterStartOrComma.compile .empty ⟨"root", 0⟩ = .ok rule ∧
      afterStartOrComma.lookbehind = some "^|," ∧
      ∃ expr, Expr.ofText "^|," = .ok expr ∧ ∀ before rest,
        rule.allows before.reverse rest = true ↔
          ∃ front char, before = front ++ [char] ∧ expr.Matches front [char] rest ∧
            ¬ expr.PrefersNothing front char rest := by
  obtain ⟨rule, compiled⟩ : ∃ rule, afterStartOrComma.compile .empty ⟨"root", 0⟩ = .ok rule :=
    ⟨_, rfl⟩
  exact ⟨rule, compiled, rfl, lookbehind_matches_previous compiled rfl⟩

theorem comma_refused_at_start :
    ∃ rule expr, afterStartOrComma.compile .empty ⟨"root", 0⟩ = .ok rule ∧
      Expr.ofText "^|," = .ok expr ∧ expr.Matches [] [','] ['x'] ∧
      rule.allows [','].reverse ['x'] = false := by
  refine ⟨_, _, rfl, rfl, ?_, ?_⟩
  · apply Expr.Matches.other
    apply Expr.Matches.set
    decide
  · decide

end RuleDef

end RuleLexer
