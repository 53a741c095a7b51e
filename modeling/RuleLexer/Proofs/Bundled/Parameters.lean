import RuleLexer.Proofs.Bundled.Rules
import RuleLexer.Proofs.Regex.Runs

/-!
# Parameters

The rule for the parameters of macros comes before those for quoted texts and comments. It takes the
longest run of characters that are no separators, quotation marks or blanks, if the run stands
between separators.
-/

namespace RuleLexer.Bundled

open Regex Expr

def isBlank (char : Char) : Bool := blanks.contains char

/-- Whether a parameter may contain the character. -/
def isParameterChar (char : Char) : Bool :=
  !(['(', ')', '"', ',', '='].contains char || isBlank char)

/-- The length of the longest run of parameter characters. -/
def parameterLength (text : List Char) : Nat := (text.takeWhile isParameterChar).length

/-- The longest run of parameter characters comes after an opening parenthesis, a comma or white
space and before a closing parenthesis or a comma. -/
structure StandsAsParameter (before rest : List Char) : Prop where
  behind : ∃ char, before.getLast? = some char ∧ (char = '(' ∨ char = ',' ∨ isBlank char = true)
  ahead : ∃ char, (rest.drop (parameterLength rest)).head? = some char ∧ (char = ')' ∨ char = ',')

variable {following : Option Char} {reading after : Reading} {char : Char}
  {before rest : List Char} {rule : Rule} {index count : Nat}

theorem parameterLength_pos (inside : isParameterChar char = true) :
    0 < parameterLength (char :: rest) := by
  rw [parameterLength, List.takeWhile_cons_of_pos inside, List.length_cons]
  omega

theorem not_standsAsParameter_nil : ¬StandsAsParameter [] rest := by
  rintro ⟨⟨char, ⟨⟩, -⟩, -⟩

theorem contains_parameterChars : parameterChars.contains = isParameterChar := by
  funext char
  simp [parameterChars, isParameterChar, isBlank, oneOf, CharClass.contains,
    CharClass.contains_single, Bool.and_assoc]

theorem runLength_parameterChars (text : List Char) :
    parameterChars.runLength text = parameterLength text := by
  rw [CharClass.runLength, contains_parameterChars, parameterLength]

theorem contains_beforeParameter_iff :
    (CharClass.union (oneOf '(' [',']) blanks).contains char = true ↔
      char = '(' ∨ char = ',' ∨ isBlank char = true := by
  simp [isBlank, oneOf, CharClass.contains, CharClass.contains_single, or_assoc]

/-- A parameter ends with its run, since no separator belongs to the run. -/
theorem mem_ways_parameter_iff :
    after ∈ parameter.ways following reading ↔
      0 < parameterLength reading.rest ∧
        (∃ char, (reading.rest.drop (parameterLength reading.rest)).head? = some char ∧
          (char = ')' ∨ char = ',')) ∧
        after = (((reading.record .start).skip (parameterLength reading.rest)).record .stop).skip 1 := by
  have apart : ∀ char, (oneOf ')' [',']).contains char = true →
      parameterChars.contains char = false := by
    intro char separator
    rw [contains_parameterChars]
    rcases contains_oneOf_iff.mp separator with rfl | rfl <;> rfl
  rw [← runLength_parameterChars, parameter, mem_ways_run_before_iff apart]
  simp only [contains_oneOf_iff]

/-- The rule for parameters takes the longest run of parameter characters, where it stands as a
parameter. -/
theorem takes_parameter_iff (present : splCompiled[10]? = some rule) :
    rule.Takes before rest count ↔
      StandsAsParameter before rest ∧ 0 < count ∧ count = parameterLength rest := by
  cases present
  have marks : (((((Reading.between before rest).record .start).skip
      (parameterLength rest)).record .stop).skip 1).marks =
        ⟨some 0, some (parameterLength rest)⟩ := by
    simp [Reading.record, Reading.skip, Reading.between, Marks.record]
  rw [Rule.takes_iff rfl rfl, Rule.lookbehindHolds_set_iff rfl]
  simp only [contains_beforeParameter_iff,
    head?_eq_some_iff_of_only fun _ => mem_ways_parameter_iff.trans and_assoc.symm]
  constructor
  · rintro ⟨behind, ⟨after, ⟨⟨-, ahead⟩, rfl⟩, gives⟩, nonempty⟩
    refine ⟨⟨behind, ahead⟩, nonempty, ?_⟩
    have same := marks.symm.trans gives
    rw [Marks.mk.injEq, Option.some.injEq, Option.some.injEq] at same
    exact same.2.symm
  · rintro ⟨stands, nonempty, rfl⟩
    exact ⟨stands.behind, ⟨_, ⟨⟨nonempty, stands.ahead⟩, rfl⟩, marks⟩, nonempty⟩

/-- No rule before a position takes anything if the characters do not stand as a parameter and each
rule but the one for parameters may not begin with the next character or takes nothing for another
reason. -/
theorem noneTakes_unless_parameter (next : rest.head? = some char) (other : char.isAlpha = false)
    (alone : index ≤ 10 ∨ ¬StandsAsParameter before rest)
    (each : ∀ earlier < index, earlier ≠ 10 → (mayBeginFlags char)[earlier]? = some false ∨
      ∀ rule, splCompiled[earlier]? = some rule → ∀ count, ¬rule.Takes before rest count) :
    Rule.NoneTakes (splCompiled.take index) before rest := by
  refine noneTakes_take next other fun earlier less => ?_
  by_cases parameter : earlier = 10
  · subst parameter
    refine Or.inr fun rule present count takes => ?_
    have stands := ((takes_parameter_iff present).mp takes).1
    rcases alone with small | never
    · omega
    · exact never stands
  · exact each earlier less parameter

end RuleLexer.Bundled
