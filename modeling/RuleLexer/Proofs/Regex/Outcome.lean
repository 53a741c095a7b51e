import RuleLexer.Proofs.Regex.Ways

/-!
# Trial and error on programs

The match that trial and error finds first from an address of a program: the preferred branch of a
split is tried to its end before the other one. It is said with a bound on the instructions that are
followed without taking a character. A program settles if such a bound exists, the same at every
address, and then the bound does not show in what is found.

The recorded ends of the group are handed on and never looked at, so they do not decide whether
anything is found.
-/

namespace RuleLexer.Regex.Program

open Reading (around)

/-- What trial and error finds first from an address with a bound on the instructions followed
without taking a character. -/
def outcomeWithin (program : Program) (following : Option Char) (reading : Reading)
    (bound address : Nat) : Option Match :=
  match bound with
  | 0 => none
  | bound + 1 =>
    match program.code[address]? with
    | none => none
    | some .accept => some (matchAt reading.position reading.marks)
    | some (.consume chars) =>
      match _remains : reading.rest with
      | [] => none
      | char :: rest =>
        if chars.contains char then
          program.outcomeWithin following (reading.past char rest) (program.code.size + 1)
            (address + 1)
        else none
    | some (.require assertion) =>
      if assertion.holds (reading.around following) then
        program.outcomeWithin following reading bound (address + 1)
      else none
    | some (.split preferred other) =>
      (program.outcomeWithin following reading bound preferred).or
        (program.outcomeWithin following reading bound other)
    | some (.jump target) => program.outcomeWithin following reading bound target
    | some (.record edge) =>
      program.outcomeWithin following (reading.record edge) bound (address + 1)
termination_by (reading.rest.length, bound)
decreasing_by
  all_goals simp_wf
  all_goals simp_all [Reading.past, Prod.lex_def]

/-- What trial and error finds first from an address. -/
def outcome (program : Program) (following : Option Char) (reading : Reading) (address : Nat) :
    Option Match :=
  program.outcomeWithin following reading (program.code.size + 1) address

/-- Fewer than `bound` instructions are followed from the address without taking a character. -/
def SettlesWithin (program : Program) : Nat → Nat → Prop
  | 0, _ => False
  | bound + 1, address =>
    match program.code[address]? with
    | some (.require _) | some (.record _) => program.SettlesWithin bound (address + 1)
    | some (.split preferred other) =>
      program.SettlesWithin bound preferred ∧ program.SettlesWithin bound other
    | some (.jump target) => program.SettlesWithin bound target
    | _ => True

/-- No way through the program goes on forever without taking a character. -/
def Settles (program : Program) : Prop :=
  ∀ address, program.SettlesWithin (program.code.size + 1) address

variable {program : Program} {following : Option Char} {reading : Reading}
  {address bound fuel fuel' : Nat}

theorem SettlesWithin.mono (settles : program.SettlesWithin bound address) (le : bound ≤ fuel) :
    program.SettlesWithin fuel address := by
  induction bound generalizing address fuel with
  | zero => exact settles.elim
  | succ bound ih =>
      obtain ⟨fuel, rfl⟩ : ∃ larger, fuel = larger + 1 := ⟨fuel - 1, by omega⟩
      have le : bound ≤ fuel := by omega
      simp only [SettlesWithin] at settles ⊢
      split <;> simp_all

/-- A bound within which the program settles does not show. -/
theorem outcomeWithin_eq (settles : program.SettlesWithin bound address) (enough : bound ≤ fuel)
    (enough' : bound ≤ fuel') :
    program.outcomeWithin following reading fuel address =
      program.outcomeWithin following reading fuel' address := by
  induction bound generalizing address fuel fuel' reading with
  | zero => exact settles.elim
  | succ bound ih =>
      obtain ⟨fuel, rfl⟩ : ∃ larger, fuel = larger + 1 := ⟨fuel - 1, by omega⟩
      obtain ⟨fuel', rfl⟩ : ∃ larger, fuel' = larger + 1 := ⟨fuel' - 1, by omega⟩
      have le : bound ≤ fuel := by omega
      have le' : bound ≤ fuel' := by omega
      simp only [SettlesWithin] at settles
      rw [outcomeWithin, outcomeWithin]
      cases instr_eq : program.code[address]? with
      | none => rfl
      | some instr =>
          rw [instr_eq] at settles
          cases instr with
          | accept => rfl
          | consume chars => rfl
          | require assertion => simp only [ih settles le le']
          | split preferred other => simp only [ih settles.1 le le', ih settles.2 le le']
          | jump target => exact ih settles le le'
          | record edge => exact ih settles le le'

/-- Whether anything is found does not depend on what has been recorded. -/
theorem isSome_outcomeWithin (reading : Reading) (marks : Marks) (bound address : Nat) :
    (program.outcomeWithin following { reading with marks } bound address).isSome =
      (program.outcomeWithin following reading bound address).isSome := by
  fun_induction outcomeWithin program following reading bound address generalizing marks with
  | case1 => rw [outcomeWithin]
  | case2 reading address bound instr =>
      rw [outcomeWithin]
      simp only [instr]
  | case3 reading address bound instr =>
      rw [outcomeWithin]
      simp only [instr, Option.isSome_some]
  | case4 reading address bound chars instr ended =>
      rw [outcomeWithin]
      simp only [instr]
      split
      · rfl
      · simp_all
  | case5 reading address bound chars instr char rest remains inside ih =>
      rw [outcomeWithin]
      simp only [instr]
      split
      · simp_all
      · rename_i char' rest' remains'
        rw [remains] at remains'
        cases remains'
        rw [if_pos inside]
        exact ih marks
  | case6 reading address bound chars instr char rest remains outside =>
      rw [outcomeWithin]
      simp only [instr]
      split
      · rfl
      · simp_all
  | case7 reading address bound assertion instr holds ih =>
      have holds' : assertion.holds (around following { reading with marks }) = true := holds
      rw [outcomeWithin]
      simp only [instr, holds', if_true]
      exact ih marks
  | case8 reading address bound assertion instr fails =>
      have fails' : ¬ assertion.holds (around following { reading with marks }) = true := fails
      rw [outcomeWithin]
      simp only [instr, if_neg fails']
  | case9 reading address bound preferred other instr ihPreferred ihOther =>
      rw [outcomeWithin]
      simp only [instr, Option.isSome_or, ihPreferred marks, ihOther marks]
  | case10 reading address bound target instr ih =>
      rw [outcomeWithin]
      simp only [instr]
      exact ih marks
  | case11 reading address bound edge instr ih =>
      rw [outcomeWithin]
      simp only [instr]
      exact ih _

theorem outcome_none (absent : program.code[address]? = none) :
    program.outcome following reading address = none := by
  rw [outcome, outcomeWithin, absent]

theorem outcome_accept (instr : program.code[address]? = some .accept) :
    program.outcome following reading address =
      some (matchAt reading.position reading.marks) := by
  rw [outcome, outcomeWithin, instr]

theorem outcome_consume_nil {chars : CharClass}
    (instr : program.code[address]? = some (.consume chars)) (ended : reading.rest = []) :
    program.outcome following reading address = none := by
  rw [outcome, outcomeWithin]
  simp only [instr]
  split
  · rfl
  · simp_all

theorem outcome_consume_cons {chars : CharClass} {char : Char} {rest : List Char}
    (instr : program.code[address]? = some (.consume chars)) (remains : reading.rest = char :: rest) :
    program.outcome following reading address =
      if chars.contains char then
        program.outcome following (reading.past char rest) (address + 1)
      else none := by
  rw [outcome, outcomeWithin]
  simp only [instr]
  split
  · simp_all
  · rename_i char' rest' remains'
    rw [remains] at remains'
    cases remains'
    rfl

/-- Following one instruction less makes no difference to what is found after it. -/
theorem outcomeWithin_size (within : program.SettlesWithin program.code.size address) :
    program.outcomeWithin following reading program.code.size address =
      program.outcome following reading address :=
  outcomeWithin_eq within (Nat.le_refl _) (Nat.le_succ _)

section Settles

variable (settles : program.Settles)

include settles

theorem outcome_require {assertion : Assertion}
    (instr : program.code[address]? = some (.require assertion)) :
    program.outcome following reading address =
      if assertion.holds (reading.around following) then
        program.outcome following reading (address + 1)
      else none := by
  have within := settles address
  simp only [SettlesWithin, instr] at within
  rw [outcome, outcomeWithin]
  simp only [instr, outcomeWithin_size within]

theorem outcome_split {preferred other : Nat}
    (instr : program.code[address]? = some (.split preferred other)) :
    program.outcome following reading address =
      (program.outcome following reading preferred).or
        (program.outcome following reading other) := by
  have within := settles address
  simp only [SettlesWithin, instr] at within
  rw [outcome, outcomeWithin]
  simp only [instr, outcomeWithin_size within.1, outcomeWithin_size within.2]

theorem outcome_jump {target : Nat} (instr : program.code[address]? = some (.jump target)) :
    program.outcome following reading address = program.outcome following reading target := by
  have within := settles address
  simp only [SettlesWithin, instr] at within
  rw [outcome, outcomeWithin]
  simp only [instr, outcomeWithin_size within]

theorem outcome_record {edge : Edge} (instr : program.code[address]? = some (.record edge)) :
    program.outcome following reading address =
      program.outcome following (reading.record edge) (address + 1) := by
  have within := settles address
  simp only [SettlesWithin, instr] at within
  rw [outcome, outcomeWithin]
  simp only [instr, outcomeWithin_size within]

end Settles

theorem isSome_outcome (reading : Reading) (marks : Marks) (address : Nat) :
    (program.outcome following { reading with marks } address).isSome =
      (program.outcome following reading address).isSome :=
  isSome_outcomeWithin reading marks _ _

end RuleLexer.Regex.Program
