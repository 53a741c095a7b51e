import Mathlib.Data.Fintype.Card
import RuleLexer.Proofs.Regex.Threads

/-!
# Programs of expressions settle

The program of an expression settles if every round of every loop in it takes a character: going
back to the start of a loop then leads to such a character before it leads back again.

How many instructions are followed is not counted along the way. An address that settles at all
settles within the size of the program, because on the longest way from it no address comes twice.
-/

namespace RuleLexer.Regex

namespace Program

/-- The instructions stand in the program from an address on. -/
def Has (program : Program) (base : Nat) (instrs : List Instr) : Prop :=
  ∀ index instr, instrs[index]? = some instr → program.code[base + index]? = some instr

/-- Only so many instructions are followed from the address without taking a character. -/
def Ends (program : Program) (address : Nat) : Prop :=
  ∃ bound, program.SettlesWithin bound address

variable {program : Program} {base address bound : Nat} {instr : Instr}
  {instrs front back : List Instr}

theorem Has.head (has : program.Has base (instr :: instrs)) :
    program.code[base]? = some instr :=
  has 0 instr rfl

theorem Has.tail (has : program.Has base (instr :: instrs)) : program.Has (base + 1) instrs := by
  intro index found at_index
  have at_index := has (index + 1) found at_index
  rwa [← Nat.add_assoc, Nat.add_right_comm] at at_index

theorem Has.left (has : program.Has base (front ++ back)) : program.Has base front := by
  intro index found at_index
  refine has index found ?_
  rw [List.getElem?_append_left (List.getElem?_eq_some_iff.mp at_index).1, at_index]

theorem Has.right (has : program.Has base (front ++ back)) :
    program.Has (base + front.length) back := by
  intro index found at_index
  have later := has (front.length + index) found (by
    rw [List.getElem?_append_right (Nat.le_add_right _ _), Nat.add_sub_cancel_left, at_index])
  rwa [← Nat.add_assoc] at later

theorem Ends.of_none (absent : program.code[address]? = none) : program.Ends address :=
  ⟨1, by simp [SettlesWithin, absent]⟩

theorem Ends.of_accept (here : program.code[address]? = some .accept) : program.Ends address :=
  ⟨1, by simp [SettlesWithin, here]⟩

theorem Ends.of_consume {chars : CharClass}
    (here : program.code[address]? = some (.consume chars)) : program.Ends address :=
  ⟨1, by simp [SettlesWithin, here]⟩

theorem Ends.of_require {assertion : Assertion}
    (here : program.code[address]? = some (.require assertion))
    (next : program.Ends (address + 1)) : program.Ends address := by
  rcases next with ⟨bound, settles⟩
  exact ⟨bound + 1, by simp only [SettlesWithin, here, settles]⟩

theorem Ends.of_record {edge : Edge} (here : program.code[address]? = some (.record edge))
    (next : program.Ends (address + 1)) : program.Ends address := by
  rcases next with ⟨bound, settles⟩
  exact ⟨bound + 1, by simp only [SettlesWithin, here, settles]⟩

theorem Ends.of_jump {target : Nat} (here : program.code[address]? = some (.jump target))
    (next : program.Ends target) : program.Ends address := by
  rcases next with ⟨bound, settles⟩
  exact ⟨bound + 1, by simp only [SettlesWithin, here, settles]⟩

theorem Ends.of_split {preferred other : Nat}
    (here : program.code[address]? = some (.split preferred other))
    (one : program.Ends preferred) (two : program.Ends other) : program.Ends address := by
  rcases one with ⟨bound, settles⟩
  rcases two with ⟨bound', settles'⟩
  have settles := settles.mono (Nat.le_max_left bound bound')
  have settles' := settles'.mono (Nat.le_max_right bound bound')
  exact ⟨max bound bound' + 1, by simp only [SettlesWithin, here, settles, settles', and_self]⟩

/-- The address settles within a bound and within no smaller one. -/
def SettlesAt (program : Program) (bound address : Nat) : Prop :=
  program.SettlesWithin (bound + 1) address ∧ ¬ program.SettlesWithin bound address

theorem SettlesAt.unique {bound' : Nat} (one : program.SettlesAt bound address)
    (two : program.SettlesAt bound' address) : bound = bound' := by
  by_contra different
  rcases Nat.lt_or_gt_of_ne different with less | less
  · exact two.2 (one.1.mono less)
  · exact one.2 (two.1.mono less)

theorem Ends.settlesAt (ends : program.Ends address) :
    ∃ bound, program.SettlesAt bound address := by
  rcases ends with ⟨bound, settles⟩
  induction bound with
  | zero => exact settles.elim
  | succ bound ih =>
      by_cases sooner : program.SettlesWithin bound address
      · exact ih sooner
      · exact ⟨bound, settles, sooner⟩

/-- One of the successors of an address settles one instruction sooner, and no sooner than that. -/
theorem SettlesAt.next (settles : program.SettlesAt (bound + 1) address) :
    address < program.code.size ∧ ∃ next, program.SettlesAt bound next := by
  rcases settles with ⟨within, late⟩
  rw [SettlesWithin] at within late
  cases here : program.code[address]? with
  | none => simp [here] at late
  | some instr =>
      refine ⟨(Array.getElem?_eq_some_iff.mp here).1, ?_⟩
      rw [here] at within late
      cases instr with
      | consume chars => exact absurd trivial late
      | accept => exact absurd trivial late
      | require assertion => exact ⟨address + 1, within, late⟩
      | record edge => exact ⟨address + 1, within, late⟩
      | jump target => exact ⟨target, within, late⟩
      | split preferred other =>
          by_cases sooner : program.SettlesWithin bound preferred
          · exact ⟨other, within.2, fun soon => late ⟨sooner, soon⟩⟩
          · exact ⟨preferred, within.1, sooner⟩

theorem SettlesAt.descend (settles : program.SettlesAt bound address) :
    ∀ index : Fin bound, ∃ inner : Fin program.code.size,
      program.SettlesAt (index + 1) inner := by
  induction bound generalizing address with
  | zero => exact fun index => index.elim0
  | succ bound ih =>
      rcases settles.next with ⟨inside, next, later⟩
      intro index
      rcases Nat.lt_or_eq_of_le (Nat.le_of_lt_succ index.isLt) with less | last
      · exact ih later ⟨index, less⟩
      · rw [last]
        exact ⟨⟨address, inside⟩, settles⟩

/-- An address that settles at all settles within the size of the program. -/
theorem Ends.settlesWithin_size (ends : program.Ends address) :
    program.SettlesWithin (program.code.size + 1) address := by
  rcases ends.settlesAt with ⟨bound, settles⟩
  -- The addresses on the longest way settle within different bounds, so they differ.
  choose inner inner_settles using settles.descend
  have injective : Function.Injective inner := by
    intro one two same
    have settles_two := inner_settles two
    rw [← same] at settles_two
    have := (inner_settles one).unique settles_two
    exact Fin.ext (by omega)
  have few := Fintype.card_le_of_injective inner injective
  rw [Fintype.card_fin, Fintype.card_fin] at few
  exact settles.1.mono (by omega)

end Program

namespace Expr

open Program (Ends)

variable {program : Program} {base : Nat}

/-- The code of an expression settles at all of its addresses if what comes after it does, and its
start settles in any case if the expression takes a character. -/
theorem ends_layout (expr : Expr) (productive : expr.isProductive = true)
    (has : program.Has base (expr.layout base)) :
    (expr.consumes = true → program.Ends base) ∧
      (program.Ends (base + (expr.layout base).length) →
        ∀ address, base ≤ address → address ≤ base + (expr.layout base).length →
          program.Ends address) := by
  induction expr generalizing base with
  | empty =>
      refine ⟨by simp [consumes], fun exit address ge le => ?_⟩
      rwa [Nat.le_antisymm le ge]
  | set chars =>
      have here := has.head
      refine ⟨fun _ => Ends.of_consume here, fun exit address ge le => ?_⟩
      rcases Nat.eq_or_lt_of_le ge with rfl | after
      · exact Ends.of_consume here
      · rwa [Nat.le_antisymm le after]
  | look assertion =>
      have here := has.head
      refine ⟨by simp [consumes], fun exit address ge le => ?_⟩
      rcases Nat.eq_or_lt_of_le ge with rfl | after
      · exact Ends.of_require here exit
      · rwa [Nat.le_antisymm le after]
  | seq first second ihFirst ihSecond =>
      rw [isProductive, Bool.and_eq_true] at productive
      rw [layout] at has ⊢
      have one := ihFirst productive.1 has.left
      have two := ihSecond productive.2 has.right
      refine ⟨?_, ?_⟩
      · intro consuming
        rw [consumes, Bool.or_eq_true] at consuming
        rcases consuming with consuming | consuming
        · exact one.1 consuming
        · exact one.2 (two.1 consuming) base (Nat.le_refl _) (Nat.le_add_right _ _)
      · intro exit address ge le
        rw [List.length_append, ← Nat.add_assoc] at exit le
        have later := two.2 exit
        rcases Nat.le_total address (base + (first.layout base).length) with inside | outside
        · exact one.2 (later _ (Nat.le_refl _) (Nat.le_add_right _ _)) address ge inside
        · exact later address outside le
  | alt preferred other ihPreferred ihOther =>
      rw [isProductive, Bool.and_eq_true] at productive
      rw [layout, List.cons_append] at has ⊢
      have here := has.head
      have one := ihPreferred productive.1 has.tail.left
      have between := has.tail.right.head
      have two := ihOther productive.2 has.tail.right.tail
      refine ⟨?_, ?_⟩
      · intro consuming
        rw [consumes, Bool.and_eq_true] at consuming
        exact Ends.of_split here (one.1 consuming.1) (two.1 consuming.2)
      · intro exit address ge le
        simp only [List.length_cons, List.length_append] at exit le
        generalize preferred.layout (base + 1) = preferredPart at *
        generalize other.layout (base + 1 + preferredPart.length + 1) = otherPart at *
        rw [show base + (preferredPart.length + (otherPart.length + 1) + 1) =
          base + 1 + preferredPart.length + 1 + otherPart.length by omega] at exit le
        have inOther := two.2 exit
        have left := Ends.of_jump between exit
        have inPreferred := one.2 left
        rcases Nat.eq_or_lt_of_le ge with rfl | after
        · exact Ends.of_split here (inPreferred _ (by omega) (by omega))
            (inOther _ (by omega) (by omega))
        · rcases Nat.lt_or_ge (base + 1 + preferredPart.length) address with outside | inside
          · exact inOther address outside le
          · exact inPreferred address after inside
  | plus greedy body ih =>
      rw [isProductive, Bool.and_eq_true] at productive
      rw [layout] at has ⊢
      have inner := ih productive.2 has.left
      have last := has.right.head
      have start := inner.1 productive.1
      refine ⟨fun _ => start, fun exit address ge le => ?_⟩
      rw [List.length_append, List.length_singleton, ← Nat.add_assoc] at exit le
      have again : program.Ends (base + (body.layout base).length) := by
        cases greedy with
        | true => exact Ends.of_split last start exit
        | false => exact Ends.of_split last exit start
      rcases Nat.lt_or_ge (base + (body.layout base).length) address with outside | inside
      · rwa [Nat.le_antisymm le outside]
      · exact inner.2 again address ge inside
  | group index body ih =>
      rw [isProductive] at productive
      rw [layout] at has ⊢
      by_cases recorded : index = bodyGroup
      · rw [if_pos recorded, List.cons_append] at has ⊢
        have first := has.head
        have inner := ih productive has.tail.left
        have last := has.tail.right.head
        refine ⟨fun consuming => Ends.of_record first (inner.1 consuming), ?_⟩
        intro exit address ge le
        simp only [List.length_cons, List.length_append, List.length_nil] at exit le
        generalize body.layout (base + 1) = bodyPart at *
        rw [show base + (bodyPart.length + (0 + 1) + 1) = base + 1 + bodyPart.length + 1 by
          omega] at exit le
        have inside := inner.2 (Ends.of_record last exit)
        rcases Nat.eq_or_lt_of_le ge with rfl | after
        · exact Ends.of_record first (inside _ (Nat.le_refl _) (by omega))
        · rcases Nat.lt_or_ge (base + 1 + bodyPart.length) address with outside | within
          · rwa [Nat.le_antisymm le outside]
          · exact inside address after within
      · rw [if_neg recorded] at has ⊢
        exact ih productive has

theorem has_toProgram (expr : Expr) : expr.toProgram.Has 0 (expr.layout 0 ++ [.accept]) := by
  intro index instr at_index
  rw [toProgram, Nat.zero_add, List.getElem?_toArray, at_index]

theorem settles_toProgram (expr : Expr) (productive : expr.isProductive = true) :
    expr.toProgram.Settles := by
  intro address
  refine Ends.settlesWithin_size ?_
  have has := expr.has_toProgram
  have accepting := Ends.of_accept has.right.head
  rcases Nat.lt_or_ge (0 + (expr.layout 0).length) address with outside | inside
  · refine Ends.of_none (Array.getElem?_eq_none ?_)
    rw [toProgram, List.size_toArray, List.length_append, List.length_singleton]
    omega
  · exact (ends_layout expr productive has.left).2 accepting address (Nat.zero_le _) inside

end Expr

end RuleLexer.Regex
