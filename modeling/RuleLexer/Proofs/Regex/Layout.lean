import RuleLexer.Proofs.Regex.Settling

/-!
# Programs match as their expressions do

The instructions of an expression lead trial and error to the ends of its ways, in their order, and
on from the address after the instructions. So the program of an expression finds the first of the
ways, if there is one.
-/

namespace RuleLexer.Regex

theorem findSome?_flatMap {α β γ : Type} (items : List α) (expand : α → List β)
    (pick : β → Option γ) :
    (items.flatMap expand).findSome? pick =
      items.findSome? fun item => (expand item).findSome? pick := by
  induction items with
  | nil => rfl
  | cons item items ih =>
      rw [List.flatMap_cons, List.findSome?_append, ih, List.findSome?_cons]
      cases (expand item).findSome? pick <;> rfl

theorem findSome?_congr {α β : Type} {items : List α} {pick pick' : α → Option β}
    (same : ∀ item ∈ items, pick item = pick' item) :
    items.findSome? pick = items.findSome? pick' := by
  induction items with
  | nil => rfl
  | cons item items ih =>
      rw [List.forall_mem_cons] at same
      rw [List.findSome?_cons, List.findSome?_cons, same.1, ih same.2]

namespace Expr

open Program

variable {program : Program} {following : Option Char} {base : Nat}

section Loop

variable {greedy : Bool} {body : Expr} {exit : Nat}

/-- A loop goes back to its start and leaves at its exit, in the order that its greed gives. -/
theorem outcome_loop (settles : program.Settles) {address : Nat}
    (has : program.Has address [if greedy then .split base exit else .split exit base])
    (reading : Reading) :
    program.outcome following reading address =
      if greedy then
        (program.outcome following reading base).or (program.outcome following reading exit)
      else (program.outcome following reading exit).or (program.outcome following reading base) := by
  cases greedy with
  | true => exact outcome_split settles has.head
  | false => exact outcome_split settles has.head

/-- If the code of a body leads to the ends of its ways and then to the end of a loop, the loop
leads to the ends of the ways of the repetition. -/
theorem outcome_plus (consuming : body.consumes = true) {address : Nat}
    (once : ∀ reading, program.outcome following reading base =
      (body.ways following reading).findSome? fun after =>
        program.outcome following after address)
    (loops : ∀ reading, program.outcome following reading address =
      if greedy then
        (program.outcome following reading base).or (program.outcome following reading exit)
      else (program.outcome following reading exit).or (program.outcome following reading base))
    (reading : Reading) :
    program.outcome following reading base =
      ((plus greedy body).ways following reading).findSome? fun after =>
        program.outcome following after exit := by
  induction size : reading.rest.length using Nat.strong_induction_on generalizing reading with
  | _ size ih =>
      rw [once, ways_plus consuming, findSome?_flatMap]
      refine findSome?_congr ?_
      intro after mem
      have shorter := length_lt_of_mem_ways body consuming mem
      have again := ih after.rest.length (size ▸ shorter) after rfl
      rw [loops, again]
      cases greedy with
      | true =>
          simp only [star, optional, ways, if_true, List.findSome?_append,
            List.findSome?_singleton]
      | false =>
          simp only [star, optional, ways, Bool.false_eq_true, if_false, List.findSome?_append,
            List.findSome?_singleton]

end Loop

/-- From the start of the code of an expression, what is found first is what is found after the
first of its ways that leads to a match. -/
theorem outcome_layout (expr : Expr) (productive : expr.isProductive = true)
    (settles : program.Settles) (has : program.Has base (expr.layout base)) (reading : Reading) :
    program.outcome following reading base =
      (expr.ways following reading).findSome? fun after =>
        program.outcome following after (base + (expr.layout base).length) := by
  induction expr generalizing base reading with
  | empty =>
      rw [ways, List.findSome?_singleton]
      rfl
  | set chars =>
      have here := has.head
      rw [ways]
      split
      · rename_i ended
        exact outcome_consume_nil here ended
      · rename_i char rest remains
        rw [outcome_consume_cons here remains]
        by_cases inside : chars.contains char = true
        · rw [if_pos inside, if_pos inside, List.findSome?_singleton]
          rfl
        · rw [if_neg inside, if_neg inside]
          rfl
  | look assertion =>
      rw [ways, outcome_require settles has.head]
      by_cases holds : assertion.holds (reading.around following) = true
      · rw [if_pos holds, if_pos holds, List.findSome?_singleton]
        rfl
      · rw [if_neg holds, if_neg holds]
        rfl
  | seq first second ihFirst ihSecond =>
      rw [isProductive, Bool.and_eq_true] at productive
      rw [layout] at has ⊢
      rw [ways, ihFirst productive.1 has.left, findSome?_flatMap, List.length_append,
        ← Nat.add_assoc]
      exact findSome?_congr fun after _ => ihSecond productive.2 has.right after
  | alt preferred other ihPreferred ihOther =>
      rw [isProductive, Bool.and_eq_true] at productive
      rw [layout, List.cons_append] at has ⊢
      rw [outcome_split settles has.head, ihPreferred productive.1 has.tail.left,
        ihOther productive.2 has.tail.right.tail, ways, List.findSome?_append,
        findSome?_congr fun after _ => outcome_jump settles has.tail.right.head]
      generalize preferred.layout (base + 1) = preferredPart
      generalize other.layout (base + 1 + preferredPart.length + 1) = otherPart
      simp only [List.length_cons, List.length_append]
      rw [show base + (preferredPart.length + (otherPart.length + 1) + 1) =
        base + 1 + preferredPart.length + 1 + otherPart.length by omega]
  | plus greedy body ih =>
      rw [isProductive, Bool.and_eq_true] at productive
      rw [layout] at has ⊢
      rw [List.length_append, List.length_singleton, ← Nat.add_assoc]
      exact outcome_plus productive.1 (fun reading => ih productive.2 has.left reading)
        (outcome_loop settles has.right) reading
  | group index body ih =>
      rw [isProductive] at productive
      rw [layout] at has ⊢
      rw [ways]
      by_cases recorded : index = bodyGroup
      · rw [if_pos recorded, List.cons_append] at has ⊢
        rw [outcome_record settles has.head, ih productive has.tail.left, if_pos recorded,
          List.findSome?_map, findSome?_congr fun after _ =>
            outcome_record settles has.tail.right.head]
        simp only [List.length_cons, List.length_append, List.length_nil]
        rw [show base + ((body.layout (base + 1)).length + (0 + 1) + 1) =
          base + 1 + (body.layout (base + 1)).length + 1 by omega]
        rfl
      · rw [if_neg recorded] at has ⊢
        rw [if_neg recorded]
        exact ih productive has reading

/-- The program of an expression finds the first of its ways. -/
theorem match?_toProgram (expr : Expr) (productive : expr.isProductive = true)
    (previous : Option Char) (text : List Char) :
    expr.toProgram.match? previous text following =
      (expr.ways following ⟨previous, text, 0, {}⟩).head?.map fun after =>
        matchAt after.position after.marks := by
  have settles := expr.settles_toProgram productive
  have has := expr.has_toProgram
  rw [match?_eq_outcome settles, outcome_layout expr productive settles has.left,
    findSome?_congr fun after _ => outcome_accept has.right.head]
  cases expr.ways following ⟨previous, text, 0, {}⟩ <;> rfl

end Expr

end RuleLexer.Regex
