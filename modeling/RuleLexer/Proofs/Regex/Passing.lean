import RuleLexer.Proofs.Regex.Layout
import RuleLexer.Proofs.Regex.Matches
import RuleLexer.Proofs.Regex.Visits

/-!
# Passing through the code of an expression

The instructions of an expression are entered at the first of them and left at the address right
after the last. Without a character being taken they lead from the one to the other exactly if the
expression matches the empty text there.
-/

namespace RuleLexer.Regex

namespace Program

variable {program : Program} {around : Surroundings} {address steps : Nat} {instr : Instr}

/-- Where the program does not accept, it goes on to a successor. -/
theorem AcceptsIn.next (accepts : program.AcceptsIn around steps address)
    (here : program.code[address]? = some instr) (goes : instr ≠ .accept) :
    ∃ fewer < steps, ∃ next ∈ program.successors around address,
      program.AcceptsIn around fewer next := by
  cases steps with
  | zero =>
      simp only [AcceptsIn, here, Option.some.injEq] at accepts
      exact absurd accepts goes
  | succ steps => exact ⟨steps, Nat.lt_succ_self steps, accepts⟩

theorem Accepts.of_successor {next : Nat} (mem : next ∈ program.successors around address)
    (accepts : program.Accepts around next) : program.Accepts around address := by
  rcases accepts with ⟨steps, accepts⟩
  exact ⟨steps + 1, next, mem, accepts⟩

/-- Acceptance is reached through an instruction with a single successor. -/
theorem accepts_iff_successor {next : Nat} (here : program.code[address]? = some instr)
    (goes : instr ≠ .accept) (one : program.successors around address = [next]) :
    program.Accepts around address ↔ program.Accepts around next := by
  constructor
  · rintro ⟨steps, accepts⟩
    rcases accepts.next here goes with ⟨fewer, -, after, mem, accepts⟩
    rw [one, List.mem_singleton] at mem
    exact ⟨fewer, mem ▸ accepts⟩
  · intro accepts
    apply accepts.of_successor
    simp [one]

end Program

namespace Expr

open Program

variable {program : Program} {around : Surroundings} {base exit address steps : Nat}

/-- The code of an expression is left only for the address right after it. -/
theorem successors_layout (expr : Expr) (has : program.Has base (expr.layout base))
    (ends : base + (expr.layout base).length = exit) (ge : base ≤ address) (lt : address < exit) :
    ∀ next ∈ program.successors around address, base ≤ next ∧ next ≤ exit := by
  intro next mem
  induction expr generalizing base exit with
  | empty =>
      simp only [layout, List.length_nil] at ends
      omega
  | set chars =>
      obtain rfl : base + 1 = exit := ends
      obtain rfl : base = address := by omega
      simp [successors, has.head] at mem
  | look assertion =>
      obtain rfl : base + 1 = exit := ends
      obtain rfl : base = address := by omega
      simp only [successors, has.head, List.mem_ite_nil_right, List.mem_singleton] at mem
      omega
  | seq first second ihFirst ihSecond =>
      simp only [layout, List.length_append] at has ends
      rcases Nat.lt_or_ge address (base + (first.layout base).length) with inside | outside
      · have := ihFirst has.left rfl ge inside
        omega
      · have := @ihSecond _ exit has.right (by omega) outside lt
        omega
  | alt preferred other ihPreferred ihOther =>
      simp only [layout, List.cons_append, List.length_cons, List.length_append] at has ends
      rcases Nat.eq_or_lt_of_le ge with rfl | after
      · simp only [successors, has.head, List.mem_cons, List.not_mem_nil, or_false] at mem
        omega
      rcases Nat.lt_trichotomy address (base + 1 + (preferred.layout (base + 1)).length) with
        inside | rfl | outside
      · have := ihPreferred has.tail.left rfl after inside
        omega
      · simp only [successors, has.tail.right.head, List.mem_singleton] at mem
        omega
      · have := @ihOther _ exit has.tail.right.tail (by omega) outside lt
        omega
  | plus greedy body ih =>
      simp only [layout, List.length_append, List.length_singleton] at has ends
      rcases Nat.lt_or_ge address (base + (body.layout base).length) with inside | outside
      · have := ih has.left rfl ge inside
        omega
      · obtain rfl : base + (body.layout base).length = address := by omega
        cases greedy <;> simp [successors, has.right.head] at mem <;> omega
  | group index body ih =>
      simp only [layout] at has ends
      by_cases recorded : index = bodyGroup
      · simp only [if_pos recorded, List.cons_append, List.length_cons, List.length_append,
          List.length_nil] at has ends
        rcases Nat.eq_or_lt_of_le ge with rfl | after
        · simp only [successors, has.head, List.mem_singleton] at mem
          omega
        rcases Nat.lt_or_ge address (base + 1 + (body.layout (base + 1)).length) with
          inside | outside
        · have := ih has.tail.left rfl after inside
          omega
        · obtain rfl : base + 1 + (body.layout (base + 1)).length = address := by omega
          simp only [successors, has.tail.right.head, List.mem_singleton] at mem
          omega
      · simp only [if_neg recorded] at has ends
        exact ih has ends ge lt

/-- Acceptance without taking a character leads through the code of an expression only if the
expression can match nothing. -/
theorem acceptsIn_layout (expr : Expr) (has : program.Has base (expr.layout base))
    (ends : base + (expr.layout base).length = exit)
    (accepts : program.AcceptsIn around steps base) :
    expr.skips around = true ∧ ∃ fewer ≤ steps, program.AcceptsIn around fewer exit := by
  induction expr generalizing base steps exit with
  | empty =>
      obtain rfl : base = exit := ends
      exact ⟨rfl, steps, Nat.le_refl steps, accepts⟩
  | set chars =>
      rcases accepts.next has.head (by simp) with ⟨fewer, less, next, mem, later⟩
      simp [successors, has.head] at mem
  | look assertion =>
      obtain rfl : base + 1 = exit := ends
      rcases accepts.next has.head (by simp) with ⟨fewer, less, next, mem, later⟩
      simp only [successors, has.head, List.mem_ite_nil_right, List.mem_singleton] at mem
      rcases mem with ⟨holds, rfl⟩
      exact ⟨holds, fewer, Nat.le_of_lt less, later⟩
  | seq first second ihFirst ihSecond =>
      simp only [layout, List.length_append] at has ends
      rcases ihFirst has.left rfl accepts with ⟨one, middle, le, accepts⟩
      rcases @ihSecond _ exit _ has.right (by omega) accepts with ⟨two, fewer, le', accepts⟩
      simp only [skips, one, two]
      exact ⟨rfl, fewer, Nat.le_trans le' le, accepts⟩
  | alt preferred other ihPreferred ihOther =>
      simp only [layout, List.cons_append, List.length_cons, List.length_append] at has ends
      simp only [skips, Bool.or_eq_true]
      rcases accepts.next has.head (by simp) with ⟨fewer, less, next, mem, accepts⟩
      simp only [successors, has.head, List.mem_cons, List.not_mem_nil, or_false] at mem
      rcases mem with rfl | rfl
      · rcases ihPreferred has.tail.left rfl accepts with ⟨one, middle, le, accepts⟩
        rcases accepts.next has.tail.right.head (by simp) with
          ⟨least, less', next, mem, accepts⟩
        simp only [successors, has.tail.right.head, List.mem_singleton] at mem
        obtain rfl : next = exit := by omega
        exact ⟨Or.inl one, least, by omega, accepts⟩
      · rcases @ihOther _ exit _ has.tail.right.tail (by omega) accepts with ⟨two, least, le, accepts⟩
        exact ⟨Or.inr two, least, by omega, accepts⟩
  | plus greedy body ih =>
      simp only [layout, List.length_append, List.length_singleton] at has ends
      induction steps using Nat.strong_induction_on with
      | _ steps shorter =>
          rcases ih has.left rfl accepts with ⟨once, middle, le, accepts⟩
          rcases accepts.next has.right.head (by cases greedy <;> simp) with
            ⟨fewer, less, next, mem, accepts⟩
          have here : next = base ∨ next = exit := by
            cases greedy <;> simp [successors, has.right.head] at mem <;> omega
          rcases here with again | leaves
          · rw [again] at accepts
            rcases shorter fewer (by omega) accepts with ⟨skips, least, le', accepts⟩
            exact ⟨skips, least, by omega, accepts⟩
          · rw [leaves] at accepts
            exact ⟨once, fewer, by omega, accepts⟩
  | group index body ih =>
      simp only [layout] at has ends
      by_cases recorded : index = bodyGroup
      · simp only [if_pos recorded, List.cons_append, List.length_cons, List.length_append,
          List.length_nil] at has ends
        rcases accepts.next has.head (by simp) with ⟨fewer, less, next, mem, accepts⟩
        simp only [successors, has.head, List.mem_singleton] at mem
        rw [mem] at accepts
        rcases ih has.tail.left rfl accepts with ⟨skips, middle, le, accepts⟩
        rcases accepts.next has.tail.right.head (by simp) with ⟨least, less', next, mem, accepts⟩
        simp only [successors, has.tail.right.head, List.mem_singleton] at mem
        obtain rfl : next = exit := by omega
        exact ⟨skips, least, by omega, accepts⟩
      · simp only [if_neg recorded] at has ends
        exact ih has ends accepts

theorem accepts_of_skips (expr : Expr) (has : program.Has base (expr.layout base))
    (ends : base + (expr.layout base).length = exit) (skips : expr.skips around = true)
    (accepts : program.Accepts around exit) : program.Accepts around base := by
  induction expr generalizing base exit with
  | empty =>
      obtain rfl : base = exit := ends
      exact accepts
  | set chars => cases skips
  | look assertion =>
      obtain rfl : base + 1 = exit := ends
      apply accepts.of_successor
      simp only [Expr.skips] at skips
      simp [successors, has.head, skips]
  | seq first second ihFirst ihSecond =>
      simp only [layout, List.length_append] at has ends
      simp only [Expr.skips, Bool.and_eq_true] at skips
      apply ihFirst has.left rfl skips.1
      exact ihSecond has.right (by omega) skips.2 accepts
  | alt preferred other ihPreferred ihOther =>
      simp only [layout, List.cons_append, List.length_cons, List.length_append] at has ends
      simp only [Expr.skips, Bool.or_eq_true] at skips
      rcases skips with skips | skips
      · have jumps : program.Accepts around (base + 1 + (preferred.layout (base + 1)).length) := by
          apply accepts.of_successor
          simp only [successors, has.tail.right.head, List.mem_singleton]
          omega
        apply (ihPreferred has.tail.left rfl skips jumps).of_successor
        simp [successors, has.head]
      · apply (ihOther has.tail.right.tail (by omega) skips accepts).of_successor
        simp [successors, has.head]
  | plus greedy body ih =>
      simp only [layout, List.length_append, List.length_singleton] at has ends
      apply ih has.left rfl skips
      apply accepts.of_successor
      cases greedy <;> simp [successors, has.right.head] <;> omega
  | group index body ih =>
      simp only [layout] at has ends
      by_cases recorded : index = bodyGroup
      · simp only [if_pos recorded, List.cons_append, List.length_cons, List.length_append,
          List.length_nil] at has ends
        have records : program.Accepts around (base + 1 + (body.layout (base + 1)).length) := by
          apply accepts.of_successor
          simp only [successors, has.tail.right.head, List.mem_singleton]
          omega
        apply (ih has.tail.left rfl skips records).of_successor
        simp [successors, has.head]
      · simp only [if_neg recorded] at has ends
        exact ih has ends skips accepts

/-- Acceptance is reached through the code of an expression if the expression can match nothing and
acceptance is reached after it. -/
theorem accepts_layout_iff (expr : Expr) (has : program.Has base (expr.layout base))
    (ends : base + (expr.layout base).length = exit) :
    program.Accepts around base ↔ expr.skips around = true ∧ program.Accepts around exit := by
  constructor
  · rintro ⟨steps, accepts⟩
    rcases expr.acceptsIn_layout has ends accepts with ⟨skips, fewer, -, accepts⟩
    exact ⟨skips, fewer, accepts⟩
  · rintro ⟨skips, accepts⟩
    exact expr.accepts_of_skips has ends skips accepts

/-- At the end of a loop, going back to its start leads to acceptance only if the exit does. -/
theorem accepts_loop_iff {greedy : Bool} {body : Expr}
    (has : program.Has base ((plus greedy body).layout base))
    (ends : base + (body.layout base).length + 1 = exit) :
    program.Accepts around (base + (body.layout base).length) ↔ program.Accepts around exit := by
  have whole_ends : base + ((plus greedy body).layout base).length = exit := by
    simp only [layout, List.length_append, List.length_singleton]
    omega
  have whole : program.Accepts around base ↔ _ := accepts_layout_iff _ has whole_ends
  rw [layout] at has
  constructor
  · rintro ⟨steps, accepts⟩
    rcases accepts.next has.right.head (by cases greedy <;> simp) with ⟨fewer, -, next, mem, accepts⟩
    have where_next : next = base ∨ next = exit := by
      cases greedy <;> simp [successors, has.right.head] at mem <;> omega
    rcases where_next with again | leaves
    · rw [again] at accepts
      exact (whole.mp ⟨fewer, accepts⟩).2
    · rw [leaves] at accepts
      exact ⟨fewer, accepts⟩
  · intro accepts
    apply accepts.of_successor
    cases greedy <;> simp [successors, has.right.head] <;> omega

end Expr

end RuleLexer.Regex
