import RuleLexer.Proofs.Regex.Verdicts

/-!
# Programs over a single character

Over a text of one character the program of an expression finds the first of the ways of the
expression, also if rounds of its loops take nothing. A loop is then entered once: going back to its
start adds nothing, because all that can be found from there is found on the first round. A match
that takes the character is therefore found only if no way that takes nothing is preferred to all
those that take it.
-/

namespace RuleLexer.Regex

namespace Expr

open Program

variable {program : Program} {here there : Surroundings} {char : Char}

/-- Exploring the code of the expression gives the verdict of the first way that has one. -/
def DecidesByWays (expr : Expr) (program : Program) (here there : Surroundings) (char : Char) :
    Prop :=
  ∀ base exit result reached seen, program.Has base (expr.layout base) →
    base + (expr.layout base).length = exit →
    program.Approaches here there char base exit result reached seen →
    program.Decides here there char base
      ((expr.singleWays here there char).findSome? (program.ending there exit result))
      (fun address => (base ≤ address ∧ address < exit) ∨ (reached address ∧ result = none)) seen

theorem decidesByWays_empty : empty.DecidesByWays program here there char := by
  intro base exit result reached seen has ends approaches
  obtain rfl : base = exit := ends
  have decides := approaches.leaves seen Grows.refl List.mem_cons_self
  simp only [singleWays, List.findSome?_singleton, ending, Bool.false_eq_true, if_false]
  apply decides.mono
  intro none address new
  exact Or.inr (Or.inr ⟨new, none⟩)

theorem decidesByWays_set (chars : CharClass) :
    (set chars).DecidesByWays program here there char := by
  intro base exit result reached seen has ends approaches
  obtain rfl : base + 1 = exit := ends
  have decides := @Decides.stop program here there char _ _ _ has.head
    (by simp [successors, has.head]) (approaches.not_mem (Nat.le_refl base) (Nat.lt_succ_self base))
  have same : program.verdict there char base =
      ((set chars).singleWays here there char).findSome? (program.ending there (base + 1) result)
      := by
    simp only [verdict, has.head, singleWays]
    by_cases inside : chars.contains char = true <;> simp [inside, ending]
  rw [← same]
  apply decides.mono
  intro none address new
  exact Or.inr (Or.inl (by omega))

theorem decidesByWays_look (assertion : Assertion) :
    (look assertion).DecidesByWays program here there char := by
  intro base exit result reached seen has ends approaches
  obtain rfl : base + 1 = exit := ends
  have new := approaches.not_mem (Nat.le_refl base) (Nat.lt_succ_self base)
  by_cases holds : assertion.holds here = true
  · have grows : Grows base (base + 1) seen (base :: seen) :=
      Grows.refl.cons (Nat.le_refl base) (Nat.lt_succ_self base)
    have decides := approaches.leave grows List.mem_cons_self
    have decides := decides.step has.head (by simp [successors, has.head, holds])
      (by simp [verdict, has.head]) new
    simp only [singleWays, if_pos holds, List.findSome?_singleton]
    apply decides.mono
    intro none address new
    rcases new with rfl | new
    · exact Or.inr (Or.inl (by omega))
    · exact Or.inr (Or.inr ⟨new, none⟩)
  · have decides := @Decides.stop program here there char _ _ _ has.head
      (by simp [successors, has.head, holds]) new
    simp only [verdict, has.head] at decides
    simp only [singleWays, if_neg holds, List.findSome?_nil]
    apply decides.mono
    intro none address new
    exact Or.inr (Or.inl (by omega))

theorem findSome?_ending_seq {first second : Expr} {base exit : Nat} {result : Option Bool}
    (has : program.Has base (second.layout base))
    (ends : base + (second.layout base).length = exit) :
    ((seq first second).singleWays here there char).findSome? (program.ending there exit result) =
      (first.singleWays here there char).findSome? (program.ending there base
        ((second.singleWays here there char).findSome? (program.ending there exit result))) := by
  rw [singleWays, findSome?_flatMap]
  apply findSome?_congr
  intro taken _
  cases taken with
  | false => simp [ending]
  | true =>
      have passes : program.Accepts there base ↔ _ := second.accepts_layout_iff has ends
      by_cases skips : second.skips there = true
      · have same : program.acceptsAt there base = program.acceptsAt there exit := by
          apply acceptsAt_congr
          simp [passes, skips]
        simp [ending, skips, same]
      · have none : program.acceptsAt there base = false := by
          rw [Bool.eq_false_iff, Ne, acceptsAt_iff]
          simp [passes, skips]
        simp [ending, skips, none]

theorem DecidesByWays.seq {first second : Expr}
    (one : first.DecidesByWays program here there char)
    (two : second.DecidesByWays program here there char) :
    (Expr.seq first second).DecidesByWays program here there char := by
  intro base exit result reached seen has ends approaches
  simp only [layout, List.length_append] at has ends
  obtain ⟨between, between_eq⟩ : ∃ between, base + (first.layout base).length = between := ⟨_, rfl⟩
  have has_second := has.right
  rw [between_eq] at has_second
  simp only [between_eq] at ends
  have ends_second : between + (second.layout between).length = exit := by omega
  rw [findSome?_ending_seq has_second ends_second]
  have decides := one base between _ _ seen has.left between_eq (approaches.front (by omega) ?_
    fun middle grows entered => two between exit result reached middle has_second ends_second
      (approaches.back (by omega) (by omega) grows entered))
  · apply decides.mono
    intro none address new
    rcases new with inside | ⟨inside | ⟨new, none'⟩, none⟩
    · exact Or.inr (Or.inl (by omega))
    · exact Or.inr (Or.inl (by omega))
    · exact Or.inr (Or.inr ⟨new, none'⟩)
  · intro address new
    rcases new with after | ⟨new, none⟩
    · exact Or.inl after
    · exact Or.inr new

theorem DecidesByWays.alt {preferred other : Expr}
    (one : preferred.DecidesByWays program here there char)
    (two : other.DecidesByWays program here there char) :
    (Expr.alt preferred other).DecidesByWays program here there char := by
  intro base exit result reached seen has ends approaches
  have stays := fun address ge lt => @successors_layout program here base exit address _ has ends ge lt
  simp only [layout, List.cons_append, List.length_cons, List.length_append] at has ends
  obtain ⟨jump, jump_eq⟩ : ∃ jump, base + 1 + (preferred.layout (base + 1)).length = jump :=
    ⟨_, rfl⟩
  have has_split := has.head
  have has_jump := has.tail.right.head
  have has_other := has.tail.right.tail
  simp only [jump_eq] at has_split has_jump has_other ends
  have target : jump + 1 + (other.layout (jump + 1)).length = exit := by omega
  rw [target] at has_jump
  have goes : program.successors here jump = [exit] := by simp [successors, has_jump]
  have jumps : program.ending there jump = program.ending there exit :=
    ending_congr (accepts_iff_successor has_jump (by simp) (by simp [successors, has_jump]))
  have first := one (base + 1) jump _ _ _ has.tail.left jump_eq
    (approaches.within has_jump goes (by simp [verdict, has_jump]) (by omega) (by omega))
  rw [jumps] at first
  simp only [singleWays, List.findSome?_append]
  have new := approaches.not_mem (Nat.le_refl base) (by omega)
  have decides := first.split has_split new fun _ middle visits entered =>
    two (jump + 1) exit result reached middle has_other target
      (approaches.rest stays (by omega) (by omega) visits entered)
  apply decides.mono
  intro none address new
  rcases new with rfl | (inside | ⟨rfl | new, none⟩) | inside | ⟨new, none⟩
  · exact Or.inr (Or.inl (by omega))
  · exact Or.inr (Or.inl (by omega))
  · exact Or.inr (Or.inl (by omega))
  · exact Or.inr (Or.inr ⟨new, none⟩)
  · exact Or.inr (Or.inl (by omega))
  · exact Or.inr (Or.inr ⟨new, none⟩)

theorem DecidesByWays.plus {greedy : Bool} {body : Expr}
    (once : body.DecidesByWays program here there char) :
    (Expr.plus greedy body).DecidesByWays program here there char := by
  intro base exit result reached seen has ends approaches
  have whole := has
  simp only [layout, List.length_append, List.length_singleton] at has ends
  obtain ⟨back, back_eq⟩ : ∃ back, base + (body.layout base).length = back := ⟨_, rfl⟩
  have has_back := has.right.head
  simp only [back_eq] at has_back
  obtain rfl : back + 1 = exit := by omega
  have loops : program.ending there back = program.ending there (back + 1) := by
    apply ending_congr
    rw [← back_eq]
    exact accepts_loop_iff whole rfl
  have decides := once base back result (fun address => address = back ∨ reached address) seen
    has.left back_eq (approaches.front (Nat.le_succ back) ?_ ?_)
  · rw [loops] at decides
    apply decides.mono
    intro none address new
    rcases new with inside | ⟨rfl | new, none⟩
    · exact Or.inr (Or.inl (by omega))
    · exact Or.inr (Or.inl (by omega))
    · exact Or.inr (Or.inr ⟨new, none⟩)
  · intro address new
    rcases new with rfl | new
    · exact Or.inl (by omega)
    · exact Or.inr new
  · intro middle grows entered
    have new : back ∉ middle :=
      grows.not_mem (approaches.not_mem (by omega) (Nat.lt_succ_self back)) (by omega)
    have whole : Grows base (back + 1) seen (back :: middle) :=
      (grows.widen (Nat.le_refl base) (by omega)).cons (by omega) (Nat.lt_succ_self back)
    exact Decides.loop has_back new entered (approaches.leave whole entered)

theorem DecidesByWays.group {index : Nat} {body : Expr}
    (inner : body.DecidesByWays program here there char) :
    (Expr.group index body).DecidesByWays program here there char := by
  intro base exit result reached seen has ends approaches
  simp only [layout] at has ends
  by_cases recorded : index = bodyGroup
  · simp only [if_pos recorded, List.cons_append, List.length_cons, List.length_append,
      List.length_nil] at has ends
    obtain ⟨stop, stop_eq⟩ : ∃ stop, base + 1 + (body.layout (base + 1)).length = stop := ⟨_, rfl⟩
    have has_stop := has.tail.right.head
    rw [stop_eq] at has_stop
    obtain rfl : stop + 1 = exit := by omega
    have goes : ∀ around, program.successors around stop = [stop + 1] := by
      simp [successors, has_stop]
    have records : program.ending there stop = program.ending there (stop + 1) :=
      ending_congr (accepts_iff_successor has_stop (by simp) (goes there))
    have decides := inner (base + 1) stop _ _ _ has.tail.left stop_eq
      (approaches.within has_stop (goes here) (by simp [verdict, has_stop]) (by omega) (by omega))
    rw [records] at decides
    have decides := decides.step has.head (by simp [successors, has.head])
      (by simp [verdict, has.head]) (approaches.not_mem (Nat.le_refl base) (by omega))
    apply decides.mono
    intro none address new
    rcases new with rfl | inside | ⟨rfl | new, none⟩
    · exact Or.inr (Or.inl (by omega))
    · exact Or.inr (Or.inl (by omega))
    · exact Or.inr (Or.inl (by omega))
    · exact Or.inr (Or.inr ⟨new, none⟩)
  · simp only [if_neg recorded] at has ends
    exact inner base exit result reached seen has ends approaches

theorem decidesByWays (expr : Expr) : expr.DecidesByWays program here there char := by
  induction expr with
  | empty => exact decidesByWays_empty
  | set chars => exact decidesByWays_set chars
  | look assertion => exact decidesByWays_look assertion
  | seq first second one two => exact one.seq two
  | alt preferred other one two => exact one.alt two
  | plus greedy body once => exact once.plus
  | group index body inner => exact inner.group

end Expr

theorem findSome?_filter {α β : Type} {keep : α → Bool} {pick : α → Option β}
    (silent : ∀ item, keep item = false → pick item = none) (items : List α) :
    (items.filter keep).findSome? pick = items.findSome? pick := by
  induction items with
  | nil => rfl
  | cons item items ih =>
      cases kept : keep item with
      | true => simp only [List.filter_cons, kept, if_true, List.findSome?_cons, ih]
      | false => simp [kept, silent item kept, ih]

namespace Program

variable {program : Program} {around there : Surroundings} {char : Char}

/-- The verdict at the address of a thread. -/
def threadVerdict (program : Program) (there : Surroundings) (char : Char) (thread : Thread) :
    Option Bool :=
  program.verdict there char thread.address

theorem findSome?_threadVerdict {threads : List Thread} {after : List Nat}
    (waiting : threads.map Thread.address = after.reverse.filter program.waitsAt) :
    threads.findSome? (program.threadVerdict there char) = program.decided there char after := by
  have silent : ∀ address, program.waitsAt address = false →
      program.verdict there char address = none := by
    intro address passes
    simp only [waitsAt] at passes
    simp only [verdict]
    split at passes <;> simp_all
  rw [decided, ← findSome?_filter silent, ← waiting, List.findSome?_map]
  rfl

theorem findSome?_verdict_untilAccept (threads : List Thread) :
    threads.findSome? (program.threadVerdict there char) =
      ((program.untilAccept threads).1.findSome? (program.threadVerdict there char)).or
        ((program.untilAccept threads).2.map fun _ => false) := by
  induction threads with
  | nil => rfl
  | cons thread threads ih =>
      rw [untilAccept]
      split
      · rename_i accepts
        simp [threadVerdict, verdict, accepts]
      · simp only [List.findSome?_cons, ih]
        cases program.threadVerdict there char thread <;> rfl

/-- Of the threads that wait for the character, one leads to a match exactly if acceptance can be
reached from one of those that go on after it. -/
theorem findSome?_verdict_advance {threads : List Thread}
    (consumes : ∀ thread ∈ threads,
      ∃ chars, program.code[thread.address]? = some (.consume chars)) :
    threads.findSome? (program.threadVerdict there char) =
      if (program.advance char threads).any (fun thread => program.acceptsAt there thread.address)
      then some true else none := by
  induction threads with
  | nil => rfl
  | cons thread threads ih =>
      rw [List.forall_mem_cons] at consumes
      rcases consumes with ⟨⟨chars, here⟩, consumes⟩
      have ih := ih consumes
      rw [advance] at ih ⊢
      rw [List.findSome?_cons, ih, List.filterMap_cons, threadVerdict, verdict, here]
      by_cases inside : chars.contains char = true
      · by_cases accepts : program.acceptsAt there (thread.address + 1) = true
        · simp [inside, accepts]
        · simp [inside, accepts]
      · simp [inside]

theorem isSome_accepting_iff (threads : List Thread) :
    (program.untilAccept threads).2.isSome = true ↔
      ∃ thread ∈ threads, program.code[thread.address]? = some .accept := by
  induction threads with
  | nil => simp [untilAccept]
  | cons thread threads ih =>
      rw [untilAccept]
      split
      · rename_i accepts
        simp [accepts]
      · rename_i goes
        simp only [List.exists_mem_cons_iff]
        rw [← ih]
        simp [goes]

/-- At the end of the text threads find a match there if acceptance can be reached from one. -/
theorem run_ended (following previous : Option Char) (position : Nat) (arrivals : List Thread)
    (best : Option Match) :
    (program.run following previous [] position arrivals best).map Match.length =
      if arrivals.any (fun thread => program.acceptsAt ⟨previous, following⟩ thread.address)
      then some position else best.map Match.length := by
  have accepting : (program.untilAccept
      (program.frontier ⟨previous, following⟩ position arrivals)).2.isSome =
        arrivals.any fun thread => program.acceptsAt ⟨previous, following⟩ thread.address := by
    rw [Bool.eq_iff_iff, isSome_accepting_iff, exists_accept_frontier_iff]
    simp only [List.any_eq_true, acceptsAt_iff]
  rw [← accepting, run, List.head?_nil, Option.none_or]
  generalize program.untilAccept (program.frontier ⟨previous, following⟩ position arrivals) = found
  rcases found with ⟨live, _ | thread⟩
  · rfl
  · rfl

/-- Over a single character a program finds what the first verdict says. -/
theorem match?_single (program : Program) (previous : Option Char) (char : Char)
    (following : Option Char) :
    ∃ after, program.Visits ⟨previous, some char⟩ [0] [] after ∧
      (program.match? previous [char] following).map Match.length =
        (program.decided ⟨some char, following⟩ char after).map Bool.toNat := by
  rcases frontier_visits program ⟨previous, some char⟩ 0 [⟨0, {}⟩] with ⟨after, visits, waiting⟩
  refine ⟨after, visits, ?_⟩
  have consumes := untilAccept_consumes
    (frontier_waits program ⟨previous, some char⟩ 0 [⟨0, {}⟩])
  have decided := @findSome?_threadVerdict program ⟨some char, following⟩ char _ _ waiting
  rw [findSome?_verdict_untilAccept, findSome?_verdict_advance consumes] at decided
  rw [← decided, match?, run]
  simp only [List.head?_cons, Option.some_or]
  generalize program.untilAccept (program.frontier ⟨previous, some char⟩ 0 [⟨0, {}⟩]) = found
  rcases found with ⟨live, accepting⟩
  simp only [Option.or_none]
  have before : (accepting.map fun thread => matchAt 0 thread.marks).map Match.length =
      (accepting.map fun _ => false).map Bool.toNat := by
    simp only [Option.map_map]
    rfl
  split
  · rename_i none
    simp only [none, List.any_nil, Bool.false_eq_true, if_false, Option.none_or, before]
  · rw [run_ended, before]
    split
    · rfl
    · rfl

end Program

namespace Expr

open Program

variable {previous following : Option Char} {char : Char}

/-- The end of a program is approached with the verdict that the character is not taken. -/
theorem approaches_toProgram (expr : Expr) (here there : Surroundings) (char : Char) :
    expr.toProgram.Approaches here there char 0 (0 + (expr.layout 0).length) (some false)
      (· = 0 + (expr.layout 0).length) [] := by
  have accepts := expr.has_toProgram.right.head
  refine ⟨by simp, ?_, ?_⟩
  · intro address last inside
    omega
  · intro middle grows _
    have new : 0 + (expr.layout 0).length ∉ middle := grows.not_mem (by simp) (by omega)
    have ends : expr.toProgram.successors here (0 + (expr.layout 0).length) = [] := by
      simp only [successors, accepts]
    have decides := @Decides.stop _ here there char _ _ _ accepts ends new
    simpa only [verdict, accepts] using decides

/-- Over a single character the program of an expression finds the first of the ways. -/
theorem length_match?_single (expr : Expr) :
    (expr.toProgram.match? previous [char] following).map Match.length =
      (expr.singleWays ⟨previous, some char⟩ ⟨some char, following⟩ char).head?.map Bool.toNat := by
  have has := expr.has_toProgram
  have accepting : expr.toProgram.acceptsAt ⟨some char, following⟩ (0 + (expr.layout 0).length) =
      true := acceptsAt_iff.mpr ⟨0, has.right.head⟩
  have first : (expr.singleWays ⟨previous, some char⟩ ⟨some char, following⟩ char).findSome?
      (expr.toProgram.ending ⟨some char, following⟩ (0 + (expr.layout 0).length) (some false)) =
        (expr.singleWays ⟨previous, some char⟩ ⟨some char, following⟩ char).head? := by
    cases expr.singleWays ⟨previous, some char⟩ ⟨some char, following⟩ char with
    | nil => rfl
    | cons taken _ =>
        rw [List.findSome?_cons, List.head?_cons, ending, accepting]
        cases taken with
        | false => rfl
        | true => rfl
  rcases match?_single expr.toProgram previous char following with ⟨after, visits, found⟩
  have decides := expr.decidesByWays 0 _ _ _ [] has.left rfl
    (expr.approaches_toProgram ⟨previous, some char⟩ ⟨some char, following⟩ char)
  rw [found, (decides rfl after visits).1, first]

/-- The match found over a single character takes it exactly if the expression matches it as a whole
and does not prefer to stop before it. -/
theorem match?_takes_single_iff (expr : Expr) (before after : List Char) :
    (expr.toProgram.match? before.getLast? [char] after.head?).map Match.length = some 1 ↔
      expr.Matches before [char] after ∧ ¬ expr.PrefersNothing before char after := by
  rw [length_match?_single, matches_singleton_iff, PrefersNothing]
  cases expr.singleWays ⟨before.getLast?, some char⟩ ⟨some char, after.head?⟩ char with
  | nil => simp
  | cons taken others => cases taken <;> simp

end Expr

end RuleLexer.Regex
