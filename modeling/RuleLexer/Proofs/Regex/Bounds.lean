import RuleLexer.Regex.Search

/-!
# Matches stay inside the text

A match ends inside the text that was searched, and the recorded group lies inside the match. Both
hold of every program, compiled or not: the ends of the group are recorded at the position of the
thread that records them, and no thread is ahead of the characters taken so far.
-/

namespace RuleLexer.Regex

namespace Marks

/-- The recorded ends are at most `bound`. -/
def Within (marks : Marks) (bound : Nat) : Prop :=
  (∀ position ∈ marks.start, position ≤ bound) ∧ ∀ position ∈ marks.stop, position ≤ bound

theorem Within.mono {marks : Marks} {bound larger : Nat} (within : marks.Within bound)
    (le : bound ≤ larger) : marks.Within larger :=
  ⟨fun position mem => Nat.le_trans (within.1 position mem) le,
    fun position mem => Nat.le_trans (within.2 position mem) le⟩

theorem Within.record {marks : Marks} {position : Nat} (within : marks.Within position)
    (edge : Edge) : (marks.record position edge).Within position := by
  cases edge with
  | start =>
      refine ⟨?_, within.2⟩
      simp [Marks.record]
  | stop =>
      refine ⟨within.1, ?_⟩
      simp [Marks.record]

end Marks

namespace Match

/-- The match ends at most at `bound`, and its group at most at its end. -/
def Within (found : Match) (bound : Nat) : Prop :=
  found.length ≤ bound ∧
    ∀ start stop, found.body = some (start, stop) → start ≤ found.length ∧ stop ≤ found.length

end Match

namespace Program

variable {program : Program}

theorem explore_within {around : Surroundings} {position fuel : Nat} {thread : Thread}
    {frontier : Frontier} (threadWithin : thread.marks.Within position)
    (waitingWithin : ∀ waiting ∈ frontier.waiting, waiting.marks.Within position) :
    ∀ waiting ∈ (program.explore around position fuel thread frontier).waiting,
      waiting.marks.Within position := by
  induction fuel generalizing thread frontier with
  | zero => simpa only [explore] using waitingWithin
  | succ fuel ih =>
      rcases thread with ⟨address, marks⟩
      rcases frontier with ⟨entered, waiting⟩
      simp only [explore]
      split
      · exact waitingWithin
      · split
        · exact waitingWithin
        · simpa using ⟨threadWithin, waitingWithin⟩
        · simpa using ⟨threadWithin, waitingWithin⟩
        · split
          · exact ih threadWithin waitingWithin
          · exact waitingWithin
        · exact ih threadWithin (ih threadWithin waitingWithin)
        · exact ih threadWithin waitingWithin
        · rename_i edge _
          exact ih (threadWithin.record edge) waitingWithin

theorem frontier_within (program : Program) (around : Surroundings) {position : Nat}
    {arrivals : List Thread}
    (arrivalsWithin : ∀ thread ∈ arrivals, thread.marks.Within position) :
    ∀ thread ∈ program.frontier around position arrivals, thread.marks.Within position := by
  have folded : ∀ frontier : Frontier,
      (∀ thread ∈ frontier.waiting, thread.marks.Within position) →
        ∀ thread ∈ (arrivals.foldl
          (fun frontier thread =>
            program.explore around position (program.code.size + 1) thread frontier)
          frontier).waiting, thread.marks.Within position := by
    induction arrivals with
    | nil => exact fun frontier within => within
    | cons first arrivals ih =>
        intro frontier within
        exact ih (fun thread mem => arrivalsWithin thread (List.mem_cons_of_mem first mem)) _
          (explore_within (arrivalsWithin first List.mem_cons_self) within)
  intro thread mem
  simp only [frontier, List.mem_reverse] at mem
  exact folded ⟨Array.replicate program.code.size false, []⟩ (by simp) thread mem

theorem mem_of_mem_untilAccept {threads : List Thread} {thread : Thread}
    (mem : thread ∈ (program.untilAccept threads).1 ∨
      (program.untilAccept threads).2 = some thread) : thread ∈ threads := by
  induction threads with
  | nil => simp [untilAccept] at mem
  | cons first threads ih =>
      simp only [untilAccept] at mem
      split at mem
      · simp_all
      · simp only [List.mem_cons] at mem ⊢
        rcases mem with (same | before) | accepting
        · exact Or.inl same
        · exact Or.inr (ih (Or.inl before))
        · exact Or.inr (ih (Or.inr accepting))

theorem advance_within {char : Char} {position : Nat} {threads : List Thread}
    (within : ∀ thread ∈ threads, thread.marks.Within position) :
    ∀ thread ∈ program.advance char threads, thread.marks.Within (position + 1) := by
  intro thread mem
  simp only [advance, List.mem_filterMap] at mem
  rcases mem with ⟨origin, origin_mem, moved⟩
  split at moved
  · split at moved
    · cases moved
      exact (within origin origin_mem).mono (Nat.le_succ position)
    · cases moved
  · cases moved

theorem matchAt_within {position bound : Nat} {marks : Marks} (within : marks.Within position)
    (le : position ≤ bound) : (matchAt position marks).Within bound := by
  refine ⟨le, ?_⟩
  intro start stop body
  simp only [matchAt, Option.bind_eq_some_iff, Option.map_eq_some_iff, Prod.mk.injEq] at body
  rcases body with ⟨_, start_mem, _, stop_mem, rfl, rfl⟩
  exact ⟨within.1 _ start_mem, within.2 _ stop_mem⟩

/-- What the search has found so far stays inside the text to the end of the search. -/
theorem run_within {following previous : Option Char} {rest : List Char} {position : Nat}
    {arrivals : List Thread} {best : Option Match}
    (arrivalsWithin : ∀ thread ∈ arrivals, thread.marks.Within position)
    (bestWithin : ∀ found ∈ best, found.Within (position + rest.length)) :
    ∀ found ∈ program.run following previous rest position arrivals best,
      found.Within (position + rest.length) := by
  induction rest generalizing previous position arrivals best with
  | nil =>
      have reached := frontier_within program
        ⟨previous, ([] : List Char).head?.or following⟩ arrivalsWithin
      intro found mem
      simp only [run, Option.mem_def, Option.or_eq_some_iff, Option.map_eq_some_iff] at mem
      rcases mem with ⟨thread, accepting, rfl⟩ | ⟨_, kept⟩
      · exact matchAt_within (reached thread (mem_of_mem_untilAccept (Or.inr accepting)))
          (Nat.le_add_right _ _)
      · exact bestWithin found kept
  | cons char rest ih =>
      have reached := frontier_within program
        ⟨previous, (char :: rest).head?.or following⟩ arrivalsWithin
      have betterWithin : ∀ found ∈
          (((program.untilAccept (program.frontier ⟨previous, (char :: rest).head?.or following⟩
            position arrivals)).2.map fun thread => matchAt position thread.marks).or best),
          found.Within (position + (char :: rest).length) := by
        intro found mem
        simp only [Option.mem_def, Option.or_eq_some_iff, Option.map_eq_some_iff] at mem
        rcases mem with ⟨thread, accepting, rfl⟩ | ⟨_, kept⟩
        · exact matchAt_within (reached thread (mem_of_mem_untilAccept (Or.inr accepting)))
            (Nat.le_add_right _ _)
        · exact bestWithin found kept
      intro found mem
      rw [run] at mem
      dsimp only at mem
      split at mem
      · exact betterWithin found mem
      · rw [List.length_cons, Nat.add_comm rest.length 1, ← Nat.add_assoc]
        refine ih (advance_within ?_) ?_ found mem
        · intro thread live
          exact reached thread (mem_of_mem_untilAccept (Or.inl live))
        · simpa [Nat.add_assoc, Nat.add_comm, Nat.add_left_comm] using betterWithin

/-- A match ends inside the text, and the recorded group inside the match. -/
theorem match?_within {previous following : Option Char} {text : List Char} {found : Match}
    (result : program.match? previous text following = some found) :
    found.Within text.length := by
  have arrivalsWithin : ∀ thread ∈ [(⟨0, {}⟩ : Thread)], thread.marks.Within 0 := by
    simp [Marks.Within]
  have bestWithin : ∀ found ∈ (none : Option Match), found.Within (0 + text.length) := by
    simp
  have within := run_within arrivalsWithin bestWithin found result
  simpa using within

end Program

end RuleLexer.Regex
