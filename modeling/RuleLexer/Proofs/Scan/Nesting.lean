import RuleLexer.Proofs.Scan.Stack

/-!
# Nested states

As long as no line feed goes unmatched and the stack does not become lower than it was at some
moment, the states of that moment stay where they are, at the bottom of the stack. A call changes
the depth by at most one. So when the depth first comes back to what it was before a state was
entered, the last call has left a state, and the stack is the one from before.
-/

namespace RuleLexer

namespace Transition

variable {states bottom : List StateId} {transition : Option Transition}

/-- A change of state keeps the lowest states, unless it leaves one of them. -/
theorem suffix_applyTo (kept : bottom <:+ states)
    (deep : bottom.length ≤ (applyTo states transition).length) :
    bottom <:+ applyTo states transition := by
  rcases transition with _ | (target | _)
  · exact kept
  · exact kept.trans (List.suffix_cons target states)
  · rw [applyTo] at deep ⊢
    split
    · exact kept
    · rename_i several
      rw [if_neg several] at deep
      exact List.suffix_of_suffix_length_le kept (List.tail_suffix states) deep

theorem length_le_applyTo : states.length ≤ (applyTo states transition).length + 1 := by
  rcases transition with _ | (target | _)
  · simp [applyTo]
  · simp only [applyTo, List.length_cons]
    omega
  · rw [applyTo]
    split
    · simp
    · rw [List.length_tail]
      omega

/-- Only leaving a state makes the states fewer. -/
theorem eq_pop_of_length_lt (fewer : (applyTo states transition).length < states.length) :
    transition = some .pop := by
  rcases transition with _ | (target | _)
  · simp [applyTo] at fewer
  · simp only [applyTo, List.length_cons] at fewer
    omega
  · rfl

end Transition

namespace StateStack

/-- The lowest states of the stack, so many of them. -/
def lowest (stack : StateStack) (count : Nat) : List StateId :=
  stack.toList.drop (stack.depth - count)

theorem lowest_eq_of_suffix {stack lower : StateStack} (suffix : lower.toList <:+ stack.toList) :
    stack.lowest lower.depth = lower.toList := by
  rw [List.suffix_iff_eq_drop, length_toList, length_toList] at suffix
  exact suffix.symm

end StateStack

namespace RuleTable

/-- From one moment of a scan to another one, no line feed goes unmatched, and the stack is never
lower than at first. -/
structure StaysAbove (table : RuleTable) (start : Cursor) (first last : Nat) : Prop where
  noReset : ∀ call, first ≤ call → call < last →
    ¬table.AtUnmatchedNewline (table.cursorAfter start call)
  deep : ∀ moment, first ≤ moment → moment ≤ last →
    (table.cursorAfter start first).stack.depth ≤ (table.cursorAfter start moment).stack.depth

/-- The call after the moment `first` enters a state, and no moment up to `last` has the depth of
the moment `first` again, but the one after it has. No line feed goes unmatched from first to
last. -/
structure FirstReturn (table : RuleTable) (start : Cursor) (first last : Nat) : Prop where
  ordered : first ≤ last
  noReset : ∀ call, first ≤ call → call ≤ last →
    ¬table.AtUnmatchedNewline (table.cursorAfter start call)
  entered : (table.cursorAfter start (first + 1)).stack.depth =
    (table.cursorAfter start first).stack.depth + 1
  away : ∀ moment, first < moment → moment ≤ last →
    (table.cursorAfter start moment).stack.depth ≠ (table.cursorAfter start first).stack.depth
  back : (table.cursorAfter start (last + 1)).stack.depth =
    (table.cursorAfter start first).stack.depth

variable {table : RuleTable} {start : Cursor} {calls first last : Nat}

/-- A call that takes no unmatched line feed applies a change of state. -/
theorem exists_stack_cursorAfter_succ
    (other : ¬table.AtUnmatchedNewline (table.cursorAfter start calls)) :
    ∃ transition, (table.cursorAfter start (calls + 1)).stack =
      (table.cursorAfter start calls).stack.apply transition := by
  rw [cursorAfter]
  split
  · rename_i token after step
    rcases stack_of_next? step with ⟨newline, -⟩ | ⟨-, transition, changed, -⟩
    · exact absurd newline other
    · refine ⟨transition, ?_⟩
      apply StateStack.eq_of_toList
      rw [StateStack.toList_apply]
      exact changed
  · exact ⟨none, rfl⟩

/-- The depth falls by at most one. -/
theorem depth_le_cursorAfter_succ
    (other : ¬table.AtUnmatchedNewline (table.cursorAfter start calls)) :
    (table.cursorAfter start calls).stack.depth ≤
      (table.cursorAfter start (calls + 1)).stack.depth + 1 := by
  rcases exists_stack_cursorAfter_succ other with ⟨transition, changed⟩
  rw [changed, ← StateStack.length_toList, ← StateStack.length_toList, StateStack.toList_apply]
  exact Transition.length_le_applyTo

/-- A call after which the stack is lower has left a state. -/
theorem stack_eq_pop_of_depth_lt
    (other : ¬table.AtUnmatchedNewline (table.cursorAfter start calls))
    (lower : (table.cursorAfter start (calls + 1)).stack.depth <
      (table.cursorAfter start calls).stack.depth) :
    (table.cursorAfter start (calls + 1)).stack = (table.cursorAfter start calls).stack.pop := by
  rcases exists_stack_cursorAfter_succ other with ⟨transition, changed⟩
  have fewer := lower
  rw [changed, ← StateStack.length_toList, ← StateStack.length_toList,
    StateStack.toList_apply] at fewer
  rw [changed, Transition.eq_pop_of_length_lt fewer]
  rfl

theorem StaysAbove.before (above : table.StaysAbove start first (last + 1)) :
    table.StaysAbove start first last where
  noReset call from_first to_last := above.noReset call from_first (by omega)
  deep moment from_first to_last := above.deep moment from_first (by omega)

/-- The states of the first moment are the lowest ones as long as the stack is not lower. -/
theorem StaysAbove.suffix (above : table.StaysAbove start first last) (ordered : first ≤ last) :
    (table.cursorAfter start first).stack.toList <:+
      (table.cursorAfter start last).stack.toList := by
  induction ordered with
  | refl => exact List.suffix_refl _
  | @step last ordered ih =>
      have kept := ih above.before
      have other := above.noReset last ordered (Nat.lt_succ_self last)
      have deep := above.deep (last + 1) (Nat.le_succ_of_le ordered) (Nat.le_refl _)
      rcases exists_stack_cursorAfter_succ other with ⟨transition, changed⟩
      rw [← StateStack.length_toList, ← StateStack.length_toList, changed,
        StateStack.toList_apply] at deep
      rw [Nat.succ_eq_add_one, changed, StateStack.toList_apply]
      exact Transition.suffix_applyTo kept deep

/-- Until the depth is back for the first time, the stack is higher. -/
theorem FirstReturn.higher (returns : table.FirstReturn start first last) {moment : Nat}
    (after : first + 1 ≤ moment) (until_last : moment ≤ last) :
    (table.cursorAfter start first).stack.depth <
      (table.cursorAfter start moment).stack.depth := by
  induction after with
  | refl =>
      rw [returns.entered]
      omega
  | @step moment after ih =>
      have from_first : first + 1 ≤ moment := after
      have higher := ih (by omega)
      have falls := depth_le_cursorAfter_succ (returns.noReset moment (by omega) (by omega))
      have away := returns.away (moment + 1) (by omega) until_last
      rw [Nat.succ_eq_add_one]
      omega

theorem FirstReturn.staysAbove (returns : table.FirstReturn start first last) :
    table.StaysAbove start first (last + 1) where
  noReset call from_first to_last := returns.noReset call from_first (by omega)
  deep moment from_first to_last := by
    rcases Nat.eq_or_lt_of_le from_first with rfl | after
    · exact Nat.le_refl _
    · rcases Nat.eq_or_lt_of_le to_last with rfl | before
      · exact Nat.le_of_eq returns.back.symm
      · exact Nat.le_of_lt (returns.higher after (by omega))

/-- At the first return, the stack is the one from before the state was entered. -/
theorem FirstReturn.stack_eq (returns : table.FirstReturn start first last) :
    (table.cursorAfter start (last + 1)).stack = (table.cursorAfter start first).stack := by
  have suffix := returns.staysAbove.suffix (Nat.le_succ_of_le returns.ordered)
  apply StateStack.eq_of_toList
  exact (suffix.eq_of_length returns.back.symm).symm

/-- The call with which the depth returns leaves a state. -/
theorem FirstReturn.last_pops (returns : table.FirstReturn start first last) :
    (table.cursorAfter start (last + 1)).stack =
      (table.cursorAfter start last).stack.pop := by
  have after : first < last := by
    rcases Nat.eq_or_lt_of_le returns.ordered with rfl | after
    · have entered := returns.entered
      have back := returns.back
      omega
    · exact after
  have higher := returns.higher after (Nat.le_refl last)
  have back := returns.back
  apply stack_eq_pop_of_depth_lt (returns.noReset last returns.ordered (Nat.le_refl last))
  omega

/-- While the stack is not lower than at some moment, its lowest states are the stack of that
moment. When the depth first returns to that from before a state was entered, the last call leaves a
state and restores the stack from before, and with it the active rules. -/
theorem nested_states_restored (table : RuleTable) (start : Cursor) (first last : Nat) :
    (first ≤ last → table.StaysAbove start first last →
      (table.cursorAfter start last).stack.lowest (table.cursorAfter start first).stack.depth =
        (table.cursorAfter start first).stack.toList) ∧
    (table.FirstReturn start first last →
      (table.cursorAfter start (last + 1)).stack = (table.cursorAfter start last).stack.pop ∧
      (table.cursorAfter start (last + 1)).stack = (table.cursorAfter start first).stack ∧
      table.rulesFor (table.cursorAfter start (last + 1)).stack.active =
        table.rulesFor (table.cursorAfter start first).stack.active) := by
  constructor
  · intro ordered above
    exact StateStack.lowest_eq_of_suffix (above.suffix ordered)
  · intro returns
    exact ⟨returns.last_pops, returns.stack_eq, by rw [returns.stack_eq]⟩

def parenthesesTable : RuleTable :=
  (build parentheses).toOption.get rfl

/-- A scan of nested parentheses, which enters a state three times and then leaves it three
times. -/
def parenthesesCursor : Cursor :=
  .start "((()))".toList parenthesesTable.entry

theorem nested_states_parentheses :
    build parentheses = .ok parenthesesTable ∧
    parenthesesTable.StaysAbove parenthesesCursor 1 4 ∧
      (parenthesesTable.cursorAfter parenthesesCursor 4).stack.toList = [⟨1⟩, ⟨1⟩, ⟨0⟩] ∧
      (parenthesesTable.cursorAfter parenthesesCursor 4).stack.lowest 2 = [⟨1⟩, ⟨0⟩] ∧
    parenthesesTable.FirstReturn parenthesesCursor 1 4 ∧
      (parenthesesTable.cursorAfter parenthesesCursor 5).stack =
        (parenthesesTable.cursorAfter parenthesesCursor 1).stack := by
  have returns : parenthesesTable.FirstReturn parenthesesCursor 1 4 := by
    refine ⟨by decide, ?_, by decide +kernel, ?_, by decide +kernel⟩
    · intro call from_first to_last newline
      have head := newline.1
      obtain rfl | rfl | rfl | rfl : call = 1 ∨ call = 2 ∨ call = 3 ∨ call = 4 := by omega
      all_goals exact absurd head (by decide +kernel)
    · intro moment after to_last
      obtain rfl | rfl | rfl : moment = 2 ∨ moment = 3 ∨ moment = 4 := by omega
      all_goals decide +kernel
  have above := returns.staysAbove.before
  have restored := nested_states_restored parenthesesTable parenthesesCursor 1 4
  exact ⟨rfl, above, by decide +kernel, restored.1 (by decide) above, returns,
    (restored.2 returns).2.1⟩

end RuleTable

end RuleLexer
