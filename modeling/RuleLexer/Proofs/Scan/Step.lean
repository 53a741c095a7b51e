import RuleLexer.Proofs.Scan.FirstRule

/-!
# One step of a scan

A step takes some characters at a position and turns a list of states, the active one first, into
another one. Either the first rule that matches gives the token and changes the states, or no rule
matches, and the next character alone is taken. The scanner makes exactly these steps.
-/

namespace RuleLexer

namespace Transition

/-- The states after a change of state. The last state is never left. -/
def applyTo (states : List StateId) : Option Transition → List StateId
  | none => states
  | some (.push target) => target :: states
  | some .pop => if states.length ≤ 1 then states else states.tail

end Transition

namespace StateStack

/-- The states of the stack, the active one first. -/
def toList (stack : StateStack) : List StateId :=
  stack.active :: stack.below

theorem eq_of_toList {first second : StateStack} (same : first.toList = second.toList) :
    first = second := by
  cases first
  cases second
  simpa [toList] using same

@[simp]
theorem toList_single (state : StateId) : (single state).toList = [state] := rfl

@[simp]
theorem length_toList (stack : StateStack) : stack.toList.length = stack.depth := rfl

theorem toList_apply (stack : StateStack) (transition : Option Transition) :
    (stack.apply transition).toList = Transition.applyTo stack.toList transition := by
  rcases transition with _ | (target | _)
  · rfl
  · rfl
  · rcases stack with ⟨active, _ | ⟨next, below⟩⟩
    · rfl
    · simp [apply, pop, Transition.applyTo, toList]

end StateStack

namespace Cursor

/-- The characters before the position, in the order of the text. -/
def before (cursor : Cursor) : List Char :=
  cursor.passed.reverse

theorem source_eq (cursor : Cursor) : cursor.source = cursor.before ++ cursor.rest := rfl

theorem offset_eq_before (cursor : Cursor) : cursor.offset = Text.byteLength cursor.before := by
  rw [before, Text.byteLength_reverse, cursor.offset_eq]

theorem reverse_before (cursor : Cursor) : cursor.before.reverse = cursor.passed :=
  cursor.passed.reverse_reverse

@[simp]
theorem before_start (text : List Char) (state : StateId) : (start text state).before = [] := rfl

@[simp]
theorem before_advance (cursor : Cursor) (count : Nat) (stack : StateStack) :
    (cursor.advance count stack).before = cursor.before ++ cursor.rest.take count := by
  simp [before, advance]

@[simp]
theorem rest_advance (cursor : Cursor) (count : Nat) (stack : StateStack) :
    (cursor.advance count stack).rest = cursor.rest.drop count := rfl

@[simp]
theorem stack_advance (cursor : Cursor) (count : Nat) (stack : StateStack) :
    (cursor.advance count stack).stack = stack := rfl

theorem eq_of_before {first second : Cursor} (before : first.before = second.before)
    (rest : first.rest = second.rest) (stack : first.stack.toList = second.stack.toList) :
    first = second :=
  eq_of_parts (List.reverse_inj.mp before) rest (StateStack.eq_of_toList stack)

end Cursor

namespace RuleTable

/-- The step that takes the characters `taken` between `before` and `rest`, gives them a category
and changes the states. -/
inductive Step (table : RuleTable) (before taken rest : List Char) :
    List StateId → Category → List StateId → Prop
  /-- The first rule of the active state that matches. -/
  | matched {state : StateId} {below : List StateId} {index : Nat} {rule : Rule}
      (first : Rule.FirstTakes (table.rulesFor state) before (taken ++ rest) index rule
        taken.length) :
      Step table before taken rest (state :: below) rule.category
        (Transition.applyTo (state :: below) rule.transition)
  /-- A single character that no rule matches; a line feed leads back to the entry state. -/
  | unmatched {state : StateId} {below : List StateId} {char : Char} (single : taken = [char])
      (none : Rule.NoneTakes (table.rulesFor state) before (taken ++ rest)) :
      Step table before taken rest (state :: below) table.fallback
        (if char = '\n' then [table.entry] else state :: below)

variable {table : RuleTable} {cursor after : Cursor} {token : Token}

theorem Step.taken_ne_nil {before taken rest : List Char} {states states' : List StateId}
    {category : Category} (step : table.Step before taken rest states category states') :
    taken ≠ [] := by
  cases step with
  | matched first => exact List.ne_nil_of_length_pos first.takes.nonempty
  | unmatched single none => simp [single]

theorem next?_eq_none_iff : table.next? cursor = none ↔ cursor.rest = [] := by
  unfold next?
  split
  · simp [*]
  · split <;> simp [*]

theorem next?_of_firstTakes {index count : Nat} {rule : Rule}
    (first : Rule.FirstTakes (table.rulesFor cursor.stack.active) cursor.before cursor.rest index
      rule count) :
    table.next? cursor = some (tokenAt cursor rule.category count,
      cursor.advance count (cursor.stack.apply rule.transition)) := by
  have found := firstMatch?_eq_some_iff.mpr ⟨index, first⟩
  have remains : cursor.rest ≠ [] := by
    intro ended
    have := first.takes.nonempty
    have := first.takes.le_length
    rw [ended, List.length_nil] at this
    omega
  rw [cursor.reverse_before] at found
  unfold next?
  split
  · contradiction
  · rw [found]

theorem next?_of_noneTakes {char : Char} {rest : List Char} (remains : cursor.rest = char :: rest)
    (none : Rule.NoneTakes (table.rulesFor cursor.stack.active) cursor.before cursor.rest) :
    table.next? cursor = some (tokenAt cursor table.fallback 1,
      cursor.advance 1 (if char = '\n' then .single table.entry else cursor.stack)) := by
  have missing := firstMatch?_eq_none_iff.mpr none
  rw [cursor.reverse_before] at missing
  unfold next?
  split
  · rename_i ended
    rw [remains] at ended
    cases ended
  · rename_i next tail present
    rw [remains] at present
    cases present
    rw [missing]

/-- The token made of the characters `taken` at a cursor. -/
def tokenOf (cursor : Cursor) (category : Category) (taken : List Char) : Token where
  category := category
  text := String.ofList taken
  start := cursor.offset
  stop := cursor.offset + Text.byteLength taken

theorem exists_step_of_next? (result : table.next? cursor = some (token, after)) :
    ∃ taken, cursor.rest = taken ++ after.rest ∧ after.before = cursor.before ++ taken ∧
      token = tokenOf cursor token.category taken ∧
      table.Step cursor.before taken after.rest cursor.stack.toList token.category
        after.stack.toList := by
  cases found : firstMatch? cursor.before.reverse cursor.rest
      (table.rulesFor cursor.stack.active) with
  | some pair =>
      rcases pair with ⟨rule, count⟩
      rcases firstMatch?_eq_some_iff.mp found with ⟨index, first⟩
      rw [next?_of_firstTakes first] at result
      cases result
      refine ⟨cursor.rest.take count, by simp, by simp, rfl, ?_⟩
      rw [Cursor.stack_advance, StateStack.toList_apply]
      have taken : Rule.FirstTakes (table.rulesFor cursor.stack.active) cursor.before
          (cursor.rest.take count ++ cursor.rest.drop count) index rule
            (cursor.rest.take count).length := by
        rw [List.take_append_drop, List.length_take_of_le first.takes.le_length]
        exact first
      exact Step.matched taken
  | none =>
      have none := firstMatch?_eq_none_iff.mp found
      cases remains : cursor.rest with
      | nil =>
          rw [next?_eq_none_iff.mpr remains] at result
          cases result
      | cons char rest =>
          rw [next?_of_noneTakes remains none] at result
          cases result
          refine ⟨[char], by simp [remains], by simp [remains], by simp [tokenOf, tokenAt, remains],
            ?_⟩
          rw [remains] at none
          have step : table.Step cursor.before [char] rest
              (cursor.stack.active :: cursor.stack.below) table.fallback
              (if char = '\n' then [table.entry] else cursor.stack.active :: cursor.stack.below) :=
            Step.unmatched rfl none
          rw [Cursor.stack_advance, apply_ite StateStack.toList]
          simpa [remains, StateStack.toList, StateStack.single, tokenAt] using step

theorem next?_of_step {taken : List Char} (remains : cursor.rest = taken ++ after.rest)
    (passed : after.before = cursor.before ++ taken)
    (token_eq : token = tokenOf cursor token.category taken)
    (step : table.Step cursor.before taken after.rest cursor.stack.toList token.category
      after.stack.toList) :
    table.next? cursor = some (token, after) := by
  generalize states_eq : cursor.stack.toList = states at step
  generalize states'_eq : after.stack.toList = states' at step
  generalize category_eq : token.category = category at step
  cases step with
  | matched first =>
      rename_i state below index rule
      cases states_eq
      rw [← remains] at first
      have count_eq : cursor.rest.take taken.length = taken := by simp [remains]
      rw [next?_of_firstTakes first]
      congr 2
      · rw [token_eq, category_eq, tokenAt, tokenOf, count_eq]
      · apply Cursor.eq_of_before
        · rw [Cursor.before_advance, count_eq, passed]
        · simp [remains]
        · rw [Cursor.stack_advance, StateStack.toList_apply, states'_eq]
          rfl
  | unmatched single none =>
      rename_i state below char
      cases states_eq
      subst single
      rw [← remains] at none
      rw [next?_of_noneTakes remains none]
      congr 2
      · rw [token_eq, category_eq]
        simp [tokenAt, tokenOf, remains]
      · apply Cursor.eq_of_before
        · simp [remains, passed]
        · simp [remains]
        · rw [Cursor.stack_advance, apply_ite StateStack.toList, states'_eq]
          rfl

/-- The scanner makes exactly the steps of the table. -/
theorem next?_eq_some_iff :
    table.next? cursor = some (token, after) ↔
      ∃ taken, cursor.rest = taken ++ after.rest ∧ after.before = cursor.before ++ taken ∧
        token = tokenOf cursor token.category taken ∧
        table.Step cursor.before taken after.rest cursor.stack.toList token.category
          after.stack.toList := by
  constructor
  · exact exists_step_of_next?
  · rintro ⟨taken, remains, passed, token_eq, step⟩
    exact next?_of_step remains passed token_eq step

end RuleTable

end RuleLexer
