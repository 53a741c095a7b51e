import RuleLexer.Proofs.RuleTable.Alike
import RuleLexer.Proofs.Scan.Run

/-!
# Tables that are alike scan alike

Two tables that differ only in the positions of their states make the same steps: from cursors at
the same place of the same text, with states of the same names on their stacks, both find the same
token, and the cursors after it are again related so. Hence the order of the states of a definition
does not matter for scanning.
-/

namespace RuleLexer

variable {related : StateId → StateId → Prop}

namespace Rule

variable {first second : Rule} {passed rest : List Char}

theorem Alike.category_eq (alike : Alike related first second) :
    first.category = second.category := by
  have same := congrArg Rule.category alike.rest
  exact same

/-- What a rule finds does not depend on its change of state. -/
theorem Alike.matchLength?_eq (alike : Alike related first second) :
    first.matchLength? passed rest = second.matchLength? passed rest := by
  have same := congrArg (fun rule => Rule.matchLength? rule passed rest) alike.rest
  exact same

end Rule

namespace RuleTable

variable {passed rest : List Char} {rules rules' : List Rule}

theorem firstMatch?_alike (passed rest : List Char)
    (alike : List.Forall₂ (Rule.Alike related) rules rules') :
    Option.Rel (fun found found' => Rule.Alike related found.1 found'.1 ∧ found.2 = found'.2)
      (firstMatch? passed rest rules) (firstMatch? passed rest rules') := by
  induction alike with
  | nil => exact Option.Rel.none
  | cons head tail ih =>
      rw [firstMatch?, firstMatch?, head.matchLength?_eq]
      split
      · exact Option.Rel.some ⟨head, rfl⟩
      · exact ih

end RuleTable

namespace Transition

variable {states states' : List StateId} {transition transition' : Option Transition}

theorem Alike.applyTo (alike : Alike related transition transition')
    (levels : List.Forall₂ related states states') :
    List.Forall₂ related (applyTo states transition) (applyTo states' transition') := by
  cases alike with
  | stay => exact levels
  | pop =>
      rw [Transition.applyTo, Transition.applyTo, levels.length_eq]
      split
      · exact levels
      · cases levels with
        | nil => exact List.Forall₂.nil
        | cons top below => exact below
  | push target => exact List.Forall₂.cons target levels

end Transition

namespace Cursor

/-- Two cursors at the same place of the same text, with stacks of related states. -/
structure Alike (related : StateId → StateId → Prop) (first second : Cursor) : Prop where
  passed : first.passed = second.passed
  rest : first.rest = second.rest
  stack : List.Forall₂ related first.stack.toList second.stack.toList

variable {first second : Cursor}

theorem Alike.offset_eq (alike : Alike related first second) : first.offset = second.offset := by
  rw [first.offset_eq, second.offset_eq, alike.passed]

theorem Alike.depth_eq (alike : Alike related first second) :
    first.stack.depth = second.stack.depth := by
  simpa using alike.stack.length_eq

theorem Alike.active (alike : Alike related first second) :
    related first.stack.active second.stack.active := by
  have levels := alike.stack
  rw [StateStack.toList, StateStack.toList] at levels
  cases levels with
  | cons top below => exact top

theorem passed_advance (cursor : Cursor) (count : Nat) (stack : StateStack) :
    (cursor.advance count stack).passed = (cursor.rest.take count).reverse ++ cursor.passed := rfl

theorem Alike.advance (alike : Alike related first second) (count : Nat) {stack stack' : StateStack}
    (levels : List.Forall₂ related stack.toList stack'.toList) :
    Alike related (first.advance count stack) (second.advance count stack') := by
  refine ⟨?_, ?_, levels⟩
  · rw [passed_advance, passed_advance, alike.passed, alike.rest]
  · rw [rest_advance, rest_advance, alike.rest]

end Cursor

namespace RuleTable

variable {first second : RuleTable} {cursor cursor' : Cursor}

theorem tokenAt_alike (alike : cursor.Alike related cursor') (category : Category) (count : Nat) :
    tokenAt cursor category count = tokenAt cursor' category count := by
  rw [tokenAt, tokenAt, alike.offset_eq, alike.rest]

/-- A token with the cursor after it, in two scans that go alike. -/
structure StepAlike (related : StateId → StateId → Prop) (step step' : Token × Cursor) : Prop where
  token : step.1 = step'.1
  after : step.2.Alike related step'.2

theorem next?_alike (tables : Alike related first second)
    (alike : cursor.Alike related cursor') :
    Option.Rel (StepAlike related) (first.next? cursor) (second.next? cursor') := by
  have found := firstMatch?_alike cursor.passed cursor.rest
    (tables.rules _ _ alike.active)
  rw [next?, next?, ← alike.rest, ← alike.passed]
  split
  · exact Option.Rel.none
  · revert found
    generalize firstMatch? cursor.passed cursor.rest (first.rulesFor cursor.stack.active) = one
    generalize firstMatch? cursor.passed cursor.rest (second.rulesFor cursor'.stack.active) = two
    intro found
    cases found with
    | none =>
        refine Option.Rel.some ⟨?_, alike.advance 1 ?_⟩
        · rw [tokenAt_alike alike, tables.fallback]
        · split
          · exact List.Forall₂.cons tables.entry List.Forall₂.nil
          · exact alike.stack
    | some pair =>
        rename_i found found'
        rcases found with ⟨rule, count⟩
        rcases found' with ⟨rule', count'⟩
        rcases pair with ⟨rules, rfl⟩
        refine Option.Rel.some ⟨?_, alike.advance count ?_⟩
        · rw [tokenAt_alike alike, rules.category_eq]
        · rw [StateStack.toList_apply, StateStack.toList_apply]
          exact rules.transition.applyTo alike.stack

/-- Whole scans from cursors that are alike go alike. -/
theorem steps_alike (tables : Alike related first second)
    (alike : cursor.Alike related cursor') :
    List.Forall₂ (StepAlike related) (first.steps cursor) (second.steps cursor') := by
  revert cursor'
  refine steps_induction
    (motive := fun cursor steps => ∀ {cursor'}, cursor.Alike related cursor' →
      List.Forall₂ (StepAlike related) steps (second.steps cursor')) ?_ ?_ cursor
  · intro cursor ended cursor' alike
    rw [alike.rest] at ended
    rw [steps_of_none (next?_eq_none_iff.mpr ended)]
    exact List.Forall₂.nil
  · intro cursor token after step later cursor' alike
    have both := next?_alike tables alike
    rw [step] at both
    cases found : second.next? cursor' with
    | none =>
        rw [found] at both
        cases both
    | some pair =>
        rcases pair with ⟨token', after'⟩
        rw [found] at both
        cases both with
        | some step =>
            rw [steps_of_some found]
            exact List.Forall₂.cons step (later step.after)

theorem cursor_alike (tables : Alike related first second) (text : String) :
    (first.cursor text).Alike related (second.cursor text) :=
  ⟨rfl, rfl, List.Forall₂.cons tables.entry List.Forall₂.nil⟩

theorem tokenize_alike (tables : Alike related first second) (text : String) :
    first.tokenize text = second.tokenize text := by
  have steps := steps_alike tables (cursor_alike tables text)
  rw [tokens_tokenize, tokens_tokenize, ← List.forall₂_eq_eq_eq, List.forall₂_map_left_iff,
    List.forall₂_map_right_iff]
  exact steps.imp fun _ _ step => step.token

/-- The states of a stack have these names, the active one first. -/
def StackNamed (table : RuleTable) (stack : StateStack) (names : List String) : Prop :=
  stack.toList.map table.stateName? = names.map some

theorem exists_stackNamed {stack stack' : StateStack}
    (levels : List.Forall₂ (SameName first second) stack.toList stack'.toList) :
    ∃ names, first.StackNamed stack names ∧ second.StackNamed stack' names := by
  simp only [StackNamed]
  generalize stack.toList = states at levels ⊢
  generalize stack'.toList = states' at levels ⊢
  induction levels with
  | nil => exact ⟨[], rfl, rfl⟩
  | cons top below ih =>
      rcases top with ⟨name, named, named'⟩
      rcases ih with ⟨names, belowNamed, belowNamed'⟩
      exact ⟨name :: names, by simp [named, belowNamed], by simp [named', belowNamed']⟩

/-- Of two definitions with fewer than `2 ^ 32` states that agree up to the order of their states,
one compiles exactly if the other does. Then both tables find the same tokens in every text, and
after every token the cursors are at the same offset with stacks of the same depth and the same
names of states. -/
theorem scan_eq_of_agrees {first second : Definition} (same : first.agrees second = true)
    (few : first.states.size < 0x100000000) :
    ((∃ table, build first = .ok table) ↔ ∃ table, build second = .ok table) ∧
      ∀ table table', build first = .ok table → build second = .ok table' → ∀ text,
        table.tokenize text = table'.tokenize text ∧
          List.Forall₂ (fun step step' => step.1 = step'.1 ∧ step.2.offset = step'.2.offset ∧
              step.2.stack.depth = step'.2.stack.depth ∧
              ∃ names, table.StackNamed step.2.stack names ∧
                table'.StackNamed step'.2.stack names)
            (table.steps (table.cursor text)) (table'.steps (table'.cursor text)) := by
  refine ⟨⟨?_, ?_⟩, ?_⟩
  · exact exists_build_of_agrees same
  · exact exists_build_of_agrees (Definition.agrees_symm same)
  · intro table table' built built' text
    have tables := alike_of_agrees same few (build_eq_ok_iff.mp built) (build_eq_ok_iff.mp built')
    refine ⟨tokenize_alike tables text, ?_⟩
    have steps := steps_alike tables (cursor_alike tables text)
    refine steps.imp ?_
    intro step step' alike
    exact ⟨alike.token, alike.after.offset_eq, alike.after.depth_eq,
      exists_stackNamed alike.after.stack⟩

/-- A definition of which the entry state enters another one that is left again. -/
def nested : Definition where
  states :=
    { entries := [("root", [{ pattern := "a", category := .keyword, next := some "inner" }]),
        ("inner", [{ pattern := "b", category := .operator, next := some "#pop" }])]
      nodup_keys := by decide }

/-- The same definition with its states the other way round. -/
def nestedReversed : Definition where
  states :=
    { entries := [("inner", [{ pattern := "b", category := .operator, next := some "#pop" }]),
        ("root", [{ pattern := "a", category := .keyword, next := some "inner" }])]
      nodup_keys := by decide }

theorem scan_eq_nested : nested.agrees nestedReversed = true ∧
    nested.states.size < 0x100000000 ∧ ∃ table table', build nested = .ok table ∧
      build nestedReversed = .ok table' ∧ table.entry ≠ table'.entry ∧
        table.tokenize "aba" = table'.tokenize "aba" := by
  have same : nested.agrees nestedReversed = true := by decide
  have few : nested.states.size < 0x100000000 := by decide
  have scans := scan_eq_of_agrees same few
  exact ⟨same, few, _, _, rfl, rfl, by decide, (scans.2 _ _ rfl rfl "aba").1⟩

end RuleTable

end RuleLexer
