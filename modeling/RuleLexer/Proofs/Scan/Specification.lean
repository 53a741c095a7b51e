import RuleLexer.Proofs.Scan.Partition

/-!
# Scans as sequences of steps

A list of tokens is the scan of a text exactly if there is a sequence of stacks, beginning with the
entry state alone, along which every token is one step of the table. Since the stacks are not a part
of the tokens, this says in one direction that a scan follows the table through all its changes of
state, and in the other that no other list of tokens does.
-/

namespace RuleLexer.RuleTable

/-- The token is a piece of the text that the table takes in one step from the first states to the
others. -/
def StepAt (table : RuleTable) (text : List Char) (states : List StateId) (token : Token)
    (states' : List StateId) : Prop :=
  ∃ before taken rest, text = before ++ (taken ++ rest) ∧
    token.start = Text.byteLength before ∧
    token.stop = Text.byteLength before + Text.byteLength taken ∧
    token.text = String.ofList taken ∧
    table.Step before taken rest states token.category states'

/-- The sequence of stacks leads through the tokens, one step for each. -/
def Traces (table : RuleTable) (text : List Char) (stackAt : Nat → List StateId)
    (tokens : List Token) : Prop :=
  ∀ index token, tokens[index]? = some token →
    table.StepAt text (stackAt index) token (stackAt (index + 1))

variable {table : RuleTable} {text : List Char} {cursor after : Cursor} {token : Token}
  {tokens : List Token} {stackAt : Nat → List StateId}

theorem traces_nil : table.Traces text stackAt [] := by
  intro index token present
  simp at present

theorem traces_cons_iff : table.Traces text stackAt (token :: tokens) ↔
    table.StepAt text (stackAt 0) token (stackAt 1) ∧
      table.Traces text (fun index => stackAt (index + 1)) tokens := by
  constructor
  · intro traces
    exact ⟨traces 0 token rfl, fun index later present => traces (index + 1) later present⟩
  · rintro ⟨first, later⟩ index token' present
    cases index with
    | zero =>
        cases present
        exact first
    | succ index => exact later index token' present

theorem applyTo_ne_nil (state : StateId) (below : List StateId) (transition : Option Transition) :
    Transition.applyTo (state :: below) transition ≠ [] := by
  rcases transition with _ | (target | _)
  · simp [Transition.applyTo]
  · simp [Transition.applyTo]
  · cases below <;> simp [Transition.applyTo]

/-- The stack after a step has a state on top. -/
theorem Step.states_ne_nil {before taken rest : List Char} {states states' : List StateId}
    {category : Category} (step : table.Step before taken rest states category states') :
    states' ≠ [] := by
  cases step with
  | matched first => exact applyTo_ne_nil _ _ _
  | unmatched single none => split <;> simp

theorem stepAt_of_next? (step : table.next? cursor = some (token, after)) :
    table.StepAt cursor.source cursor.stack.toList token after.stack.toList := by
  rcases next?_eq_some_iff.mp step with ⟨taken, remains, -, token_eq, step⟩
  refine ⟨cursor.before, taken, after.rest, ?_, ?_, ?_, ?_, step⟩
  · rw [Cursor.source_eq, remains]
  · rw [token_eq, tokenOf, Cursor.offset_eq_before]
  · rw [token_eq, tokenOf, Cursor.offset_eq_before]
  · rw [token_eq, tokenOf]

/-- A step that begins where the cursor is is the one that the scanner makes there. -/
theorem next?_of_stepAt {states' : List StateId}
    (step : table.StepAt cursor.source cursor.stack.toList token states')
    (here : token.start = cursor.offset) :
    ∃ after, table.next? cursor = some (token, after) ∧ after.stack.toList = states' := by
  rcases step with ⟨before, taken, rest, parts, start_eq, stop_eq, text_eq, step⟩
  rw [Cursor.source_eq] at parts
  rw [start_eq, Cursor.offset_eq_before] at here
  rcases Text.append_inj_of_byteLength parts here.symm with ⟨rfl, remains⟩
  rcases List.exists_cons_of_ne_nil step.states_ne_nil with ⟨active, below, rfl⟩
  refine ⟨cursor.advance taken.length ⟨active, below⟩, next?_eq_some_iff.mpr ⟨taken, ?_⟩, rfl⟩
  have rest_eq : (cursor.advance taken.length ⟨active, below⟩).rest = rest := by simp [remains]
  rw [rest_eq]
  refine ⟨remains, by simp [remains], ?_, step⟩
  cases token
  simp_all [tokenOf, Cursor.offset_eq_before]

/-- A scan follows the table. -/
theorem exists_traces_steps (cursor : Cursor) :
    ∃ stackAt, stackAt 0 = cursor.stack.toList ∧
      table.Traces cursor.source stackAt ((table.steps cursor).map Prod.fst) := by
  apply steps_induction (motive := fun cursor steps => ∃ stackAt : Nat → List StateId,
    stackAt 0 = cursor.stack.toList ∧ table.Traces cursor.source stackAt (steps.map Prod.fst))
  · intro cursor ended
    exact ⟨fun _ => cursor.stack.toList, rfl, traces_nil⟩
  · intro cursor token after step ih
    rcases ih with ⟨stackAt, first, traces⟩
    refine ⟨fun index => Nat.casesOn index cursor.stack.toList stackAt, rfl, ?_⟩
    rw [List.map_cons, traces_cons_iff]
    refine ⟨?_, ?_⟩
    · change table.StepAt cursor.source cursor.stack.toList token (stackAt 0)
      rw [first]
      exact stepAt_of_next? step
    · rw [← source_of_next? step]
      exact traces

/-- Only the scan follows the table from a cursor to the end of the text. -/
theorem eq_steps_of_traces (stackAt : Nat → List StateId) (first : stackAt 0 = cursor.stack.toList)
    (traces : table.Traces cursor.source stackAt tokens)
    (contiguous : cursor.offset :: tokens.map Token.stop =
      tokens.map Token.start ++ [Text.byteLength cursor.source]) :
    tokens = (table.steps cursor).map Prod.fst := by
  induction tokens generalizing cursor stackAt with
  | nil =>
      have ended : Text.byteLength cursor.rest = 0 := by
        simp only [List.map_nil, List.nil_append, List.cons.injEq, and_true, Cursor.source_eq,
          Cursor.offset_eq_before, Text.byteLength_append] at contiguous
        omega
      rw [steps_of_none (next?_eq_none_iff.mpr (Text.byteLength_eq_zero_iff.mp ended))]
      rfl
  | cons token tokens ih =>
      rw [traces_cons_iff, first] at traces
      simp only [List.map_cons, List.cons_append, List.cons.injEq] at contiguous
      rcases contiguous with ⟨here, later⟩
      rcases next?_of_stepAt traces.1 here.symm with ⟨after, step, stack_eq⟩
      rw [steps_of_some step, List.map_cons]
      congr 1
      apply ih (fun index => stackAt (index + 1)) stack_eq.symm
      · rw [source_of_next? step]
        exact traces.2
      · rw [source_of_next? step, ← stop_of_next? step, later]

/-- A list of tokens is the scan of a text exactly if it covers the text without gaps and some
sequence of stacks, beginning with the entry state alone, leads through it. -/
theorem eq_tokenize_iff (table : RuleTable) (text : String) (tokens : List Token) :
    tokens = table.tokenize text ↔
      0 :: tokens.map Token.stop = tokens.map Token.start ++ [text.utf8ByteSize] ∧
        ∃ stackAt : Nat → List StateId, stackAt 0 = [table.entry] ∧
          ∀ index token, tokens[index]? = some token →
            table.StepAt text.toList (stackAt index) token (stackAt (index + 1)) := by
  constructor
  · rintro rfl
    refine ⟨(partition_scan table table.entry text).contiguous, ?_⟩
    rw [tokens_tokenize]
    exact exists_traces_steps (table.cursor text)
  · rintro ⟨contiguous, stackAt, first, traces⟩
    rw [tokens_tokenize]
    rw [← Text.byteLength_toList] at contiguous
    exact eq_steps_of_traces stackAt first traces contiguous

end RuleLexer.RuleTable
