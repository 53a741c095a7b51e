import RuleLexer.Proofs.Scan.Run
import RuleLexer.Proofs.Text.Slice

/-!
# Tokens partition the text

The tokens of a scan lie side by side from the start of the text to its end, and each one is a
non-empty piece of the text between two characters. It does not matter in which state scanning
starts, nor whether the table has that state.
-/

namespace RuleLexer

namespace Token

/-- The token is a non-empty piece of the text, with the offsets of its ends. -/
def LiesIn (token : Token) (text : List Char) : Prop :=
  ∃ front part rest, text = front ++ (part ++ rest) ∧ part ≠ [] ∧
    token.start = Text.byteLength front ∧
    token.stop = Text.byteLength front + Text.byteLength part ∧ token.text = String.ofList part

variable {token : Token} {text : String}

theorem LiesIn.start_lt_stop {chars : List Char} (lies : token.LiesIn chars) :
    token.start < token.stop := by
  rcases lies with ⟨front, part, rest, -, nonempty, start_eq, stop_eq, -⟩
  have := Text.byteLength_pos nonempty
  omega

theorem LiesIn.slice_eq {chars : List Char} (lies : token.LiesIn chars) :
    Text.slice? token.start token.stop chars = some token.text.toList := by
  rcases lies with ⟨front, part, rest, rfl, -, start_eq, stop_eq, text_eq⟩
  rw [start_eq, stop_eq, text_eq, Text.slice?_append, String.toList_ofList]

theorem LiesIn.isValid_start (lies : token.LiesIn text.toList) :
    String.Pos.Raw.IsValid text ⟨token.start⟩ := by
  rcases lies with ⟨front, part, rest, parts, -, start_eq, -, -⟩
  rw [start_eq]
  exact Text.isValid_of_append parts

theorem LiesIn.isValid_stop (lies : token.LiesIn text.toList) :
    String.Pos.Raw.IsValid text ⟨token.stop⟩ := by
  rcases lies with ⟨front, part, rest, parts, -, -, stop_eq, -⟩
  rw [stop_eq, ← Text.byteLength_append]
  have parts' : text.toList = (front ++ part) ++ rest := by
    rw [parts, List.append_assoc]
  exact Text.isValid_of_append parts'

/-- The tokens lie side by side in the text and cover it. -/
structure Partition (text : String) (tokens : List Token) : Prop where
  /-- The first token starts at zero, every other one where the one before it stops, and the last
  one stops at the end of the text. -/
  contiguous : 0 :: tokens.map stop = tokens.map start ++ [text.utf8ByteSize]
  nonempty : ∀ token ∈ tokens, token.start < token.stop
  boundaries : ∀ token ∈ tokens, String.Pos.Raw.IsValid text ⟨token.start⟩ ∧
    String.Pos.Raw.IsValid text ⟨token.stop⟩
  slices : ∀ token ∈ tokens,
    Text.slice? token.start token.stop text.toList = some token.text.toList
  texts : String.join (tokens.map Token.text) = text

end Token

namespace RuleTable

variable {table : RuleTable} {cursor after : Cursor} {token : Token}

theorem liesIn_of_next? (step : table.next? cursor = some (token, after)) :
    token.LiesIn cursor.source := by
  rcases next?_eq_some_iff.mp step with ⟨taken, remains, -, token_eq, step⟩
  refine ⟨cursor.before, taken, after.rest, ?_, step.taken_ne_nil, ?_, ?_, ?_⟩
  · rw [Cursor.source_eq, remains]
  · rw [token_eq, tokenOf, Cursor.offset_eq_before]
  · rw [token_eq, tokenOf, Cursor.offset_eq_before]
  · rw [token_eq, tokenOf]

theorem start_of_next? (step : table.next? cursor = some (token, after)) :
    token.start = cursor.offset := by
  rcases next?_eq_some_iff.mp step with ⟨taken, -, -, token_eq, -⟩
  rw [token_eq, tokenOf]

theorem stop_of_next? (step : table.next? cursor = some (token, after)) :
    token.stop = after.offset := by
  rcases next?_eq_some_iff.mp step with ⟨taken, -, passed, token_eq, -⟩
  rw [token_eq, tokenOf, Cursor.offset_eq_before, Cursor.offset_eq_before, passed,
    Text.byteLength_append]

theorem text_of_next? (step : table.next? cursor = some (token, after)) :
    cursor.rest = token.text.toList ++ after.rest := by
  rcases next?_eq_some_iff.mp step with ⟨taken, remains, -, token_eq, -⟩
  rw [token_eq, tokenOf, String.toList_ofList, remains]

theorem before_of_next? (step : table.next? cursor = some (token, after)) :
    after.before = cursor.before ++ token.text.toList := by
  rcases next?_eq_some_iff.mp step with ⟨taken, -, passed, token_eq, -⟩
  rw [token_eq, tokenOf, String.toList_ofList, passed]

/-- A step ends behind the last character of its token. -/
theorem getLast?_before_of_next? (step : table.next? cursor = some (token, after)) :
    after.before.getLast? = token.text.toList.getLast? := by
  rcases next?_eq_some_iff.mp step with ⟨taken, -, passed, token_eq, made⟩
  have last := List.getLast?_isSome.mpr made.taken_ne_nil
  rw [passed, List.getLast?_append, Option.or_of_isSome last, token_eq, tokenOf,
    String.toList_ofList]

theorem steps_contiguous (table : RuleTable) (cursor : Cursor) :
    cursor.offset :: (table.steps cursor).map (·.1.stop) =
      (table.steps cursor).map (·.1.start) ++ [Text.byteLength cursor.source] := by
  apply steps_induction (motive := fun cursor steps => cursor.offset :: steps.map (·.1.stop) =
    steps.map (·.1.start) ++ [Text.byteLength cursor.source])
  · intro cursor ended
    simp [Cursor.offset_eq_before, Cursor.source_eq, ended]
  · intro cursor token after step ih
    simp only [List.map_cons, List.cons_append, List.cons.injEq]
    refine ⟨(start_of_next? step).symm, ?_⟩
    rw [stop_of_next? step, ih, source_of_next? step]

theorem steps_liesIn (cursor : Cursor) :
    ∀ step ∈ table.steps cursor, step.1.LiesIn cursor.source := by
  apply steps_induction
    (motive := fun cursor steps => ∀ step ∈ steps, step.1.LiesIn cursor.source)
  · simp
  · intro cursor token after step ih
    rw [List.forall_mem_cons]
    refine ⟨liesIn_of_next? step, ?_⟩
    rw [← source_of_next? step]
    exact ih

theorem steps_texts (cursor : Cursor) :
    (table.steps cursor).flatMap (·.1.text.toList) = cursor.rest := by
  apply steps_induction
    (motive := fun cursor steps => steps.flatMap (·.1.text.toList) = cursor.rest)
  · intro cursor ended
    simp [ended]
  · intro cursor token after step ih
    rw [List.flatMap_cons, ih, ← text_of_next? step]

/-- The tokens of a scan partition the text. -/
theorem partition_scan (table : RuleTable) (state : StateId) (text : String) :
    Token.Partition text (table.scan (.start text.toList state)).1 := by
  rw [tokens_scan]
  have lies : ∀ token ∈ (table.steps (.start text.toList state)).map Prod.fst,
      token.LiesIn text.toList := by
    intro token mem
    rcases List.mem_map.mp mem with ⟨step, step_mem, rfl⟩
    exact steps_liesIn _ step step_mem
  constructor
  · simpa [Text.byteLength_toList, Function.comp_def] using
      steps_contiguous table (.start text.toList state)
  · exact fun token mem => (lies token mem).start_lt_stop
  · exact fun token mem => ⟨(lies token mem).isValid_start, (lies token mem).isValid_stop⟩
  · exact fun token mem => (lies token mem).slice_eq
  · apply String.toList_injective
    rw [String.toList_join, List.flatMap_map, List.flatMap_map]
    exact steps_texts (.start text.toList state)

end RuleTable

end RuleLexer
