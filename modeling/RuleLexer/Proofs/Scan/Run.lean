import RuleLexer.Proofs.Scan.Step

/-!
# Whole scans

A scan as the list of its steps, each one a token with the cursor after it. Scanning collects the
tokens of these steps, and the scanned text is the same at every cursor.
-/

namespace RuleLexer

namespace RuleTable

/-- The steps of a scan: every token with the cursor after it. -/
def steps (table : RuleTable) (cursor : Cursor) : List (Token × Cursor) :=
  match _step : table.next? cursor with
  | none => []
  | some (token, after) => (token, after) :: table.steps after
termination_by cursor.rest.length
decreasing_by exact length_rest_lt_of_next? _step

variable {table : RuleTable} {cursor after : Cursor} {token : Token}

theorem steps_of_none (ended : table.next? cursor = none) : table.steps cursor = [] := by
  rw [steps]
  split
  · rfl
  · simp_all

theorem steps_of_some (step : table.next? cursor = some (token, after)) :
    table.steps cursor = (token, after) :: table.steps after := by
  rw [steps]
  split
  · simp_all
  · rename_i step'
    rw [step] at step'
    cases step'
    rfl

/-- What holds at the end of a text and is passed back over every step holds of every scan. -/
theorem steps_induction {motive : Cursor → List (Token × Cursor) → Prop}
    (ended : ∀ cursor, cursor.rest = [] → motive cursor [])
    (step : ∀ cursor token after, table.next? cursor = some (token, after) →
      motive after (table.steps after) → motive cursor ((token, after) :: table.steps after))
    (cursor : Cursor) : motive cursor (table.steps cursor) := by
  fun_induction steps table cursor with
  | case1 cursor none => exact ended cursor (next?_eq_none_iff.mp none)
  | case2 cursor token after some ih => exact step cursor token after some ih

theorem scanAfter_eq_append (tokens : Array Token) (cursor : Cursor) :
    (table.scanAfter tokens cursor).1.toList =
      tokens.toList ++ (table.steps cursor).map Prod.fst := by
  fun_induction scanAfter table tokens cursor with
  | case1 tokens cursor none => simp [steps_of_none none]
  | case2 tokens cursor token after some ih => simp [steps_of_some some, ih]

theorem tokens_scan (cursor : Cursor) :
    (table.scan cursor).1 = (table.steps cursor).map Prod.fst := by
  simp [scan, scanAfter_eq_append]

theorem tokens_tokenize (text : String) :
    table.tokenize text = (table.steps (table.cursor text)).map Prod.fst :=
  tokens_scan (table.cursor text)

theorem source_of_next? (step : table.next? cursor = some (token, after)) :
    after.source = cursor.source := by
  rcases next?_eq_some_iff.mp step with ⟨taken, remains, passed, -, -⟩
  rw [Cursor.source_eq, Cursor.source_eq, remains, passed, List.append_assoc]

end RuleTable

namespace Cursor

@[simp]
theorem source_start (text : List Char) (state : StateId) : (start text state).source = text := rfl

@[simp]
theorem offset_start (text : List Char) (state : StateId) : (start text state).offset = 0 := rfl

end Cursor

end RuleLexer
