import RuleLexer.Proofs.Scan.Nesting
import RuleLexer.Proofs.Scan.Offsets

/-!
# Iterating over the tokens of a text

The scan by offsets as an iterator, whose calls change a cursor in place: an assignment stays even
if the call then answers that there is no token. It turns out that no call assigns anything and then
answers so. From every cursor that an iterator reaches, the calls answer the remaining tokens one
after the other and then nothing any more; their number lies between the bounds that the iterator
gives.
-/

namespace RuleLexer

namespace OffsetScan

/-- Takes the next character, which no rule matches, on a cursor that is changed in place. -/
def fallbackInPlace (table : RuleTable) :
    StateT OffsetCursor (Except OffsetFault) (Option Token) := do
  let cursor ← get
  match ← remaining cursor with
  | [] => return none
  | char :: _ =>
    let stop := cursor.offset + char.utf8Size
    set (← moveTo cursor stop)
    if char = '\n' then
      modify fun moved => { moved with stack := .single table.entry }
    return some (← tokenBetween table.fallback cursor.source cursor.offset stop)

/-- A call of the iterator: answers the next token and changes the cursor in place. -/
def nextInPlace (table : RuleTable) :
    StateT OffsetCursor (Except OffsetFault) (Option Token) := do
  let cursor ← get
  if Text.byteLength cursor.source ≤ cursor.offset then return none
  match ← firstRule cursor.source cursor.offset (table.rulesFor cursor.stack.active) with
  | some (rule, stop) =>
    set (← moveTo cursor stop)
    modify fun moved => { moved with stack := moved.stack.apply rule.transition }
    return some (← tokenBetween rule.category cursor.source cursor.offset stop)
  | none => fallbackInPlace table

/-- The answers of a number of calls. -/
def answers (table : RuleTable) :
    Nat → StateT OffsetCursor (Except OffsetFault) (List (Option Token))
  | 0 => return []
  | calls + 1 => do
    let answer ← nextInPlace table
    let later ← answers table calls
    return answer :: later

/-- Bounds on the number of tokens to come: one if any bytes remain, and the number of bytes. -/
def sizeHint (cursor : OffsetCursor) : Except OffsetFault (Nat × Nat) := do
  let bytes := Text.byteLength (← remaining cursor)
  return (if 0 < bytes then 1 else 0, bytes)

/-- The answer of a step, and the cursor that it leaves. -/
def outcome (cursor : OffsetCursor) : Option (Token × OffsetCursor) → Option Token × OffsetCursor
  | some (token, after) => (some token, after)
  | none => (none, cursor)

theorem run_lift {α : Type} (step : Except OffsetFault α) (cursor : OffsetCursor) :
    StateT.run (liftM step) cursor = step.map fun value => (value, cursor) := by
  cases step <;> rfl

theorem ok_bind {α β : Type} (value : α) (rest : α → Except OffsetFault β) :
    Except.ok value >>= rest = rest value := rfl

theorem eq_of_moveTo {cursor moved : OffsetCursor} {target : Nat}
    (forward : moveTo cursor target = .ok moved) : moved = { cursor with offset := target } := by
  rw [moveTo] at forward
  split at forward
  · cases forward
    rfl
  · cases forward

theorem run_fallbackInPlace (table : RuleTable) (cursor : OffsetCursor) :
    (fallbackInPlace table).run cursor = (fallback table cursor).map (outcome cursor) := by
  simp only [fallbackInPlace, fallback, StateT.run_bind, StateT.run_get, pure_bind, run_lift]
  rcases remaining cursor with fault | (_ | ⟨char, rest⟩)
  · rfl
  · rfl
  · simp only [Except.map, ok_bind, StateT.run_bind, run_lift]
    rcases forward : moveTo cursor (cursor.offset + char.utf8Size) with fault | moved
    · rfl
    · simp only [ok_bind, StateT.run_set, pure_bind, eq_of_moveTo forward]
      cases tokenBetween table.fallback cursor.source cursor.offset
          (cursor.offset + char.utf8Size) with
      | error fault => split <;> rfl
      | ok token => split <;> rfl

/-- A call in place is the step by offsets, and leaves the cursor alone if it answers no token. -/
theorem run_nextInPlace (table : RuleTable) (cursor : OffsetCursor) :
    (nextInPlace table).run cursor = (next table cursor).map (outcome cursor) := by
  simp only [nextInPlace, next, StateT.run_bind, StateT.run_get, pure_bind]
  split
  · rfl
  · simp only [StateT.run_bind, run_lift]
    rcases firstRule cursor.source cursor.offset (table.rulesFor cursor.stack.active) with
      fault | (_ | ⟨rule, stop⟩)
    · rfl
    · exact run_fallbackInPlace table cursor
    · simp only [Except.map, ok_bind, StateT.run_bind, run_lift]
      rcases moveTo cursor stop with fault | moved
      · rfl
      · simp only [ok_bind, StateT.run_set, StateT.run_modify, pure_bind]
        cases tokenBetween rule.category cursor.source cursor.offset stop <;> rfl

end OffsetScan

namespace Cursor

theorem offset_eq_byteLength_iff (cursor : Cursor) :
    cursor.offset = Text.byteLength cursor.source ↔ cursor.rest = [] := by
  rw [source_eq, Text.byteLength_append, ← offset_eq_before, ← Text.byteLength_eq_zero_iff]
  omega

end Cursor

namespace RuleTable

variable {table : RuleTable} {cursor : Cursor}

theorem cursorAfter_one (table : RuleTable) (cursor : Cursor) :
    table.cursorAfter cursor 1 = ((table.next? cursor).map Prod.snd).getD cursor := by
  rw [cursorAfter, cursorAfter]
  cases table.next? cursor <;> rfl

theorem cursorAfter_of_none (ended : table.next? cursor = none) (calls : Nat) :
    table.cursorAfter cursor calls = cursor := by
  induction calls with
  | zero => rfl
  | succ calls ih => rw [cursorAfter, ih, ended]

/-- The first remaining token is that of the next step, and the others remain after it. -/
theorem scan_getElem?_zero (cursor : Cursor) :
    (table.scan cursor).1[0]? = (table.next? cursor).map Prod.fst := by
  rw [tokens_scan]
  rcases step : table.next? cursor with _ | ⟨token, after⟩
  · simp [steps_of_none step]
  · simp [steps_of_some step]

theorem scan_getElem?_succ (cursor : Cursor) (call : Nat) :
    (table.scan cursor).1[call + 1]? = (table.scan (table.cursorAfter cursor 1)).1[call]? := by
  rw [tokens_scan, tokens_scan, cursorAfter_one]
  rcases step : table.next? cursor with _ | ⟨token, after⟩
  · simp [steps_of_none step]
  · simp [steps_of_some step]

theorem scan_eq_nil_iff (table : RuleTable) (cursor : Cursor) :
    (table.scan cursor).1 = [] ↔ cursor.rest = [] := by
  rw [← List.head?_eq_none_iff, List.head?_eq_getElem?, scan_getElem?_zero,
    Option.map_eq_none_iff, next?_eq_none_iff]

/-- There are no more tokens than characters. -/
theorem length_scan_le (table : RuleTable) (cursor : Cursor) :
    (table.scan cursor).1.length ≤ cursor.rest.length := by
  rw [tokens_scan, List.length_map]
  apply steps_induction (motive := fun cursor steps => steps.length ≤ cursor.rest.length)
  · intro cursor ended
    exact Nat.zero_le _
  · intro cursor token after step ih
    have shorter := length_rest_lt_of_next? step
    rw [List.length_cons]
    omega

end RuleTable

namespace OffsetScan

variable {table : RuleTable} {cursor : Cursor}

theorem run_nextInPlace_toOffset : (nextInPlace table).run cursor.toOffset =
    .ok ((table.next? cursor).map Prod.fst, (table.cursorAfter cursor 1).toOffset) := by
  rw [run_nextInPlace, next_toOffset, RuleTable.cursorAfter_one]
  rcases table.next? cursor with _ | ⟨token, after⟩
  · rfl
  · rfl

/-- The calls answer the remaining tokens one after the other, and then nothing. -/
theorem run_answers (cursor : Cursor) (calls : Nat) :
    (answers table calls).run cursor.toOffset =
      .ok ((List.range calls).map fun call => (table.scan cursor).1[call]?,
        (table.cursorAfter cursor calls).toOffset) := by
  induction calls generalizing cursor with
  | zero => rfl
  | succ calls ih =>
      have later := ih (table.cursorAfter cursor 1)
      rw [← RuleTable.cursorAfter_add, Nat.add_comm 1] at later
      simp only [answers, StateT.run_bind, run_nextInPlace_toOffset, ok_bind, later,
        StateT.run_pure, List.range_succ_eq_map, List.map_cons, List.map_map,
        RuleTable.scan_getElem?_zero, Function.comp_def, RuleTable.scan_getElem?_succ]
      rfl

theorem sizeHint_toOffset (cursor : Cursor) : sizeHint cursor.toOffset = .ok cursor.sizeHint := by
  rw [sizeHint, remaining_toOffset, ok_bind, Cursor.sizeHint, Cursor.remaining, Cursor.isAtEnd]
  rcases cursor.rest with _ | ⟨char, rest⟩
  · rfl
  · simp only [if_pos (Text.byteLength_pos (List.cons_ne_nil char rest))]
    rfl

end OffsetScan

namespace RuleTable

theorem sizeHint_fst_le (table : RuleTable) (cursor : Cursor) :
    cursor.sizeHint.1 ≤ (table.scan cursor).1.length := by
  rw [Cursor.sizeHint, Cursor.isAtEnd]
  split
  · exact Nat.zero_le _
  · rename_i remains
    rw [List.isEmpty_iff, ← scan_eq_nil_iff table, ← List.length_eq_zero_iff] at remains
    omega

/-- An iterator over a text reaches, by any number of calls, a cursor from which the calls answer
the remaining tokens one after the other and then nothing. The number of these tokens is at least
the lower bound of the size hint, at most the number of remaining characters, and so at most the
upper bound; it is zero exactly at the end of the text. If a call answers nothing, it has left the
cursor alone, and so does every later call, which answers nothing either. -/
theorem tokens_within_sizeHint (table : RuleTable) (text : String) (calls : Nat) :
    let cursor := table.cursorAfter (table.cursor text) calls
    let tokens := (table.scan cursor).1
    (∃ given, (OffsetScan.answers table calls).run ⟨text.toList, 0, .single table.entry⟩ =
        .ok (given, cursor.toOffset)) ∧
      (∀ more, ∃ last, (OffsetScan.answers table more).run cursor.toOffset =
        .ok ((List.range more).map fun call => tokens[call]?, last)) ∧
      OffsetScan.sizeHint cursor.toOffset = .ok cursor.sizeHint ∧
      cursor.sizeHint.1 ≤ tokens.length ∧ tokens.length ≤ cursor.rest.length ∧
      cursor.rest.length ≤ cursor.sizeHint.2 ∧
      (tokens.length = 0 ↔ cursor.offset = text.utf8ByteSize) ∧
      ∀ last, (OffsetScan.nextInPlace table).run cursor.toOffset = .ok (none, last) →
        last = cursor.toOffset ∧ ∀ more, (OffsetScan.answers table more).run last =
          .ok (List.replicate more none, last) := by
  intro cursor tokens
  have source : cursor.source = text.toList := source_cursorAfter (table.cursor text) calls
  refine ⟨⟨_, OffsetScan.run_answers (table.cursor text) calls⟩,
    fun more => ⟨_, OffsetScan.run_answers cursor more⟩, OffsetScan.sizeHint_toOffset cursor,
    sizeHint_fst_le table cursor, length_scan_le table cursor,
    Text.length_le_byteLength cursor.rest, ?_, ?_⟩
  · rw [List.length_eq_zero_iff, scan_eq_nil_iff, ← Cursor.offset_eq_byteLength_iff,
      source, Text.byteLength_toList]
  · intro last answered
    rw [OffsetScan.run_nextInPlace_toOffset] at answered
    simp only [Except.ok.injEq, Prod.mk.injEq, Option.map_eq_none_iff] at answered
    rcases answered with ⟨ended, rfl⟩
    rw [cursorAfter_of_none ended]
    refine ⟨rfl, ?_⟩
    intro more
    have nothing := (scan_eq_nil_iff table cursor).mpr (next?_eq_none_iff.mp ended)
    simp [OffsetScan.run_answers, cursorAfter_of_none ended, nothing]

/-- A text that ends in a character of two bytes, before that character and behind it. -/
theorem tokens_within_sizeHint_accent :
    let cursor := parenthesesTable.cursorAfter (parenthesesTable.cursor "(é")
    (cursor 1).sizeHint = (1, 2) ∧ (parenthesesTable.scan (cursor 1)).1.length = 1 ∧
      (OffsetScan.nextInPlace parenthesesTable).run (cursor 2).toOffset =
        .ok (none, (cursor 2).toOffset) ∧
      (OffsetScan.answers parenthesesTable 2).run (cursor 2).toOffset =
        .ok ([none, none], (cursor 2).toOffset) := by
  intro cursor
  rcases tokens_within_sizeHint parenthesesTable "(é" 1 with ⟨-, -, -, low, characters, -⟩
  rcases tokens_within_sizeHint parenthesesTable "(é" 2 with ⟨-, -, -, -, -, -, -, fused⟩
  have ended : (OffsetScan.nextInPlace parenthesesTable).run (cursor 2).toOffset =
      .ok (none, (cursor 2).toOffset) := by rfl
  refine ⟨by decide, ?_, ended, (fused _ ended).2 2⟩
  apply Nat.le_antisymm
  · exact Nat.le_trans characters (by decide)
  · exact Nat.le_trans (by decide) low

end RuleTable

end RuleLexer
