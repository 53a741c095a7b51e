import RuleLexer.Proofs.Scan.Partition

/-!
# Scanning by byte offsets

The scanner once more, on a text and a byte offset instead of the characters on either side. Every
part of the text is cut out at offsets, which fails if the range is out of order, reaches beyond the
text or begins or ends inside a character, and a cursor may only be moved forward within the text.

On a cursor whose offset lies between two characters none of this fails, and the scan by offsets
gives the tokens of the scan by characters.
-/

namespace RuleLexer

/-- What stops a scan by offsets. -/
inductive OffsetFault
  /-- A range at which the text cannot be cut. -/
  | slice (start stop : Nat)
  /-- A move that does not lead forward within the text. -/
  | move (offset target : Nat)
  deriving DecidableEq, Repr

/-- A byte offset in a text, with a stack of states. -/
structure OffsetCursor where
  source : List Char
  offset : Nat
  stack : StateStack
  deriving DecidableEq, Repr

/-- A match by the offsets of its ends. -/
structure OffsetMatch where
  stop : Nat
  body : Option (Nat × Nat)
  deriving DecidableEq, Repr

namespace OffsetScan

/-- The part of a text between two offsets. -/
def slice (text : List Char) (start stop : Nat) : Except OffsetFault (List Char) :=
  match Text.slice? start stop text with
  | some part => .ok part
  | none => .error (.slice start stop)

/-- The offsets of a match that begins at `start` in the characters `window`. -/
def locate (start : Nat) (window : List Char) (found : Regex.Match) : OffsetMatch where
  stop := start + Text.byteLength (window.take found.length)
  body := found.body.map fun (first, last) =>
    (start + Text.byteLength (window.take first), start + Text.byteLength (window.take last))

/-- Searches a range of the text for a match at its start; assertions see the whole text. -/
def search (program : Regex.Program) (text : List Char) (start stop : Nat) :
    Except OffsetFault (Option OffsetMatch) := do
  let before ← slice text 0 start
  let window ← slice text start stop
  let following ← slice text stop (Text.byteLength text)
  return (program.match? before.getLast? window following.head?).map (locate start window)

/-- Whether the character before the offset satisfies the lookbehind of a rule. -/
def allows (rule : Rule) (text : List Char) (offset : Nat) : Except OffsetFault Bool :=
  match rule.lookbehind with
  | none => .ok true
  | some program => do
    let before ← slice text 0 offset
    match before.getLast? with
    | none => return false
    | some previous =>
      match ← search program text (offset - previous.utf8Size) offset with
      | none => return false
      | some found => return found.stop == offset

/-- The end of the token of a rule in a match at the offset. -/
def tokenStop? (rule : Rule) (offset : Nat) (found : OffsetMatch) : Option Nat :=
  if rule.consumes then some found.stop
  else
    match found.body with
    | some (start, stop) => if start = offset then some stop else none
    | none => none

/-- The end of the token that a rule finds at the offset. -/
def stopOf (rule : Rule) (text : List Char) (offset : Nat) : Except OffsetFault (Option Nat) := do
  if ← allows rule text offset then
    let found ← search rule.program text offset (Text.byteLength text)
    return (found.bind (tokenStop? rule offset)).filter (offset < ·)
  else return none

/-- The first rule that finds a token at the offset, and the end of the token. -/
def firstRule (text : List Char) (offset : Nat) :
    List Rule → Except OffsetFault (Option (Rule × Nat))
  | [] => .ok none
  | rule :: rules => do
    match ← stopOf rule text offset with
    | some stop => return some (rule, stop)
    | none => firstRule text offset rules

/-- The rest of the text. -/
def remaining (cursor : OffsetCursor) : Except OffsetFault (List Char) :=
  slice cursor.source cursor.offset (Text.byteLength cursor.source)

/-- Moves forward to an offset. -/
def moveTo (cursor : OffsetCursor) (target : Nat) : Except OffsetFault OffsetCursor :=
  if cursor.offset < target ∧ target ≤ Text.byteLength cursor.source then
    .ok { cursor with offset := target }
  else .error (.move cursor.offset target)

/-- The token between two offsets. -/
def tokenBetween (category : Category) (text : List Char) (start stop : Nat) :
    Except OffsetFault Token := do
  let part ← slice text start stop
  return ⟨category, String.ofList part, start, stop⟩

/-- The token of the next character, which no rule matches. -/
def fallback (table : RuleTable) (cursor : OffsetCursor) :
    Except OffsetFault (Option (Token × OffsetCursor)) := do
  match ← remaining cursor with
  | [] => return none
  | char :: _ =>
    let moved ← moveTo cursor (cursor.offset + char.utf8Size)
    let stack := if char = '\n' then .single table.entry else moved.stack
    let token ← tokenBetween table.fallback cursor.source cursor.offset moved.offset
    return some (token, { moved with stack })

/-- The next token and the cursor after it; nothing at the end of the text. -/
def next (table : RuleTable) (cursor : OffsetCursor) :
    Except OffsetFault (Option (Token × OffsetCursor)) := do
  if Text.byteLength cursor.source ≤ cursor.offset then return none
  else
    match ← firstRule cursor.source cursor.offset (table.rulesFor cursor.stack.active) with
    | some (rule, stop) =>
      let moved ← moveTo cursor stop
      let token ← tokenBetween rule.category cursor.source cursor.offset stop
      return some (token, { moved with stack := moved.stack.apply rule.transition })
    | none => fallback table cursor

/-- Repeated calls give these tokens and come to an end, and nothing fails on the way. -/
inductive Runs (table : RuleTable) : OffsetCursor → List Token → Prop
  | done {cursor : OffsetCursor} {rest : List Char} (remains : remaining cursor = .ok rest)
      (ended : next table cursor = .ok none) : Runs table cursor []
  | step {cursor after : OffsetCursor} {rest : List Char} {token : Token} {tokens : List Token}
      (remains : remaining cursor = .ok rest)
      (found : next table cursor = .ok (some (token, after)))
      (later : Runs table after tokens) : Runs table cursor (token :: tokens)

section Slices

variable (front part rest : List Char)

theorem slice_middle : slice (front ++ (part ++ rest)) (Text.byteLength front)
    (Text.byteLength front + Text.byteLength part) = .ok part := by
  rw [slice, Text.slice?_append]

theorem slice_front : slice (front ++ rest) 0 (Text.byteLength front) = .ok front := by
  simpa using slice_middle [] front rest

theorem slice_rest : slice (front ++ rest) (Text.byteLength front)
    (Text.byteLength (front ++ rest)) = .ok rest := by
  simpa using slice_middle front rest []

end Slices

/-- A search between two characters does not fail and finds the match of the characters there. -/
theorem search_window (program : Regex.Program) (front window rest : List Char) :
    search program (front ++ (window ++ rest)) (Text.byteLength front)
        (Text.byteLength front + Text.byteLength window) =
      .ok ((program.match? front.getLast? window rest.head?).map
        (locate (Text.byteLength front) window)) := by
  have following : slice (front ++ (window ++ rest))
      (Text.byteLength front + Text.byteLength window)
      (Text.byteLength (front ++ (window ++ rest))) = .ok rest := by
    simpa using slice_rest (front ++ window) rest
  rw [search, slice_front, slice_middle, following]
  rfl

theorem take_byteLength_eq_zero_iff {text : List Char} {count : Nat} (le : count ≤ text.length) :
    Text.byteLength (text.take count) = 0 ↔ count = 0 := by
  rw [Text.byteLength_eq_zero_iff, List.take_eq_nil_iff]
  constructor
  · rintro (none | rfl)
    · exact none
    · simpa using le
  · exact Or.inl

variable {rule : Rule} {before rest : List Char}

theorem allows_eq : allows rule (before ++ rest) (Text.byteLength before) =
    .ok (rule.allows before.reverse rest) := by
  unfold allows Rule.allows
  cases lookbehind : rule.lookbehind with
  | none => rfl
  | some program =>
      simp only [slice_front]
      rcases List.eq_nil_or_concat before with rfl | ⟨front, previous, rfl⟩
      · rfl
      · have start_eq : Text.byteLength (front ++ [previous]) - previous.utf8Size =
            Text.byteLength front := by simp
        have searched := search_window program front [previous] rest
        rw [← Text.byteLength_append, ← List.append_assoc] at searched
        simp only [List.concat_eq_append, List.reverse_append, List.reverse_cons, List.reverse_nil,
          List.nil_append, List.cons_append, List.getLast?_append, List.getLast?_singleton,
          Option.some_or, List.head?_reverse, bind, Except.bind, pure, Except.pure, start_eq,
          searched]
        cases result : program.match? front.getLast? [previous] rest.head? with
        | none => rfl
        | some found =>
            have within := (Regex.Program.match?_within result).1
            have size_pos := previous.utf8Size_pos
            simp only [Option.map_some, locate, Text.byteLength_append, Text.byteLength_cons,
              Text.byteLength_nil, Nat.add_zero, Except.ok.injEq]
            rcases lengths : found.length with _ | (_ | length)
            · simp
              omega
            · simp
            · rw [lengths] at within
              simp at within

theorem tokenStop?_locate {found : Regex.Match} (within : found.Within rest.length) :
    tokenStop? rule (Text.byteLength before) (locate (Text.byteLength before) rest found) =
      (rule.tokenEnd? found).map fun count =>
        Text.byteLength before + Text.byteLength (rest.take count) := by
  unfold tokenStop? Rule.tokenEnd?
  split
  · rfl
  · rcases bodyEq : found.body with _ | ⟨start, stop⟩
    · simp [locate, bodyEq]
    · have start_le : start ≤ rest.length :=
        Nat.le_trans (within.2 start stop bodyEq).1 within.1
      simp only [locate, bodyEq, Option.map_some, Nat.add_eq_left,
        take_byteLength_eq_zero_iff start_le]
      cases start with
      | zero => rfl
      | succ start => rfl

theorem stopOf_eq : stopOf rule (before ++ rest) (Text.byteLength before) =
    .ok ((rule.matchLength? before.reverse rest).map fun count =>
      Text.byteLength before + Text.byteLength (rest.take count)) := by
  have searched := search_window rule.program before rest []
  rw [List.append_nil, ← Text.byteLength_append] at searched
  rw [stopOf, allows_eq, Rule.matchLength?]
  cases rule.allows before.reverse rest with
  | false => rfl
  | true =>
      simp only [bind, Except.bind, pure, Except.pure, if_true, searched, List.head?_reverse,
        List.head?_nil, Except.ok.injEq]
      cases result : rule.program.match? before.getLast? rest none with
      | none => rfl
      | some found =>
          have within := Regex.Program.match?_within result
          simp only [Option.map_some, Option.bind_some, tokenStop?_locate within]
          cases ended : rule.tokenEnd? found with
          | none => rfl
          | some count =>
              have count_le : count ≤ rest.length := by
                rw [Rule.tokenEnd?_eq_some_iff] at ended
                split at ended
                · rw [← ended]
                  exact within.1
                · exact Nat.le_trans (within.2 0 count ended).2 within.1
              have positive : Text.byteLength before <
                  Text.byteLength before + Text.byteLength (rest.take count) ↔ 0 < count := by
                have := take_byteLength_eq_zero_iff count_le
                omega
              simp only [Option.map_some, Option.filter_some, positive]
              by_cases count_pos : 0 < count <;> simp [count_pos]

theorem firstRule_eq (before rest : List Char) (rules : List Rule) :
    firstRule (before ++ rest) (Text.byteLength before) rules =
      .ok ((RuleTable.firstMatch? before.reverse rest rules).map fun (rule, count) =>
        (rule, Text.byteLength before + Text.byteLength (rest.take count))) := by
  induction rules with
  | nil => rfl
  | cons rule rules ih =>
      rw [firstRule, stopOf_eq, RuleTable.firstMatch?]
      cases rule.matchLength? before.reverse rest with
      | none => exact ih
      | some count => rfl

end OffsetScan

namespace Cursor

/-- The cursor by its offset. -/
def toOffset (cursor : Cursor) : OffsetCursor :=
  ⟨cursor.source, cursor.offset, cursor.stack⟩

theorem toOffset_advance (cursor : Cursor) (count : Nat) (stack : StateStack) :
    (cursor.advance count stack).toOffset =
      ⟨cursor.source, cursor.offset + Text.byteLength (cursor.rest.take count), stack⟩ := by
  rw [toOffset, source_eq, before_advance, rest_advance, List.append_assoc,
    List.take_append_drop, ← source_eq]
  rfl

end Cursor

namespace OffsetScan

variable {table : RuleTable} {cursor : Cursor}

theorem remaining_toOffset : remaining cursor.toOffset = .ok cursor.rest := by
  rw [remaining, Cursor.toOffset, Cursor.offset_eq_before, Cursor.source_eq, slice_rest]

/-- Moving over characters after the cursor does not fail. -/
theorem moveTo_toOffset {taken rest : List Char} (remains : cursor.rest = taken ++ rest)
    (nonempty : taken ≠ []) :
    moveTo cursor.toOffset (cursor.offset + Text.byteLength taken) =
      .ok ⟨cursor.source, cursor.offset + Text.byteLength taken, cursor.stack⟩ := by
  have positive := Text.byteLength_pos nonempty
  have inside : cursor.offset + Text.byteLength taken ≤ Text.byteLength cursor.source := by
    rw [Cursor.source_eq, remains, Text.byteLength_append, Text.byteLength_append,
      Cursor.offset_eq_before]
    omega
  exact if_pos ⟨Nat.lt_add_of_pos_right positive, inside⟩

/-- Cutting out characters after the cursor does not fail. -/
theorem tokenBetween_toOffset {taken rest : List Char} (category : Category)
    (remains : cursor.rest = taken ++ rest) :
    tokenBetween category cursor.source cursor.offset (cursor.offset + Text.byteLength taken) =
      .ok (RuleTable.tokenOf cursor category taken) := by
  rw [tokenBetween, Cursor.source_eq, remains, Cursor.offset_eq_before, slice_middle,
    RuleTable.tokenOf, Cursor.offset_eq_before]
  rfl

theorem fallback_toOffset {char : Char} {rest : List Char} (remains : cursor.rest = char :: rest) :
    fallback table cursor.toOffset = .ok (some (RuleTable.tokenAt cursor table.fallback 1,
      (cursor.advance 1
        (if char = '\n' then .single table.entry else cursor.stack)).toOffset)) := by
  have single : cursor.rest = [char] ++ rest := remains
  have moved := moveTo_toOffset single (List.cons_ne_nil char [])
  have token := tokenBetween_toOffset table.fallback single
  rw [Text.byteLength_cons, Text.byteLength_nil, Nat.add_zero] at moved token
  rw [fallback, remaining_toOffset, remains, Cursor.toOffset_advance, remains]
  simp only [bind, Except.bind, pure, Except.pure, Cursor.toOffset] at moved ⊢
  rw [moved]
  simp only
  rw [token]
  simp [RuleTable.tokenOf, RuleTable.tokenAt, remains]

theorem next_of_ended (ended : cursor.rest = []) : next table cursor.toOffset = .ok none := by
  rw [next, if_pos]
  · rfl
  · simp [Cursor.toOffset, Cursor.source_eq, ended, Cursor.offset_eq_before]

theorem next_of_remains (remains : cursor.rest ≠ []) :
    next table cursor.toOffset =
      (firstRule cursor.source cursor.offset (table.rulesFor cursor.stack.active)).bind fun
        | some (rule, stop) => do
          let moved ← moveTo cursor.toOffset stop
          let token ← tokenBetween rule.category cursor.source cursor.offset stop
          return some (token, { moved with stack := moved.stack.apply rule.transition })
        | none => fallback table cursor.toOffset := by
  have positive := Text.byteLength_pos remains
  rw [next, if_neg]
  · rfl
  · simp only [Cursor.toOffset, Cursor.source_eq, Text.byteLength_append, Cursor.offset_eq_before]
    omega

/-- A step by offsets does not fail and is the step by characters. -/
theorem next_toOffset : next table cursor.toOffset =
    .ok ((table.next? cursor).map fun (token, after) => (token, after.toOffset)) := by
  cases remains : cursor.rest with
  | nil => rw [next_of_ended remains, RuleTable.next?_eq_none_iff.mpr remains, Option.map_none]
  | cons char rest =>
      have rules := firstRule_eq cursor.before cursor.rest
        (table.rulesFor cursor.stack.active)
      rw [← Cursor.offset_eq_before, ← Cursor.source_eq] at rules
      rw [next_of_remains (by simp [remains]), rules]
      cases found : RuleTable.firstMatch? cursor.before.reverse cursor.rest
          (table.rulesFor cursor.stack.active) with
      | none =>
          have none := RuleTable.firstMatch?_eq_none_iff.mp found
          rw [RuleTable.next?_of_noneTakes remains none]
          exact fallback_toOffset remains
      | some pair =>
          rcases pair with ⟨rule, count⟩
          rcases RuleTable.firstMatch?_eq_some_iff.mp found with ⟨index, first⟩
          have parts : cursor.rest = cursor.rest.take count ++ cursor.rest.drop count :=
            (List.take_append_drop count cursor.rest).symm
          have nonempty : cursor.rest.take count ≠ [] := by
            have := first.takes.nonempty
            simp only [ne_eq, List.take_eq_nil_iff, remains, reduceCtorEq, or_false]
            omega
          rw [RuleTable.next?_of_firstTakes first]
          simp only [Option.map_some, Except.bind, bind, pure, Except.pure,
            moveTo_toOffset parts nonempty, tokenBetween_toOffset rule.category parts,
            Cursor.toOffset_advance]
          rfl

/-- The whole scan by offsets does not fail and gives the tokens of the scan. -/
theorem runs_steps (table : RuleTable) (cursor : Cursor) :
    Runs table cursor.toOffset ((table.steps cursor).map Prod.fst) := by
  apply RuleTable.steps_induction
    (motive := fun cursor steps => Runs table cursor.toOffset (steps.map Prod.fst))
  · intro cursor ended
    exact Runs.done remaining_toOffset (next_of_ended ended)
  · intro cursor token after step ih
    have found : next table cursor.toOffset = .ok (some (token, after.toOffset)) := by
      rw [next_toOffset, step]
      rfl
    exact Runs.step remaining_toOffset found ih

end OffsetScan

namespace RuleTable

/-- From whatever state, the tokens of a scan partition the text, and no cut and no move on the way
fails. -/
theorem scan_lossless (table : RuleTable) (state : StateId) (text : String) :
    Token.Partition text (table.scan (.start text.toList state)).1 ∧
      OffsetScan.Runs table ⟨text.toList, 0, .single state⟩
        (table.scan (.start text.toList state)).1 := by
  refine ⟨partition_scan table state text, ?_⟩
  rw [tokens_scan]
  exact OffsetScan.runs_steps table (.start text.toList state)

end RuleTable

end RuleLexer
