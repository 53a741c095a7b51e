import RuleLexer.Scan.Cursor
import RuleLexer.Token

/-!
# Scanning

Scanning goes from token to token. At each position the rules of the active state are tried in
order, and the first one that matches gives the token, however short; a rule may change the stack of
states. Where no rule matches, the token is the next character alone in the fallback category, and a
line feed taken so brings the stack back to the entry state. Every token has at least one character,
so scanning ends.
-/

namespace RuleLexer

namespace Rule

/-- Whether the character before the position satisfies the lookbehind: the preferred match that
starts at it must end right after it. -/
def allows (rule : Rule) (passed rest : List Char) : Bool :=
  match rule.lookbehind with
  | none => true
  | some program =>
    match passed with
    | [] => false
    | previous :: before =>
      match program.match? before.head? [previous] rest.head? with
      | none => false
      | some found => found.length == 1

/-- The end of the token in a match, in characters: that of the match, or that of the first group if
the group begins where the match does. -/
def tokenEnd? (rule : Rule) (found : Regex.Match) : Option Nat :=
  if rule.consumes then some found.length
  else
    match found.body with
    | some (0, stop) => some stop
    | _ => none

/-- The number of characters of the token that the rule finds at a position; it is not zero. -/
def matchLength? (rule : Rule) (passed rest : List Char) : Option Nat :=
  if rule.allows passed rest then
    ((rule.program.match? passed.head? rest none).bind rule.tokenEnd?).filter (0 < ·)
  else none

end Rule

namespace RuleTable

/-- The first rule that matches at a position, and the number of characters of its token. -/
def firstMatch? (passed rest : List Char) : List Rule → Option (Rule × Nat)
  | [] => none
  | rule :: rules =>
    match rule.matchLength? passed rest with
    | some count => some (rule, count)
    | none => firstMatch? passed rest rules

/-- The token made of the next characters. -/
def tokenAt (cursor : Cursor) (category : Category) (count : Nat) : Token where
  category := category
  text := String.ofList (cursor.rest.take count)
  start := cursor.offset
  stop := cursor.offset + Text.byteLength (cursor.rest.take count)

/-- The next token and the cursor after it; nothing at the end of the text. -/
def next? (table : RuleTable) (cursor : Cursor) : Option (Token × Cursor) :=
  match cursor.rest with
  | [] => none
  | char :: _ =>
    match firstMatch? cursor.passed cursor.rest (table.rulesFor cursor.stack.active) with
    | some (rule, count) =>
      some (tokenAt cursor rule.category count,
        cursor.advance count (cursor.stack.apply rule.transition))
    | none =>
      let stack := if char = '\n' then .single table.entry else cursor.stack
      some (tokenAt cursor table.fallback 1, cursor.advance 1 stack)

theorem firstMatch?_pos {passed rest : List Char} {rules : List Rule} {rule : Rule} {count : Nat}
    (found : firstMatch? passed rest rules = some (rule, count)) : 0 < count := by
  induction rules with
  | nil => cases found
  | cons first rules ih =>
    simp only [firstMatch?] at found
    split at found
    · rename_i length matched
      cases found
      simp only [Rule.matchLength?] at matched
      split at matched
      · have := Option.eq_some_of_filter_eq_some matched
        have := Option.filter_eq_some_iff.1 matched
        simpa using this.2
      · cases matched
    · exact ih found

theorem length_rest_lt_of_next? {table : RuleTable} {cursor after : Cursor} {token : Token}
    (step : table.next? cursor = some (token, after)) : after.rest.length < cursor.rest.length := by
  simp only [next?] at step
  split at step
  · cases step
  · rename_i char tail remains
    split at step
    · rename_i rule count found
      cases step
      have positive := firstMatch?_pos found
      simp only [Cursor.advance, List.length_drop, remains, List.length_cons]
      omega
    · cases step
      simp [Cursor.advance, remains]

/-- Takes all remaining tokens after the given ones; also the cursor at the end. -/
def scanAfter (table : RuleTable) (tokens : Array Token) (cursor : Cursor) :
    Array Token × Cursor :=
  match _step : table.next? cursor with
  | none => (tokens, cursor)
  | some (token, after) => table.scanAfter (tokens.push token) after
termination_by cursor.rest.length
decreasing_by exact length_rest_lt_of_next? _step

/-- The cursor at the start of a text in the entry state. -/
def cursor (table : RuleTable) (text : String) : Cursor :=
  .start text.toList table.entry

/-- The remaining tokens, and the cursor at the end. -/
def scan (table : RuleTable) (cursor : Cursor) : List Token × Cursor :=
  let (tokens, after) := table.scanAfter #[] cursor
  (tokens.toList, after)

/-- The tokens of a text. -/
def tokenize (table : RuleTable) (text : String) : List Token :=
  (table.scan (table.cursor text)).1

end RuleTable

namespace Cursor

/-- Bounds on the number of tokens to come: one if anything remains, and the number of bytes. -/
def sizeHint (cursor : Cursor) : Nat × Nat :=
  (if cursor.isAtEnd then 0 else 1, cursor.remaining)

end Cursor

end RuleLexer
