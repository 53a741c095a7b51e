import RuleLexer.RuleTable
import RuleLexer.Text.Utf8

/-!
# Cursors

A cursor is the state of one scan: the text on either side of the offset, and the stack of states.
The stack has an active state and the states below it, so it cannot be empty.
-/

namespace RuleLexer

/-- A stack of states that is never empty. -/
structure StateStack where
  active : StateId
  /-- The states below it, the uppermost first. -/
  below : List StateId
  deriving DecidableEq, Repr

namespace StateStack

def single (state : StateId) : StateStack := ⟨state, []⟩

/-- The number of states. -/
def depth (stack : StateStack) : Nat :=
  stack.below.length + 1

/-- Enters a state. -/
def push (stack : StateStack) (state : StateId) : StateStack :=
  ⟨state, stack.active :: stack.below⟩

/-- Leaves the active state, unless it is the only one. -/
def pop (stack : StateStack) : StateStack :=
  match stack.below with
  | [] => stack
  | state :: below => ⟨state, below⟩

/-- The stack after a match. -/
def apply (stack : StateStack) : Option Transition → StateStack
  | none => stack
  | some (.push target) => stack.push target
  | some .pop => stack.pop

end StateStack

/-- A position in a text with a stack of states. -/
structure Cursor where
  /-- The characters before the position, the last one first. -/
  passed : List Char
  rest : List Char
  offset : Nat
  stack : StateStack
  offset_eq : offset = Text.byteLength passed
  deriving Repr

namespace Cursor

theorem eq_of_parts {first second : Cursor} (passed : first.passed = second.passed)
    (rest : first.rest = second.rest) (stack : first.stack = second.stack) : first = second := by
  cases first
  cases second
  simp_all

instance : DecidableEq Cursor := fun first second =>
  if same : first.passed = second.passed ∧ first.rest = second.rest ∧
      first.stack = second.stack then
    isTrue (eq_of_parts same.1 same.2.1 same.2.2)
  else isFalse fun equal => same (by simp [equal])

/-- The cursor at the start of a text in a state. -/
def start (text : List Char) (state : StateId) : Cursor where
  passed := []
  rest := text
  offset := 0
  stack := .single state
  offset_eq := rfl

/-- Moves on by a number of characters, with a new stack. -/
def advance (cursor : Cursor) (count : Nat) (stack : StateStack) : Cursor where
  passed := (cursor.rest.take count).reverse ++ cursor.passed
  rest := cursor.rest.drop count
  offset := cursor.offset + Text.byteLength (cursor.rest.take count)
  stack := stack
  offset_eq := by simp [cursor.offset_eq, Nat.add_comm]

/-- Whether the whole text has been scanned. -/
def isAtEnd (cursor : Cursor) : Bool :=
  cursor.rest.isEmpty

/-- The number of bytes after the position. -/
def remaining (cursor : Cursor) : Nat :=
  Text.byteLength cursor.rest

/-- The whole text. -/
def source (cursor : Cursor) : List Char :=
  cursor.passed.reverse ++ cursor.rest

/-- Whether two cursors are at the same place of the same text with the same active state and depth,
whatever the states below it. -/
def looksLike (first second : Cursor) : Bool :=
  first.passed == second.passed && first.rest == second.rest &&
    first.stack.active == second.stack.active && first.stack.depth == second.stack.depth

end Cursor

end RuleLexer
