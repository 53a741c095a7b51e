import RuleLexer.Category
import RuleLexer.Text.Quoted

/-!
# Tokens

A token is a piece of a text with its category and its place, given by the byte offsets of its ends.
-/

namespace RuleLexer

/-- A range of byte offsets. -/
structure Span where
  start : Nat
  stop : Nat
  deriving DecidableEq, Repr

/-- A categorised piece of a text. -/
structure Token where
  category : Category
  text : String
  start : Nat
  stop : Nat
  deriving DecidableEq, Repr

namespace Token

/-- The place of the token. -/
def span (token : Token) : Span :=
  ⟨token.start, token.stop⟩

/-- The number of bytes. -/
def length (token : Token) : Nat :=
  token.stop - token.start

/-- Whether the token covers nothing. -/
def isEmpty (token : Token) : Bool :=
  token.start == token.stop

/-- The token on one line: its place, its category and its quoted text. -/
def display (token : Token) : String :=
  toString token.start ++ ".." ++ toString token.stop ++ " " ++ token.category.dottedName ++ " " ++
    Text.quoted token.text

/-- Whether a token continues another one: same category, and no gap between them. -/
def continues (token previous : Token) : Bool :=
  token.category == previous.category && previous.stop == token.start

/-- Two tokens as one, from the start of the first to the end of the second. -/
def append (first second : Token) : Token where
  category := first.category
  text := first.text ++ second.text
  start := first.start
  stop := second.stop

/-- Merges every token into the one before it that it continues; `last` is the token that further
ones may be merged into. -/
def coalesceAfter (last : Token) : List Token → List Token
  | [] => [last]
  | token :: rest =>
    if token.continues last then coalesceAfter (last.append token) rest
    else last :: coalesceAfter token rest

/-- Merges neighbouring tokens of the same category. -/
def coalesce : List Token → List Token
  | [] => []
  | token :: rest => coalesceAfter token rest

end Token

end RuleLexer
