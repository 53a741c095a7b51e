/-!
# Offsets in bytes

Positions in a text are byte offsets of its UTF-8 form. A text is cut at an offset only if the
offset falls between two characters.
-/

namespace RuleLexer.Text

/-- The number of bytes of a text. -/
def byteLength : List Char → Nat
  | [] => 0
  | char :: rest => char.utf8Size + byteLength rest

@[simp]
theorem byteLength_nil : byteLength [] = 0 := rfl

@[simp]
theorem byteLength_cons (char : Char) (rest : List Char) :
    byteLength (char :: rest) = char.utf8Size + byteLength rest := rfl

@[simp]
theorem byteLength_append (first second : List Char) :
    byteLength (first ++ second) = byteLength first + byteLength second := by
  induction first with
  | nil => simp
  | cons char rest ih => simp [ih, Nat.add_assoc]

@[simp]
theorem byteLength_reverse (text : List Char) : byteLength text.reverse = byteLength text := by
  induction text with
  | nil => rfl
  | cons char rest ih => simp [ih, Nat.add_comm]

/-- The part of a text after a byte offset; `none` if the offset lies inside a character or beyond
the end. -/
def after? : Nat → List Char → Option (List Char)
  | 0, text => some text
  | _ + 1, [] => none
  | offset + 1, char :: rest =>
    if char.utf8Size ≤ offset + 1 then after? (offset + 1 - char.utf8Size) rest else none

/-- The part of a text before a byte offset; `none` if the offset lies inside a character or beyond
the end. -/
def before? : Nat → List Char → Option (List Char)
  | 0, _ => some []
  | _ + 1, [] => none
  | offset + 1, char :: rest =>
    if char.utf8Size ≤ offset + 1 then
      (before? (offset + 1 - char.utf8Size) rest).map (char :: ·)
    else none

/-- The part of a text between two byte offsets. -/
def slice? (start stop : Nat) (text : List Char) : Option (List Char) :=
  if start ≤ stop then (after? start text).bind (before? (stop - start)) else none

end RuleLexer.Text
