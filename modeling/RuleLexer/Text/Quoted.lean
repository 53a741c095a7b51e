import RuleLexer.Unicode.Latest

/-!
# Quoted text

A quoted text shows any text on one line between double quotes. Quotes, backslashes and the common
control characters have escapes of two characters; every other character that would not be visible
on its own is shown by its code point.

A character that attaches to the one before it is not visible on its own unless it is a letter, as
the sound marks of half-width Katakana are. Fillers are letters, yet nothing is seen of them.
-/

namespace RuleLexer.Text

/-- Whether a character is visible on its own. -/
def isVisible (char : Char) : Bool :=
  Unicode.Latest.isPrintable char && !Unicode.isDefaultIgnorable char &&
    (Unicode.isLetter char || !Unicode.Latest.isGraphemeExtend char)

/-- The quoted form of a character. -/
def quoteChar (char : Char) : List Char :=
  match char with
  | '\x00' => ['\\', '0']
  | '\t' => ['\\', 't']
  | '\n' => ['\\', 'n']
  | '\r' => ['\\', 'r']
  | '"' => ['\\', '"']
  | '\\' => ['\\', '\\']
  | _ =>
    if isVisible char then [char]
    else ['\\', 'u', '\x7b'] ++ Nat.toDigits 16 char.toNat ++ ['\x7d']

/-- The quoted form of a text. -/
def quoted (text : String) : String :=
  String.ofList ('"' :: text.toList.flatMap quoteChar ++ ['"'])

end RuleLexer.Text
