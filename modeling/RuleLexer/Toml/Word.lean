import RuleLexer.Toml.Moment
import RuleLexer.Toml.StringForm
import RuleLexer.Toml.Value

/-!
# Words

Truth values, numbers and moments are words: runs of letters, digits and a few signs. A word is read
as a whole. Numbers may have single underscores between their digits; decimal ones do not begin with
a superfluous zero, and whole ones fit into 64 bits. A decimal number that is too large for a double
is refused if it is positive, and is minus infinity otherwise.
-/

namespace RuleLexer.Toml.Word

/-- Whether a character may stand in a word. -/
def isWordChar (char : Char) : Bool :=
  char.isAlphanum || char == '_' || char == '+' || char == '-' || char == '.' || char == ':'

/-- The digits of a number with underscores; each underscore stands between two digits. -/
def digits? (isDigit : Char → Bool) : List Char → Option (List Char)
  | [] => none
  | [char] => if isDigit char then some [char] else none
  | char :: '_' :: rest =>
    if isDigit char then (digits? isDigit rest).map (char :: ·) else none
  | char :: rest => if isDigit char then (digits? isDigit rest).map (char :: ·) else none

/-- The value of digits in a base. -/
def valueOf (base : Nat) (digits : List Char) : Nat :=
  digits.foldl (fun value digit => base * value + (StringForm.hexValue? digit).getD 0) 0

/-- The digits of a decimal number, of which the first is a zero only if it stands alone. -/
def decimalDigits? (word : List Char) : Option (List Char) :=
  match digits? Char.isDigit word with
  | some ('0' :: _ :: _) => none
  | digits => digits

/-- Whether a character is a digit of a base up to sixteen. -/
def isDigitOf (base : Nat) (char : Char) : Bool :=
  match StringForm.hexValue? char with
  | some value => decide (value < base)
  | none => false

/-- A sign, and the word after it. -/
def takeSign : List Char → Bool × List Char
  | '-' :: rest => (true, rest)
  | '+' :: rest => (false, rest)
  | word => (false, word)

/-- The magnitude of the least whole number of 64 bits. -/
def magnitudeBound : Nat := 0x8000000000000000

/-- The whole number with this sign and magnitude, if it has 64 bits. -/
def bounded? (negative : Bool) (magnitude : Nat) : Option Int :=
  if negative then if magnitude ≤ magnitudeBound then some (-magnitude) else none
  else if magnitude < magnitudeBound then some magnitude else none

/-- Reads a whole number. -/
def integer? (word : List Char) : Option Int :=
  match word with
  | '0' :: 'x' :: rest => based 16 rest
  | '0' :: 'o' :: rest => based 8 rest
  | '0' :: 'b' :: rest => based 2 rest
  | _ =>
    let (negative, magnitude) := takeSign word
    (decimalDigits? magnitude).bind fun digits => bounded? negative (valueOf 10 digits)
where
  based (base : Nat) (word : List Char) : Option Int :=
    (digits? (isDigitOf base) word).bind fun digits => bounded? false (valueOf base digits)

/-- Whether a character is a part of a group of digits. -/
def isGroupChar (char : Char) : Bool :=
  char.isDigit || char == '_'

/-- Reads the exponent of a number, which takes up the whole word. -/
def exponent? (word : List Char) : Option Int :=
  let (negative, magnitude) := takeSign word
  (digits? Char.isDigit magnitude).map fun digits =>
    let value : Int := valueOf 10 digits
    if negative then -value else value

/-- Reads what follows the whole part of a decimal number: the digits of its fraction, and its
exponent. At least one of the two is there. -/
def fraction? (word : List Char) : Option (List Char × Int) :=
  match word with
  | '.' :: rest => do
    let digits ← digits? Char.isDigit (rest.takeWhile isGroupChar)
    match rest.dropWhile isGroupChar with
    | [] => some (digits, 0)
    | 'e' :: rest | 'E' :: rest => (exponent? rest).map fun exponent => (digits, exponent)
    | _ => none
  | 'e' :: rest | 'E' :: rest => (exponent? rest).map fun exponent => ([], exponent)
  | _ => none

/-- Reads a number with a fraction or an exponent, or one that is not finite. -/
def float? (word : List Char) : Option Double :=
  let (negative, magnitude) := takeSign word
  match magnitude with
  | ['i', 'n', 'f'] => some (.infinite negative)
  | ['n', 'a', 'n'] => some .notANumber
  | _ => do
    let whole ← decimalDigits? (magnitude.takeWhile isGroupChar)
    let (fraction, exponent) ← fraction? (magnitude.dropWhile isGroupChar)
    let value := Double.ofDecimal negative (valueOf 10 (whole ++ fraction))
      (exponent - fraction.length)
    if value = .infinite false then none else some value

/-- The value that a word stands for. -/
def value? (word : List Char) : Option Value :=
  match word with
  | ['t', 'r', 'u', 'e'] => some (.boolean true)
  | ['f', 'a', 'l', 's', 'e'] => some (.boolean false)
  | _ =>
    match Moment.read? word with
    | some moment => some (.moment moment.describe)
    | none =>
      match float? word with
      | some number => some (.float number)
      | none => (integer? word).map .integer

/-- Reads a word; a date may be followed by a blank and a time. -/
def read? (text : List Char) : Option (Value × List Char) :=
  let word := text.takeWhile isWordChar
  let rest := text.dropWhile isWordChar
  match withTime? word rest with
  | some result => some result
  | none => (value? word).map fun value => (value, rest)
where
  withTime? (word rest : List Char) : Option (Value × List Char) :=
    match Date.read? word, rest with
    | some (date, []), ' ' :: more =>
      (Moment.readTimeOf? date (more.takeWhile isWordChar)).map fun moment =>
        (.moment moment.describe, more.dropWhile isWordChar)
    | _, _ => none

end RuleLexer.Toml.Word
