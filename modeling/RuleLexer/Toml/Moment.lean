/-!
# Dates and times

A moment is a date, a time of day, or a date with a time of day and possibly the distance to
universal time. Its parts are in range: a day belongs to its month, and a minute may have a leap
second. The usual form has a capital `T` between date and time, and no zeros at the end of a
fraction of a second.
-/

namespace RuleLexer.Toml

/-- Reads a number of exactly so many decimal digits. -/
def readDigits? (count : Nat) (text : List Char) : Option (Nat × List Char) :=
  let digits := text.take count
  if digits.length = count ∧ digits.all Char.isDigit then
    some (digits.foldl (fun value digit => 10 * value + (digit.toNat - '0'.toNat)) 0,
      text.drop count)
  else none

/-- A number with zeros before it up to a width. -/
def padded (width value : Nat) : String :=
  let digits := toString value
  String.ofList (List.replicate (width - digits.length) '0') ++ digits

/-- A day of the calendar. -/
structure Date where
  year : Nat
  month : Nat
  day : Nat
  deriving DecidableEq, Repr

namespace Date

def isLeapYear (year : Nat) : Bool :=
  year % 4 == 0 && (year % 100 != 0 || year % 400 == 0)

/-- The number of days of a month. -/
def daysOfMonth (year month : Nat) : Nat :=
  if month = 2 then if isLeapYear year then 29 else 28
  else if month = 4 ∨ month = 6 ∨ month = 9 ∨ month = 11 then 30
  else 31

def read? (text : List Char) : Option (Date × List Char) := do
  let (year, text) ← readDigits? 4 text
  let '-' :: text := text | none
  let (month, text) ← readDigits? 2 text
  let '-' :: text := text | none
  let (day, text) ← readDigits? 2 text
  if 1 ≤ month ∧ month ≤ 12 ∧ 1 ≤ day ∧ day ≤ daysOfMonth year month then
    some (⟨year, month, day⟩, text)
  else none

def describe (date : Date) : String :=
  padded 4 date.year ++ "-" ++ padded 2 date.month ++ "-" ++ padded 2 date.day

end Date

/-- A time of day. -/
structure DayTime where
  hour : Nat
  minute : Nat
  second : Nat
  nanosecond : Nat
  deriving DecidableEq, Repr

namespace DayTime

/-- Reads a fraction of a second; digits after the ninth do not count. -/
def readFraction? (text : List Char) : Option (Nat × List Char) :=
  match text with
  | '.' :: text =>
    let digits := text.takeWhile Char.isDigit
    if digits.isEmpty then none
    else
      let kept := (digits ++ List.replicate 9 '0').take 9
      (readDigits? 9 kept).map fun (value, _) => (value, text.dropWhile Char.isDigit)
  | _ => some (0, text)

def read? (text : List Char) : Option (DayTime × List Char) := do
  let (hour, text) ← readDigits? 2 text
  let ':' :: text := text | none
  let (minute, text) ← readDigits? 2 text
  let ':' :: text := text | none
  let (second, text) ← readDigits? 2 text
  let (nanosecond, text) ← readFraction? text
  if hour ≤ 23 ∧ minute ≤ 59 ∧ second ≤ 60 then some (⟨hour, minute, second, nanosecond⟩, text)
  else none

def describe (time : DayTime) : String :=
  let fraction := (padded 9 time.nanosecond).toList.reverse.dropWhile (· == '0')
  padded 2 time.hour ++ ":" ++ padded 2 time.minute ++ ":" ++ padded 2 time.second ++
    (if fraction.isEmpty then "" else "." ++ String.ofList fraction.reverse)

end DayTime

/-- The distance of a local time to universal time. -/
inductive UtcOffset
  /-- Universal time itself. -/
  | zero
  /-- So many minutes ahead. -/
  | minutes (ahead : Int)
  deriving DecidableEq, Repr

namespace UtcOffset

/-- Reads a distance that takes up the whole text. -/
def read? (text : List Char) : Option UtcOffset :=
  match text with
  | ['Z'] | ['z'] => some .zero
  | '+' :: text => (distance? text).map fun minutes => .minutes minutes
  | '-' :: text => (distance? text).map fun minutes => .minutes (-minutes)
  | _ => none
where
  /-- Hours and minutes, in minutes. -/
  distance? (text : List Char) : Option Nat := do
    let (hour, text) ← readDigits? 2 text
    let ':' :: text := text | none
    let (minute, text) ← readDigits? 2 text
    if hour ≤ 23 ∧ minute ≤ 59 ∧ text.isEmpty then some (60 * hour + minute) else none

def describe : UtcOffset → String
  | zero => "Z"
  | minutes ahead =>
    (if ahead < 0 then "-" else "+") ++ padded 2 (ahead.natAbs / 60) ++ ":" ++
      padded 2 (ahead.natAbs % 60)

end UtcOffset

/-- A date, a time of day, or both. -/
inductive Moment
  | date (day : Date)
  | time (clock : DayTime)
  | dateTime (day : Date) (clock : DayTime) (offset : Option UtcOffset)
  deriving DecidableEq, Repr

namespace Moment

/-- Reads the time of a date, which takes up the whole text. -/
def readTimeOf? (day : Date) (text : List Char) : Option Moment := do
  let (clock, rest) ← DayTime.read? text
  if rest.isEmpty then some (.dateTime day clock none)
  else (UtcOffset.read? rest).map fun offset => .dateTime day clock (some offset)

/-- Reads a moment that takes up the whole text and has no blank in it. -/
def read? (text : List Char) : Option Moment :=
  match Date.read? text with
  | some (day, []) => some (.date day)
  | some (day, 'T' :: rest) | some (day, 't' :: rest) => readTimeOf? day rest
  | some _ => none
  | none =>
    match DayTime.read? text with
    | some (clock, []) => some (.time clock)
    | _ => none

def describe : Moment → String
  | .date day => day.describe
  | .time clock => clock.describe
  | .dateTime day clock offset =>
    day.describe ++ "T" ++ clock.describe ++ (offset.map UtcOffset.describe).getD ""

end Moment

end RuleLexer.Toml
