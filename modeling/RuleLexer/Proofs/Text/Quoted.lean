import RuleLexer.Proofs.Toml.StringForm
import RuleLexer.Text.Quoted

/-!
# Reading quoted text

A quoted text can be read again: reading takes one character after the other and remembers what it
is in the middle of. A quoted form has neither tabs nor line feeds, whatever the text has.
-/

namespace RuleLexer.Text

open Toml.StringForm (hexValue? charOf? charOf?_toNat)

/-- What the reader of a quoted text is in the middle of. -/
inductive QuoteState
  /-- Characters that stand for themselves. -/
  | text
  /-- A backslash. -/
  | escape
  /-- A backslash and the letter before a code point. -/
  | opening
  /-- The digits of a code point. -/
  | code (value : Nat)
  deriving DecidableEq, Repr

/-- The character that an escape of two characters stands for. -/
def escaped? : Char → Option Char
  | '0' => some '\x00'
  | 't' => some '\t'
  | 'n' => some '\n'
  | 'r' => some '\r'
  | '"' => some '"'
  | '\\' => some '\\'
  | _ => none

/-- Reads a quoted text from the given state on, up to the closing quote at its end. -/
def unquoteFrom : QuoteState → List Char → Option (List Char)
  | _, [] => none
  | .text, char :: rest =>
    if char = '"' then if rest = [] then some [] else none
    else if char = '\\' then unquoteFrom .escape rest
    else (unquoteFrom .text rest).map (char :: ·)
  | .escape, char :: rest =>
    if char = 'u' then unquoteFrom .opening rest
    else (escaped? char).bind fun meant => (unquoteFrom .text rest).map (meant :: ·)
  | .opening, char :: rest => if char = '\x7b' then unquoteFrom (.code 0) rest else none
  | .code value, char :: rest =>
    if char = '\x7d' then (charOf? value).bind fun meant => (unquoteFrom .text rest).map (meant :: ·)
    else (hexValue? char).bind fun digit => unquoteFrom (.code (16 * value + digit)) rest

/-- Reads a quoted text. -/
def unquote? : List Char → Option String
  | '"' :: rest => (unquoteFrom .text rest).map String.ofList
  | _ => none

theorem hexValue?_digitChar {value : Nat} (small : value < 16) :
    hexValue? (Nat.digitChar value) = some value := by
  have each : ∀ digit : Fin 16, hexValue? (Nat.digitChar digit) = some digit.val := by decide
  exact each ⟨value, small⟩

theorem digitChar_ne {value : Nat} (small : value < 16) :
    Nat.digitChar value ≠ '\x7d' ∧ Nat.digitChar value ≠ '\t' ∧ Nat.digitChar value ≠ '\n' := by
  have each : ∀ digit : Fin 16, Nat.digitChar digit ≠ '\x7d' ∧ Nat.digitChar digit ≠ '\t' ∧
      Nat.digitChar digit ≠ '\n' := by decide
  exact each ⟨value, small⟩

theorem unquoteFrom_digitChar {digit : Nat} (small : digit < 16) (value : Nat) (rest : List Char) :
    unquoteFrom (.code value) (Nat.digitChar digit :: rest) =
      unquoteFrom (.code (16 * value + digit)) rest := by
  rw [unquoteFrom, if_neg (digitChar_ne small).1, hexValue?_digitChar small, Option.bind_some]

theorem unquoteFrom_toDigits (value : Nat) (rest : List Char) :
    unquoteFrom (.code 0) (Nat.toDigits 16 value ++ rest) = unquoteFrom (.code value) rest := by
  induction value using Nat.strongRecOn generalizing rest with
  | ind value ih =>
      by_cases small : value < 16
      · rw [Nat.toDigits_of_lt_base small, List.singleton_append, unquoteFrom_digitChar small]
        simp
      · have digit : value % 16 < 16 := Nat.mod_lt value (by omega)
        have whole : 16 * (value / 16) + value % 16 = value := Nat.div_add_mod value 16
        rw [Nat.toDigits_of_base_le (by omega) (by omega), List.append_assoc,
          ih (value / 16) (by omega), List.singleton_append, unquoteFrom_digitChar digit, whole]

theorem mem_toDigits {value : Nat} {char : Char} (mem : char ∈ Nat.toDigits 16 value) :
    ∃ digit < 16, char = Nat.digitChar digit := by
  induction value using Nat.strongRecOn with
  | ind value ih =>
      by_cases small : value < 16
      · rw [Nat.toDigits_of_lt_base small, List.mem_singleton] at mem
        exact ⟨value, small, mem⟩
      · rw [Nat.toDigits_of_base_le (by omega) (by omega), List.mem_append,
          List.mem_singleton] at mem
        rcases mem with earlier | last
        · exact ih (value / 16) (by omega) earlier
        · exact ⟨value % 16, Nat.mod_lt value (by omega), last⟩

/-- How a character is quoted, as far as a reader has to know it. -/
inductive QuotedAs (char : Char) : List Char → Prop
  | itself (noQuote : char ≠ '"') (noBackslash : char ≠ '\\') (noTab : char ≠ '\t')
    (noLineFeed : char ≠ '\n') : QuotedAs char [char]
  | escape {letter : Char} (noCode : letter ≠ 'u') (means : escaped? letter = some char) :
    QuotedAs char ['\\', letter]
  | code : QuotedAs char (['\\', 'u', '\x7b'] ++ Nat.toDigits 16 char.toNat ++ ['\x7d'])

theorem quotedAs_quoteChar (char : Char) : QuotedAs char (quoteChar char) := by
  unfold quoteChar
  split
  · exact .escape (by decide) rfl
  · exact .escape (by decide) rfl
  · exact .escape (by decide) rfl
  · exact .escape (by decide) rfl
  · exact .escape (by decide) rfl
  · exact .escape (by decide) rfl
  · rename_i noTab noLineFeed _ noQuote noBackslash
    split
    · exact .itself noQuote noBackslash noTab noLineFeed
    · exact .code

theorem unquoteFrom_of_quotedAs {char : Char} {quoted : List Char} (quotedAs : QuotedAs char quoted)
    (rest : List Char) :
    unquoteFrom .text (quoted ++ rest) = (unquoteFrom .text rest).map (char :: ·) := by
  cases quotedAs with
  | itself noQuote noBackslash => simp [unquoteFrom, noQuote, noBackslash]
  | escape noCode means => simp [unquoteFrom, noCode, means]
  | code =>
      have opens (rest : List Char) : unquoteFrom .text ('\\' :: 'u' :: '\x7b' :: rest) =
          unquoteFrom (.code 0) rest := by
        simp [unquoteFrom]
      rw [List.append_assoc, List.append_assoc, List.cons_append, List.cons_append,
        List.singleton_append, opens, unquoteFrom_toDigits, List.singleton_append, unquoteFrom,
        if_pos rfl, charOf?_toNat, Option.bind_some]

theorem QuotedAs.ne {char other : Char} {quoted : List Char} (quotedAs : QuotedAs char quoted)
    (mem : other ∈ quoted) : other ≠ '\t' ∧ other ≠ '\n' := by
  cases quotedAs with
  | itself noQuote noBackslash noTab noLineFeed =>
      cases List.mem_singleton.mp mem
      exact ⟨noTab, noLineFeed⟩
  | @escape letter noCode means =>
      simp only [List.mem_cons, List.not_mem_nil, or_false] at mem
      rcases mem with rfl | rfl
      · decide
      · constructor
        · rintro rfl
          cases means
        · rintro rfl
          cases means
  | code =>
      simp only [List.cons_append, List.nil_append, List.mem_cons, List.mem_append,
        List.not_mem_nil, or_false] at mem
      rcases mem with rfl | rfl | rfl | digits | rfl
      · decide
      · decide
      · decide
      · rcases mem_toDigits digits with ⟨digit, small, rfl⟩
        exact (digitChar_ne small).2
      · decide

theorem unquoteFrom_flatMap (text : List Char) :
    unquoteFrom .text (text.flatMap quoteChar ++ ['"']) = some text := by
  induction text with
  | nil => simp [unquoteFrom]
  | cons char text ih =>
      rw [List.flatMap_cons, List.append_assoc,
        unquoteFrom_of_quotedAs (quotedAs_quoteChar char), ih]
      rfl

theorem toList_quoted (text : String) :
    (quoted text).toList = '"' :: (text.toList.flatMap quoteChar ++ ['"']) := by
  simp [quoted]

@[simp]
theorem unquote?_quoted (text : String) : unquote? (quoted text).toList = some text := by
  rw [toList_quoted, unquote?, unquoteFrom_flatMap]
  simp

/-- A quoted text is on one line and has no tabs. -/
theorem ne_of_mem_quoted {text : String} {char : Char} (mem : char ∈ (quoted text).toList) :
    char ≠ '\t' ∧ char ≠ '\n' := by
  rw [toList_quoted, List.mem_cons, List.mem_append, List.mem_singleton, List.mem_flatMap] at mem
  rcases mem with rfl | ⟨source, -, quotes⟩ | rfl
  · decide
  · exact (quotedAs_quoteChar source).ne quotes
  · decide

end RuleLexer.Text
