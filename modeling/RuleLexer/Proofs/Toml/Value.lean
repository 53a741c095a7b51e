import RuleLexer.Proofs.Toml.Key
import RuleLexer.Toml.Reader

/-!
# Written values are read back

Strings and truth values are read back from their written forms, and an array from its items with a
comma after each, whatever gaps stand between them.
-/

namespace RuleLexer.Toml

open StringForm

variable {text rest : List Char} {depth fuel : Nat}

/-- The text begins with a character that no gap takes away. -/
def StartsSolid (text : List Char) : Prop :=
  ∃ first tail, text = first :: tail ∧ isBlank first = false ∧ first ≠ '\n' ∧ first ≠ '#'

theorem skipGaps?_of_startsSolid (solid : StartsSolid text) : skipGaps? false text = some text := by
  rcases solid with ⟨first, tail, rfl, noBlank, noLineEnd, noComment⟩
  simp [skipGaps?, noBlank, noLineEnd, noComment]

theorem StartsSolid.append (solid : StartsSolid text) (rest : List Char) :
    StartsSolid (text ++ rest) := by
  rcases solid with ⟨first, tail, rfl, solid⟩
  exact ⟨first, tail ++ rest, rfl, solid⟩

theorem head_writeValue (text : String) :
    ∃ tail, writeValue text = '"' :: tail ∨ writeValue text = '\'' :: tail := by
  have written := write_eq (forValue text.toList) text.toList []
  rw [List.append_nil] at written
  rw [writeValue]
  rcases forValue_cases text.toList with form_eq | form_eq | form_eq | form_eq <;>
    rw [form_eq] at written ⊢
  · exact ⟨_, Or.inl written⟩
  · exact ⟨_, Or.inr written⟩
  · exact ⟨_, Or.inl written⟩
  · exact ⟨_, Or.inr written⟩

theorem startsSolid_writeValue (text : String) : StartsSolid (writeValue text) := by
  rcases head_writeValue text with ⟨tail, written | written⟩
  · exact ⟨'"', tail, written, by decide⟩
  · exact ⟨'\'', tail, written, by decide⟩

theorem readValue?_writeValue (depth : Nat) (text : String) (noQuote : NoQuote rest) :
    readValue? depth (writeValue text ++ rest) = some (.string text, rest) := by
  have read := read?_writeValue text noQuote
  rcases head_writeValue text with ⟨tail, written | written⟩ <;>
    · rw [written, List.cons_append] at read ⊢
      simp only [readValue?, read, Option.map_some]

theorem readValue?_boolean (depth : Nat) (value : Bool) (rest : List Char) :
    readValue? depth ((toString value).toList ++ '\n' :: rest) =
      some (.boolean value, '\n' :: rest) := by
  cases value with
  | false =>
      have word : Word.read? ('f' :: 'a' :: 'l' :: 's' :: 'e' :: '\n' :: rest) =
        some (.boolean false, '\n' :: rest) := rfl
      change readValue? depth ('f' :: 'a' :: 'l' :: 's' :: 'e' :: '\n' :: rest) = _
      rw [← word, readValue?] <;> simp
  | true =>
      have word : Word.read? ('t' :: 'r' :: 'u' :: 'e' :: '\n' :: rest) =
        some (.boolean true, '\n' :: rest) := rfl
      change readValue? depth ('t' :: 'r' :: 'u' :: 'e' :: '\n' :: rest) = _
      rw [← word, readValue?] <;> simp

theorem noQuote_comma (rest : List Char) : NoQuote (',' :: rest) := by
  simp [NoQuote]

theorem noQuote_bracket (rest : List Char) : NoQuote (']' :: rest) := by
  simp [NoQuote]

theorem noQuote_lineEnd (rest : List Char) : NoQuote ('\n' :: rest) := by
  simp [NoQuote]

/-- A gap: nothing of it is left before a solid text. -/
def IsGap (gap : List Char) : Prop :=
  ∀ char ∈ gap, isBlank char = true ∨ char = '\n'

theorem skipGaps?_gap {gap : List Char} (isGap : IsGap gap) (solid : StartsSolid text) :
    skipGaps? false (gap ++ text) = some text := by
  induction gap with
  | nil => exact skipGaps?_of_startsSolid solid
  | cons char gap ih =>
      have later : IsGap gap := fun char mem => isGap char (List.mem_cons_of_mem _ mem)
      have first := isGap char List.mem_cons_self
      rw [List.cons_append, skipGaps?, if_pos (by simpa using first), ih later]

theorem startsSolid_bracket (rest : List Char) : StartsSolid (']' :: rest) :=
  ⟨']', rest, rfl, by decide⟩

theorem startsSolid_comma (rest : List Char) : StartsSolid (',' :: rest) :=
  ⟨',', rest, rfl, by decide⟩

theorem readItems?_close {readItem : ValueReader} {gap : List Char} (isGap : IsGap gap)
    (rest : List Char) :
    readItems? readItem (fuel + 1) (gap ++ ']' :: rest) = some ([], rest) := by
  simp [readItems?, skipGaps?_gap isGap (startsSolid_bracket rest)]

/-- An item of an array, and what the reader does after it. -/
theorem readItems?_string (depth fuel : Nat) {gap : List Char} (isGap : IsGap gap) (text : String)
    (noQuote : NoQuote rest) :
    readItems? (readValue? depth) (fuel + 1) (gap ++ (writeValue text ++ rest)) =
      (skipGaps? false rest).bind fun
        | ',' :: rest => (readItems? (readValue? depth) fuel rest).map fun (items, rest) =>
            (.string text :: items, rest)
        | ']' :: rest => some ([.string text], rest)
        | _ => none := by
  have gaps := skipGaps?_gap isGap ((startsSolid_writeValue text).append rest)
  have read := readValue?_writeValue depth text noQuote
  rcases head_writeValue text with ⟨tail, written | written⟩ <;>
    · rw [written, List.cons_append] at gaps read ⊢
      simp only [readItems?, gaps, Option.bind_eq_bind, Option.bind_some, read]
      rfl

theorem readItems?_comma (depth fuel : Nat) {gap : List Char} (isGap : IsGap gap) (text : String)
    (rest : List Char) :
    readItems? (readValue? depth) (fuel + 1) (gap ++ (writeValue text ++ ',' :: rest)) =
      (readItems? (readValue? depth) fuel rest).map fun (items, rest) =>
        (.string text :: items, rest) := by
  rw [readItems?_string depth fuel isGap text (noQuote_comma rest),
    skipGaps?_of_startsSolid (startsSolid_comma rest)]
  rfl

/-- A last item without a comma after it. -/
theorem readItems?_last (depth fuel : Nat) {gap : List Char} (isGap : IsGap gap) (text : String)
    (rest : List Char) :
    readItems? (readValue? depth) (fuel + 1) (gap ++ (writeValue text ++ ']' :: rest)) =
      some ([.string text], rest) := by
  rw [readItems?_string depth fuel isGap text (noQuote_bracket rest),
    skipGaps?_of_startsSolid (startsSolid_bracket rest)]
  rfl

end RuleLexer.Toml
