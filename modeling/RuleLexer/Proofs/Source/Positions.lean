import Mathlib.Data.Prod.Lex
import Mathlib.Order.Interval.Set.Basic
import RuleLexer.Proofs.Source.Lines

/-!
# Positions of all offsets

Every offset has a line and a column, also one inside a character or after the end. Between
characters they count the line feeds before the offset and the characters after the last of them,
and increase strictly with it. Inside a character the line is counted alike, but the column counts
bytes, so an offset there may come after a later one between characters, and after the end of its
line.
-/

namespace RuleLexer

namespace LineStart

/-- No line starts up to an offset at which the next character has not ended. -/
theorem lt_offset_of_next {offset target : Nat} {rest : List Char}
    (next : ∀ char ∈ rest.head?, target < offset + char.utf8Size) :
    ∀ start ∈ following offset rest, target < start.offset := by
  intro start mem
  rcases rest with _ | ⟨char, rest⟩
  · cases mem
  · have inside := next char rfl
    rw [following] at mem
    split at mem
    · rename_i newline
      subst newline
      rcases List.mem_cons.mp mem with rfl | later
      · exact inside
      · exact Nat.lt_trans inside (lt_offset_of_mem_following later)
    · exact Nat.lt_trans inside (lt_offset_of_mem_following mem)

end LineStart

namespace SourceFile

variable {file : SourceFile} {offset : Nat}

/-- The number of line starts that are not after an offset, as the search counts them; an offset
after the end counts as the end. -/
def startsUpTo (file : SourceFile) (offset : Nat) : Nat :=
  file.countStarts (min offset file.length) 0 file.lineCount

/-- The search leads to the start of the line in which the whole characters before the offset
end. -/
theorem exists_start_wholeBefore (file : SourceFile) (offset : Nat) :
    ∃ start rest, file.text = Text.wholeBefore offset file.text ++ rest ∧
      file.startsUpTo offset = (Text.wholeBefore offset file.text).count '\n' + 1 ∧
      file.lineStarts[(Text.wholeBefore offset file.text).count '\n']? = some start ∧
      start.text = Text.lastLine (Text.wholeBefore offset file.text) ++ rest ∧
      start.offset + Text.byteLength (Text.lastLine (Text.wholeBefore offset file.text)) =
        Text.byteLength (Text.wholeBefore offset file.text) := by
  rcases Text.wholeBefore_spec (min offset file.length) file.text with
    ⟨rest, text_eq, behind, next⟩
  rw [file.length_eq] at text_eq behind next
  rw [startsUpTo, file.length_eq]
  rcases exists_start text_eq behind (LineStart.lt_offset_of_next next) with
    ⟨start, count_eq, found, start_text, start_eq⟩
  simp only [Text.wholeBefore_min] at text_eq count_eq found start_text start_eq
  exact ⟨start, rest, text_eq, count_eq, found, start_text, start_eq⟩

theorem line_eq (file : SourceFile) (offset : Nat) :
    (file.lineColumn offset).1 = (Text.wholeBefore offset file.text).count '\n' + 1 := by
  rcases exists_start_wholeBefore file offset with ⟨start, rest, -, count_eq, -⟩
  rw [startsUpTo] at count_eq
  simp only [lineColumn, count_eq, Nat.add_sub_cancel]

theorem lineColumn_min (file : SourceFile) (offset : Nat) :
    file.lineColumn (min offset file.length) = file.lineColumn offset := by
  simp only [lineColumn, Nat.min_assoc, Nat.min_self]

/-- Between characters, the position is where walking over the text before the offset leads. -/
theorem lineColumn_of_not_isInside (between : ¬Text.IsInside offset file.text) :
    file.lineColumn offset = walk (1, 1) (Text.wholeBefore offset file.text) := by
  rcases Text.wholeBefore_spec offset file.text with ⟨rest, text_eq, -, -⟩
  rw [← lineColumn_min, file.length_eq, ← Text.byteLength_wholeBefore between]
  exact lineColumn_append text_eq

theorem strictMonoOn_lineColumn (file : SourceFile) :
    StrictMonoOn (fun offset => toLex (file.lineColumn offset))
      {offset | Text.IsBoundary offset file.text} := by
  rintro offset ⟨front, rest, parts, rfl⟩ later ⟨front', rest', parts', rfl⟩ before
  rcases Text.exists_append_of_byteLength_le (parts.symm.trans parts') (Nat.le_of_lt before) with
    ⟨part, rfl, -⟩
  have nonempty : part ≠ [] := by
    rintro rfl
    simp at before
  have forward := precedes_walk (walk (1, 1) front) nonempty
  rw [← walk_append] at forward
  simp only [lineColumn_append parts, lineColumn_append parts', Prod.Lex.toLex_lt_toLex]
  exact forward

/-- At an offset between characters, or after the end, which stands for the end, the line and the
column count the line feeds before it and the characters after the last of them. The search finds at
least one line start, and none after the offset. Positions of offsets between characters differ and
increase strictly. -/
theorem lineColumn_counts (file : SourceFile) :
    (∀ offset front rest, file.text = front ++ rest →
        offset = Text.byteLength front ∨ (rest = [] ∧ file.length ≤ offset) →
        file.lineColumn offset = (1 + front.count '\n', 1 + (Text.lastLine front).length)) ∧
      (∀ offset, 1 ≤ file.startsUpTo offset ∧
        (file.lineColumn offset).1 = file.startsUpTo offset ∧
        ∃ start, file.lineStarts[file.startsUpTo offset - 1]? = some start ∧
          start.offset ≤ min offset file.length) ∧
      StrictMonoOn (fun offset => toLex (file.lineColumn offset))
        {offset | Text.IsBoundary offset file.text} ∧
      Set.InjOn file.lineColumn {offset | Text.IsBoundary offset file.text} := by
  have ordered := strictMonoOn_lineColumn file
  refine ⟨?_, ?_, ordered, fun offset boundary later boundary' same => ?_⟩
  · intro offset front rest parts place
    have total : file.length = Text.byteLength front + Text.byteLength rest := by
      rw [file.length_eq, parts, Text.byteLength_append]
    have clamped : min offset file.length = Text.byteLength front := by
      rcases place with rfl | ⟨rfl, behind⟩
      · omega
      · rw [Text.byteLength_nil] at total
        omega
    rw [← lineColumn_min, clamped, lineColumn_append parts, walk_eq, Nat.add_comm 1,
      Nat.add_comm 1]
  · intro offset
    rcases exists_start_wholeBefore file offset with
      ⟨start, rest, text_eq, count_eq, found, -, start_eq⟩
    rcases Text.wholeBefore_spec offset file.text with ⟨-, -, behind, -⟩
    refine ⟨by omega, ?_, start, ?_, ?_⟩
    · rw [line_eq, count_eq]
    · rw [count_eq, Nat.add_sub_cancel, found]
    · have total := congrArg Text.byteLength text_eq
      rw [Text.byteLength_append] at total
      rw [file.length_eq]
      omega
  · exact ordered.injOn boundary boundary' (congrArg toLex same)

/-- A text with a line feed and a character of two bytes, at its second line, at its end and
after. -/
theorem lineColumn_counts_accent :
    let file := ofText ⟨0⟩ "q.spl" "é\né="
    file.lineColumn 3 = (2, 1) ∧ file.lineColumn 99 = (2, 3) ∧
      toLex (file.lineColumn 3) < toLex (file.lineColumn 5) := by
  have counts := lineColumn_counts (ofText ⟨0⟩ "q.spl" "é\né=")
  have second := counts.1 3 ['é', '\n'] ['é', '='] (by decide) (Or.inl (by decide))
  have beyond := counts.1 99 ['é', '\n', 'é', '='] [] (by decide) (Or.inr (by decide))
  have ordered := counts.2.2.1 ⟨['é', '\n'], ['é', '='], by decide, by decide⟩
    ⟨['é', '\n', 'é'], ['='], by decide, by decide⟩ (by decide : 3 < 5)
  exact ⟨second, beyond, ordered⟩

/-- The number of bytes from the start of its line to an offset. -/
def lineBytes (text : List Char) (offset : Nat) : Nat :=
  Text.byteLength (Text.lastLine (Text.wholeBefore offset text)) +
    (offset - Text.byteLength (Text.wholeBefore offset text))

/-- The number of whole characters from the start of its line to an offset. -/
def lineCharacters (text : List Char) (offset : Nat) : Nat :=
  (Text.lastLine (Text.wholeBefore offset text)).length

theorem column_of_not_isInside (between : ¬Text.IsInside offset file.text) :
    (file.lineColumn offset).2 = lineCharacters file.text offset + 1 := by
  rw [lineColumn_of_not_isInside between, walk_eq, lineCharacters]

/-- Inside a character, the column counts bytes. -/
theorem column_of_isInside (inside : Text.IsInside offset file.text) :
    (file.lineColumn offset).2 = lineBytes file.text offset + 1 := by
  rcases exists_start_wholeBefore file offset with
    ⟨start, later, text_eq, count_eq, found, start_text, start_eq⟩
  rcases inside with ⟨front, char, rest, parts, behind, ends⟩
  have whole : Text.wholeBefore offset file.text = front := by
    rw [parts]
    apply Text.wholeBefore_append (Nat.le_of_lt behind)
    intro next mem
    cases mem
    exact ends
  rw [whole] at text_eq count_eq found start_text start_eq
  rw [parts] at text_eq
  rw [← List.append_cancel_left text_eq] at start_text
  have clamped : min offset file.length = offset := by
    rw [file.length_eq, parts, Text.byteLength_append, Text.byteLength_cons]
    omega
  have width : offset - start.offset =
      Text.byteLength (Text.lastLine front) + (offset - Text.byteLength front) := by
    omega
  have uncut : Text.before? (offset - start.offset) start.text = none := by
    apply Text.IsInside.before?_eq_none
    refine ⟨Text.lastLine front, char, rest, start_text, ?_, ?_⟩ <;> omega
  rw [startsUpTo, clamped] at count_eq
  simp only [lineColumn, clamped, count_eq, Nat.add_sub_cancel, Array.getD_eq_getD_getElem?, found,
    Option.getD_some, uncut]
  rw [width, lineBytes, whole]

theorem lineCharacters_le_lineBytes (text : List Char) (offset : Nat) :
    lineCharacters text offset ≤ lineBytes text offset :=
  Nat.le_trans (Text.length_le_byteLength _) (Nat.le_add_right _ _)

theorem lineCharacters_lt_column (file : SourceFile) (offset : Nat) :
    lineCharacters file.text offset < (file.lineColumn offset).2 := by
  by_cases inside : Text.IsInside offset file.text
  · rw [column_of_isInside inside]
    exact Nat.lt_succ_of_le (lineCharacters_le_lineBytes file.text offset)
  · rw [column_of_not_isInside inside]
    exact Nat.lt_succ_self _

/-- A later offset is on a later line, or its line has more whole characters and more bytes before
it. -/
theorem later_line_or (text : List Char) {offset offset' : Nat} (le : offset ≤ offset') :
    (Text.wholeBefore offset text).count '\n' < (Text.wholeBefore offset' text).count '\n' ∨
      ((Text.wholeBefore offset text).count '\n' = (Text.wholeBefore offset' text).count '\n' ∧
        lineCharacters text offset ≤ lineCharacters text offset' ∧
        lineBytes text offset ≤ lineBytes text offset') := by
  rcases Text.exists_wholeBefore_append le text with ⟨part, part_eq⟩
  rcases Text.wholeBefore_spec offset' text with ⟨rest, -, behind, -⟩
  rw [lineCharacters, lineCharacters, lineBytes, lineBytes]
  rw [part_eq] at behind ⊢
  rw [Text.byteLength_append] at behind
  rw [List.count_append]
  by_cases single : '\n' ∈ part
  · left
    have := List.count_pos_iff.mpr single
    omega
  · right
    rw [Text.lastLine_append _ single, List.count_eq_zero.mpr single, List.length_append,
      Text.byteLength_append, Text.byteLength_append]
    omega

/-- The position of an offset comes after that of a later one: it lies inside a character, the later
one does not, and their line has fewer characters up to the later than bytes up to the earlier. -/
structure Overtakes (text : List Char) (offset later : Nat) : Prop where
  inside : Text.IsInside offset text
  between : ¬Text.IsInside later text
  sameLine : (Text.wholeBefore offset text).count '\n' = (Text.wholeBefore later text).count '\n'
  fewer : lineCharacters text later < lineBytes text offset

theorem lineColumn_le_iff {later : Nat} (le : offset ≤ later) :
    toLex (file.lineColumn offset) ≤ toLex (file.lineColumn later) ↔
      ¬Overtakes file.text offset later := by
  rw [Prod.Lex.toLex_le_toLex, line_eq, line_eq]
  rcases later_line_or file.text le with laterLine | ⟨sameLine, characters, bytes⟩
  · refine iff_of_true (Or.inl (by omega)) ?_
    intro overtakes
    have := overtakes.sameLine
    omega
  · by_cases inside : Text.IsInside offset file.text
    · rw [column_of_isInside inside]
      by_cases laterInside : Text.IsInside later file.text
      · rw [column_of_isInside laterInside]
        refine iff_of_true (Or.inr (by omega)) ?_
        intro overtakes
        exact overtakes.between laterInside
      · rw [column_of_not_isInside laterInside]
        have fewer_iff : Overtakes file.text offset later ↔
            lineCharacters file.text later < lineBytes file.text offset :=
          ⟨Overtakes.fewer, fun fewer => ⟨inside, laterInside, sameLine, fewer⟩⟩
        rw [fewer_iff]
        omega
    · have shown := lineCharacters_lt_column file later
      rw [column_of_not_isInside inside]
      exact iff_of_true (Or.inr (by omega)) (fun overtakes => inside overtakes.inside)

/-- The position of an offset is not after that of a later one unless it overtakes it. Its column is
not after the end of its line unless it lies inside a character and the line has fewer characters
than bytes up to the offset. -/
theorem lineColumn_le_iff_not_overtakes (file : SourceFile) :
    (∀ offset later, offset ≤ later →
        (toLex (file.lineColumn offset) ≤ toLex (file.lineColumn later) ↔
          ¬Overtakes file.text offset later)) ∧
      ∀ offset, ∃ line, (file.text.splitOn '\n')[(file.lineColumn offset).1 - 1]? = some line ∧
        ((file.lineColumn offset).2 ≤ 1 + line.length ↔
          ¬(Text.IsInside offset file.text ∧ line.length < lineBytes file.text offset)) := by
  refine ⟨fun offset later => lineColumn_le_iff, ?_⟩
  intro offset
  rcases Text.wholeBefore_spec offset file.text with ⟨rest, text_eq, -, -⟩
  refine ⟨Text.lastLine (Text.wholeBefore offset file.text) ++ rest.takeWhile (· ≠ '\n'), ?_, ?_⟩
  · rw [line_eq, Nat.add_sub_cancel, ← Text.splitOn_count, ← text_eq]
  · by_cases inside : Text.IsInside offset file.text
    · rw [column_of_isInside inside]
      simp only [inside, true_and]
      omega
    · rw [column_of_not_isInside inside, List.length_append, ← lineCharacters]
      refine iff_of_true (by omega) ?_
      rintro ⟨isInside, -⟩
      exact inside isInside

/-- The position inside the first character of a line is not after the one behind it. -/
theorem lineColumn_le_iff_not_overtakes_first :
    let file := ofText ⟨0⟩ "q.spl" "é="
    toLex (file.lineColumn 1) ≤ toLex (file.lineColumn 2) := by
  have ordered := (lineColumn_le_iff_not_overtakes (ofText ⟨0⟩ "q.spl" "é=")).1 1 2 (by decide)
  apply ordered.mpr
  intro overtakes
  have enough : ¬lineCharacters ['é', '='] 2 < lineBytes ['é', '='] 1 := by decide
  exact enough overtakes.fewer

/-- The position inside the second of two characters is after the end of their line, and so after
the position of the end of the text. -/
theorem column_overtakes_line_end :
    let file := ofText ⟨0⟩ "q.spl" "éé"
    file.lineColumn 3 = (1, 4) ∧ file.lineColumn 4 = (1, 3) ∧
      ¬toLex (file.lineColumn 3) ≤ toLex (file.lineColumn 4) ∧
      (file.text.splitOn '\n')[0]? = some ['é', 'é'] ∧
      ¬(file.lineColumn 3).2 ≤ 1 + ['é', 'é'].length := by
  decide +kernel

end SourceFile

end RuleLexer
