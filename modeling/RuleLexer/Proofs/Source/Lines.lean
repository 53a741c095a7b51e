import RuleLexer.Proofs.Text.Lines
import RuleLexer.Proofs.Text.Slice
import RuleLexer.Source.File

/-!
# Lines and columns

The line and the column of an offset between two characters are those reached by walking over the
text before it, one character after the other: the line counts the line feeds there, and the column
the characters after the last one. A file does not walk: it looks for the last line start that is
not after the offset, by halving, and counts the characters from there. The starts up to the offset
come first in its list, and the text from the last of them to the offset has no line feed.
-/

namespace RuleLexer

namespace SourceFile

/-- The line and the column after a character. -/
def past (place : Nat × Nat) (char : Char) : Nat × Nat :=
  if char = '\n' then (place.1 + 1, 1) else (place.1, place.2 + 1)

/-- The line and the column after a text. -/
def walk (place : Nat × Nat) (text : List Char) : Nat × Nat :=
  text.foldl past place

/-- The first of two places comes before the other. -/
def Precedes (place place' : Nat × Nat) : Prop :=
  place.1 < place'.1 ∨ (place.1 = place'.1 ∧ place.2 < place'.2)

theorem Precedes.trans {first second third : Nat × Nat} (before : Precedes first second)
    (after : Precedes second third) : Precedes first third := by
  rw [Precedes] at *
  omega

theorem walk_append (place : Nat × Nat) (first second : List Char) :
    walk place (first ++ second) = walk (walk place first) second :=
  List.foldl_append

theorem precedes_past (place : Nat × Nat) (char : Char) : Precedes place (past place char) := by
  rw [past, Precedes]
  split
  · exact Or.inl (Nat.lt_succ_self _)
  · exact Or.inr ⟨rfl, Nat.lt_succ_self _⟩

theorem precedes_walk (place : Nat × Nat) {text : List Char} (nonempty : text ≠ []) :
    Precedes place (walk place text) := by
  induction text generalizing place with
  | nil => exact absurd rfl nonempty
  | cons char rest ih =>
      have first := precedes_past place char
      rcases rest with _ | ⟨next, rest⟩
      · exact first
      · exact first.trans (ih (past place char) (List.cons_ne_nil next rest))

/-- Walking over a text counts its line feeds and the characters after the last one. -/
theorem walk_eq (text : List Char) :
    walk (1, 1) text = (text.count '\n' + 1, (Text.lastLine text).length + 1) := by
  induction text using List.reverseRecOn with
  | nil => rfl
  | append_singleton text char ih =>
      rw [walk_append, ih, Text.lastLine_concat]
      by_cases newline : char = '\n' <;> simp [walk, past, newline]

end SourceFile

namespace LineStart

/-- The same line start in a text that goes on. -/
def extend (start : LineStart) (rest : List Char) : LineStart :=
  { start with text := start.text ++ rest }

theorem following_append (offset : Nat) (front rest : List Char) :
    following offset (front ++ rest) = (following offset front).map (·.extend rest) ++
      following (offset + Text.byteLength front) rest := by
  induction front generalizing offset with
  | nil => rfl
  | cons char front ih =>
      rw [List.cons_append, following, following, Text.byteLength_cons, ← Nat.add_assoc]
      split
      · rename_i newline
        subst newline
        rw [ih]
        rfl
      · exact ih _

theorem all_append (front rest : List Char) :
    all (front ++ rest) =
      (all front).map (·.extend rest) ++ following (Text.byteLength front) rest := by
  rw [all, following_append, Nat.zero_add]
  rfl

theorem lt_offset_of_mem_following {offset : Nat} {text : List Char} {start : LineStart}
    (mem : start ∈ following offset text) : offset < start.offset := by
  induction text generalizing offset with
  | nil => cases mem
  | cons char rest ih =>
      have size_pos := char.utf8Size_pos
      rw [following] at mem
      split at mem
      · rcases List.mem_cons.mp mem with rfl | later
        · exact Nat.lt_succ_self offset
        · exact Nat.lt_of_succ_lt (ih later)
      · exact Nat.lt_of_le_of_lt (Nat.le_add_right offset char.utf8Size) (ih mem)

theorem offset_le_of_mem_following {offset : Nat} {text : List Char} {start : LineStart}
    (mem : start ∈ following offset text) : start.offset ≤ offset + Text.byteLength text := by
  induction text generalizing offset with
  | nil => cases mem
  | cons char rest ih =>
      have size_pos := char.utf8Size_pos
      rw [following] at mem
      rw [Text.byteLength_cons]
      split at mem
      · rcases List.mem_cons.mp mem with rfl | later
        · show offset + 1 ≤ _
          omega
        · have := ih later
          omega
      · have := ih mem
        omega

theorem offset_le_of_mem_all {text : List Char} {start : LineStart} (mem : start ∈ all text) :
    start.offset ≤ Text.byteLength text := by
  rcases List.mem_cons.mp mem with rfl | later
  · exact Nat.zero_le _
  · simpa using offset_le_of_mem_following later

/-- The last line start of a text: it stands before the last line, after one for every line feed. -/
theorem exists_last_start (text : List Char) :
    ∃ earlier last, all text = earlier ++ [last] ∧ earlier.length = text.count '\n' ∧
      last.text = Text.lastLine text ∧
      last.offset + Text.byteLength (Text.lastLine text) = Text.byteLength text := by
  induction text using List.reverseRecOn with
  | nil => exact ⟨[], ⟨0, []⟩, rfl, rfl, rfl, rfl⟩
  | append_singleton front char ih =>
      rcases ih with ⟨earlier, last, all_eq, count_eq, text_eq, end_eq⟩
      rw [all_append, all_eq, Text.lastLine_concat]
      by_cases newline : char = '\n'
      · subst newline
        refine ⟨(earlier ++ [last]).map (·.extend ['\n']), ⟨Text.byteLength front + 1, []⟩,
          rfl, ?_, rfl, ?_⟩
        · simp [count_eq]
        · simp [Char.utf8Size]
      · refine ⟨earlier.map (·.extend [char]), last.extend [char], ?_, ?_, ?_, ?_⟩
        · simp [following, newline]
        · simp [count_eq, newline]
        · simp [extend, text_eq, newline]
        · simp only [extend, newline, if_false, Text.byteLength_append]
          omega

end LineStart

namespace SourceFile

variable {file : SourceFile}

/-- Halving finds where the line starts after the offset begin. -/
theorem countStarts_eq {offset low high : Nat} {firsts laters : List LineStart}
    (parts : file.lineStarts = (firsts ++ laters).toArray)
    (notAfter : ∀ start ∈ firsts, start.offset ≤ offset)
    (after : ∀ start ∈ laters, offset < start.offset) (low_le : low ≤ firsts.length)
    (le_high : firsts.length ≤ high) (inside : high ≤ file.lineStarts.size) :
    file.countStarts offset low high = firsts.length := by
  fun_induction countStarts file offset low high with
  | case1 low high nonempty middle start found notAfterOffset ih =>
      refine ih (Nat.lt_of_not_le ?_) le_high inside
      intro outside
      rw [parts, List.getElem?_toArray, List.getElem?_append_right (by omega)] at found
      have := after start (List.mem_of_getElem? found)
      omega
  | case2 low high nonempty middle start found afterOffset ih =>
      refine ih low_le (Nat.le_of_not_lt ?_) (by omega)
      intro outside
      rw [parts, List.getElem?_toArray, List.getElem?_append_left (by omega)] at found
      exact afterOffset (notAfter start (List.mem_of_getElem? found))
  | case3 low high nonempty middle missing ih =>
      rw [Array.getElem?_eq_none_iff] at missing
      omega
  | case4 low high empty => omega

/-- What the search finds for an offset behind a front of the text, before any line that starts in
the rest: the start of the line in which the front ends. -/
theorem exists_start {offset : Nat} {front rest : List Char} (parts : file.text = front ++ rest)
    (behind : Text.byteLength front ≤ offset)
    (before : ∀ start ∈ LineStart.following (Text.byteLength front) rest, offset < start.offset) :
    ∃ start, file.countStarts offset 0 file.lineCount = front.count '\n' + 1 ∧
      file.lineStarts[front.count '\n']? = some start ∧
      start.text = Text.lastLine front ++ rest ∧
      start.offset + Text.byteLength (Text.lastLine front) = Text.byteLength front := by
  rcases LineStart.exists_last_start front with ⟨earlier, last, all_eq, count_eq, text_eq, end_eq⟩
  have starts : file.lineStarts = ((earlier ++ [last]).map (·.extend rest) ++
      LineStart.following (Text.byteLength front) rest).toArray := by
    rw [file.lineStarts_eq, parts, LineStart.all_append, all_eq]
  have notAfter : ∀ start ∈ (earlier ++ [last]).map (·.extend rest), start.offset ≤ offset := by
    intro start mem
    rcases List.mem_map.mp mem with ⟨own, own_mem, rfl⟩
    rw [← all_eq] at own_mem
    have own_le := LineStart.offset_le_of_mem_all own_mem
    exact Nat.le_trans own_le behind
  have counted := countStarts_eq starts notAfter before (Nat.zero_le _) (by simp [starts])
    (Nat.le_refl file.lineStarts.size)
  refine ⟨last.extend rest, ?_, ?_, ?_, end_eq⟩
  · simpa [lineCount, count_eq] using counted
  · simp [starts, ← count_eq]
  · rw [LineStart.extend, text_eq]

/-- The line and the column of an offset between two characters. -/
theorem lineColumn_append {front rest : List Char} (parts : file.text = front ++ rest) :
    file.lineColumn (Text.byteLength front) = walk (1, 1) front := by
  rcases exists_start parts (Nat.le_refl _)
    (fun start mem => LineStart.lt_offset_of_mem_following mem) with
    ⟨start, count_eq, found, text_eq, start_eq⟩
  have clamped : min (Text.byteLength front) file.length = Text.byteLength front := by
    rw [file.length_eq, parts, Text.byteLength_append]
    exact Nat.min_eq_left (Nat.le_add_right _ _)
  have width : Text.byteLength front - start.offset = Text.byteLength (Text.lastLine front) := by
    omega
  simp only [lineColumn, clamped, count_eq, Nat.add_sub_cancel, Array.getD_eq_getD_getElem?, found,
    Option.getD_some, width, text_eq, Text.before?_append, walk_eq]

end SourceFile

end RuleLexer
