import Mathlib.Data.List.DropRight

/-!
# Lines of a text

The last line of a text is what follows its last line feed. Where a text is cut in two, the cut lies
in the line that is the last one of the front together with the rest up to its first line feed.
-/

namespace RuleLexer.Text

/-- The characters after the last line feed, or all of them if there is none. -/
def lastLine (text : List Char) : List Char :=
  text.rtakeWhile (· ≠ '\n')

theorem lastLine_concat (text : List Char) (char : Char) :
    lastLine (text ++ [char]) = if char = '\n' then [] else lastLine text ++ [char] := by
  by_cases newline : char = '\n' <;> simp [lastLine, newline]

theorem lastLine_append {part : List Char} (text : List Char) (single : '\n' ∉ part) :
    lastLine (text ++ part) = lastLine text ++ part := by
  induction part using List.reverseRecOn with
  | nil => simp
  | append_singleton part char ih =>
      rw [List.mem_append, List.mem_singleton, not_or] at single
      rw [← List.append_assoc, lastLine_concat, if_neg (Ne.symm single.2), ih single.1,
        List.append_assoc]

theorem not_mem_lastLine (text : List Char) : '\n' ∉ lastLine text := by
  intro mem
  have apart := List.mem_rtakeWhile_imp mem
  simp at apart

/-- A text is a single line, or its last line stands after a line feed. -/
theorem eq_lastLine_or (text : List Char) :
    ('\n' ∉ text ∧ text = lastLine text) ∨ ∃ earlier, text = earlier ++ '\n' :: lastLine text := by
  induction text using List.reverseRecOn with
  | nil => exact Or.inl ⟨List.not_mem_nil, rfl⟩
  | append_singleton text char ih =>
      rw [lastLine_concat]
      split
      · rename_i newline
        subst newline
        exact Or.inr ⟨text, rfl⟩
      · rename_i other
        rcases ih with ⟨single, text_eq⟩ | ⟨earlier, text_eq⟩
        · left
          rw [← text_eq, List.mem_append, List.mem_singleton]
          refine ⟨?_, rfl⟩
          rintro (mem | newline)
          · exact single mem
          · exact other newline.symm
        · right
          refine ⟨earlier, ?_⟩
          rw [← List.cons_append, ← List.append_assoc, ← text_eq]

theorem length_splitOn (text : List Char) :
    (text.splitOn '\n').length = text.count '\n' + 1 := by
  induction text with
  | nil => rfl
  | cons char text ih =>
      rw [List.splitOn_cons_eq_if_modifyHead, List.count_cons]
      split <;> simp [ih]

theorem takeWhile_of_not_mem {line : List Char} (single : '\n' ∉ line) (rest : List Char) :
    (line ++ rest).takeWhile (· ≠ '\n') = line ++ rest.takeWhile (· ≠ '\n') := by
  apply List.takeWhile_append_of_pos
  intro char mem
  rw [decide_eq_true_eq]
  rintro rfl
  exact single mem

theorem splitOn_zero (text : List Char) :
    (text.splitOn '\n')[0]? = some (text.takeWhile (· ≠ '\n')) := by
  by_cases mem : '\n' ∈ text
  · rcases List.eq_append_cons_of_mem mem with ⟨line, rest, rfl, single⟩
    rw [List.splitOn_append_cons_self_of_not_mem single, takeWhile_of_not_mem single]
    simp
  · have whole := takeWhile_of_not_mem mem []
    rw [List.append_nil, List.takeWhile_nil, List.append_nil] at whole
    rw [List.splitOn_eq_singleton mem, whole]
    rfl

/-- The line in which a text is cut in two. -/
theorem splitOn_count (front rest : List Char) :
    ((front ++ rest).splitOn '\n')[front.count '\n']? =
      some (lastLine front ++ rest.takeWhile (· ≠ '\n')) := by
  rw [← takeWhile_of_not_mem (not_mem_lastLine front), ← splitOn_zero]
  rcases eq_lastLine_or front with ⟨single, front_eq⟩ | ⟨earlier, front_eq⟩
  · rw [List.count_eq_zero.mpr single, ← front_eq]
  · have single := not_mem_lastLine front
    generalize lastLine front = line at front_eq single
    subst front_eq
    rw [List.append_assoc, List.cons_append, List.splitOn_append_cons_self, List.count_append,
      List.count_cons_self, List.count_eq_zero.mpr single, ← length_splitOn earlier,
      List.getElem?_append_right (Nat.le_refl _), Nat.sub_self]

end RuleLexer.Text
