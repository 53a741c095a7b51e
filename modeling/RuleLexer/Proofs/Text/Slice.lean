import RuleLexer.Text.Utf8

/-!
# Cutting texts at byte offsets

Cutting a text at a byte offset succeeds exactly when the text is a front of that many bytes
followed by a rest, and then gives these two parts. Since every character has at least one byte, the
parts are determined by the offset. An offset at which a text cannot be cut lies inside a character
or beyond the end; the whole characters before it make up a front of the text all the same.
-/

namespace RuleLexer.Text

theorem byteLength_pos {text : List Char} (nonempty : text ≠ []) : 0 < byteLength text := by
  cases text with
  | nil => exact absurd rfl nonempty
  | cons char rest =>
      have := char.utf8Size_pos
      simp only [byteLength_cons]
      omega

theorem byteLength_eq_zero_iff {text : List Char} : byteLength text = 0 ↔ text = [] := by
  cases text with
  | nil => simp
  | cons char rest =>
      have := byteLength_pos (List.cons_ne_nil char rest)
      simp only [reduceCtorEq, iff_false]
      omega

theorem length_le_byteLength (text : List Char) : text.length ≤ byteLength text := by
  induction text with
  | nil => exact Nat.le_refl 0
  | cons char rest ih =>
      have := char.utf8Size_pos
      rw [List.length_cons, byteLength_cons]
      omega

/-- Offsets count the bytes of the UTF-8 form. -/
theorem byteLength_toList (text : String) : byteLength text.toList = text.utf8ByteSize := by
  obtain ⟨chars, rfl⟩ : ∃ chars, text = String.ofList chars := ⟨text.toList, by simp⟩
  rw [String.toList_ofList]
  induction chars with
  | nil => rfl
  | cons char rest ih =>
      rw [byteLength_cons, ih, ← List.singleton_append, String.ofList_append,
        String.utf8ByteSize_append]
      simp

theorem after?_succ_cons (offset : Nat) (char : Char) (rest : List Char) :
    after? (char.utf8Size + offset) (char :: rest) = after? offset rest := by
  obtain ⟨size, size_eq⟩ : ∃ size, char.utf8Size = size + 1 :=
    Nat.exists_eq_succ_of_ne_zero (Nat.ne_of_gt char.utf8Size_pos)
  rw [size_eq, Nat.add_right_comm, after?, size_eq, if_pos (by omega)]
  congr 1
  omega

theorem before?_succ_cons (offset : Nat) (char : Char) (rest : List Char) :
    before? (char.utf8Size + offset) (char :: rest) = (before? offset rest).map (char :: ·) := by
  obtain ⟨size, size_eq⟩ : ∃ size, char.utf8Size = size + 1 :=
    Nat.exists_eq_succ_of_ne_zero (Nat.ne_of_gt char.utf8Size_pos)
  rw [size_eq, Nat.add_right_comm, before?, size_eq, if_pos (by omega)]
  congr 2
  omega

@[simp]
theorem after?_append (front rest : List Char) :
    after? (byteLength front) (front ++ rest) = some rest := by
  induction front with
  | nil => simp [after?]
  | cons char front ih => rw [List.cons_append, byteLength_cons, after?_succ_cons, ih]

@[simp]
theorem before?_append (front rest : List Char) :
    before? (byteLength front) (front ++ rest) = some front := by
  induction front with
  | nil => simp [before?]
  | cons char front ih =>
      rw [List.cons_append, byteLength_cons, before?_succ_cons, ih]
      rfl

/-- A part of a text is cut out between the offsets of its ends. -/
theorem slice?_append (front part rest : List Char) :
    slice? (byteLength front) (byteLength front + byteLength part) (front ++ (part ++ rest)) =
      some part := by
  simp [slice?]

theorem exists_front_of_after? {offset : Nat} {text rest : List Char}
    (cut : after? offset text = some rest) :
    ∃ front, text = front ++ rest ∧ offset = byteLength front := by
  fun_induction after? offset text with
  | case1 text =>
      cases cut
      exact ⟨[], rfl, rfl⟩
  | case2 offset => cases cut
  | case3 offset char text fits ih =>
      rcases ih cut with ⟨front, rfl, bytes⟩
      refine ⟨char :: front, rfl, ?_⟩
      rw [byteLength_cons]
      omega
  | case4 offset char text inside => cases cut

theorem exists_rest_of_before? {offset : Nat} {text front : List Char}
    (cut : before? offset text = some front) :
    ∃ rest, text = front ++ rest ∧ offset = byteLength front := by
  fun_induction before? offset text generalizing front with
  | case1 text =>
      cases cut
      exact ⟨text, rfl, rfl⟩
  | case2 offset => cases cut
  | case3 offset char text fits ih =>
      rcases Option.map_eq_some_iff.mp cut with ⟨later, laterCut, rfl⟩
      rcases ih laterCut with ⟨rest, rfl, bytes⟩
      refine ⟨rest, rfl, ?_⟩
      rw [byteLength_cons]
      omega
  | case4 offset char text inside => cases cut

/-- The text between two offsets is the part of the text that begins and ends there. -/
theorem slice?_eq_some_iff {start stop : Nat} {text part : List Char} :
    slice? start stop text = some part ↔ ∃ front rest, text = front ++ (part ++ rest) ∧
      start = byteLength front ∧ stop = byteLength front + byteLength part := by
  constructor
  · intro cut
    rw [slice?] at cut
    split at cut
    · rcases Option.bind_eq_some_iff.mp cut with ⟨later, afterStart, beforeStop⟩
      rcases exists_front_of_after? afterStart with ⟨front, rfl, start_eq⟩
      rcases exists_rest_of_before? beforeStop with ⟨rest, rfl, width⟩
      refine ⟨front, rest, rfl, start_eq, ?_⟩
      omega
    · cases cut
  · rintro ⟨front, rest, rfl, rfl, rfl⟩
    exact slice?_append front part rest

/-- A text is cut at an offset in only one way. -/
theorem append_inj_of_byteLength {front rest front' rest' : List Char}
    (same : front ++ rest = front' ++ rest') (bytes : byteLength front = byteLength front') :
    front = front' ∧ rest = rest' := by
  have cut := before?_append front rest
  rw [same, bytes, before?_append] at cut
  have fronts : front = front' := by simpa using cut.symm
  subst fronts
  exact ⟨rfl, List.append_cancel_left same⟩

/-- Of two fronts of a text, the one with fewer bytes is a front of the other. -/
theorem exists_append_of_byteLength_le {front rest front' rest' : List Char}
    (same : front ++ rest = front' ++ rest') (le : byteLength front ≤ byteLength front') :
    ∃ part, front' = front ++ part ∧ rest = part ++ rest' := by
  rcases List.append_eq_append_iff.mp same with ⟨part, front'_eq, rest_eq⟩ | ⟨part, front_eq, rest'_eq⟩
  · exact ⟨part, front'_eq, rest_eq⟩
  · have nothing : part = [] := by
      apply byteLength_eq_zero_iff.mp
      rw [front_eq, byteLength_append] at le
      omega
    subst nothing
    simp only [List.append_nil, List.nil_append] at front_eq rest'_eq
    exact ⟨[], by simp [front_eq], by simp [rest'_eq]⟩

theorem slice?_slice {start middle stop : Nat} {text first second : List Char}
    (cutFirst : slice? start middle text = some first)
    (cutSecond : slice? middle stop text = some second) :
    slice? start stop text = some (first ++ second) := by
  rcases slice?_eq_some_iff.mp cutFirst with ⟨front, rest, text_eq, start_eq, middle_eq⟩
  rcases slice?_eq_some_iff.mp cutSecond with ⟨front', rest', text_eq', middle_eq', stop_eq⟩
  have bytes : byteLength (front ++ first) = byteLength front' := by
    rw [byteLength_append, ← middle_eq, middle_eq']
  have same : (front ++ first) ++ rest = front' ++ (second ++ rest') := by
    rw [List.append_assoc, ← text_eq, text_eq']
  rcases append_inj_of_byteLength same bytes with ⟨rfl, rest_eq⟩
  refine slice?_eq_some_iff.mpr ⟨front, rest', ?_, start_eq, ?_⟩
  · rw [text_eq, rest_eq, List.append_assoc]
  · rw [stop_eq, byteLength_append, byteLength_append, Nat.add_assoc]

/-- The offset after a front of a text lies between two characters of its UTF-8 form. -/
theorem isValid_of_append {text : String} {front rest : List Char}
    (parts : text.toList = front ++ rest) :
    String.Pos.Raw.IsValid text ⟨byteLength front⟩ := by
  rw [String.Pos.Raw.isValid_iff_exists_append]
  refine ⟨String.ofList front, String.ofList rest, ?_, ?_⟩
  · rw [← String.ofList_append, ← parts, String.ofList_toList]
  · rw [String.Pos.Raw.ext_iff, String.byteIdx_rawEndPos, ← byteLength_toList,
      String.toList_ofList]

/-- The offset lies inside a character of the text. -/
def IsInside (offset : Nat) (text : List Char) : Prop :=
  ∃ front char rest, text = front ++ char :: rest ∧ byteLength front < offset ∧
    offset < byteLength front + char.utf8Size

/-- The offset lies between two characters of the text, or at one of its ends. -/
def IsBoundary (offset : Nat) (text : List Char) : Prop :=
  ∃ front rest, text = front ++ rest ∧ offset = byteLength front

theorem isBoundary_iff_isValid {offset : Nat} {text : String} :
    IsBoundary offset text.toList ↔ String.Pos.Raw.IsValid text ⟨offset⟩ := by
  constructor
  · rintro ⟨front, rest, parts, rfl⟩
    exact isValid_of_append parts
  · intro valid
    rcases String.Pos.Raw.isValid_iff_exists_append.mp valid with ⟨front, rest, rfl, here⟩
    refine ⟨front.toList, rest.toList, String.toList_append, ?_⟩
    simpa [byteLength_toList, String.Pos.Raw.ext_iff] using here

/-- Between two offsets at which a text can be cut stands a part of it. -/
theorem exists_slice?_of_isBoundary {start stop : Nat} {text : List Char} (forward : start ≤ stop)
    (isStart : IsBoundary start text) (isStop : IsBoundary stop text) :
    ∃ part, slice? start stop text = some part := by
  rcases isStart with ⟨front, rest, parts, rfl⟩
  rcases isStop with ⟨front', rest', parts', rfl⟩
  rcases exists_append_of_byteLength_le (parts.symm.trans parts') forward with
    ⟨part, rfl, rest_eq⟩
  refine ⟨part, slice?_eq_some_iff.mpr ⟨front, rest', ?_, rfl, ?_⟩⟩
  · rw [parts, rest_eq]
  · rw [byteLength_append]

theorem IsBoundary.not_isInside {offset : Nat} {text : List Char}
    (boundary : IsBoundary offset text) : ¬IsInside offset text := by
  rcases boundary with ⟨front, rest, rfl, rfl⟩
  rintro ⟨earlier, char, later, parts, behind, inside⟩
  rcases exists_append_of_byteLength_le parts.symm (Nat.le_of_lt behind) with ⟨part, rfl, part_eq⟩
  rw [byteLength_append] at behind inside
  rcases part with _ | ⟨first, part⟩
  · rw [byteLength_nil] at behind
    omega
  · rw [List.cons_append, List.cons.injEq] at part_eq
    rw [byteLength_cons, ← part_eq.1] at inside
    omega

theorem IsInside.before?_eq_none {offset : Nat} {text : List Char} (inside : IsInside offset text) :
    before? offset text = none := by
  rcases cut : before? offset text with _ | front
  · rfl
  · rcases exists_rest_of_before? cut with ⟨rest, text_eq, bytes⟩
    have boundary : IsBoundary offset text := ⟨front, rest, text_eq, bytes⟩
    exact absurd inside boundary.not_isInside

/-- The characters of a text that end at an offset or before it. -/
def wholeBefore : Nat → List Char → List Char
  | _, [] => []
  | offset, char :: rest =>
    if char.utf8Size ≤ offset then char :: wholeBefore (offset - char.utf8Size) rest else []

/-- The characters that end at an offset or before it are a front of the text whose next character,
if there is one, ends after the offset. -/
theorem wholeBefore_spec (offset : Nat) (text : List Char) :
    ∃ rest, text = wholeBefore offset text ++ rest ∧
      byteLength (wholeBefore offset text) ≤ offset ∧
      ∀ char ∈ rest.head?, offset < byteLength (wholeBefore offset text) + char.utf8Size := by
  induction text generalizing offset with
  | nil => exact ⟨[], rfl, Nat.zero_le _, by simp⟩
  | cons char text ih =>
      rw [wholeBefore]
      split
      · rcases ih (offset - char.utf8Size) with ⟨rest, text_eq, behind, next⟩
        refine ⟨rest, by rw [List.cons_append, ← text_eq], ?_, ?_⟩
        · rw [byteLength_cons]
          omega
        · intro after mem
          have := next after mem
          rw [byteLength_cons]
          omega
      · refine ⟨char :: text, rfl, Nat.zero_le _, ?_⟩
        intro after mem
        cases mem
        rw [byteLength_nil]
        omega

/-- A front of the text whose next character ends after the offset has all characters that end
before. -/
theorem wholeBefore_append {offset : Nat} {front rest : List Char}
    (behind : byteLength front ≤ offset)
    (next : ∀ char ∈ rest.head?, offset < byteLength front + char.utf8Size) :
    wholeBefore offset (front ++ rest) = front := by
  induction front generalizing offset with
  | nil =>
      rcases rest with _ | ⟨char, rest⟩
      · rfl
      · have inside := next char rfl
        rw [byteLength_nil, Nat.zero_add] at inside
        rw [List.nil_append, wholeBefore, if_neg (by omega)]
  | cons char front ih =>
      rw [byteLength_cons] at behind next
      rw [List.cons_append, wholeBefore, if_pos (by omega), ih (by omega)]
      intro after mem
      have := next after mem
      omega

/-- The end of the text stands for every offset behind it. -/
theorem wholeBefore_min (offset : Nat) (text : List Char) :
    wholeBefore (min offset (byteLength text)) text = wholeBefore offset text := by
  rcases wholeBefore_spec offset text with ⟨rest, text_eq, behind, next⟩
  have total := congrArg byteLength text_eq
  rw [byteLength_append] at total
  generalize wholeBefore offset text = front at text_eq behind next total
  subst text_eq
  apply wholeBefore_append (by omega)
  intro char mem
  have := next char mem
  omega

theorem exists_wholeBefore_append {offset offset' : Nat} (le : offset ≤ offset')
    (text : List Char) :
    ∃ part, wholeBefore offset' text = wholeBefore offset text ++ part := by
  induction text generalizing offset offset' with
  | nil => exact ⟨[], rfl⟩
  | cons char text ih =>
      rw [wholeBefore, wholeBefore]
      by_cases fits : char.utf8Size ≤ offset
      · rcases ih (Nat.sub_le_sub_right le char.utf8Size) with ⟨part, part_eq⟩
        rw [if_pos fits, if_pos (by omega), part_eq]
        exact ⟨part, rfl⟩
      · rw [if_neg fits]
        exact ⟨_, rfl⟩

/-- An offset inside no character is the end of the whole characters before it, unless it lies
behind the text. -/
theorem byteLength_wholeBefore {offset : Nat} {text : List Char} (between : ¬IsInside offset text) :
    byteLength (wholeBefore offset text) = min offset (byteLength text) := by
  rcases wholeBefore_spec offset text with ⟨rest, text_eq, behind, next⟩
  rcases rest with _ | ⟨char, rest⟩
  · rw [List.append_nil] at text_eq
    rw [← text_eq] at behind ⊢
    omega
  · have ends : offset ≤ byteLength (wholeBefore offset text) := by
      apply Nat.le_of_not_lt
      intro inside
      exact between ⟨_, char, rest, text_eq, inside, next char rfl⟩
    have total := congrArg byteLength text_eq
    rw [byteLength_append] at total
    omega

end RuleLexer.Text
