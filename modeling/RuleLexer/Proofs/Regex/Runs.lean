import RuleLexer.Proofs.Regex.Words

/-!
# Runs of characters

A greedy repetition of the characters of a set stops first at the end of their longest run and then
at every place before it, down to the place after the first character. If what has to follow the run
cannot be one of its characters, only the first of these places is left.
-/

namespace RuleLexer.Regex

/-- The number of characters of a set at the start of a text. -/
def CharClass.runLength (chars : CharClass) (text : List Char) : Nat :=
  (text.takeWhile chars.contains).length

theorem CharClass.take_runLength (chars : CharClass) (text : List Char) :
    text.take (chars.runLength text) = text.takeWhile chars.contains :=
  (List.prefix_iff_eq_take.mp (List.takeWhile_prefix _)).symm

/-- The longest run is not followed by a character of the set. -/
theorem CharClass.any_head?_drop_runLength (chars : CharClass) (text : List Char) :
    (text.drop (chars.runLength text)).head?.any chars.contains = false := by
  have drops : (text.takeWhile chars.contains ++ text.dropWhile chars.contains).drop
      (chars.runLength text) = text.dropWhile chars.contains := List.drop_left
  rw [List.takeWhile_append_dropWhile] at drops
  have ended := List.head?_dropWhile_not chars.contains text
  rw [drops]
  rcases head : (text.dropWhile chars.contains).head? with _ | char
  · rfl
  · rw [head] at ended
    exact ended

namespace Expr

variable {following : Option Char} {chars : CharClass} {reading after : Reading}

/-- The ways of a greedy run, the longest first. -/
theorem ways_run (reading : Reading) :
    (plus true (set chars)).ways following reading =
      (List.range (chars.runLength reading.rest)).reverse.map fun count =>
        reading.skip (count + 1) := by
  induction text_eq : reading.rest generalizing reading with
  | nil =>
      rw [ways_plus rfl, ways_set_eq_skip, text_eq]
      rfl
  | cons char rest ih =>
      rw [ways_plus rfl, ways_set_eq_skip, text_eq]
      by_cases inside : chars.contains char = true
      · have later := ih (reading.skip 1) (by rw [Reading.rest_skip, text_eq]; rfl)
        have leaves : (star true (set chars)).ways following (reading.skip 1) =
            (plus true (set chars)).ways following (reading.skip 1) ++ [reading.skip 1] := rfl
        have longer : chars.runLength (char :: rest) = chars.runLength rest + 1 := by
          rw [CharClass.runLength, List.takeWhile_cons_of_pos inside, List.length_cons]
          rfl
        rw [longer, List.range_succ_eq_map]
        simp [inside, leaves, later, Reading.skip_skip, Function.comp_def, Nat.add_comm]
      · simp [inside, CharClass.runLength]

theorem mem_ways_run_iff :
    after ∈ (plus true (set chars)).ways following reading ↔
      ∃ count < chars.runLength reading.rest, after = reading.skip (count + 1) := by
  simp [ways_run, eq_comm]

/-- The preferred way of a greedy run takes all of it. -/
theorem head?_ways_run_iff :
    ((plus true (set chars)).ways following reading).head? = some after ↔
      0 < chars.runLength reading.rest ∧ after = reading.skip (chars.runLength reading.rest) := by
  rw [ways_run]
  rcases chars.runLength reading.rest with _ | shorter
  · simp
  · simp [List.range_succ, eq_comm]

/-- Only at its end can a run be followed by no character of its own. -/
theorem eq_runLength_of_ended {text : List Char} {count : Nat}
    (within : count ≤ chars.runLength text)
    (ended : (text.drop count).head?.any chars.contains = false) :
    count = chars.runLength text := by
  rcases Nat.lt_or_eq_of_le within with less | same
  · have here : text[count]? = (text.takeWhile chars.contains)[count]? := by
      conv_lhs => rw [← List.takeWhile_append_dropWhile (p := chars.contains) (l := text)]
      exact List.getElem?_append_left less
    have present := List.getElem?_eq_getElem (l := text.takeWhile chars.contains) less
    have inside := List.all_eq_true.mp List.all_takeWhile _ (List.mem_of_getElem? present)
    rw [List.head?_drop, here, present, Option.any_some, inside] at ended
    cases ended
  · exact same

theorem eq_runLength_of_head? {text : List Char} {count : Nat} {next : Char}
    (within : count ≤ chars.runLength text) (head : (text.drop count).head? = some next)
    (outside : chars.contains next = false) : count = chars.runLength text := by
  apply eq_runLength_of_ended within
  rw [head, Option.any_some, outside]

/-- A way that is the only one is the preferred one. -/
theorem head?_eq_some_iff_of_only {found : List Reading} {possible : Prop} {only : Reading}
    (mem_iff : ∀ way, way ∈ found ↔ possible ∧ way = only) :
    found.head? = some after ↔ possible ∧ after = only := by
  rw [← mem_iff]
  constructor
  · exact List.mem_of_mem_head?
  · intro mem
    rcases found with _ | ⟨first, others⟩
    · cases mem
    · have same := ((mem_iff first).mp List.mem_cons_self).2
      rw [same, ((mem_iff after).mp mem).2]
      rfl

/-- A run that is recorded as the group, before a character that cannot belong to it. -/
theorem mem_ways_run_before_iff {limits : CharClass}
    (apart : ∀ char, limits.contains char = true → chars.contains char = false) :
    after ∈ (seq (group bodyGroup (plus true (set chars))) (set limits)).ways following reading ↔
      0 < chars.runLength reading.rest ∧
        (∃ char, (reading.rest.drop (chars.runLength reading.rest)).head? = some char ∧
          limits.contains char = true) ∧
        after =
          (((reading.record .start).skip (chars.runLength reading.rest)).record .stop).skip 1 := by
  rw [ways, List.mem_flatMap]
  constructor
  · rintro ⟨middle, group_mem, limit_mem⟩
    rw [ways, if_pos rfl] at group_mem
    rcases List.mem_map.mp group_mem with ⟨inner, run_mem, rfl⟩
    rcases mem_ways_run_iff.mp run_mem with ⟨count, within, rfl⟩
    rw [Reading.rest_record] at within
    rcases mem_ways_set_iff.mp limit_mem with ⟨⟨char, head, inside⟩, rfl⟩
    have ended := eq_runLength_of_head? within head (apart char inside)
    rw [← ended]
    exact ⟨Nat.succ_pos count, ⟨char, head, inside⟩, rfl⟩
  · rintro ⟨nonempty, ⟨char, head, inside⟩, rfl⟩
    obtain ⟨count, count_eq⟩ := Nat.exists_eq_add_of_lt nonempty
    rw [Nat.zero_add] at count_eq
    refine ⟨((reading.record .start).skip (chars.runLength reading.rest)).record .stop, ?_,
      mem_ways_set_iff.mpr ⟨⟨char, head, inside⟩, rfl⟩⟩
    rw [ways, if_pos rfl]
    refine List.mem_map_of_mem (mem_ways_run_iff.mpr ⟨count, ?_, ?_⟩)
    · rw [Reading.rest_record]
      omega
    · rw [count_eq]

end Expr

end RuleLexer.Regex
