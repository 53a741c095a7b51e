import Mathlib.Data.List.Nodup
import Mathlib.Data.List.Perm.Subperm
import RuleLexer.OrderedMap

/-!
# Facts about maps in order of insertion

Names are distinct, so an entry of a map is what looking up its name finds, and two maps have the
same entries exactly if one is a rearrangement of the other. An operation that may fail is applied
to every entry, and the results are in the order of the entries.
-/

namespace RuleLexer.OrderedMap

variable {α β ε : Type} {entries : List (String × α)} {key : String} {value : α} {index : Nat}

theorem not_mem_of_nodup {before after : List String} (distinct : (before ++ key :: after).Nodup) :
    key ∉ before := by
  intro mem
  rw [List.nodup_middle, List.nodup_cons] at distinct
  exact distinct.1 (List.mem_append_left after mem)

theorem lookup_eq_none_of_not_mem (absent : key ∉ entries.map Prod.fst) :
    entries.lookup key = none := by
  rw [List.lookup_eq_none_iff]
  intro entry mem
  have different : entry.1 ≠ key := fun same => absent (same ▸ List.mem_map_of_mem mem)
  simpa using Ne.symm different

theorem lookup_eq_some_iff (distinct : (entries.map Prod.fst).Nodup) :
    entries.lookup key = some value ↔ (key, value) ∈ entries := by
  induction entries with
  | nil => simp
  | cons entry entries ih =>
      rcases entry with ⟨name, own⟩
      rw [List.map_cons, List.nodup_cons] at distinct
      rw [List.lookup_cons, List.mem_cons, Prod.mk.injEq]
      by_cases same : key = name
      · subst same
        have later : (key, value) ∉ entries := by
          intro mem
          exact distinct.1 (List.mem_map.mpr ⟨(key, value), mem, rfl⟩)
        simp [later, eq_comm]
      · have differs : (key == name) = false := beq_eq_false_iff_ne.mpr same
        rw [differs]
        simp [same, ih distinct.2]

theorem find?_eq_some_iff {map : OrderedMap α} :
    map.find? key = some value ↔ (key, value) ∈ map.entries :=
  lookup_eq_some_iff map.nodup_keys

theorem indexOf?_eq_some_iff {map : OrderedMap α} :
    map.indexOf? key = some index ↔ map.keys[index]? = some key := by
  rw [indexOf?, List.findIdx?_eq_some_iff_getElem]
  constructor
  · rintro ⟨inside, same, -⟩
    simp [keys, inside, eq_of_beq same]
  · intro found
    rw [keys, List.getElem?_eq_some_iff] at found
    rcases found with ⟨inside, same⟩
    refine ⟨by simpa using inside, by simpa using same, ?_⟩
    intro earlier before other
    have earlierInside := Nat.lt_trans before inside
    have distinct : (map.entries.map Prod.fst)[earlier] = (map.entries.map Prod.fst)[index] ↔
        earlier = index := List.Nodup.getElem_inj_iff map.nodup_keys
    refine Nat.ne_of_lt before (distinct.mp ?_)
    rw [same]
    simpa using other

theorem lt_size_of_indexOf? {map : OrderedMap α} (found : map.indexOf? key = some index) :
    index < map.size := by
  rcases List.getElem?_eq_some_iff.mp (indexOf?_eq_some_iff.mp found) with ⟨inside, -⟩
  simpa [keys, size] using inside

theorem mem_keys_iff {map : OrderedMap α} :
    key ∈ map.keys ↔ ∃ index, map.indexOf? key = some index := by
  simp only [indexOf?_eq_some_iff]
  exact List.mem_iff_getElem?

theorem exists_get?_of_keys {map : OrderedMap α} (found : map.keys[index]? = some key) :
    ∃ value, map.get? index = some (key, value) := by
  rw [keys, List.getElem?_map, Option.map_eq_some_iff] at found
  rcases found with ⟨⟨name, value⟩, present, rfl⟩
  exact ⟨value, present⟩

theorem value_unique {map : OrderedMap α} {other : α} (mem : (key, value) ∈ map.entries)
    (also : (key, other) ∈ map.entries) : value = other := by
  rw [← find?_eq_some_iff] at mem also
  rw [mem] at also
  exact Option.some.inj also

theorem sameEntries_iff [DecidableEq α] {first second : OrderedMap α} :
    first.sameEntries second = true ↔ first.entries.Perm second.entries := by
  simp only [sameEntries, Bool.and_eq_true, beq_iff_eq, List.all_eq_true, find?_eq_some_iff, size]
  constructor
  · rintro ⟨length_eq, found⟩
    have distinct : first.entries.Nodup := List.Nodup.of_map Prod.fst first.nodup_keys
    exact (List.subperm_of_subset distinct found).perm_of_length_le (Nat.le_of_eq length_eq.symm)
  · intro rearranged
    exact ⟨rearranged.length_eq, fun entry mem => rearranged.subset mem⟩

theorem alterEntries_of_not_mem (change : Option α → α) (absent : key ∉ entries.map Prod.fst) :
    alterEntries key change entries = entries ++ [(key, change none)] := by
  induction entries with
  | nil => rfl
  | cons entry entries ih =>
      rw [List.map_cons, List.mem_cons, not_or] at absent
      rw [alterEntries, if_neg (Ne.symm absent.1), ih absent.2]
      rfl

theorem entries_foldl_insert (map : OrderedMap α)
    (distinct : ((map.entries ++ entries).map Prod.fst).Nodup) :
    (entries.foldl (fun map entry => map.insert entry.1 entry.2) map).entries =
      map.entries ++ entries := by
  induction entries generalizing map with
  | nil => simp
  | cons entry entries ih =>
      have absent : entry.1 ∉ map.entries.map Prod.fst :=
        not_mem_of_nodup (by simpa using distinct)
      have inserted : (map.insert entry.1 entry.2).entries = map.entries ++ [entry] :=
        alterEntries_of_not_mem _ absent
      have later := ih (map.insert entry.1 entry.2) (by simpa [inserted] using distinct)
      rw [List.foldl_cons, later, inserted]
      simp

/-- A map of entries with distinct names has just these entries. -/
theorem entries_ofList (distinct : (entries.map Prod.fst).Nodup) :
    (ofList entries).entries = entries :=
  entries_foldl_insert empty distinct

theorem traverseEntries_eq_ok_iff {f : String → α → Except ε β} {results : List (String × β)} :
    traverseEntries f entries = .ok results ↔
      List.Forall₂ (fun entry result => entry.1 = result.1 ∧ f entry.1 entry.2 = .ok result.2)
        entries results := by
  induction entries generalizing results with
  | nil => simp [traverseEntries, eq_comm]
  | cons entry entries ih =>
      rcases entry with ⟨name, value⟩
      rw [traverseEntries, List.forall₂_cons_left_iff]
      constructor
      · intro traversed
        split at traversed
        · cases traversed
        · rename_i result applied
          split at traversed
          · cases traversed
          · rename_i rest restTraversed
            cases traversed
            exact ⟨(name, result), rest, ⟨rfl, applied⟩, ih.mp restTraversed, rfl⟩
      · rintro ⟨⟨name', result⟩, rest, ⟨rfl, applied⟩, restTraversed, rfl⟩
        simp only at applied
        simp only [applied, ih.mpr restTraversed]

theorem exists_traverseEntries {f : String → α → Except ε β}
    (each : ∀ entry ∈ entries, ∃ made, f entry.1 entry.2 = .ok made) :
    ∃ results, traverseEntries f entries = .ok results := by
  induction entries with
  | nil => exact ⟨[], rfl⟩
  | cons entry entries ih =>
      rcases each entry List.mem_cons_self with ⟨made, applied⟩
      rcases ih fun entry mem => each entry (List.mem_cons_of_mem _ mem) with ⟨results, traversed⟩
      exact ⟨(entry.1, made) :: results, by simp [traverseEntries, applied, traversed]⟩

theorem traverse_eq_ok_iff {map : OrderedMap α} {f : String → α → Except ε β}
    {result : OrderedMap β} :
    map.traverse f = .ok result ↔ traverseEntries f map.entries = .ok result.entries := by
  unfold traverse
  split
  · rename_i failure failed
    simp [failed]
  · rename_i results traversed
    constructor
    · intro same
      cases same
      exact traversed
    · intro same
      rw [traversed] at same
      cases same
      rfl

section Traverse

variable {map : OrderedMap α} {f : String → α → Except ε β} {result : OrderedMap β}

theorem forall₂_of_traverse (traversed : map.traverse f = .ok result) :
    List.Forall₂ (fun entry result => entry.1 = result.1 ∧ f entry.1 entry.2 = .ok result.2)
      map.entries result.entries := by
  rw [traverse_eq_ok_iff] at traversed
  exact traverseEntries_eq_ok_iff.mp traversed

theorem keys_traverse (traversed : map.traverse f = .ok result) : result.keys = map.keys := by
  rw [traverse_eq_ok_iff] at traversed
  exact keys_traverseEntries traversed

theorem get?_traverse (traversed : map.traverse f = .ok result)
    (found : map.get? index = some (key, value)) :
    ∃ made, result.get? index = some (key, made) ∧ f key value = .ok made := by
  have related := forall₂_of_traverse traversed
  rcases List.getElem?_eq_some_iff.mp found with ⟨inside, entry_eq⟩
  have inside' : index < result.entries.length := related.length_eq ▸ inside
  have made := related.get inside inside'
  simp only [List.get_eq_getElem, entry_eq] at made
  refine ⟨result.entries[index].2, ?_, made.2⟩
  rw [get?, List.getElem?_eq_getElem inside', made.1]

/-- An operation can be applied to a whole map if it can be applied to every entry. -/
theorem exists_traverse_iff :
    (∃ result, map.traverse f = .ok result) ↔
      ∀ entry ∈ map.entries, ∃ made, f entry.1 entry.2 = .ok made := by
  constructor
  · rintro ⟨result, traversed⟩ entry mem
    rcases List.mem_iff_getElem?.mp mem with ⟨index, found⟩
    rcases get?_traverse traversed found with ⟨made, -, applied⟩
    exact ⟨made, applied⟩
  · intro each
    rcases exists_traverseEntries each with ⟨results, traversed⟩
    have distinct := map.nodup_keys
    rw [← keys_traverseEntries traversed] at distinct
    exact ⟨⟨results, distinct⟩, traverse_eq_ok_iff.mpr traversed⟩

end Traverse

end RuleLexer.OrderedMap
