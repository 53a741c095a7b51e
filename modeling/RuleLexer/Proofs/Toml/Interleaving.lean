import RuleLexer.Proofs.Grouping
import RuleLexer.Proofs.Toml.Sections

/-!
# Sections of several arrays in any order

Sections in double brackets for different names may alternate. Each of them is added to the array of
its name, so the arrays come in the order in which their names are met first, and the tables of an
array in the order of the document.
-/

namespace RuleLexer

namespace Toml

open OrderedMap (groupItems addToGroup)

variable {top : Entries} {key outer : String} {fields : Entries} {form : TableForm}

namespace DocumentSection

/-- The arrays of grouped tables. -/
def arrays (groups : List (String × List Entries)) : Entries :=
  groups.map fun group => (group.1, elements group.2)

variable {groups : List (String × List Entries)} {rows : List (String × Entries)}

theorem lookup_arrays (groups : List (String × List Entries)) (key : String) :
    (arrays groups).lookup key = (groups.lookup key).map elements := by
  induction groups with
  | nil => rfl
  | cons group groups ih =>
      rw [arrays] at ih ⊢
      rw [List.map_cons, List.lookup_cons, List.lookup_cons, ih]
      cases key == group.1 <;> rfl

theorem set_arrays {present : List Entries} (fields : Entries)
    (found : groups.lookup key = some present) :
    Entries.set (arrays groups) key (elements (present ++ [fields])) =
      arrays (addToGroup groups (key, fields)) := by
  induction groups with
  | nil => cases found
  | cons group groups ih =>
      rw [List.lookup_cons] at found
      by_cases same : group.1 = key
      · rw [same, beq_self_eq_true] at found
        cases found
        simp [arrays, Entries.set, addToGroup, OrderedMap.alterEntries, same]
      · have differs : (key == group.1) = false := beq_eq_false_iff_ne.mpr (Ne.symm same)
        rw [differs] at found
        have later := ih found
        simp only [arrays, Entries.set, addToGroup] at later ⊢
        simp only [List.map_cons, OrderedMap.alterEntries, if_neg same, later]

theorem arrays_of_not_mem (fields : Entries) (absent : groups.lookup key = none) :
    arrays (addToGroup groups (key, fields)) = arrays groups ++ [(key, elements [fields])] := by
  have fresh : key ∉ groups.map Prod.fst := by
    intro mem
    rcases List.mem_map.mp mem with ⟨group, groupMem, same⟩
    have differs := List.lookup_eq_none_iff.mp absent group groupMem
    simp [same] at differs
  rw [addToGroup, OrderedMap.alterEntries_of_not_mem _ fresh]
  simp [arrays]

/-- A further table is added to the group of its name. -/
theorem addElement?_arrays (groups : List (String × List Entries)) (key : String)
    (distinct : (fields.map Prod.fst).Nodup) :
    addElement? (arrays groups) key (fields.map Assignment.plain) =
      some (arrays (addToGroup groups (key, fields))) := by
  have applied := Assignment.applyAll?_nil distinct
  have lookup_eq := lookup_arrays groups key
  cases found : groups.lookup key with
  | none =>
      rw [found] at lookup_eq
      rw [arrays_of_not_mem fields found]
      simp [addElement?, lookup_eq, applied, elements]
  | some present =>
      rw [found] at lookup_eq
      rw [← set_arrays fields found]
      simp [addElement?, lookup_eq, applied, elements]

/-- Tables of several arrays, in any order, are grouped by the names of the arrays. -/
theorem addAll?_interleaved (outerAbsent : outer ∉ top.map Prod.fst) (accessible : form ≠ .inline)
    (distinct : ∀ row ∈ rows, (row.2.map Prod.fst).Nodup) :
    addAll? (top ++ [(outer, .table form (arrays groups))])
        (rows.map fun row => elementPart outer row.1 row.2) =
      some (top ++ [(outer, .table form (arrays (rows.foldl addToGroup groups)))]) := by
  induction rows generalizing groups with
  | nil => rfl
  | cons row rows ih =>
      rw [List.forall_mem_cons] at distinct
      simp only [List.map_cons, addAll?, List.foldl_cons]
      rw [add?_elementPart outerAbsent accessible, addElement?_arrays groups row.1 distinct.1]
      exact ih distinct.2

/-- The first of the tables makes the table around the arrays. -/
theorem addAll?_interleaved_new (outerAbsent : outer ∉ top.map Prod.fst) (several : rows ≠ [])
    (distinct : ∀ row ∈ rows, (row.2.map Prod.fst).Nodup) :
    addAll? top (rows.map fun row => elementPart outer row.1 row.2) =
      some (top ++ [(outer, .table .implied (arrays (groupItems rows)))]) := by
  have made : addAll? top (rows.map fun row => elementPart outer row.1 row.2) =
      addAll? (top ++ [(outer, .table .implied (arrays []))])
        (rows.map fun row => elementPart outer row.1 row.2) := by
    rcases List.exists_cons_of_ne_nil several with ⟨row, rows, rfl⟩
    simp only [List.map_cons, addAll?]
    rw [add?_elementPart_missing outerAbsent]
    rfl
  rw [made]
  exact addAll?_interleaved outerAbsent (by decide) distinct

end DocumentSection

end Toml

end RuleLexer
