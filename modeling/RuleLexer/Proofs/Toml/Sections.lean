import RuleLexer.Proofs.OrderedMap
import RuleLexer.Proofs.Toml.Document

/-!
# Sections build up tables

A section whose assignments have single, distinct names adds exactly its entries. Sections in double
brackets for the same name gather in one array, in order, and such arrays come in the order of their
names in the table around them.
-/

namespace RuleLexer.Toml

open OrderedMap (lookup_eq_none_of_not_mem not_mem_of_nodup)

variable {entries fields inner top : Entries} {key outer : String} {old new value : Value}
  {form : TableForm}

namespace Entries

theorem lookup_last (value : Value) (absent : key ∉ entries.map Prod.fst) :
    (entries ++ [(key, value)]).lookup key = some value := by
  rw [List.lookup_append, lookup_eq_none_of_not_mem absent]
  simp

theorem set_last (absent : key ∉ entries.map Prod.fst) :
    Entries.set (entries ++ [(key, old)]) key new = entries ++ [(key, new)] := by
  induction entries with
  | nil => simp [Entries.set, OrderedMap.alterEntries]
  | cons entry entries ih =>
      rw [List.map_cons, List.mem_cons, not_or] at absent
      have later := ih absent.2
      rw [Entries.set] at later ⊢
      rw [List.cons_append, OrderedMap.alterEntries, if_neg (Ne.symm absent.1), later]
      rfl

theorem assign?_fresh (absent : key ∉ entries.map Prod.fst) :
    entries.assign? [] key value = some (entries ++ [(key, value)]) := by
  simp [assign?, change?, add?, lookup_eq_none_of_not_mem absent]

end Entries

namespace Assignment

/-- The assignment of a value to a single name. -/
def plain (field : String × Value) : Assignment :=
  ⟨[], field.1, field.2⟩

/-- Assignments to distinct names that are not in the table yet are added at its end. -/
theorem applyAll?_plain (distinct : ((entries ++ fields).map Prod.fst).Nodup) :
    applyAll? entries (fields.map plain) = some (entries ++ fields) := by
  induction fields generalizing entries with
  | nil => simp [applyAll?]
  | cons field fields ih =>
      have absent : field.1 ∉ entries.map Prod.fst := not_mem_of_nodup (by simpa using distinct)
      have later : applyAll? (entries ++ [field]) (fields.map plain) =
          some (entries ++ [field] ++ fields) := ih (by simpa using distinct)
      have added : entries.assign? [] field.1 field.2 = some (entries ++ [field]) :=
        Entries.assign?_fresh absent
      simp only [List.map_cons, applyAll?, plain, added, Option.bind_eq_bind, Option.bind_some]
      simpa using later

theorem applyAll?_nil (distinct : (fields.map Prod.fst).Nodup) :
    applyAll? [] (fields.map plain) = some fields :=
  applyAll?_plain distinct

end Assignment

namespace DocumentSection

/-- The section of a table at the top. -/
def tablePart (key : String) (fields : Entries) : DocumentSection :=
  ⟨.table, [], key, fields.map Assignment.plain⟩

/-- The section of a further table of an array that is in a table at the top. -/
def elementPart (outer key : String) (fields : Entries) : DocumentSection :=
  ⟨.element, [outer], key, fields.map Assignment.plain⟩

theorem addAll?_append (first second : List DocumentSection) (top : Entries) :
    addAll? top (first ++ second) = (addAll? top first).bind fun top => addAll? top second := by
  induction first generalizing top with
  | nil => rfl
  | cons part first ih =>
      simp only [List.cons_append, addAll?, Option.bind_eq_bind]
      cases part.add? top with
      | none => rfl
      | some next => exact ih next

/-- A table with a new name is added at the end. -/
theorem add?_tablePart (absent : key ∉ top.map Prod.fst) (distinct : (fields.map Prod.fst).Nodup) :
    (tablePart key fields).add? top = some (top ++ [(key, .table .headed fields)]) := by
  have applied := Assignment.applyAll?_nil distinct
  simp [tablePart, add?, Entries.change?, addTable?, lookup_eq_none_of_not_mem absent, applied]

/-- An element leads into the last table at the top. -/
theorem add?_elementPart (absent : outer ∉ top.map Prod.fst) (accessible : form ≠ .inline) :
    (elementPart outer key fields).add? (top ++ [(outer, .table form inner)]) =
      (addElement? inner key (fields.map Assignment.plain)).map fun inner =>
        top ++ [(outer, .table form inner)] := by
  have found := Entries.lookup_last (.table form inner) absent
  simp only [elementPart, add?, Entries.change?, found, accessible, Entries.set_last absent]
  simp

/-- An element whose table at the top is missing makes it. -/
theorem add?_elementPart_missing (absent : outer ∉ top.map Prod.fst) :
    (elementPart outer key fields).add? top =
      (elementPart outer key fields).add? (top ++ [(outer, .table .implied [])]) := by
  rw [add?_elementPart absent (by decide)]
  simp [elementPart, add?, Entries.change?, lookup_eq_none_of_not_mem absent]

theorem addElement?_fresh (absent : key ∉ inner.map Prod.fst)
    (distinct : (fields.map Prod.fst).Nodup) :
    addElement? inner key (fields.map Assignment.plain) =
      some (inner ++ [(key, .array .headed [.table .headed fields])]) := by
  have applied := Assignment.applyAll?_nil distinct
  simp [addElement?, lookup_eq_none_of_not_mem absent, applied]

theorem addElement?_last {rows : List Value} (absent : key ∉ inner.map Prod.fst)
    (distinct : (fields.map Prod.fst).Nodup) :
    addElement? (inner ++ [(key, .array .headed rows)]) key (fields.map Assignment.plain) =
      some (inner ++ [(key, .array .headed (rows ++ [.table .headed fields]))]) := by
  have applied := Assignment.applyAll?_nil distinct
  have found := Entries.lookup_last (.array .headed rows) absent
  simp [addElement?, found, applied, Entries.set_last absent]

/-- The value of an array with a table for each list of entries. -/
def elements (rows : List Entries) : Value :=
  .array .headed (rows.map (.table .headed))

/-- The sections of the tables of an array. -/
def elementParts (outer : String) (group : String × List Entries) : List DocumentSection :=
  group.2.map (elementPart outer group.1)

variable {rows : List Entries} {group : String × List Entries}
  {groups : List (String × List Entries)}

/-- Further elements of the last array are added to it in order. -/
theorem addAll?_last (present : List Entries) (outerAbsent : outer ∉ top.map Prod.fst)
    (accessible : form ≠ .inline) (absent : key ∉ inner.map Prod.fst)
    (distinct : ∀ row ∈ rows, (row.map Prod.fst).Nodup) :
    addAll? (top ++ [(outer, .table form (inner ++ [(key, elements present)]))])
        (rows.map (elementPart outer key)) =
      some (top ++ [(outer, .table form (inner ++ [(key, elements (present ++ rows))]))]) := by
  induction rows generalizing present with
  | nil => simp [addAll?]
  | cons row rows ih =>
      have later := ih (present ++ [row])
        fun row mem => distinct row (List.mem_cons_of_mem _ mem)
      have added : addElement? (inner ++ [(key, elements present)]) key
          (row.map Assignment.plain) = some (inner ++ [(key, elements (present ++ [row]))]) := by
        rw [elements, addElement?_last absent (distinct row List.mem_cons_self)]
        simp [elements]
      rw [List.map_cons, addAll?, add?_elementPart outerAbsent accessible, added]
      simpa using later

/-- The elements of a new array make it, at the end of the table around it. -/
theorem addAll?_elementParts (outerAbsent : outer ∉ top.map Prod.fst) (accessible : form ≠ .inline)
    (absent : group.1 ∉ inner.map Prod.fst) (nonempty : group.2 ≠ [])
    (distinct : ∀ row ∈ group.2, (row.map Prod.fst).Nodup) :
    addAll? (top ++ [(outer, .table form inner)]) (elementParts outer group) =
      some (top ++ [(outer, .table form (inner ++ [(group.1, elements group.2)]))]) := by
  rcases group with ⟨key, rows⟩
  rcases List.exists_cons_of_ne_nil nonempty with ⟨row, rows, rfl⟩
  have later := addAll?_last [row] outerAbsent accessible absent
    fun row mem => distinct row (List.mem_cons_of_mem _ mem)
  have added := addElement?_fresh absent (distinct row List.mem_cons_self)
  rw [elementParts, List.map_cons, addAll?, add?_elementPart outerAbsent accessible, added]
  exact later

/-- Arrays for distinct new names are added at the end of the table around them, in order. -/
theorem addAll?_groups (form : TableForm) (inner : Entries)
    (outerAbsent : outer ∉ top.map Prod.fst) (accessible : form ≠ .inline)
    (fresh : (inner.map Prod.fst ++ groups.map Prod.fst).Nodup)
    (nonempty : ∀ group ∈ groups, group.2 ≠ [])
    (distinct : ∀ group ∈ groups, ∀ row ∈ group.2, (row.map Prod.fst).Nodup) :
    addAll? (top ++ [(outer, .table form inner)]) (groups.flatMap (elementParts outer)) =
      some (top ++ [(outer, .table form
        (inner ++ groups.map fun group => (group.1, elements group.2)))]) := by
  induction groups generalizing inner with
  | nil => simp [addAll?]
  | cons group groups ih =>
      have absent : group.1 ∉ inner.map Prod.fst := not_mem_of_nodup (by simpa using fresh)
      have first := addAll?_elementParts outerAbsent accessible absent
        (nonempty group List.mem_cons_self) (distinct group List.mem_cons_self)
      have later := ih (inner ++ [(group.1, elements group.2)]) (by simpa using fresh)
        (fun group mem => nonempty group (List.mem_cons_of_mem _ mem))
        fun group mem => distinct group (List.mem_cons_of_mem _ mem)
      rw [List.flatMap_cons, addAll?_append, first, Option.bind_some, later]
      simp

/-- The table around the arrays is made by the first of them if it is missing. -/
theorem addAll?_groups_missing (outerAbsent : outer ∉ top.map Prod.fst) (several : groups ≠ [])
    (nonempty : ∀ group ∈ groups, group.2 ≠ []) :
    addAll? top (groups.flatMap (elementParts outer)) =
      addAll? (top ++ [(outer, .table .implied [])]) (groups.flatMap (elementParts outer)) := by
  rcases List.exists_cons_of_ne_nil several with ⟨group, groups, rfl⟩
  rcases List.exists_cons_of_ne_nil (nonempty group List.mem_cons_self) with ⟨row, rows, rows_eq⟩
  simp only [List.flatMap_cons, elementParts, rows_eq, List.map_cons, List.cons_append, addAll?,
    add?_elementPart_missing outerAbsent]

end DocumentSection

end RuleLexer.Toml
