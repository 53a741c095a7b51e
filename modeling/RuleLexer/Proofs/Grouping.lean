import Mathlib.Data.List.Induction
import RuleLexer.Proofs.OrderedMap

/-!
# Values grouped by names

Values with names are added one after another, each to the group of its name. The groups come in the
order in which their names are met first, and the values of a group in the order in which they were
added, however the names alternate.
-/

namespace RuleLexer.OrderedMap

variable {α : Type} {key : String} {value : α} {groups : List (String × List α)}

/-- Adds a value at the end of the group of its name, or as a new group at the end. -/
def addToGroup (groups : List (String × List α)) (item : String × α) : List (String × List α) :=
  alterEntries item.1 (fun present => present.getD [] ++ [item.2]) groups

/-- Groups values by their names, in the order in which the names are met first. -/
def groupItems (items : List (String × α)) : List (String × List α) :=
  items.foldl addToGroup []

/-- The group of a name among some items. -/
def groupOf (items : List (String × α)) (key : String) : String × List α :=
  (key, (items.filter (·.1 == key)).map Prod.snd)

theorem groupOf_concat_same (items : List (String × α)) (key : String) (value : α) :
    groupOf (items ++ [(key, value)]) key = (key, (groupOf items key).2 ++ [value]) := by
  simp [groupOf]

theorem groupOf_concat_of_ne {other : String} (different : key ≠ other)
    (items : List (String × α)) (value : α) :
    groupOf (items ++ [(key, value)]) other = groupOf items other := by
  simp [groupOf, different]

theorem groupOf_map {β : Type} (items : List (String × β)) (make : β → α) (key : String) :
    (groupOf (items.map fun item => (item.1, make item.2)) key).2 =
      (groupOf items key).2.map make := by
  simp [groupOf, List.filter_map, Function.comp_def]

theorem groupOf_of_not_mem {items : List (String × α)} (absent : key ∉ items.map Prod.fst) :
    groupOf items key = (key, []) := by
  have none : items.filter (·.1 == key) = [] := by
    simp only [List.filter_eq_nil_iff, beq_iff_eq]
    rintro item mem rfl
    exact absent (List.mem_map_of_mem mem)
  simp [groupOf, none]

theorem addToGroup_of_mem {keys : List String} (items : List (String × α)) (value : α)
    (distinct : keys.Nodup) (mem : key ∈ keys) :
    addToGroup (keys.map (groupOf items)) (key, value) =
      keys.map (groupOf (items ++ [(key, value)])) := by
  induction keys with
  | nil => cases mem
  | cons first keys ih =>
      rw [List.nodup_cons] at distinct
      simp only [addToGroup] at ih ⊢
      simp only [List.map_cons, alterEntries]
      by_cases same : first = key
      · subst same
        have others : keys.map (groupOf (items ++ [(first, value)])) = keys.map (groupOf items) := by
          apply List.map_congr_left
          intro other otherMem
          apply groupOf_concat_of_ne
          rintro rfl
          exact distinct.1 otherMem
        rw [others, groupOf_concat_same]
        simp [groupOf]
      · have different : ¬(groupOf items first).1 = key := same
        have later := (List.mem_cons.mp mem).resolve_left (Ne.symm same)
        rw [if_neg different, ih distinct.2 later, groupOf_concat_of_ne (Ne.symm same)]

theorem addToGroup_of_not_mem {keys : List String} {items : List (String × α)} (value : α)
    (absent : key ∉ keys) (fresh : key ∉ items.map Prod.fst) :
    addToGroup (keys.map (groupOf items)) (key, value) =
      (keys ++ [key]).map (groupOf (items ++ [(key, value)])) := by
  have names : (keys.map (groupOf items)).map Prod.fst = keys := by
    simp [groupOf, Function.comp_def]
  have others : keys.map (groupOf (items ++ [(key, value)])) = keys.map (groupOf items) := by
    apply List.map_congr_left
    intro other mem
    apply groupOf_concat_of_ne
    rintro rfl
    exact absent mem
  rw [addToGroup, alterEntries_of_not_mem _ (by rwa [names]), List.map_append, others,
    List.map_singleton, groupOf_concat_same, groupOf_of_not_mem fresh]
  rfl

theorem eraseDups_concat (keys : List String) (key : String) :
    (keys ++ [key]).eraseDups = if key ∈ keys then keys.eraseDups else keys.eraseDups ++ [key] := by
  have single : [key].eraseDups = [key] := by simp [List.eraseDups_cons]
  by_cases mem : key ∈ keys
  · simp [List.eraseDups_append, List.removeAll, mem]
  · simp [List.eraseDups_append, List.removeAll, mem, single]

theorem nodup_eraseDups (keys : List String) : keys.eraseDups.Nodup := by
  induction keys using List.reverseRecOn with
  | nil => simp
  | append_singleton keys key ih =>
      rw [eraseDups_concat]
      split
      · exact ih
      · rename_i absent
        rw [List.nodup_append]
        refine ⟨ih, by simp, ?_⟩
        simp only [List.mem_eraseDups, List.mem_singleton]
        rintro other mem _ rfl rfl
        exact absent mem

/-- Every group has the values of its name in their order, and the groups come in the order in which
their names are met first. -/
theorem groupItems_eq (items : List (String × α)) :
    groupItems items = (items.map Prod.fst).eraseDups.map (groupOf items) := by
  induction items using List.reverseRecOn with
  | nil => rfl
  | append_singleton items item ih =>
      rcases item with ⟨key, value⟩
      have added : groupItems (items ++ [(key, value)]) =
          addToGroup (groupItems items) (key, value) := by
        simp [groupItems]
      rw [added, ih, List.map_append, List.map_singleton, eraseDups_concat]
      split
      · rename_i mem
        exact addToGroup_of_mem items value (nodup_eraseDups _) (List.mem_eraseDups.mpr mem)
      · rename_i absent
        exact addToGroup_of_not_mem value (fun mem => absent (List.mem_eraseDups.mp mem)) absent

end RuleLexer.OrderedMap
