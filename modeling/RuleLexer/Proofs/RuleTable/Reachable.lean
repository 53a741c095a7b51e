import Mathlib.Data.List.NodupEquivFin
import Mathlib.Logic.Relation
import Mathlib.Order.WellFounded
import RuleLexer.Proofs.RuleTable.Alike
import RuleLexer.Proofs.RuleTable.Faults

/-!
# States that can be reached

Scanning begins in the entry state and enters the targets of rules, so it only comes to states that
can be reached along these targets. Some other states may be deleted from a definition: the rest
still compiles, unless a state that stays leads to a deleted one, and the two tables are alike in
the states that can be reached, although these have other positions.
-/

namespace RuleLexer

namespace OrderedMap

variable {α : Type} {map : OrderedMap α} {names : List String} {key : String} {index : Nat}

/-- The map without some names. -/
def without (map : OrderedMap α) (names : List String) : OrderedMap α where
  entries := map.entries.filter fun entry => entry.1 ∉ names
  nodup_keys := map.nodup_keys.sublist (List.filter_sublist.map Prod.fst)

theorem mem_entries_without_iff {entry : String × α} :
    entry ∈ (map.without names).entries ↔ entry ∈ map.entries ∧ entry.1 ∉ names := by
  simp [without]

theorem keys_without_sublist (map : OrderedMap α) (names : List String) :
    (map.without names).keys.Sublist map.keys :=
  List.filter_sublist.map Prod.fst

theorem mem_keys_without_iff : key ∈ (map.without names).keys ↔ key ∈ map.keys ∧ key ∉ names := by
  simp only [keys, List.mem_map, mem_entries_without_iff]
  constructor
  · rintro ⟨entry, ⟨mem, kept⟩, rfl⟩
    exact ⟨⟨entry, mem, rfl⟩, kept⟩
  · rintro ⟨⟨entry, mem, rfl⟩, kept⟩
    exact ⟨entry, ⟨mem, kept⟩, rfl⟩

/-- A name that stays does not move to the back. -/
theorem exists_indexOf?_of_without (found : (map.without names).indexOf? key = some index) :
    ∃ index', map.indexOf? key = some index' ∧ index ≤ index' := by
  simp only [indexOf?_eq_some_iff] at found ⊢
  have sublist := keys_without_sublist map names
  rcases List.sublist_iff_exists_orderEmbedding_getElem?_eq.mp sublist with ⟨place, same⟩
  refine ⟨place index, ?_, StrictMono.le_apply place.strictMono⟩
  rw [← same, found]

end OrderedMap

namespace Definition

variable {definition : Definition} {names : List String} {name state target : String}

/-- The definition without some of its states. -/
def without (definition : Definition) (names : List String) : Definition :=
  { definition with states := definition.states.without names }

/-- A rule of the first state enters the second one. -/
def Leads (definition : Definition) (state target : String) : Prop :=
  ∃ rules, (state, rules) ∈ definition.states.entries ∧
    ∃ rule ∈ rules, rule.next = some target ∧ target ≠ RuleDef.popTarget

/-- A state to which rules lead from the entry state. -/
def Reachable (definition : Definition) : String → Prop :=
  Relation.ReflTransGen definition.Leads definition.header.entry

/-- Every state that can be reached has a number that no other state has. -/
def NumbersReachable (definition : Definition) : Prop :=
  ∀ name position, definition.Reachable name →
    definition.states.indexOf? name = some position → position ≤ StateId.greatest

theorem numbersReachable_of_size (few : definition.states.size ≤ 0x100000000) :
    definition.NumbersReachable := by
  intro name position _ found
  have inside := OrderedMap.lt_size_of_indexOf? found
  simp only [StateId.greatest]
  omega

/-- States among which the entry state is, and which are not left, are all that can be reached. -/
theorem unreachable_of_closed {inside : List String} (entry : definition.header.entry ∈ inside)
    (closed : ∀ entry ∈ definition.states.entries, entry.1 ∈ inside → ∀ rule ∈ entry.2,
      ∀ target ∈ rule.next, target ≠ RuleDef.popTarget → target ∈ inside)
    (outside : ∀ name ∈ names, name ∉ inside) : ∀ name ∈ names, ¬definition.Reachable name := by
  have stays : ∀ name, definition.Reachable name → name ∈ inside := by
    intro name reachable
    induction reachable with
    | refl => exact entry
    | tail _ leads mem =>
        rcases leads with ⟨rules, present, rule, rule_mem, next, other⟩
        exact closed _ present mem rule rule_mem _ next other
  intro name mem reachable
  exact outside name mem (stays name reachable)

end Definition

namespace RuleDef

variable {states : OrderedMap (List RuleDef)} {names : List String} {rule : RuleDef}

/-- A sound rule stays sound if names are deleted that are not its target. -/
theorem Sound.without_iff (sound : rule.Sound states) :
    rule.Sound (states.without names) ↔
      ∀ target, rule.next = some target → target ≠ popTarget → target ∉ names := by
  constructor
  · intro sound' target next other
    exact (OrderedMap.mem_keys_without_iff.mp (sound'.target target next other)).2
  · intro kept
    refine ⟨sound.pattern, sound.group, sound.lookbehind, ?_⟩
    intro target next other
    exact OrderedMap.mem_keys_without_iff.mpr
      ⟨sound.target target next other, kept target next other⟩

end RuleDef

namespace RuleTable

variable {definition : Definition} {table table' : RuleTable} {names : List String}

/-- A definition without some states that cannot be reached compiles exactly if no state that stays
leads to a deleted one. -/
theorem exists_build_without_iff (built : build definition = .ok table)
    (unreachable : ∀ name ∈ names, ¬definition.Reachable name) :
    (∃ table', build (definition.without names) = .ok table') ↔
      ∀ state target, definition.Leads state target → state ∉ names → target ∉ names := by
  rcases exists_build_iff_sound.mp ⟨table, built⟩ with ⟨entry, sound⟩
  have entryStays : definition.header.entry ∈ (definition.states.without names).keys := by
    rw [OrderedMap.mem_keys_without_iff]
    refine ⟨entry, ?_⟩
    intro deleted
    exact unreachable _ deleted Relation.ReflTransGen.refl
  rw [exists_build_iff_sound]
  simp only [Definition.without, entryStays, true_and, OrderedMap.mem_entries_without_iff]
  constructor
  · rintro kept state target ⟨rules, present, rule, mem, next, other⟩ stays
    exact (sound _ present rule mem).without_iff.mp (kept _ ⟨present, stays⟩ rule mem) target next
      other
  · rintro kept ⟨state, rules⟩ ⟨present, stays⟩ rule mem
    refine (sound _ present rule mem).without_iff.mpr ?_
    intro target next other
    exact kept state target ⟨rules, present, rule, mem, next, other⟩ stays

/-- States of two tables that have the same name, which is that of a state that can be reached. -/
def SameReachable (definition : Definition) (first second : RuleTable) (state state' : StateId) :
    Prop :=
  ∃ name, definition.Reachable name ∧
    first.stateName? state = some name ∧ second.stateName? state' = some name

/-- If the states that can be reached have numbers of their own, deleting other states leaves a
table that is alike in these. -/
theorem alike_of_without (built : table.BuiltFrom definition)
    (built' : table'.BuiltFrom (definition.without names)) (numbered : definition.NumbersReachable) :
    Alike (SameReachable definition table table') table table' := by
  have sameName : ∀ name position position', definition.Reachable name →
      definition.states.indexOf? name = some position →
      (definition.without names).states.indexOf? name = some position' →
        SameReachable definition table table' (.ofPosition position) (.ofPosition position') := by
    intro name position position' reachable found found'
    rcases OrderedMap.exists_indexOf?_of_without found' with ⟨earlier, again, le⟩
    rw [found] at again
    cases again
    have small := numbered name position reachable found
    simp only [StateId.greatest] at small
    exact ⟨name, reachable, built.stateName?_ofPosition (by omega) found,
      built'.stateName?_ofPosition (by omega) found'⟩
  have header : definition.header = (definition.without names).header := rfl
  apply alike_of_shared header built built'
  · intro name rules rules' mem mem'
    exact OrderedMap.value_unique mem (OrderedMap.mem_entries_without_iff.mp mem').1
  · rintro state state' ⟨name, reachable, named, named'⟩
    exact ⟨name, named, named'⟩
  · intro position position' found found'
    exact sameName _ position position' Relation.ReflTransGen.refl found found'
  · rintro state state' name rules ⟨_, reachable, named', -⟩ named mem rule rule_mem target position
      position' next other found found'
    rw [named] at named'
    cases named'
    have leads : definition.Leads name target := ⟨rules, mem, rule, rule_mem, next, other⟩
    exact sameName target position position' (reachable.tail leads) found found'

end RuleTable

end RuleLexer
