import RuleLexer.Proofs.RuleTable.Faults
import RuleLexer.Proofs.RuleTable.Targets

/-!
# Tables are images of definitions

A compiled definition keeps everything that was defined: the states in their order, the rules of
each state in their order, and of each rule its pattern, its category, whether it consumes, whether
it has a lookbehind, and where it leads. A name and a position of a state determine each other,
whichever of the lookups is used, and the positions are those from zero on, as many as there are
states.
-/

namespace RuleLexer

/-- The rule of a table that a rule of a definition has become. -/
structure Rule.ImageOf (compiled : Rule) (rule : RuleDef) (table : RuleTable) : Prop where
  pattern : compiled.pattern = rule.pattern
  program : Regex.Program.ofText rule.pattern = .ok compiled.program
  category : compiled.category = rule.category
  consumes : compiled.consumes = rule.consumes
  lookbehind : compiled.lookbehind.isSome = rule.lookbehind.isSome
  stay_iff : compiled.transition = none ↔ rule.next = none
  pop_iff : compiled.transition = some .pop ↔ rule.next = some RuleDef.popTarget
  /-- The rule enters the state that has the name of its target. -/
  push_iff : ∀ state, compiled.transition = some (.push state) ↔
    ∃ target, rule.next = some target ∧ target ≠ RuleDef.popTarget ∧
      table.stateName? state = some target

namespace RuleTable

/-- The table that a definition has become. -/
structure ImageOf (table : RuleTable) (definition : Definition) : Prop where
  states : List.Forall₂ (fun entry listed => listed.2.1 = entry.1 ∧
    List.Forall₂ (fun rule compiled => compiled.ImageOf rule table) entry.2 listed.2.2)
    definition.states.entries table.listing
  stateCount : table.stateCount = definition.states.size
  positions : table.listing.map (·.1.index) = List.range table.stateCount
  listed_iff : ∀ state name rules, (state, name, rules) ∈ table.listing ↔
    table.stateName? state = some name ∧ table.rulesFor state = rules
  stateId_iff : ∀ state name, table.stateId? name = some state ↔ table.stateName? state = some name
  known_iff : ∀ name, (∃ state, table.stateId? name = some state) ↔ name ∈ definition.states.keys
  named_iff : ∀ state, (∃ name, table.stateName? state = some name) ↔
    state.index < table.stateCount
  entry : table.stateId? definition.header.entry = some table.entry
  outside : ∀ state, table.stateCount ≤ state.index →
    table.stateName? state = none ∧ table.rulesFor state = []

variable {definition : Definition} {table : RuleTable} {state : StateId} {name : String}
  {rules : List Rule} {index : Nat}

theorem get?_eq_some_iff : table.states.get? state.index = some (name, rules) ↔
    table.stateName? state = some name ∧ table.rulesFor state = rules := by
  unfold stateName? rulesFor
  cases table.states.get? state.index <;> simp [Prod.ext_iff]

theorem exists_stateName?_iff :
    (∃ name, table.stateName? state = some name) ↔ state.index < table.stateCount := by
  simp only [stateName?_eq, stateCount, OrderedMap.size, OrderedMap.keys]
  constructor
  · rintro ⟨name, named⟩
    simpa using (List.getElem?_eq_some_iff.mp named).1
  · intro inside
    exact ⟨_, List.getElem?_eq_getElem (by simpa using inside)⟩

theorem lookups_of_outside (outside : table.stateCount ≤ state.index) :
    table.stateName? state = none ∧ table.rulesFor state = [] := by
  have absent : table.states.get? state.index = none := List.getElem?_eq_none outside
  simp [stateName?, rulesFor, absent]

theorem stateId?_eq_some_iff (few : table.stateCount < 0x100000000) :
    table.stateId? name = some state ↔ table.stateName? state = some name := by
  rw [stateName?_eq, ← OrderedMap.indexOf?_eq_some_iff, stateId?, Option.map_eq_some_iff]
  constructor
  · rintro ⟨position, found, rfl⟩
    rw [StateId.ofPosition_of_lt (Nat.lt_trans (OrderedMap.lt_size_of_indexOf? found) few)]
    exact found
  · intro found
    refine ⟨state.index, found, ?_⟩
    exact StateId.ofPosition_of_lt (Nat.lt_trans (OrderedMap.lt_size_of_indexOf? found) few)

theorem getElem?_listing (few : table.stateCount < 0x100000000) :
    table.listing[index]? = (table.states.get? index).map fun entry => (⟨index⟩, entry) := by
  simp only [listing, List.getElem?_map, List.getElem?_zipIdx, OrderedMap.get?, Option.map_map,
    Nat.zero_add]
  cases present : table.states.entries[index]? with
  | none => rfl
  | some entry =>
      rcases List.getElem?_eq_some_iff.mp present with ⟨inside, -⟩
      have small : index < 0x100000000 := Nat.lt_trans inside few
      simp [StateId.ofPosition_of_lt small]

theorem mem_listing_iff (few : table.stateCount < 0x100000000) :
    (state, name, rules) ∈ table.listing ↔
      table.stateName? state = some name ∧ table.rulesFor state = rules := by
  rw [← get?_eq_some_iff, List.mem_iff_getElem?]
  simp only [getElem?_listing few, Option.map_eq_some_iff, Prod.mk.injEq]
  constructor
  · rintro ⟨index, entry, present, rfl, rfl⟩
    exact present
  · intro present
    exact ⟨state.index, _, present, rfl, rfl⟩

theorem positions_listing (few : table.stateCount < 0x100000000) :
    table.listing.map (·.1.index) = List.range table.stateCount := by
  apply List.ext_getElem?
  intro index
  rw [List.getElem?_map, getElem?_listing few, Option.map_map]
  by_cases inside : index < table.stateCount
  · have present : table.states.get? index = some table.states.entries[index] :=
      List.getElem?_eq_getElem inside
    simp [present, inside]
  · have absent : table.states.get? index = none :=
      List.getElem?_eq_none (Nat.le_of_not_lt inside)
    simp [absent, Nat.le_of_not_lt inside]

end RuleTable

namespace RuleDef

variable {rule : RuleDef} {states : OrderedMap (List RuleDef)} {transition : Option Transition}

theorem Resolves.push_iff {state : StateId} (few : states.size < 0x100000000)
    (resolves : rule.Resolves states transition) :
    transition = some (.push state) ↔
      ∃ target, rule.next = some target ∧ target ≠ popTarget ∧
        states.keys[state.index]? = some target := by
  cases resolves with
  | stay next => simp [next]
  | pop next => simp [next]
  | push next other found =>
      rename_i target position
      have small := Nat.lt_trans (OrderedMap.lt_size_of_indexOf? found) few
      simp only [StateId.ofPosition_of_lt small, next, Option.some.injEq, Transition.push.injEq,
        ← OrderedMap.indexOf?_eq_some_iff]
      constructor
      · rintro rfl
        exact ⟨target, rfl, other, found⟩
      · rintro ⟨_, rfl, -, found'⟩
        rw [found] at found'
        cases found'
        rfl

end RuleDef

namespace RuleTable

variable {definition : Definition} {table : RuleTable}

theorem BuiltFrom.imageOf_of_compiles {rule : RuleDef} {site : RuleSite} {compiled : Rule}
    (built : table.BuiltFrom definition) (few : definition.states.size < 0x100000000)
    (compiles : rule.Compiles definition.states site compiled) : compiled.ImageOf rule table where
  pattern := compiles.copied.1
  program := (RuleDef.compilePattern_eq_ok_iff.mp compiles.program).1
  category := compiles.copied.2.1
  consumes := compiles.copied.2.2
  lookbehind := by
    rcases RuleDef.compileLookbehind_eq_ok_iff.mp compiles.lookbehind with
      ⟨absent, absent'⟩ | ⟨pattern, program, present, -, present'⟩
    · simp [absent, absent']
    · simp [present, present']
  stay_iff := compiles.transition.stay_iff
  pop_iff := compiles.transition.pop_iff
  push_iff state := by
    simp only [built.stateName?]
    exact compiles.transition.push_iff few

theorem map_listing (table : RuleTable) : table.listing.map Prod.snd = table.states.entries := by
  rw [listing, List.map_map]
  exact List.zipIdx_map_fst 0 table.states.entries

theorem BuiltFrom.forall₂_listing (built : table.BuiltFrom definition)
    (few : definition.states.size < 0x100000000) :
    List.Forall₂ (fun entry listed => listed.2.1 = entry.1 ∧
      List.Forall₂ (fun rule compiled => compiled.ImageOf rule table) entry.2 listed.2.2)
      definition.states.entries table.listing := by
  have compiled := OrderedMap.forall₂_of_traverse built.states
  rw [← map_listing, List.forall₂_map_right_iff] at compiled
  refine compiled.imp ?_
  rintro entry listed ⟨name, rulesCompile⟩
  refine ⟨name.symm, (RuleDef.forall₂_of_compileAll rulesCompile).imp ?_⟩
  rintro rule image ⟨position, compiles⟩
  exact built.imageOf_of_compiles few compiles

theorem BuiltFrom.exists_stateId?_iff {name : String} (built : table.BuiltFrom definition) :
    (∃ state, table.stateId? name = some state) ↔ name ∈ definition.states.keys := by
  rw [← OrderedMap.keys_traverse built.states, OrderedMap.mem_keys_iff]
  simp [stateId?]

/-- A definition with fewer than `2 ^ 32` states that compiles becomes a table that is its image. -/
theorem imageOf_of_build (built : build definition = .ok table)
    (few : definition.states.size < 0x100000000) : table.ImageOf definition := by
  have parts := build_eq_ok_iff.mp built
  have few' : table.stateCount < 0x100000000 := by
    rw [parts.stateCount]
    exact few
  constructor
  · exact parts.forall₂_listing few
  · exact parts.stateCount
  · exact positions_listing few'
  · intro state name rules
    exact mem_listing_iff few'
  · intro state name
    exact stateId?_eq_some_iff few'
  · intro name
    exact parts.exists_stateId?_iff
  · intro state
    exact exists_stateName?_iff
  · rcases parts.entry with ⟨position, found, entry⟩
    have small := Nat.lt_trans (OrderedMap.lt_size_of_indexOf? found) few
    rw [stateId?_eq_some_iff few', entry]
    exact parts.stateName?_ofPosition small found
  · intro state outside
    exact lookups_of_outside outside

/-- A definition that enters a later state, the same state again, and an earlier one. -/
def crossing : Definition where
  header := { entry := "middle" }
  states :=
    { entries :=
        [("first", [{ pattern := "a", category := .keyword, next := some "#pop" }]),
         ("middle", [{ pattern := "b", category := .number, next := some "middle" },
           { pattern := "(c)d", category := .variable, consumes := false, next := some "last" }]),
         ("last",
           [{ pattern := "e", category := .operator, next := some "first", lookbehind := some "c" }])]
      nodup_keys := by decide }

theorem imageOf_crossing : ∃ table, build crossing = .ok table ∧
    crossing.states.size < 0x100000000 ∧ table.ImageOf crossing ∧
      table.stateId? "middle" = some ⟨1⟩ ∧
        (table.rulesFor ⟨1⟩).map Rule.transition = [some (.push ⟨1⟩), some (.push ⟨2⟩)] := by
  have few : crossing.states.size < 0x100000000 := by decide
  exact ⟨_, rfl, few, imageOf_of_build rfl few, by decide, by decide⟩

end RuleTable

end RuleLexer
