import RuleLexer.Proofs.RuleTable.Build

/-!
# Where compiled rules lead

The entry state of a compiled definition and the target of every one of its rules are states of the
table. Numbers of states have 32 bits, so this needs that the definition has fewer than `2 ^ 32`
states.
-/

namespace RuleLexer

variable {states : OrderedMap (List RuleDef)} {site : RuleSite} {rule : RuleDef} {compiled : Rule}

theorem StateId.index_lt_of_indexOf? {name : String} {position : Nat}
    (few : states.size < 0x100000000) (found : states.indexOf? name = some position) :
    (ofPosition position).index < states.size := by
  have inside := OrderedMap.lt_size_of_indexOf? found
  rw [ofPosition_of_lt (Nat.lt_trans inside few)]
  exact inside

namespace RuleDef

theorem Resolves.target_lt {target : StateId} (few : states.size < 0x100000000)
    (resolves : rule.Resolves states (some (.push target))) : target.index < states.size := by
  cases resolves with
  | push next other found => exact StateId.index_lt_of_indexOf? few found

theorem target_lt_of_compileAll {state : String} {index : Nat} {rules : List RuleDef}
    {results : List Rule} {target : StateId} (few : states.size < 0x100000000)
    (compiles : compileAll states state index rules = .ok results) (mem : compiled ∈ results)
    (leads : compiled.transition = some (.push target)) : target.index < states.size := by
  have images := forall₂_of_compileAll compiles
  clear compiles
  induction images with
  | nil => cases mem
  | cons first rest ih =>
      rcases List.mem_cons.mp mem with rfl | later
      · rcases first with ⟨position, ruleCompiles⟩
        have resolves := ruleCompiles.transition
        rw [leads] at resolves
        exact resolves.target_lt few
      · exact ih later

end RuleDef

namespace RuleTable

variable {definition : Definition} {table : RuleTable} {state : StateId}

/-- Entering the first state and following rules never leaves the table. -/
structure Closed (table : RuleTable) : Prop where
  entry : table.entry.index < table.stateCount
  targets : ∀ state, ∀ rule ∈ table.rulesFor state, ∀ target,
    rule.transition = some (.push target) → target.index < table.stateCount

theorem BuiltFrom.stateCount (built : table.BuiltFrom definition) :
    table.stateCount = definition.states.size := by
  have keys := congrArg List.length (OrderedMap.keys_traverse built.states)
  simpa [OrderedMap.keys, RuleTable.stateCount, OrderedMap.size] using keys

/-- A position in the table has a name and its own list of rules. -/
theorem get?_of_lt_stateCount (inside : state.index < table.stateCount) :
    ∃ name, table.stateName? state = some name ∧
      table.states.get? state.index = some (name, table.rulesFor state) := by
  rw [stateCount, OrderedMap.size] at inside
  have present : table.states.get? state.index = some table.states.entries[state.index] :=
    List.getElem?_eq_getElem inside
  refine ⟨table.states.entries[state.index].1, ?_, ?_⟩
  · rw [stateName?, present]
    rfl
  · rw [rulesFor, present]

theorem exists_rules_of_mem_rulesFor {rule : Rule} (built : table.BuiltFrom definition)
    (mem : rule ∈ table.rulesFor state) :
    ∃ name rules, RuleDef.compileAll definition.states name 0 rules = .ok (table.rulesFor state) := by
  have inside : state.index < definition.states.size := by
    by_contra outside
    rw [← built.stateCount, stateCount, OrderedMap.size, Nat.not_lt] at outside
    rw [rulesFor, OrderedMap.get?, List.getElem?_eq_none outside] at mem
    cases mem
  have present : definition.states.get? state.index =
      some definition.states.entries[state.index] :=
    List.getElem?_eq_getElem inside
  exact ⟨_, _, built.rulesFor present⟩

theorem BuiltFrom.closed (built : table.BuiltFrom definition)
    (few : definition.states.size < 0x100000000) : table.Closed := by
  constructor
  · rcases built.entry with ⟨position, found, entry⟩
    rw [entry, built.stateCount]
    exact StateId.index_lt_of_indexOf? few found
  · intro state rule mem target leads
    rcases exists_rules_of_mem_rulesFor built mem with ⟨name, rules, compiles⟩
    rw [built.stateCount]
    exact RuleDef.target_lt_of_compileAll few compiles mem leads

end RuleTable

end RuleLexer
