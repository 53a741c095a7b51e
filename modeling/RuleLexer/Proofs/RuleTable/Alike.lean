import RuleLexer.Proofs.Definition
import RuleLexer.Proofs.RuleTable.Build

/-!
# Tables that are alike

Two tables are alike if they differ in nothing but the positions of their states: states that are
related have the same rules in the same order, except that a change of state may lead to another
position that is related to the first one. Definitions that agree up to the order of their states
compile to tables that are alike in the states of the same name, and one compiles exactly if the
other does.
-/

namespace RuleLexer

/-- Two changes of state that are the same for states that are related. -/
inductive Transition.Alike (related : StateId → StateId → Prop) :
    Option Transition → Option Transition → Prop
  | stay : Transition.Alike related none none
  | pop : Transition.Alike related (some .pop) (some .pop)
  | push {first second : StateId} (target : related first second) :
    Transition.Alike related (some (.push first)) (some (.push second))

/-- Two rules that are the same except that their targets are only related. -/
structure Rule.Alike (related : StateId → StateId → Prop) (first second : Rule) : Prop where
  transition : Transition.Alike related first.transition second.transition
  rest : { first with transition := none } = { second with transition := none }

namespace RuleTable

/-- States of two tables that have the same name. -/
def SameName (first second : RuleTable) (state state' : StateId) : Prop :=
  ∃ name, first.stateName? state = some name ∧ second.stateName? state' = some name

/-- Two tables that differ only in the positions of the states that are related, as far as these
lead. -/
structure Alike (related : StateId → StateId → Prop) (first second : RuleTable) : Prop where
  entry : related first.entry second.entry
  fallback : first.fallback = second.fallback
  rules : ∀ state state', related state state' →
    List.Forall₂ (Rule.Alike related) (first.rulesFor state) (second.rulesFor state')

end RuleTable

namespace RuleDef

variable {related : StateId → StateId → Prop} {first second : OrderedMap (List RuleDef)}
  {site : RuleSite} {rule : RuleDef}

/-- The target of the rule has related positions in two maps. -/
def TargetRelated (rule : RuleDef) (related : StateId → StateId → Prop)
    (first second : OrderedMap (List RuleDef)) : Prop :=
  ∀ target position position', rule.next = some target → target ≠ popTarget →
    first.indexOf? target = some position → second.indexOf? target = some position' →
      related (.ofPosition position) (.ofPosition position')

/-- A target that one map resolves is resolved by every map with the same names. -/
theorem Resolves.exists_of_names {transition : Option Transition}
    (names : ∀ name, name ∈ first.keys → name ∈ second.keys)
    (resolves : rule.Resolves first transition) :
    ∃ transition', rule.Resolves second transition' := by
  cases resolves with
  | stay next => exact ⟨none, Resolves.stay next⟩
  | pop next => exact ⟨some .pop, Resolves.pop next⟩
  | push next other found =>
      have present := names _ (OrderedMap.mem_keys_iff.mpr ⟨_, found⟩)
      rcases OrderedMap.mem_keys_iff.mp present with ⟨position, found'⟩
      exact ⟨some (.push (.ofPosition position)), Resolves.push next other found'⟩

theorem Resolves.alike {transition transition' : Option Transition}
    (target : rule.TargetRelated related first second)
    (resolves : rule.Resolves first transition) (resolves' : rule.Resolves second transition') :
    Transition.Alike related transition transition' := by
  cases resolves with
  | stay next =>
      rw [resolves'.stay_iff.mpr next]
      exact Transition.Alike.stay
  | pop next =>
      rw [resolves'.pop_iff.mpr next]
      exact Transition.Alike.pop
  | push next other found =>
      rcases resolves'.exists_push next other with ⟨position', found', rfl⟩
      exact Transition.Alike.push (target _ _ _ next other found found')

theorem Compiles.alike {compiled compiled' : Rule}
    (target : rule.TargetRelated related first second)
    (compiles : rule.Compiles first site compiled)
    (compiles' : rule.Compiles second site compiled') :
    Rule.Alike related compiled compiled' := by
  refine ⟨compiles.transition.alike target compiles'.transition, ?_⟩
  rcases compiled with ⟨pattern, program, category, consumes, transition, lookbehind⟩
  rcases compiled' with ⟨pattern', program', category', consumes', transition', lookbehind'⟩
  have samePattern := compiles.program.symm.trans compiles'.program
  have sameLookbehind := compiles.lookbehind.symm.trans compiles'.lookbehind
  rcases compiles.copied with ⟨rfl, rfl, rfl⟩
  rcases compiles'.copied with ⟨rfl, rfl, rfl⟩
  cases samePattern
  cases sameLookbehind
  rfl

variable {rules : List RuleDef} {state : String} {index : Nat}

theorem exists_compileAll {results : List Rule}
    (names : ∀ name, name ∈ first.keys → name ∈ second.keys)
    (compiles : compileAll first state index rules = .ok results) :
    ∃ results', compileAll second state index rules = .ok results' := by
  induction rules generalizing index results with
  | nil => exact ⟨[], rfl⟩
  | cons rule rules ih =>
      rcases compileAll_cons_eq_ok_iff.mp compiles with
        ⟨compiled, rest, ruleCompiles, restCompiles, rfl⟩
      rcases ruleCompiles.transition.exists_of_names names with ⟨transition, resolved⟩
      rcases ih restCompiles with ⟨rest', restCompiles'⟩
      have ruleCompiles' : rule.Compiles second ⟨state, index⟩
          { compiled with transition := transition } :=
        ⟨ruleCompiles.program, ruleCompiles.lookbehind, resolved, ruleCompiles.copied⟩
      exact ⟨_, compileAll_cons_eq_ok_iff.mpr ⟨_, rest', ruleCompiles', restCompiles', rfl⟩⟩

theorem alike_of_compileAll {results results' : List Rule}
    (targets : ∀ rule ∈ rules, rule.TargetRelated related first second)
    (compiles : compileAll first state index rules = .ok results)
    (compiles' : compileAll second state index rules = .ok results') :
    List.Forall₂ (Rule.Alike related) results results' := by
  induction rules generalizing index results results' with
  | nil =>
      cases compiles
      cases compiles'
      exact List.Forall₂.nil
  | cons rule rules ih =>
      rcases compileAll_cons_eq_ok_iff.mp compiles with
        ⟨compiled, rest, ruleCompiles, restCompiles, rfl⟩
      rcases compileAll_cons_eq_ok_iff.mp compiles' with
        ⟨compiled', rest', ruleCompiles', restCompiles', rfl⟩
      rw [List.forall_mem_cons] at targets
      exact List.Forall₂.cons (ruleCompiles.alike targets.1 ruleCompiles')
        (ih targets.2 restCompiles restCompiles')

end RuleDef

namespace RuleTable

variable {first second : Definition} {table table' : RuleTable}

/-- If a definition compiles, so does every definition that agrees with it. -/
theorem exists_build_of_agrees (same : first.agrees second = true)
    (built : ∃ table, build first = .ok table) : ∃ table, build second = .ok table := by
  rw [exists_build_iff] at built ⊢
  rcases built with ⟨entry, rules⟩
  have names := Definition.mem_keys_of_agrees same
  rcases Definition.agrees_iff.mp same with ⟨header, rearranged⟩
  refine ⟨header ▸ names _ entry, ?_⟩
  intro state mem
  rcases rules state (rearranged.mem_iff.mpr mem) with ⟨compiled, compiles⟩
  exact RuleDef.exists_compileAll names compiles

/-- Two definitions with the same general part that have the same rules for a state of the same name
compile to tables that are alike in such states, if the entry states are related, and with a state
also the targets of its rules. -/
theorem alike_of_shared {related : StateId → StateId → Prop} (header : first.header = second.header)
    (built : table.BuiltFrom first) (built' : table'.BuiltFrom second)
    (shared : ∀ name rules rules', (name, rules) ∈ first.states.entries →
      (name, rules') ∈ second.states.entries → rules = rules')
    (sameName : ∀ state state', related state state' → SameName table table' state state')
    (entry : ∀ position position', first.states.indexOf? first.header.entry = some position →
      second.states.indexOf? first.header.entry = some position' →
        related (.ofPosition position) (.ofPosition position'))
    (targets : ∀ state state' name rules, related state state' →
      table.stateName? state = some name → (name, rules) ∈ first.states.entries →
        ∀ rule ∈ rules, rule.TargetRelated related first.states second.states) :
    Alike related table table' := by
  constructor
  · rcases built.entry with ⟨position, found, entry_eq⟩
    rcases built'.entry with ⟨position', found', entry_eq'⟩
    rw [← header] at found'
    rw [entry_eq, entry_eq']
    exact entry _ _ found found'
  · rw [built.copied.2, built'.copied.2, header]
  · intro state state' both
    rcases sameName state state' both with ⟨name, named, named'⟩
    have place := named
    rw [built.stateName?] at place
    rw [built'.stateName?] at named'
    rcases OrderedMap.exists_get?_of_keys place with ⟨rules, present⟩
    rcases OrderedMap.exists_get?_of_keys named' with ⟨rules', present'⟩
    have mem := List.mem_of_getElem? present
    have rules_eq := shared name rules rules' mem (List.mem_of_getElem? present')
    subst rules_eq
    exact RuleDef.alike_of_compileAll (targets state state' name rules both named mem)
      (built.rulesFor present) (built'.rulesFor present')

/-- Definitions that agree compile to tables that are alike in the states of the same name. -/
theorem alike_of_agrees (same : first.agrees second = true) (few : first.states.size < 0x100000000)
    (built : table.BuiltFrom first) (built' : table'.BuiltFrom second) :
    Alike (SameName table table') table table' := by
  have few' : second.states.size < 0x100000000 := Definition.size_eq_of_agrees same ▸ few
  have sameName : ∀ name position position', first.states.indexOf? name = some position →
      second.states.indexOf? name = some position' →
        SameName table table' (.ofPosition position) (.ofPosition position') := by
    intro name position position' found found'
    have small := Nat.lt_trans (OrderedMap.lt_size_of_indexOf? found) few
    have small' := Nat.lt_trans (OrderedMap.lt_size_of_indexOf? found') few'
    exact ⟨name, built.stateName?_ofPosition small found, built'.stateName?_ofPosition small' found'⟩
  rcases Definition.agrees_iff.mp same with ⟨header, rearranged⟩
  apply alike_of_shared header built built'
  · intro name rules rules' mem mem'
    exact OrderedMap.value_unique (rearranged.subset mem) mem'
  · intro state state' both
    exact both
  · intro position position' found found'
    exact sameName _ position position' found found'
  · intro state state' name rules both named mem rule rule_mem target position position' next other
      found found'
    exact sameName target position position' found found'

end RuleTable

end RuleLexer
