import RuleLexer.Proofs.OrderedMap
import RuleLexer.RuleTable

/-!
# Compiled definitions

What it means that a rule, the rules of a state and a whole definition compile, said part by part. A
compiled definition has the names of the definition at the same positions, and the rules at a
position are those of the state of that name, compiled.
-/

namespace RuleLexer

variable {states : OrderedMap (List RuleDef)} {site : RuleSite} {rule : RuleDef} {compiled : Rule}

theorem StateId.ofPosition_of_lt {position : Nat} (small : position < 0x100000000) :
    ofPosition position = ⟨position⟩ := by
  have least : min position greatest = position := by
    rw [greatest]
    omega
  rw [ofPosition, least]

theorem Except.bind_eq_ok_iff {ε α β : Type} {first : Except ε α} {next : α → Except ε β}
    {result : β} :
    first.bind next = .ok result ↔ ∃ value, first = .ok value ∧ next value = .ok result := by
  cases first <;> simp [Except.bind]

namespace RuleDef

/-- What the target of a rule means among the states of a definition. -/
inductive Resolves (rule : RuleDef) (states : OrderedMap (List RuleDef)) :
    Option Transition → Prop
  | stay (next : rule.next = none) : Resolves rule states none
  | pop (next : rule.next = some popTarget) : Resolves rule states (some .pop)
  | push {target : String} {position : Nat} (next : rule.next = some target)
    (other : target ≠ popTarget) (found : states.indexOf? target = some position) :
    Resolves rule states (some (.push (.ofPosition position)))

theorem resolveTarget_eq_ok_iff {transition : Option Transition} :
    rule.resolveTarget states site = .ok transition ↔ rule.Resolves states transition := by
  unfold resolveTarget
  constructor
  · intro resolved
    split at resolved
    · rename_i next
      cases resolved
      exact Resolves.stay next
    · rename_i target next
      split at resolved
      · rename_i isPop
        cases resolved
        exact Resolves.pop (isPop ▸ next)
      · rename_i other
        split at resolved
        · cases resolved
        · rename_i position found
          cases resolved
          exact Resolves.push next other found
  · intro resolves
    cases resolves with
    | stay next => simp only [next]
    | pop next => simp only [next, if_true]
    | push next other found => simp only [next, if_neg other, found]

theorem Resolves.stay_iff {transition : Option Transition}
    (resolves : rule.Resolves states transition) : transition = none ↔ rule.next = none := by
  cases resolves with
  | stay next => simp [next]
  | pop next => simp [next]
  | push next other found => simp [next]

theorem Resolves.pop_iff {transition : Option Transition}
    (resolves : rule.Resolves states transition) :
    transition = some .pop ↔ rule.next = some popTarget := by
  cases resolves with
  | stay next => simp [next]
  | pop next => simp [next]
  | push next other found => simp [next, other]

theorem Resolves.exists_push {transition : Option Transition} {target : String}
    (resolves : rule.Resolves states transition) (next : rule.next = some target)
    (other : target ≠ popTarget) :
    ∃ position, states.indexOf? target = some position ∧
      transition = some (.push (.ofPosition position)) := by
  cases resolves with
  | stay next' => simp [next'] at next
  | pop next' =>
      simp only [next', Option.some.injEq] at next
      exact absurd next.symm other
  | push next' other' found =>
      simp only [next', Option.some.injEq] at next
      subst next
      exact ⟨_, found, rfl⟩

/-- The parts of a rule compile to the parts of the compiled rule. -/
structure Compiles (rule : RuleDef) (states : OrderedMap (List RuleDef)) (site : RuleSite)
    (compiled : Rule) : Prop where
  program : rule.compilePattern site = .ok compiled.program
  lookbehind : rule.compileLookbehind site = .ok compiled.lookbehind
  transition : rule.Resolves states compiled.transition
  copied : compiled.pattern = rule.pattern ∧ compiled.category = rule.category ∧
    compiled.consumes = rule.consumes

theorem compile_eq_ok_iff : rule.compile states site = .ok compiled ↔
    rule.Compiles states site compiled := by
  rw [compile]
  simp only [bind, Except.bind_eq_ok_iff, pure, Except.pure, Except.ok.injEq,
    resolveTarget_eq_ok_iff]
  constructor
  · rintro ⟨program, programCompiles, lookbehind, lookbehindCompiles, transition, resolved, rfl⟩
    exact ⟨programCompiles, lookbehindCompiles, resolved, rfl, rfl, rfl⟩
  · rintro ⟨programCompiles, lookbehindCompiles, resolved, pattern, category, consumes⟩
    refine ⟨_, programCompiles, _, lookbehindCompiles, _, resolved, ?_⟩
    rw [← pattern, ← category, ← consumes]

theorem compileAll_cons_eq_ok_iff {state : String} {index : Nat} {rules : List RuleDef}
    {results : List Rule} :
    compileAll states state index (rule :: rules) = .ok results ↔
      ∃ compiled rest, rule.Compiles states ⟨state, index⟩ compiled ∧
        compileAll states state (index + 1) rules = .ok rest ∧ results = compiled :: rest := by
  rw [compileAll]
  simp only [bind, Except.bind_eq_ok_iff, pure, Except.pure, Except.ok.injEq, compile_eq_ok_iff]
  constructor
  · rintro ⟨compiled, compiles, rest, restCompiles, rfl⟩
    exact ⟨compiled, rest, compiles, restCompiles, rfl⟩
  · rintro ⟨compiled, rest, compiles, restCompiles, rfl⟩
    exact ⟨compiled, compiles, rest, restCompiles, rfl⟩

/-- The rules of a state are compiled one by one, in order. -/
theorem forall₂_of_compileAll {state : String} {index : Nat} {rules : List RuleDef}
    {results : List Rule} (compiles : compileAll states state index rules = .ok results) :
    List.Forall₂ (fun rule compiled => ∃ position, rule.Compiles states ⟨state, position⟩ compiled)
      rules results := by
  induction rules generalizing index results with
  | nil =>
      cases compiles
      exact List.Forall₂.nil
  | cons rule rules ih =>
      rcases compileAll_cons_eq_ok_iff.mp compiles with
        ⟨first, rest, firstCompiles, restCompiles, rfl⟩
      exact List.Forall₂.cons ⟨index, firstCompiles⟩ (ih restCompiles)

theorem length_of_compileAll {state : String} {index : Nat} {rules : List RuleDef}
    {results : List Rule} (compiles : compileAll states state index rules = .ok results) :
    results.length = rules.length :=
  (forall₂_of_compileAll compiles).length_eq.symm

end RuleDef

namespace RuleTable

variable {definition : Definition} {table : RuleTable} {index : Nat} {name : String}
  {rules : List RuleDef}

/-- The parts of a compiled definition. -/
structure BuiltFrom (table : RuleTable) (definition : Definition) : Prop where
  entry : ∃ position, definition.states.indexOf? definition.header.entry = some position ∧
    table.entry = .ofPosition position
  states : (definition.states.traverse fun state rules =>
    RuleDef.compileAll definition.states state 0 rules) = .ok table.states
  copied : table.info = definition.header.toLexerInfo ∧
    table.fallback = definition.header.fallback

theorem build_eq_ok_iff : build definition = .ok table ↔ table.BuiltFrom definition := by
  rw [build]
  constructor
  · intro built
    split at built
    · cases built
    · rename_i position found
      simp only [bind, Except.bind_eq_ok_iff, pure, Except.pure, Except.ok.injEq] at built
      rcases built with ⟨states, traversed, rfl⟩
      exact ⟨⟨position, found, rfl⟩, traversed, rfl, rfl⟩
  · rintro ⟨⟨position, found, entry⟩, traversed, info, fallback⟩
    simp only [found, traversed, bind, Except.bind, pure, Except.pure, Except.ok.injEq]
    rw [← entry, ← info, ← fallback]

theorem exists_build_iff : (∃ table, build definition = .ok table) ↔
    definition.header.entry ∈ definition.states.keys ∧
      ∀ entry ∈ definition.states.entries,
        ∃ compiled, RuleDef.compileAll definition.states entry.1 0 entry.2 = .ok compiled := by
  rw [OrderedMap.mem_keys_iff, ← OrderedMap.exists_traverse_iff (f := fun state rules =>
    RuleDef.compileAll definition.states state 0 rules)]
  simp only [build_eq_ok_iff]
  constructor
  · rintro ⟨table, ⟨position, found, -⟩, traversed, -⟩
    exact ⟨⟨position, found⟩, table.states, traversed⟩
  · rintro ⟨⟨position, found⟩, states, traversed⟩
    exact ⟨⟨_, states, _, _⟩, ⟨position, found, rfl⟩, traversed, rfl, rfl⟩

theorem stateName?_eq (table : RuleTable) (state : StateId) :
    table.stateName? state = table.states.keys[state.index]? := by
  rw [stateName?, OrderedMap.get?, OrderedMap.keys, List.getElem?_map]

theorem BuiltFrom.stateName? (built : table.BuiltFrom definition) (state : StateId) :
    table.stateName? state = definition.states.keys[state.index]? := by
  rw [stateName?_eq, OrderedMap.keys_traverse built.states]

/-- A position that is no greater than the greatest number is the number of the state there. -/
theorem BuiltFrom.stateName?_ofPosition (built : table.BuiltFrom definition)
    (small : index < 0x100000000) (found : definition.states.indexOf? name = some index) :
    table.stateName? (.ofPosition index) = some name := by
  rw [built.stateName?, StateId.ofPosition_of_lt small]
  exact OrderedMap.indexOf?_eq_some_iff.mp found

/-- The rules at a position are the compiled rules of the state there. -/
theorem BuiltFrom.rulesFor (built : table.BuiltFrom definition)
    (found : definition.states.get? index = some (name, rules)) :
    RuleDef.compileAll definition.states name 0 rules = .ok (table.rulesFor ⟨index⟩) := by
  rcases OrderedMap.get?_traverse built.states found with ⟨compiled, present, compiles⟩
  rw [RuleTable.rulesFor, present]
  exact compiles

/-- Compiling keeps every rule of every state. -/
theorem BuiltFrom.ruleCount (built : table.BuiltFrom definition) :
    table.ruleCount = definition.ruleCount := by
  have compiled := OrderedMap.forall₂_of_traverse built.states
  simp only [RuleTable.ruleCount, Definition.ruleCount, OrderedMap.values]
  generalize definition.states.entries = entries at compiled ⊢
  generalize table.states.entries = results at compiled ⊢
  induction compiled with
  | nil => rfl
  | cons first later ih =>
      have length_eq := RuleDef.length_of_compileAll first.2
      simp [length_eq, ih]

end RuleTable

end RuleLexer
