import RuleLexer.Proofs.RuleTable.Build

/-!
# Why a definition does not compile

A rule can have four faults: its pattern is malformed, the pattern lacks the group that a rule which
only looks ahead needs, its lookbehind is malformed, or its target is no state. Each of them is said
here by itself, whatever else is wrong with the rule. A definition compiles exactly if its entry
state is defined and no rule has a fault. Otherwise the error is about the entry state, or else it
is the first fault of the first faulty rule, the states taken in order and the rules of each state
in order.
-/

namespace RuleLexer

variable {states : OrderedMap (List RuleDef)} {site : RuleSite} {rule : RuleDef}
  {error other : BuildError}

theorem Except.bind_eq_error_iff {ε α β : Type} {first : Except ε α} {next : α → Except ε β}
    {failure : ε} :
    first.bind next = .error failure ↔
      first = .error failure ∨ ∃ value, first = .ok value ∧ next value = .error failure := by
  cases first <;> simp [Except.bind]

theorem Except.exists_ok_or_error {ε α : Type} (result : Except ε α) :
    (∃ value, result = .ok value) ∨ ∃ failure, result = .error failure := by
  cases result <;> simp

namespace BuildError

/-- The place of a fault in the order in which the parts of a rule are looked at. -/
def rank : BuildError → Nat
  | missingEntryState _ => 0
  | invalidPattern _ _ _ => 1
  | missingCapture _ _ => 2
  | invalidLookbehind _ _ _ => 3
  | unknownState _ _ => 4

end BuildError

namespace RuleDef

/-- Nothing is wrong with a rule among the states of a definition. -/
structure Sound (rule : RuleDef) (states : OrderedMap (List RuleDef)) : Prop where
  pattern : ∃ program, Regex.Program.ofText rule.pattern = .ok program
  group : rule.consumes = false → ∀ program, Regex.Program.ofText rule.pattern = .ok program →
    0 < program.groupCount
  lookbehind : ∀ pattern, rule.lookbehind = some pattern →
    ∃ program, Regex.Program.ofText pattern = .ok program
  target : ∀ target, rule.next = some target → target ≠ popTarget → target ∈ states.keys

/-- Something is wrong with a rule, and this is the error that says so. -/
inductive Fault (rule : RuleDef) (states : OrderedMap (List RuleDef)) (site : RuleSite) :
    BuildError → Prop
  | pattern {cause : Regex.PatternError}
      (malformed : Regex.Program.ofText rule.pattern = .error cause) :
      Fault rule states site (.invalidPattern site rule.pattern cause)
  | group {program : Regex.Program} (compiles : Regex.Program.ofText rule.pattern = .ok program)
      (ahead : rule.consumes = false) (none : program.groupCount = 0) :
      Fault rule states site (.missingCapture site rule.pattern)
  | lookbehind {pattern : String} {cause : Regex.PatternError}
      (given : rule.lookbehind = some pattern)
      (malformed : Regex.Program.ofText pattern = .error cause) :
      Fault rule states site (.invalidLookbehind site pattern cause)
  | target {target : String} (next : rule.next = some target) (other : target ≠ popTarget)
      (unknown : target ∉ states.keys) :
      Fault rule states site (.unknownState site target)

/-- The error says what is wrong with a rule, and nothing that is looked at before is wrong. -/
structure FirstFault (rule : RuleDef) (states : OrderedMap (List RuleDef)) (site : RuleSite)
    (error : BuildError) : Prop where
  fault : rule.Fault states site error
  first : ∀ other, rule.Fault states site other → error.rank ≤ other.rank

theorem Fault.site?_eq (fault : rule.Fault states site error) : error.site? = some site := by
  cases fault <;> rfl

theorem Fault.eq_of_rank (fault : rule.Fault states site error)
    (fault' : rule.Fault states site other) (same : error.rank = other.rank) : error = other := by
  cases fault <;> cases fault' <;> simp_all [BuildError.rank]

theorem Sound.not_fault (sound : rule.Sound states) : ¬rule.Fault states site error := by
  intro fault
  cases fault with
  | pattern malformed =>
      rcases sound.pattern with ⟨program, compiles⟩
      simp [malformed] at compiles
  | group compiles ahead none =>
      have positive := sound.group ahead _ compiles
      omega
  | lookbehind given malformed =>
      rcases sound.lookbehind _ given with ⟨program, compiles⟩
      simp [malformed] at compiles
  | target next other unknown => exact unknown (sound.target _ next other)

theorem compilePattern_eq_ok_iff {program : Regex.Program} :
    rule.compilePattern site = .ok program ↔
      Regex.Program.ofText rule.pattern = .ok program ∧
        (rule.consumes = false → 0 < program.groupCount) := by
  unfold compilePattern
  cases Regex.Program.ofText rule.pattern with
  | error cause => simp
  | ok compiled =>
      simp only [Except.ok.injEq]
      split
      · rename_i lacks
        simp only [Bool.and_eq_true, Bool.not_eq_true', beq_iff_eq] at lacks
        simp only [reduceCtorEq, lacks.1, forall_const, false_iff, not_and]
        rintro rfl
        omega
      · rename_i has
        simp only [Bool.and_eq_true, Bool.not_eq_true', beq_iff_eq, not_and] at has
        simp only [Except.ok.injEq, iff_self_and]
        rintro rfl ahead
        exact Nat.pos_of_ne_zero (has ahead)

theorem compilePattern_eq_error (failed : rule.compilePattern site = .error error) :
    rule.FirstFault states site error := by
  unfold compilePattern at failed
  split at failed
  · rename_i cause malformed
    cases failed
    refine ⟨Fault.pattern malformed, ?_⟩
    intro other fault
    cases fault <;> simp [BuildError.rank]
  · rename_i program compiles
    split at failed
    · rename_i lacks
      cases failed
      simp only [Bool.and_eq_true, Bool.not_eq_true', beq_iff_eq] at lacks
      refine ⟨Fault.group compiles lacks.1 lacks.2, ?_⟩
      intro other fault
      cases fault <;> simp_all [BuildError.rank]
    · cases failed

theorem compileLookbehind_eq_ok_iff {compiled : Option Regex.Program} :
    rule.compileLookbehind site = .ok compiled ↔
      (rule.lookbehind = none ∧ compiled = none) ∨
        ∃ pattern program, rule.lookbehind = some pattern ∧
          Regex.Program.ofText pattern = .ok program ∧ compiled = some program := by
  unfold compileLookbehind
  cases rule.lookbehind with
  | none => simp [eq_comm]
  | some pattern =>
      cases read : Regex.Program.ofText pattern <;> simp [read, eq_comm]

/-- After a pattern that compiles, only the lookbehind and the target can be wrong. -/
theorem Fault.three_le_rank {program : Regex.Program}
    (compiles : rule.compilePattern site = .ok program)
    (fault : rule.Fault states site error) : 3 ≤ error.rank := by
  rcases compilePattern_eq_ok_iff.mp compiles with ⟨read, groups⟩
  cases fault with
  | pattern malformed => simp [malformed] at read
  | group compiles ahead none =>
      rw [read] at compiles
      cases compiles
      have positive := groups ahead
      omega
  | lookbehind given malformed => simp [BuildError.rank]
  | target next other unknown => simp [BuildError.rank]

theorem compileLookbehind_eq_error {program : Regex.Program}
    (compiles : rule.compilePattern site = .ok program)
    (failed : rule.compileLookbehind site = .error error) :
    rule.FirstFault states site error := by
  unfold compileLookbehind at failed
  split at failed
  · cases failed
  · rename_i pattern given
    split at failed
    · rename_i cause malformed
      cases failed
      refine ⟨Fault.lookbehind given malformed, ?_⟩
      intro other fault
      exact fault.three_le_rank compiles
    · cases failed

/-- After a lookbehind that compiles, only the target can be wrong. -/
theorem Fault.four_le_rank {program : Regex.Program} {compiled : Option Regex.Program}
    (compiles : rule.compilePattern site = .ok program)
    (compiles' : rule.compileLookbehind site = .ok compiled)
    (fault : rule.Fault states site error) : 4 ≤ error.rank := by
  have late := fault.three_le_rank compiles
  cases fault with
  | pattern malformed => simp [BuildError.rank] at late
  | group compiles ahead none => simp [BuildError.rank] at late
  | lookbehind given malformed =>
      rcases compileLookbehind_eq_ok_iff.mp compiles' with ⟨absent, -⟩ | ⟨_, _, given', read, -⟩
      · simp [absent] at given
      · rw [given] at given'
        cases given'
        simp [malformed] at read
  | target next other unknown => simp [BuildError.rank]

theorem resolveTarget_eq_error {program : Regex.Program} {compiled : Option Regex.Program}
    (compiles : rule.compilePattern site = .ok program)
    (compiles' : rule.compileLookbehind site = .ok compiled)
    (failed : rule.resolveTarget states site = .error error) :
    rule.FirstFault states site error := by
  unfold resolveTarget at failed
  split at failed
  · cases failed
  · rename_i target next
    split at failed
    · cases failed
    · rename_i other
      split at failed
      · rename_i missing
        cases failed
        have unknown : target ∉ states.keys := by
          intro mem
          rcases OrderedMap.mem_keys_iff.mp mem with ⟨position, found⟩
          simp [missing] at found
        refine ⟨Fault.target next other unknown, ?_⟩
        intro other fault
        exact fault.four_le_rank compiles compiles'
      · cases failed

theorem Resolves.target_mem {transition : Option Transition} {target : String}
    (resolves : rule.Resolves states transition) (next : rule.next = some target)
    (other : target ≠ popTarget) : target ∈ states.keys := by
  rcases resolves.exists_push next other with ⟨position, found, -⟩
  exact OrderedMap.mem_keys_iff.mpr ⟨position, found⟩

theorem sound_of_compile {compiled : Rule} (compiles : rule.compile states site = .ok compiled) :
    rule.Sound states := by
  rcases compile_eq_ok_iff.mp compiles with ⟨program, lookbehind, transition, -⟩
  rcases compilePattern_eq_ok_iff.mp program with ⟨read, groups⟩
  constructor
  · exact ⟨_, read⟩
  · intro ahead program' read'
    rw [read] at read'
    cases read'
    exact groups ahead
  · intro pattern given
    rcases compileLookbehind_eq_ok_iff.mp lookbehind with ⟨absent, -⟩ | ⟨_, _, given', read', -⟩
    · simp [absent] at given
    · rw [given] at given'
      cases given'
      exact ⟨_, read'⟩
  · intro target next other
    exact transition.target_mem next other

theorem firstFault_of_compile (failed : rule.compile states site = .error error) :
    rule.FirstFault states site error := by
  unfold compile at failed
  simp only [bind, Except.bind_eq_error_iff, pure, Except.pure, reduceCtorEq, and_false,
    exists_const, or_false] at failed
  rcases failed with failed | ⟨program, compiles, failed | ⟨lookbehind, compiles', failed⟩⟩
  · exact compilePattern_eq_error failed
  · exact compileLookbehind_eq_error compiles failed
  · exact resolveTarget_eq_error compiles compiles' failed

theorem exists_compile_iff :
    (∃ compiled, rule.compile states site = .ok compiled) ↔ rule.Sound states := by
  constructor
  · rintro ⟨compiled, compiles⟩
    exact sound_of_compile compiles
  · intro sound
    rcases Except.exists_ok_or_error (rule.compile states site) with compiles | ⟨error, failed⟩
    · exact compiles
    · exact absurd (firstFault_of_compile failed).fault sound.not_fault

theorem compile_eq_error_iff :
    rule.compile states site = .error error ↔ rule.FirstFault states site error := by
  constructor
  · exact firstFault_of_compile
  · intro first
    rcases Except.exists_ok_or_error (rule.compile states site) with
      ⟨compiled, compiles⟩ | ⟨error', failed⟩
    · exact absurd first.fault (sound_of_compile compiles).not_fault
    · have first' := firstFault_of_compile failed
      have same : error.rank = error'.rank :=
        Nat.le_antisymm (first.first _ first'.fault) (first'.first _ first.fault)
      rw [failed, first.fault.eq_of_rank first'.fault same]

variable {state : String} {index : Nat} {rules : List RuleDef}

theorem exists_compileAll_iff :
    (∃ compiled, compileAll states state index rules = .ok compiled) ↔
      ∀ rule ∈ rules, rule.Sound states := by
  induction rules generalizing index with
  | nil => simp [compileAll]
  | cons rule rules ih =>
      rw [List.forall_mem_cons]
      constructor
      · rintro ⟨results, compiles⟩
        rcases compileAll_cons_eq_ok_iff.mp compiles with ⟨compiled, rest, first, later, -⟩
        exact ⟨sound_of_compile (compile_eq_ok_iff.mpr first), ih.mp ⟨rest, later⟩⟩
      · rintro ⟨sound, later⟩
        rcases exists_compile_iff.mpr sound with ⟨compiled, compiles⟩
        rcases ih.mpr later with ⟨rest, restCompiles⟩
        have first := compile_eq_ok_iff.mp compiles
        exact ⟨_, compileAll_cons_eq_ok_iff.mpr ⟨compiled, rest, first, restCompiles, rfl⟩⟩

/-- The rules of a state fail with the error of one of them that comes after sound ones only. -/
theorem compileAll_eq_error_iff :
    compileAll states state index rules = .error error ↔
      ∃ front rule back, rules = front ++ rule :: back ∧
        (∀ earlier ∈ front, earlier.Sound states) ∧
        rule.FirstFault states ⟨state, index + front.length⟩ error := by
  induction rules generalizing index with
  | nil => simp [compileAll]
  | cons first rules ih =>
      simp only [compileAll, bind, Except.bind_eq_error_iff, pure, Except.pure, reduceCtorEq,
        and_false, exists_const, or_false, compile_eq_error_iff, ih]
      constructor
      · rintro (failed | ⟨compiled, compiles, front, rule, back, rfl, sound, failed⟩)
        · exact ⟨[], first, rules, rfl, by simp, failed⟩
        · refine ⟨first :: front, rule, back, rfl, ?_, ?_⟩
          · rw [List.forall_mem_cons]
            exact ⟨sound_of_compile compiles, sound⟩
          · simpa [Nat.add_assoc, Nat.add_comm 1] using failed
      · rintro ⟨front, rule, back, split, sound, failed⟩
        rcases List.cons_eq_append_iff.mp split with ⟨rfl, same⟩ | ⟨front', rfl, rfl⟩
        · cases same
          exact Or.inl failed
        · right
          rw [List.forall_mem_cons] at sound
          rcases exists_compile_iff.mpr sound.1 with ⟨compiled, compiles⟩
          refine ⟨compiled, compiles, front', rule, back, rfl, sound.2, ?_⟩
          simpa [Nat.add_assoc, Nat.add_comm 1] using failed

end RuleDef

namespace Definition

variable {definition : Definition}

/-- The error is about the rule at a site, it is the first fault of this rule, and all rules before
it are sound: those of the states before its own, and those before it in its own state. -/
inductive FirstFault (definition : Definition) : RuleSite → BuildError → Prop
  | intro {before after : List (String × List RuleDef)} {name : String} {front back : List RuleDef}
      {rule : RuleDef} {error : BuildError}
      (place : definition.states.entries = before ++ (name, front ++ rule :: back) :: after)
      (statesBefore : ∀ entry ∈ before, ∀ earlier ∈ entry.2, earlier.Sound definition.states)
      (rulesBefore : ∀ earlier ∈ front, earlier.Sound definition.states)
      (fault : rule.FirstFault definition.states ⟨name, front.length⟩ error) :
      FirstFault definition ⟨name, front.length⟩ error

theorem FirstFault.site?_eq (fault : definition.FirstFault site error) :
    error.site? = some site := by
  cases fault with
  | intro place statesBefore rulesBefore fault => exact fault.fault.site?_eq

end Definition

namespace OrderedMap

variable {α β ε : Type} {f : String → α → Except ε β} {failure : ε}

theorem traverseEntries_eq_error_iff {entries : List (String × α)} :
    traverseEntries f entries = .error failure ↔
      ∃ before name value after, entries = before ++ (name, value) :: after ∧
        (∀ entry ∈ before, ∃ made, f entry.1 entry.2 = .ok made) ∧
        f name value = .error failure := by
  induction entries with
  | nil => simp [traverseEntries]
  | cons entry entries ih =>
      rcases entry with ⟨name, value⟩
      unfold traverseEntries
      constructor
      · intro failed
        split at failed
        · rename_i failedHere
          cases failed
          exact ⟨[], name, value, entries, rfl, by simp, failedHere⟩
        · rename_i made applied
          split at failed
          · rename_i failedLater
            cases failed
            rcases ih.mp failedLater with ⟨before, name', value', after, rfl, each, failed⟩
            refine ⟨(name, value) :: before, name', value', after, rfl, ?_, failed⟩
            rw [List.forall_mem_cons]
            exact ⟨⟨made, applied⟩, each⟩
          · cases failed
      · rintro ⟨before, name', value', after, split, each, failed⟩
        rcases List.cons_eq_append_iff.mp split with ⟨rfl, same⟩ | ⟨before', rfl, rfl⟩
        · cases same
          simp [failed]
        · rw [List.forall_mem_cons] at each
          rcases each.1 with ⟨made, applied⟩
          simp only at applied
          simp only [applied, ih.mpr ⟨before', name', value', after, rfl, each.2, failed⟩]

theorem traverse_eq_error_iff {map : OrderedMap α} :
    map.traverse f = .error failure ↔ traverseEntries f map.entries = .error failure := by
  unfold traverse
  split
  · rename_i failure' failed
    simp [failed]
  · rename_i results traversed
    simp [traversed]

end OrderedMap

namespace RuleTable

variable {definition : Definition}

theorem exists_build_iff_sound : (∃ table, build definition = .ok table) ↔
    definition.header.entry ∈ definition.states.keys ∧
      ∀ entry ∈ definition.states.entries, ∀ rule ∈ entry.2, rule.Sound definition.states := by
  simp only [exists_build_iff, RuleDef.exists_compileAll_iff]

theorem traverse_compileAll_eq_error_iff :
    (definition.states.traverse fun state rules =>
        RuleDef.compileAll definition.states state 0 rules) = .error error ↔
      ∃ site, definition.FirstFault site error := by
  simp only [OrderedMap.traverse_eq_error_iff, OrderedMap.traverseEntries_eq_error_iff,
    RuleDef.exists_compileAll_iff, RuleDef.compileAll_eq_error_iff, Nat.zero_add]
  constructor
  · rintro ⟨before, name, _, after, place, sound, front, rule, back, rfl, soundBefore, fault⟩
    exact ⟨_, Definition.FirstFault.intro place sound soundBefore fault⟩
  · rintro ⟨site, fault⟩
    cases fault with
    | intro place sound soundBefore fault =>
        exact ⟨_, _, _, _, place, sound, _, _, _, rfl, soundBefore, fault⟩

theorem build_of_entry_missing (missing : definition.header.entry ∉ definition.states.keys) :
    build definition = .error (.missingEntryState definition.header.entry) := by
  have absent : definition.states.indexOf? definition.header.entry = none := by
    cases found : definition.states.indexOf? definition.header.entry with
    | none => rfl
    | some position => exact absurd (OrderedMap.mem_keys_iff.mpr ⟨position, found⟩) missing
  simp only [build, absent]
  rfl

theorem build_eq_error_iff_of_entry (present : definition.header.entry ∈ definition.states.keys) :
    build definition = .error error ↔ ∃ site, definition.FirstFault site error := by
  rcases OrderedMap.mem_keys_iff.mp present with ⟨position, found⟩
  simp only [build, found, bind, Except.bind_eq_error_iff, pure, Except.pure, reduceCtorEq,
    and_false, exists_const, or_false, traverse_compileAll_eq_error_iff]

/-- The entry state is reported exactly if it is not defined. A definition compiles exactly if its
entry state is defined and all its rules are sound. Otherwise, if the entry state is defined, the
error is the first fault of the first faulty rule, and it names the place of this rule. -/
theorem build_reports_first_fault (definition : Definition) :
    ((∃ entry, build definition = .error (.missingEntryState entry)) ↔
      definition.header.entry ∉ definition.states.keys) ∧
    ((∃ table, build definition = .ok table) ↔
      definition.header.entry ∈ definition.states.keys ∧
        ∀ entry ∈ definition.states.entries, ∀ rule ∈ entry.2, rule.Sound definition.states) ∧
    ∀ error, build definition = .error error ↔
      (definition.header.entry ∉ definition.states.keys ∧
        error = .missingEntryState definition.header.entry) ∨
      (definition.header.entry ∈ definition.states.keys ∧
        ∃ site, definition.FirstFault site error ∧ error.site? = some site) := by
  refine ⟨?_, exists_build_iff_sound, ?_⟩
  · constructor
    · rintro ⟨entry, failed⟩ present
      rcases (build_eq_error_iff_of_entry present).mp failed with ⟨site, fault⟩
      have named := fault.site?_eq
      simp [BuildError.site?] at named
    · intro missing
      exact ⟨_, build_of_entry_missing missing⟩
  · intro error
    by_cases present : definition.header.entry ∈ definition.states.keys
    · simp only [present, not_true_eq_false, false_and, true_and, false_or]
      rw [build_eq_error_iff_of_entry present]
      constructor
      · rintro ⟨site, fault⟩
        exact ⟨site, fault, fault.site?_eq⟩
      · rintro ⟨site, fault, -⟩
        exact ⟨site, fault⟩
    · simp [build_of_entry_missing present, present, eq_comm]

end RuleTable

end RuleLexer
