import RuleLexer.Proofs.RuleTable.Reachable
import RuleLexer.Proofs.Scan.Alike
import RuleLexer.Proofs.Scan.Recovery

/-!
# States that cannot be reached do not matter

If some states that cannot be reached are deleted from a definition, and the rest still compiles,
the scans of a text with the two tables go alike. Every state that comes onto a stack can be
reached: the entry state, which a line feed may bring back, and the targets of the rules of such
states.
-/

namespace RuleLexer

namespace RuleTable

/-- Some states that cannot be reached may be deleted from a definition that compiles exactly if no
state that stays leads to a deleted one. If the states that can be reached have numbers of their
own, both tables then find the same tokens in every text, and after every token the cursors are at
the same offset with stacks of the same depth, on which states of the same names are, all of them
states that can be reached. -/
theorem scan_eq_of_without {definition : Definition} {table : RuleTable} {names : List String}
    (built : build definition = .ok table)
    (unreachable : ∀ name ∈ names, ¬definition.Reachable name) :
    ((∃ table', build (definition.without names) = .ok table') ↔
      ∀ state target, definition.Leads state target → state ∉ names → target ∉ names) ∧
    (definition.NumbersReachable →
      ∀ table', build (definition.without names) = .ok table' → ∀ text,
        table.tokenize text = table'.tokenize text ∧
          List.Forall₂ (fun step step' => step.1 = step'.1 ∧ step.2.offset = step'.2.offset ∧
              step.2.stack.depth = step'.2.stack.depth ∧
              table.stateName? step.2.stack.active = table'.stateName? step'.2.stack.active ∧
              List.Forall₂ (SameReachable definition table table')
                step.2.stack.toList step'.2.stack.toList)
            (table.steps (table.cursor text)) (table'.steps (table'.cursor text))) := by
  refine ⟨exists_build_without_iff built unreachable, ?_⟩
  intro numbered table' built' text
  have tables := alike_of_without (build_eq_ok_iff.mp built) (build_eq_ok_iff.mp built') numbered
  refine ⟨tokenize_alike tables text, ?_⟩
  apply (steps_alike tables (cursor_alike tables text)).imp
  intro step step' alike
  refine ⟨alike.token, alike.after.offset_eq, alike.after.depth_eq, ?_, alike.after.stack⟩
  rcases alike.after.active with ⟨name, reachable, named, named'⟩
  rw [named, named']

/-- A definition with a state between two others that neither leads to. -/
def spare : Definition where
  states :=
    { entries := [("root", [{ pattern := "a", category := .keyword, next := some "inner" }]),
        ("spare", [{ pattern := "x", category := .operator, next := some "spare" }]),
        ("inner", [{ pattern := "b", category := .operator, next := some "#pop" }])]
      nodup_keys := by decide }

theorem scan_eq_spare :
    (∀ name ∈ ["spare"], ¬spare.Reachable name) ∧ spare.NumbersReachable ∧
      ∃ table table', build spare = .ok table ∧ build (spare.without ["spare"]) = .ok table' ∧
        table.stateId? "inner" ≠ table'.stateId? "inner" ∧
        table.tokenize "aba" = table'.tokenize "aba" := by
  have unreachable : ∀ name ∈ ["spare"], ¬spare.Reachable name := by
    have entry : spare.header.entry ∈ ["root", "inner"] := by decide
    apply Definition.unreachable_of_closed entry <;> decide
  have numbered : spare.NumbersReachable := Definition.numbersReachable_of_size (by decide)
  have scans := (scan_eq_of_without rfl unreachable).2 numbered
  exact ⟨unreachable, numbered, _, _, rfl, rfl, by decide, (scans _ rfl "aba").1⟩

/-- A definition with a state that cannot be reached, to which another such state leads. -/
def orphaned : Definition where
  states :=
    { entries := [("root", [{ pattern := "a", category := .keyword }]),
        ("spare", [{ pattern := "x", category := .keyword, next := some "orphan" }]),
        ("orphan", [])]
      nodup_keys := by decide }

/-- The name of one of many states. -/
def fillerName (number : Nat) : String :=
  String.ofList (List.replicate number 'x')

theorem fillerName_injective : Function.Injective fillerName := by
  intro number other same
  simpa [fillerName] using congrArg String.length same

def fillerNames (count : Nat) : List String :=
  (List.range count).map fillerName

variable {count : Nat} {name : String} {table : RuleTable}

theorem ne_root_of_mem_fillerNames (mem : name ∈ fillerNames count) : name ≠ "root" := by
  rintro rfl
  rcases List.mem_map.mp mem with ⟨number, -, same⟩
  have letters := congrArg String.toList same
  cases number <;> simp [fillerName, List.replicate_succ] at letters

/-- A definition with many states without rules before the entry state. -/
def crowded (count : Nat) : Definition where
  states :=
    { entries := (fillerNames count).map (fun name => (name, [])) ++
        [("root", [{ pattern := "a", category := .keyword }])]
      nodup_keys := by
        have distinct : (fillerNames count).Nodup := List.nodup_range.map fillerName_injective
        simpa [List.nodup_append, distinct, Function.comp_def] using
          fun name => ne_root_of_mem_fillerNames }

theorem mem_crowded {entry : String × List RuleDef}
    (present : entry ∈ (crowded count).states.entries) :
    entry.2 = [] ∨ entry = ("root", [{ pattern := "a", category := .keyword }]) := by
  simp only [crowded, List.mem_append, List.mem_map, List.mem_singleton] at present
  rcases present with ⟨filler, -, rfl⟩ | root
  · exact Or.inl rfl
  · exact Or.inr root

theorem unreachable_crowded : ∀ name ∈ fillerNames count, ¬(crowded count).Reachable name := by
  apply Definition.unreachable_of_closed (List.mem_singleton_self "root")
  · intro entry present _ rule mem target next
    rcases mem_crowded present with none | rfl
    · simp [none] at mem
    · simp [List.mem_singleton.mp mem] at next
  · simpa using fun name => ne_root_of_mem_fillerNames

/-- Only the entry state is left without the other states. -/
theorem crowded_without : (crowded count).without (fillerNames count) = crowded 0 := by
  have root : "root" ∉ fillerNames count := fun mem => ne_root_of_mem_fillerNames mem rfl
  have none : fillerNames 0 = [] := rfl
  simp [Definition.without, crowded, OrderedMap.without, List.filter_append, root, none]

theorem exists_build_crowded (count : Nat) : ∃ table, build (crowded count) = .ok table := by
  rw [exists_build_iff_sound]
  refine ⟨by simp [crowded, OrderedMap.keys], ?_⟩
  intro entry present rule mem
  rcases mem_crowded present with none | rfl
  · simp [none] at mem
  · rw [List.mem_singleton.mp mem]
    refine ⟨⟨_, rfl⟩, ?_, ?_, ?_⟩ <;> simp

theorem get?_crowded {number : Nat} (inside : number < count) :
    (crowded count).states.get? number = some (fillerName number, []) := by
  simp [crowded, OrderedMap.get?, fillerNames, List.getElem?_append, inside]

theorem le_of_indexOf?_root {position : Nat}
    (found : (crowded count).states.indexOf? "root" = some position) : count ≤ position := by
  by_contra before
  have inside := Nat.lt_of_not_le before
  have filler := get?_crowded inside
  have mem : fillerName position ∈ fillerNames count :=
    List.mem_map_of_mem (List.mem_range.mpr inside)
  rw [OrderedMap.indexOf?_eq_some_iff, OrderedMap.keys, List.getElem?_map] at found
  rw [OrderedMap.get?] at filler
  rw [filler] at found
  exact ne_root_of_mem_fillerNames mem (Option.some.inj found)

/-- With enough states before it, the entry state has the number of a state without rules. -/
theorem rulesFor_entry_crowded (many : StateId.greatest < count)
    (built : table.BuiltFrom (crowded count)) : table.rulesFor table.entry = [] := by
  rcases built.entry with ⟨position, found, entry⟩
  have behind := le_of_indexOf?_root found
  have rules := built.rulesFor (get?_crowded many)
  rw [entry, StateId.ofPosition, Nat.min_eq_right (by omega)]
  simpa [RuleDef.compileAll] using rules.symm

theorem tokenize_crowded (many : StateId.greatest < count)
    (built : table.BuiltFrom (crowded count)) :
    table.tokenize "a" = [⟨.plainText, "a", 0, 1⟩] := by
  have noRules : table.rulesFor (StateStack.single table.entry).active = [] :=
    rulesFor_entry_crowded many built
  have noNewline : '\n' ∉ ['a'] := by decide
  have plain : table.fallback = .plainText := built.copied.2
  have size : 'a'.utf8Size = 1 := rfl
  rw [tokens_tokenize]
  refine (steps_lastLine_of_noRules [] noRules noNewline).1.trans ?_
  simp [characterTokens, characterToken, plain, size]

theorem exists_build_alone :
    ∃ table, build (crowded 0) = .ok table ∧ table.tokenize "a" = [⟨.keyword, "a", 0, 1⟩] :=
  ⟨_, rfl, by decide +kernel⟩

/-- A deleted state may be the target of a state that stays; and with more states than numbers, the
entry state may get a number of its own only when others are deleted. -/
theorem without_unreachable_differs :
    ((∃ table, build orphaned = .ok table) ∧ (∀ name ∈ ["orphan"], ¬orphaned.Reachable name) ∧
      build (orphaned.without ["orphan"]) = .error (.unknownState ⟨"spare", 0⟩ "orphan")) ∧
    ∃ table table', build (crowded 0x100000000) = .ok table ∧
      (∀ name ∈ fillerNames 0x100000000, ¬(crowded 0x100000000).Reachable name) ∧
      build ((crowded 0x100000000).without (fillerNames 0x100000000)) = .ok table' ∧
      table.tokenize "a" ≠ table'.tokenize "a" := by
  refine ⟨⟨⟨_, rfl⟩, ?_, rfl⟩, ?_⟩
  · have entry : orphaned.header.entry ∈ ["root"] := by decide
    apply Definition.unreachable_of_closed entry <;> decide
  · rcases exists_build_crowded 0x100000000 with ⟨table, built⟩
    rcases exists_build_alone with ⟨table', built', keyword⟩
    have many : StateId.greatest < 0x100000000 := by decide
    refine ⟨table, table', built, unreachable_crowded, ?_, ?_⟩
    · rw [crowded_without, built']
    · rw [tokenize_crowded many (build_eq_ok_iff.mp built), keyword]
      decide

end RuleTable

end RuleLexer
