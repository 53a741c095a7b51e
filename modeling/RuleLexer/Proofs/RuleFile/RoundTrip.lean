import RuleLexer.Proofs.Definition
import RuleLexer.Proofs.RuleFile.Decode

/-!
# Rule files are read back

A written definition is read as the definition in which the states without rules come before the
others, with the order unchanged on either side. That definition agrees with the one that was
written, and it is written as the same text.
-/

namespace RuleLexer

namespace Definition

/-- The definition with the states without rules before the others. -/
def emptyFirst (definition : Definition) : Definition where
  header := definition.header
  states :=
    { entries := definition.states.entries.filter (·.2.isEmpty) ++
        definition.states.entries.filter (!·.2.isEmpty)
      nodup_keys := by
        have rearranged := List.filter_append_perm (·.2.isEmpty) definition.states.entries
        exact (rearranged.map Prod.fst).nodup_iff.mpr definition.states.nodup_keys }

theorem emptyFirst_perm (definition : Definition) :
    definition.emptyFirst.states.entries.Perm definition.states.entries := by
  have rearranged := List.filter_append_perm (·.2.isEmpty) definition.states.entries
  exact rearranged

theorem emptyFirst_agrees (definition : Definition) :
    definition.emptyFirst.agrees definition = true := by
  rw [agrees_iff]
  exact ⟨rfl, definition.emptyFirst_perm⟩

end Definition

namespace RuleFile

open Toml
open DocumentSection (tablePart elementParts elements addAll?)
open Statement (Lines)

variable (definition : Definition)

/-- The rules of the states that have any, as they are written. -/
def groups (entries : List (String × List RuleDef)) : List (String × List Entries) :=
  (entries.filter (!·.2.isEmpty)).map fun entry => (entry.1, entry.2.map ruleEntries)

/-- Whether the table of the states has a header of its own. -/
def hasStatesBlock : Bool :=
  definition.states.entries.isEmpty || !(emptyStates definition).isEmpty

/-- The sections of a written definition. -/
def parts : List DocumentSection :=
  [tablePart "lexer" (headerEntries definition.header)] ++
    (if hasStatesBlock definition then [tablePart "states" (emptyEntries (emptyStates definition))]
      else []) ++
    (groups definition.states.entries).flatMap (elementParts "states")

theorem renders_ruleBlocks (entries : List (String × List RuleDef)) :
    List.Forall₂ Renders (entries.flatMap fun entry => entry.2.map (ruleBlock entry.1))
      ((groups entries).flatMap (elementParts "states")) := by
  induction entries with
  | nil => exact List.Forall₂.nil
  | cons entry entries ih =>
      rcases entry with ⟨state, rules⟩
      have first : List.Forall₂ Renders (rules.map (ruleBlock state))
          (elementParts "states" (state, rules.map ruleEntries)) := by
        rw [elementParts, List.map_map, List.forall₂_map_left_iff, List.forall₂_map_right_iff,
          List.forall₂_same]
        exact fun rule _ => renders_ruleBlock state rule
      have both := List.rel_append first ih
      cases rules with
      | nil => exact ih
      | cons rule rules => exact both

theorem renders_blocks : List.Forall₂ Renders (blocks definition) (parts definition) := by
  have header := renders_headerBlock definition.header
  have rules := renders_ruleBlocks definition.states.entries
  have states : List.Forall₂ Renders
      (if hasStatesBlock definition then [emptyStatesBlock (emptyStates definition)] else [])
      (if hasStatesBlock definition then
        [tablePart "states" (emptyEntries (emptyStates definition))] else []) := by
    split
    · exact List.Forall₂.cons (renders_emptyStatesBlock _) List.Forall₂.nil
    · exact List.Forall₂.nil
  exact List.rel_append
    (List.rel_append (List.Forall₂.cons header List.Forall₂.nil) states) rules

/-- How the table of the states is written. -/
def statesForm : TableForm :=
  if hasStatesBlock definition then .headed else .implied

/-- The entries of the table of the states. -/
def statesEntries : Entries :=
  emptyEntries (emptyStates definition) ++
    (groups definition.states.entries).map fun group => (group.1, elements group.2)

/-- The table at the top of a written definition. -/
def topEntries : Entries :=
  [("lexer", .table .headed (headerEntries definition.header)),
   ("states", .table (statesForm definition) (statesEntries definition))]

theorem keys_emptyEntries (states : List String) :
    (emptyEntries states).map Prod.fst = states := by
  simp [emptyEntries, Function.comp_def]

theorem keys_groups (entries : List (String × List RuleDef)) :
    (groups entries).map Prod.fst = (entries.filter (!·.2.isEmpty)).map Prod.fst := by
  simp [groups, Function.comp_def]

theorem nodup_keys_written :
    ((emptyEntries (emptyStates definition)).map Prod.fst ++
      (groups definition.states.entries).map Prod.fst).Nodup := by
  have distinct := definition.emptyFirst.states.nodup_keys
  rw [keys_emptyEntries, keys_groups, emptyStates, ← List.map_append]
  exact distinct

theorem nodup_ruleEntries (rule : RuleDef) : ((ruleEntries rule).map Prod.fst).Nodup := by
  rcases rule with ⟨pattern, category, consumes, next, lookbehind⟩
  cases next <;> cases lookbehind <;> simp [ruleEntries, optionalEntry]

theorem nodup_headerEntries (header : Header) : ((headerEntries header).map Prod.fst).Nodup := by
  simp [headerEntries]

section Groups

variable {entries : List (String × List RuleDef)} {group : String × List Entries}

theorem rows_ne_nil (mem : group ∈ groups entries) : group.2 ≠ [] := by
  simp only [groups, List.mem_map, List.mem_filter] at mem
  rcases mem with ⟨entry, ⟨-, ruled⟩, rfl⟩
  simpa using ruled

theorem nodup_rows (mem : group ∈ groups entries) :
    ∀ row ∈ group.2, (row.map Prod.fst).Nodup := by
  simp only [groups, List.mem_map, List.mem_filter] at mem
  rcases mem with ⟨entry, -, rfl⟩
  intro row rowMem
  rcases List.mem_map.mp rowMem with ⟨rule, -, rfl⟩
  exact nodup_ruleEntries rule

end Groups

/-- Without a block of its own, the table of the states is made by the rules in it. -/
theorem groups_ne_nil (missing : hasStatesBlock definition = false) :
    emptyStates definition = [] ∧ groups definition.states.entries ≠ [] := by
  simp only [hasStatesBlock, Bool.or_eq_false_iff, Bool.not_eq_false', List.isEmpty_iff,
    List.isEmpty_eq_false_iff] at missing
  rcases missing with ⟨several, noneEmpty⟩
  refine ⟨noneEmpty, ?_⟩
  rcases List.exists_mem_of_ne_nil _ several with ⟨entry, mem⟩
  have ruled : entry.2.isEmpty = false := by
    rw [emptyStates, List.map_eq_nil_iff, List.filter_eq_nil_iff] at noneEmpty
    simpa using noneEmpty entry mem
  rw [groups, ne_eq, List.map_eq_nil_iff]
  exact List.ne_nil_of_mem (List.mem_filter.mpr ⟨mem, by simp [ruled]⟩)

theorem addAll?_parts : addAll? [] (parts definition) = some (topEntries definition) := by
  have lexer : (tablePart "lexer" (headerEntries definition.header)).add? [] =
      some [("lexer", .table .headed (headerEntries definition.header))] :=
    DocumentSection.add?_tablePart (by simp) (nodup_headerEntries definition.header)
  have outerAbsent : "states" ∉
      ([("lexer", .table .headed (headerEntries definition.header))] : Entries).map Prod.fst := by
    simp
  have fresh := nodup_keys_written definition
  cases block : hasStatesBlock definition with
  | true =>
      have distinct : ((emptyEntries (emptyStates definition)).map Prod.fst).Nodup :=
        (List.nodup_append.mp fresh).1
      have states := DocumentSection.add?_tablePart outerAbsent distinct
      have rules := DocumentSection.addAll?_groups .headed _ outerAbsent (by decide) fresh
        (fun group mem => rows_ne_nil mem) fun group mem => nodup_rows mem
      simp only [parts, block, if_true, DocumentSection.addAll?_append, addAll?, lexer, states,
        Option.bind_eq_bind, Option.bind_some, rules, topEntries, statesEntries, statesForm]
      rfl
  | false =>
      rcases groups_ne_nil definition block with ⟨noneEmpty, several⟩
      rw [noneEmpty] at fresh
      have made := DocumentSection.addAll?_groups_missing outerAbsent several
        (fun group mem => rows_ne_nil mem)
      have rules := DocumentSection.addAll?_groups .implied (emptyEntries []) outerAbsent
        (by decide) fresh (fun group mem => rows_ne_nil mem) fun group mem => nodup_rows mem
      simp only [parts, block, Bool.false_eq_true, if_false, DocumentSection.addAll?_append,
        addAll?, lexer, Option.bind_eq_bind, Option.bind_some, topEntries, statesEntries,
        statesForm, noneEmpty, made]
      exact rules

/-- The document of a written definition. -/
theorem read?_write : Toml.read? (write definition) = some (topEntries definition) := by
  have begins : ∀ block ∈ (blocks definition).head?, ∃ rest, block = '[' :: rest := by
    rintro block ⟨⟩
    exact ⟨_, rfl⟩
  rw [write, read?_blocks begins (renders_blocks definition), addAll?_parts]

theorem readStates_statesEntries (form : TableForm) :
    readStates (.table form (statesEntries definition)) = .ok definition.emptyFirst.states := by
  have distinct : ((statesEntries definition).map Prod.fst).Nodup := by
    simpa [statesEntries, Function.comp_def] using nodup_keys_written definition
  change (OrderedMap.ofList (statesEntries definition)).traverse
    (fun _ rules => readRules rules) = _
  rw [OrderedMap.traverse_eq_ok_iff, OrderedMap.entries_ofList distinct,
    OrderedMap.traverseEntries_eq_ok_iff]
  refine List.rel_append ?_ ?_
  · rw [emptyEntries, emptyStates, List.map_map, List.forall₂_map_left_iff, List.forall₂_same]
    intro entry mem
    have noRules : entry.2 = [] := by simpa using (List.mem_filter.mp mem).2
    exact ⟨rfl, by simpa [noRules] using readRules_none⟩
  · rw [groups, List.map_map, List.forall₂_map_left_iff, List.forall₂_same]
    intro entry mem
    exact ⟨rfl, readRules_elements entry.2⟩

theorem readDefinition_topEntries :
    readDefinition (topEntries definition) = .ok definition.emptyFirst := by
  have header := readHeader_headerEntries definition.header
  have states := readStates_statesEntries definition (statesForm definition)
  simp [readDefinition, topEntries, setPart, header, states, bind, Except.bind, pure, Except.pure,
    Definition.emptyFirst]

theorem read_write : read (write definition) = .ok definition.emptyFirst := by
  rw [read, read?_write]
  simp [readDefinition_topEntries, Except.mapError]

theorem emptyStates_emptyFirst :
    emptyStates definition.emptyFirst = emptyStates definition := by
  simp [emptyStates, Definition.emptyFirst, List.filter_filter]

/-- States without rules have no blocks of rules, wherever they stand. -/
theorem flatMap_ruleBlocks (entries : List (String × List RuleDef)) :
    (entries.filter (·.2.isEmpty) ++ entries.filter (!·.2.isEmpty)).flatMap
        (fun entry => entry.2.map (ruleBlock entry.1)) =
      entries.flatMap fun entry => entry.2.map (ruleBlock entry.1) := by
  have nothing : (entries.filter (·.2.isEmpty)).flatMap
      (fun entry => entry.2.map (ruleBlock entry.1)) = [] := by
    rw [List.flatMap_eq_nil_iff]
    intro entry mem
    have noRules : entry.2 = [] := by simpa using (List.mem_filter.mp mem).2
    rw [noRules, List.map_nil]
  rw [List.flatMap_append, nothing, List.nil_append]
  clear nothing
  induction entries with
  | nil => rfl
  | cons entry entries ih =>
      rcases entry with ⟨state, _ | ⟨rule, rules⟩⟩
      · simpa using ih
      · simpa using ih

theorem write_emptyFirst : write definition.emptyFirst = write definition := by
  have isEmpty_eq := definition.emptyFirst_perm.isEmpty_eq
  have rules : definition.emptyFirst.states.entries.flatMap
      (fun entry => entry.2.map (ruleBlock entry.1)) =
        definition.states.entries.flatMap fun entry => entry.2.map (ruleBlock entry.1) :=
    flatMap_ruleBlocks definition.states.entries
  have same : blocks definition.emptyFirst = blocks definition := by
    rw [blocks, blocks, emptyStates_emptyFirst, isEmpty_eq, rules]
    rfl
  rw [write, write, same]

/-- A written definition is read, as one that agrees with it and is written as the same text. -/
theorem read_write_agrees (definition : Definition) :
    ∃ again, read (write definition) = .ok again ∧ again.agrees definition = true ∧
      write again = write definition :=
  ⟨definition.emptyFirst, read_write definition, definition.emptyFirst_agrees,
    write_emptyFirst definition⟩

end RuleFile

end RuleLexer
