import RuleLexer.Proofs.RuleFile.RoundTrip
import RuleLexer.Proofs.Toml.Interleaving

/-!
# Rules listed one after another

A listing is a rule file in which the general part comes first and then every rule has a block of
its own, with the states alternating in any way. Fields that have their default value may be left
out, and so may the whole general part. Such a file is read as the definition to which the rules are
added one after another, whatever is left out: the states are in the order in which they occur
first, and the rules of a state are in the order of the file.
-/

namespace RuleLexer

namespace Definition

/-- The definition that is made by adding rules one after another, each to its state. -/
def ofRules (header : Header) (rules : List (String × RuleDef)) : Definition :=
  rules.foldl (fun definition rule => definition.addRules rule.1 [rule.2]) { header }

theorem foldl_addRules (definition : Definition) (rules : List (String × RuleDef)) :
    (rules.foldl (fun definition rule => definition.addRules rule.1 [rule.2]) definition).header =
        definition.header ∧
      (rules.foldl (fun definition rule => definition.addRules rule.1 [rule.2])
          definition).states.entries =
        rules.foldl OrderedMap.addToGroup definition.states.entries := by
  induction rules generalizing definition with
  | nil => exact ⟨rfl, rfl⟩
  | cons rule rules ih => exact ih (definition.addRules rule.1 [rule.2])

theorem header_ofRules (header : Header) (rules : List (String × RuleDef)) :
    (ofRules header rules).header = header :=
  (foldl_addRules { header } rules).1

theorem entries_ofRules (header : Header) (rules : List (String × RuleDef)) :
    (ofRules header rules).states.entries = OrderedMap.groupItems rules :=
  (foldl_addRules { header } rules).2

theorem mk_states_ofRules (header : Header) (rules : List (String × RuleDef)) :
    { header, states := (ofRules header rules).states } = ofRules header rules := by
  have header_eq := header_ofRules header rules
  cases made : ofRules header rules with
  | mk own states =>
      rw [made] at header_eq
      cases header_eq
      rfl

end Definition

namespace RuleFile

open Toml
open DocumentSection (tablePart elementPart addAll?)
open Statement (IsLine Lines)
open StringForm (writeValue)
open OrderedMap (groupOf)

/-- What a listing leaves out, as far as it has its default value. -/
structure Omissions where
  /-- The table of the general part. -/
  table : Bool
  /-- The fields of the general part with certain names. -/
  field : String → Bool
  /-- Whether the rule at a position consumes its match. -/
  consumes : Nat → Bool

/-- A sequence that may be left out. -/
def keepUnless {α : Type} (leftOut : Bool) (sequence : List α) : List α :=
  if leftOut then [] else sequence

/-- Whether a field of the general part is left out. -/
def Omissions.leaves {α : Type} [BEq α] (without : Omissions) (name : String)
    (field : Header → α) (header : Header) : Bool :=
  without.field name && field header == field {}

/-- The block of the general part in a listing. -/
def listedHeader (without : Omissions) (header : Header) : List Char :=
  "[lexer]\n".toList ++
    keepUnless (without.leaves "name" (·.name) header)
      (assignmentLine "name" (writeValue header.name)) ++
    keepUnless (without.leaves "aliases" (·.aliases) header)
      (assignmentLine "aliases" (writeStrings header.aliases)) ++
    keepUnless (without.leaves "filenames" (·.filenames) header)
      (assignmentLine "filenames" (writeStrings header.filenames)) ++
    keepUnless (without.leaves "entry" (·.entry) header)
      (assignmentLine "entry" (writeValue header.entry)) ++
    keepUnless (without.leaves "fallback" (·.fallback) header)
      (assignmentLine "fallback" (writeValue header.fallback.name))

/-- The block of a rule in a listing. -/
def listedRule (leftOut : Bool) (state : String) (rule : RuleDef) : List Char :=
  "[[states.".toList ++ Key.writeName state ++ "]]\n".toList ++
    assignmentLine "pattern" (writeValue rule.pattern) ++
    assignmentLine "category" (writeValue rule.category.name) ++
    keepUnless (leftOut && rule.consumes) (assignmentLine "consumes" (toString rule.consumes).toList) ++
    optionalLine "next" rule.next ++
    optionalLine "lookbehind" rule.lookbehind

/-- The rules of a listing, each with its state and with whether it leaves out that it consumes its
match. -/
def listedRules (without : Omissions) (rules : List (String × RuleDef)) :
    List (String × RuleDef × Bool) :=
  rules.zipIdx.map fun (rule, position) => (rule.1, rule.2, without.consumes position)

def listedBlocks (without : Omissions) (header : Header) (rules : List (String × RuleDef)) :
    List (List Char) :=
  keepUnless (without.table && header == {}) [listedHeader without header] ++
    (listedRules without rules).map fun listed => listedRule listed.2.2 listed.1 listed.2.1

/-- The rule file with a block for every rule, in order, and with empty lines between the blocks. -/
def listing (without : Omissions) (header : Header) (rules : List (String × RuleDef)) : String :=
  String.ofList ((listedBlocks without header rules).intersperse ['\n']).flatten

variable {line : List Char} {field : String × Value}

/-- The entries of the general part in a listing. -/
def listedHeaderEntries (without : Omissions) (header : Header) : Entries :=
  keepUnless (without.leaves "name" (·.name) header) [("name", .string header.name)] ++
    keepUnless (without.leaves "aliases" (·.aliases) header)
      [("aliases", stringsValue header.aliases)] ++
    keepUnless (without.leaves "filenames" (·.filenames) header)
      [("filenames", stringsValue header.filenames)] ++
    keepUnless (without.leaves "entry" (·.entry) header) [("entry", .string header.entry)] ++
    keepUnless (without.leaves "fallback" (·.fallback) header)
      [("fallback", .string header.fallback.name)]

def listedRuleEntries (leftOut : Bool) (rule : RuleDef) : Entries :=
  [("pattern", .string rule.pattern), ("category", .string rule.category.name)] ++
    keepUnless (leftOut && rule.consumes) [("consumes", .boolean rule.consumes)] ++
    optionalEntry "next" rule.next ++ optionalEntry "lookbehind" rule.lookbehind

theorem lines_keepUnless (leftOut : Bool) (isLine : IsLine line (.assign (.plain field))) :
    Lines (keepUnless leftOut line) (((keepUnless leftOut [field]).map .plain).map .assign) := by
  cases leftOut with
  | true => exact Lines.nil
  | false => exact isLine.lines

theorem renders_listedHeader (without : Omissions) (header : Header) :
    Renders (listedHeader without header)
      (tablePart "lexer" (listedHeaderEntries without header)) := by
  have top : Lines "[lexer]\n".toList [.table [] "lexer"] := (Statement.isLine_table "lexer").lines
  have name := lines_keepUnless (without.leaves "name" (·.name) header)
    (isLine_string "name" header.name rfl)
  have aliases := lines_keepUnless (without.leaves "aliases" (·.aliases) header)
    (isLine_strings "aliases" header.aliases rfl)
  have filenames := lines_keepUnless (without.leaves "filenames" (·.filenames) header)
    (isLine_strings "filenames" header.filenames rfl)
  have entry := lines_keepUnless (without.leaves "entry" (·.entry) header)
    (isLine_string "entry" header.entry rfl)
  have fallback := lines_keepUnless (without.leaves "fallback" (·.fallback) header)
    (isLine_string "fallback" header.fallback.name rfl)
  have lines := ((((top.append name).append aliases).append filenames).append entry).append fallback
  rw [Renders, DocumentSection.statements, tablePart, listedHeaderEntries]
  simp only [List.map_append]
  exact lines

theorem renders_listedRule (leftOut : Bool) (state : String) (rule : RuleDef) :
    Renders (listedRule leftOut state rule)
      (elementPart "states" state (listedRuleEntries leftOut rule)) := by
  have pattern := isLine_string "pattern" rule.pattern rfl
  have category := isLine_string "category" rule.category.name rfl
  have consumes := lines_keepUnless (leftOut && rule.consumes)
    (isLine_boolean "consumes" rule.consumes rfl)
  have next := lines_optional "next" rule.next rfl
  have lookbehind := lines_optional "lookbehind" rule.lookbehind rfl
  have lines := (((((lines_ruleHeader state).append pattern.lines).append category.lines).append
    consumes).append next).append lookbehind
  rw [Renders, DocumentSection.statements, elementPart, listedRuleEntries]
  simp only [List.map_append]
  exact lines

theorem foldlM_append_ok {α ε σ : Type} {step : σ → α → Except ε σ} {first second : List α}
    {start middle stop : σ} (begins : first.foldlM step start = .ok middle)
    (ends : second.foldlM step middle = .ok stop) :
    (first ++ second).foldlM step start = .ok stop := by
  rw [List.foldlM_append, begins]
  exact ends

/-- A field that is left out makes no difference if it would not change anything. -/
theorem foldlM_keepUnless {ε σ : Type} {step : σ → String × Value → Except ε σ} {state next : σ}
    {leftOut : Bool} (same : leftOut = true → state = next) (set : step state field = .ok next) :
    (keepUnless leftOut [field]).foldlM step state = .ok next := by
  cases leftOut with
  | true =>
      rw [same rfl]
      rfl
  | false => simp [keepUnless, set]

theorem foldlM_headerField {α : Type} [BEq α] [LawfulBEq α] {name : String} {value : Value}
    {present next : Header} (without : Omissions) (header : Header) (part : Header → α)
    (same : part header = part {} → present = next)
    (set : setHeaderField present name value = .ok next) :
    (keepUnless (without.leaves name part header) [(name, value)]).foldlM
      (fun header field => setHeaderField header field.1 field.2) present = .ok next := by
  apply foldlM_keepUnless
  · intro leaves
    simp only [Omissions.leaves, Bool.and_eq_true, beq_iff_eq] at leaves
    exact same leaves.2
  · exact set

/-- The general part is read back, whatever is left out of it. -/
theorem readHeader_listedHeaderEntries (without : Omissions) (header : Header) :
    readHeader (.table .headed (listedHeaderEntries without header)) = .ok header := by
  rcases header with ⟨⟨name, aliases, filenames⟩, entry, fallback⟩
  let whole : Header := ⟨⟨name, aliases, filenames⟩, entry, fallback⟩
  have aliasesRead := expectStrings_stringsValue aliases
  have filenamesRead := expectStrings_stringsValue filenames
  have fallbackRead := readCategory_name fallback
  have setName : setHeaderField {} "name" (.string name) = .ok { name } := rfl
  have setAliases : setHeaderField { name } "aliases" (stringsValue aliases) =
      .ok { name, aliases } := by
    simp [setHeaderField, expecting, aliasesRead, Except.mapError, bind, Except.bind, pure,
      Except.pure]
  have setFilenames : setHeaderField { name, aliases } "filenames" (stringsValue filenames) =
      .ok { name, aliases, filenames } := by
    simp [setHeaderField, expecting, filenamesRead, Except.mapError, bind, Except.bind, pure,
      Except.pure]
  have setEntry : setHeaderField { name, aliases, filenames } "entry" (.string entry) =
      .ok { name, aliases, filenames, entry } := rfl
  have setFallback : setHeaderField { name, aliases, filenames, entry } "fallback"
      (.string fallback.name) = .ok whole := by
    simp [setHeaderField, fallbackRead, bind, Except.bind, pure, Except.pure, whole]
  have readName := foldlM_headerField without whole (·.name) (by rintro (rfl : name = _); rfl) setName
  have readAliases := foldlM_headerField without whole (·.aliases)
    (by rintro (rfl : aliases = _); rfl) setAliases
  have readFilenames := foldlM_headerField without whole (·.filenames)
    (by rintro (rfl : filenames = _); rfl) setFilenames
  have readEntry := foldlM_headerField without whole (·.entry)
    (by rintro (rfl : entry = _); rfl) setEntry
  have readFallback := foldlM_headerField without whole (·.fallback)
    (by rintro (rfl : fallback = _); rfl) setFallback
  exact foldlM_append_ok (foldlM_append_ok (foldlM_append_ok (foldlM_append_ok readName readAliases)
    readFilenames) readEntry) readFallback

/-- A rule is read back, whether or not it is said that it consumes its match. -/
theorem readRule_listedRuleEntries (leftOut : Bool) (rule : RuleDef) :
    readRule (.table .headed (listedRuleEntries leftOut rule)) = .ok rule := by
  by_cases omitted : (leftOut && rule.consumes) = true
  · rcases rule with ⟨pattern, category, consumes, next, lookbehind⟩
    have named := readCategory_name category
    simp only [Bool.and_eq_true] at omitted
    cases next <;> cases lookbehind <;>
      simp [readRule, listedRuleEntries, keepUnless, optionalEntry, Value.expectFields, expecting,
        setRuleField, named, Value.expectString, Except.mapError, bind, Except.bind, pure,
        Except.pure, omitted]
  · have entries_eq : listedRuleEntries leftOut rule = ruleEntries rule := by
      simp [listedRuleEntries, ruleEntries, keepUnless, omitted]
    rw [entries_eq, readRule_ruleEntries]

/-- The rules of a state are read back from their tables. -/
theorem readRules_of_forall₂ {rows : List Entries} {rules : List RuleDef}
    (each : List.Forall₂ (fun row rule => readRule (.table .headed row) = .ok rule) rows rules) :
    readRules (DocumentSection.elements rows) = .ok rules := by
  have read : (rows.map (Value.table .headed)).mapM readRule = .ok rules := by
    apply mapM_eq_pure
    simp only [List.forall₂_map_left_iff]
    exact each
  simpa [readRules, DocumentSection.elements, Value.expectItems, expecting, Except.mapError, bind,
    Except.bind] using read

variable (without : Omissions) (header : Header) (rules : List (String × RuleDef))

/-- The tables of the rules of a listing, each with its state. -/
def listedRows : List (String × Entries) :=
  (listedRules without rules).map fun listed =>
    (listed.1, listedRuleEntries listed.2.2 listed.2.1)

/-- The sections of a listing. -/
def listedParts : List DocumentSection :=
  keepUnless (without.table && header == {})
      [tablePart "lexer" (listedHeaderEntries without header)] ++
    (listedRows without rules).map fun row => elementPart "states" row.1 row.2

theorem renders_listedBlocks :
    List.Forall₂ Renders (listedBlocks without header rules) (listedParts without header rules) := by
  apply List.rel_append
  · cases without.table && header == {} with
    | true => exact List.Forall₂.nil
    | false => exact List.Forall₂.cons (renders_listedHeader without header) List.Forall₂.nil
  · rw [listedRows, List.map_map, List.forall₂_map_left_iff, List.forall₂_map_right_iff,
      List.forall₂_same]
    intro listed _
    exact renders_listedRule listed.2.2 listed.1 listed.2.1

theorem keys_keepUnless_sublist (leftOut : Bool) (field : String × Value) :
    ((keepUnless leftOut [field]).map Prod.fst).Sublist [field.1] := by
  cases leftOut <;> simp [keepUnless]

theorem keys_optionalEntry_sublist (name : String) (text? : Option String) :
    ((optionalEntry name text?).map Prod.fst).Sublist [name] := by
  cases text? <;> simp [optionalEntry]

theorem nodup_listedHeaderEntries : ((listedHeaderEntries without header).map Prod.fst).Nodup := by
  have kept : ((listedHeaderEntries without header).map Prod.fst).Sublist headerFields := by
    simp only [listedHeaderEntries, List.map_append]
    exact ((((keys_keepUnless_sublist _ _).append (keys_keepUnless_sublist _ _)).append
      (keys_keepUnless_sublist _ _)).append (keys_keepUnless_sublist _ _)).append
        (keys_keepUnless_sublist _ _)
  exact kept.nodup (by decide)

theorem nodup_listedRuleEntries (leftOut : Bool) (rule : RuleDef) :
    ((listedRuleEntries leftOut rule).map Prod.fst).Nodup := by
  have kept : ((listedRuleEntries leftOut rule).map Prod.fst).Sublist ruleFields := by
    simp only [listedRuleEntries, List.map_append]
    exact (((List.Sublist.refl ["pattern", "category"]).append
      (keys_keepUnless_sublist _ _)).append (keys_optionalEntry_sublist "next" _)).append
        (keys_optionalEntry_sublist "lookbehind" _)
  exact kept.nodup (by decide)

/-- The general part at the top of a listing. -/
def listedTop : Entries :=
  keepUnless (without.table && header == {})
    [("lexer", .table .headed (listedHeaderEntries without header))]

/-- The table at the top of a listing. -/
def listedEntries : Entries :=
  listedTop without header ++
    keepUnless rules.isEmpty
      [("states", .table .implied
        (DocumentSection.arrays (OrderedMap.groupItems (listedRows without rules))))]

theorem addAll?_listedHeader :
    addAll? [] (keepUnless (without.table && header == {})
      [tablePart "lexer" (listedHeaderEntries without header)]) =
      some (listedTop without header) := by
  rw [listedTop]
  cases without.table && header == {} with
  | true => rfl
  | false =>
      have added : (tablePart "lexer" (listedHeaderEntries without header)).add? [] =
          some [("lexer", .table .headed (listedHeaderEntries without header))] :=
        DocumentSection.add?_tablePart (by simp) (nodup_listedHeaderEntries without header)
      simp [keepUnless, addAll?, added]

theorem not_mem_listedTop : "states" ∉ (listedTop without header).map Prod.fst := by
  intro mem
  have kept := (keys_keepUnless_sublist _ _).subset mem
  simp at kept

theorem listedRows_eq_nil_iff : listedRows without rules = [] ↔ rules = [] := by
  simp [listedRows, listedRules]

theorem addAll?_listedParts :
    addAll? [] (listedParts without header rules) = some (listedEntries without header rules) := by
  rw [listedParts, DocumentSection.addAll?_append, addAll?_listedHeader, Option.bind_some,
    listedEntries]
  by_cases several : rules = []
  · rw [(listedRows_eq_nil_iff without rules).mpr several, several]
    simp [addAll?, keepUnless]
  · have distinct : ∀ row ∈ listedRows without rules, (row.2.map Prod.fst).Nodup := by
      intro row mem
      rcases List.mem_map.mp mem with ⟨listed, -, rfl⟩
      exact nodup_listedRuleEntries listed.2.2 listed.2.1
    have present : rules.isEmpty = false := by simp [several]
    rw [DocumentSection.addAll?_interleaved_new (not_mem_listedTop without header)
      (fun none => several ((listedRows_eq_nil_iff without rules).mp none)) distinct, present]
    rfl

theorem listedBlocks_begin : ∀ block ∈ listedBlocks without header rules,
    ∃ rest, block = '[' :: rest := by
  intro block mem
  rcases List.mem_append.mp mem with headerMem | ruleMem
  · cases leftOut : without.table && header == {} with
    | true => simp [leftOut, keepUnless] at headerMem
    | false =>
        rw [leftOut] at headerMem
        cases List.mem_singleton.mp headerMem
        exact ⟨_, rfl⟩
  · rcases List.mem_map.mp ruleMem with ⟨listed, -, rfl⟩
    exact ⟨_, rfl⟩

theorem read?_listing :
    Toml.read? (listing without header rules) = some (listedEntries without header rules) := by
  have begins : ∀ block ∈ (listedBlocks without header rules).head?, ∃ rest, block = '[' :: rest := by
    intro block first
    exact listedBlocks_begin without header rules block (List.mem_of_mem_head? first)
  rw [listing, read?_blocks begins (renders_listedBlocks without header rules), addAll?_listedParts]

theorem map_listedRules :
    (listedRules without rules).map (fun listed => (listed.1, listed.2.1)) = rules := by
  simp [listedRules, Function.comp_def]

theorem names_listedRows : (listedRows without rules).map Prod.fst = rules.map Prod.fst := by
  conv_rhs => rw [← map_listedRules without rules]
  simp [listedRows, Function.comp_def]

/-- The rules of a state are read from the tables of the state. -/
theorem readRules_groupOf (state : String) :
    readRules (DocumentSection.elements (groupOf (listedRows without rules) state).2) =
      .ok (groupOf rules state).2 := by
  apply readRules_of_forall₂
  conv => arg 3; rw [← map_listedRules without rules]
  have rows_eq := OrderedMap.groupOf_map (listedRules without rules)
    (fun rule => listedRuleEntries rule.2 rule.1) state
  rw [listedRows, rows_eq, OrderedMap.groupOf_map _ Prod.fst, List.forall₂_map_left_iff,
    List.forall₂_map_right_iff, List.forall₂_same]
  intro listed _
  exact readRule_listedRuleEntries listed.2 listed.1

theorem readStates_listing :
    readStates (.table .implied
        (DocumentSection.arrays (OrderedMap.groupItems (listedRows without rules)))) =
      .ok (Definition.ofRules header rules).states := by
  let arrays := DocumentSection.arrays (OrderedMap.groupItems (listedRows without rules))
  have arrays_eq : arrays = (rules.map Prod.fst).eraseDups.map fun state =>
      (state, DocumentSection.elements (groupOf (listedRows without rules) state).2) := by
    simp only [arrays, DocumentSection.arrays, OrderedMap.groupItems_eq, List.map_map,
      names_listedRows]
    rfl
  have distinct : (arrays.map Prod.fst).Nodup := by
    simpa [arrays_eq, Function.comp_def] using OrderedMap.nodup_eraseDups (rules.map Prod.fst)
  change (OrderedMap.ofList arrays).traverse (fun _ rules => readRules rules) = _
  rw [OrderedMap.traverse_eq_ok_iff, OrderedMap.entries_ofList distinct,
    OrderedMap.traverseEntries_eq_ok_iff, Definition.entries_ofRules, OrderedMap.groupItems_eq,
    arrays_eq, List.forall₂_map_left_iff, List.forall₂_map_right_iff, List.forall₂_same]
  intro state _
  exact ⟨rfl, readRules_groupOf without rules state⟩

theorem readDefinition_listedEntries :
    readDefinition (listedEntries without header rules) = .ok (Definition.ofRules header rules) := by
  have headerRead := readHeader_listedHeaderEntries without header
  have statesRead := readStates_listing without header rules
  have general : (listedTop without header).foldlM
      (fun definition entry => setPart definition entry.1 entry.2) ({} : Definition) =
        .ok { header } := by
    apply foldlM_keepUnless
    · intro leaves
      simp only [Bool.and_eq_true, beq_iff_eq] at leaves
      rw [leaves.2]
    · simp [setPart, headerRead, bind, Except.bind, pure, Except.pure]
  apply foldlM_append_ok general
  apply foldlM_keepUnless
  · intro none
    cases List.isEmpty_iff.mp none
    rfl
  · simp only [setPart, statesRead, bind, Except.bind, pure, Except.pure]
    rw [Definition.mk_states_ofRules]

/-- A listing is read as the definition to which its rules are added one after another, whatever is
left out of it. The states are in the order in which they occur first, and each has its rules in the
order of the listing. -/
theorem read_listing (without : Omissions) (header : Header) (rules : List (String × RuleDef)) :
    read (listing without header rules) = .ok (Definition.ofRules header rules) ∧
      (Definition.ofRules header rules).header = header ∧
      (Definition.ofRules header rules).states.entries =
        (rules.map Prod.fst).eraseDups.map fun state =>
          (state, (rules.filter (·.1 == state)).map Prod.snd) := by
  refine ⟨?_, Definition.header_ofRules header rules, ?_⟩
  · rw [read, read?_listing]
    simp [readDefinition_listedEntries, Except.mapError]
  · rw [Definition.entries_ofRules, OrderedMap.groupItems_eq]
    rfl

end RuleFile

end RuleLexer
