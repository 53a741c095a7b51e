import RuleLexer.Proofs.RuleFile.Blocks
import RuleLexer.RuleFile.Reader

/-!
# Reading the entries of a rule file

The entries that are written for the general part, for a rule and for the states of a definition
mean what they were written for.
-/

namespace RuleLexer

theorem Category.ofName?_name (category : Category) : ofName? category.name = some category := by
  cases category <;> decide

/-- An operation that succeeds on every item succeeds on the list of them. -/
theorem mapM_eq_pure {m : Type → Type} [Monad m] [LawfulMonad m] {α β : Type} {operation : α → m β}
    {items : List α} {results : List β}
    (each : List.Forall₂ (fun item result => operation item = pure result) items results) :
    items.mapM operation = pure results := by
  induction each with
  | nil => simp
  | cons first later ih => simp [List.mapM_cons, first, ih]

namespace RuleFile

open Toml

variable {ε : Type}

theorem mapM_map_eq_ok {α β : Type} {encode : α → β} {decode : β → Except ε α}
    (decoded : ∀ value, decode (encode value) = .ok value) (values : List α) :
    (values.map encode).mapM decode = .ok values := by
  apply mapM_eq_pure
  simp only [List.forall₂_map_left_iff, List.forall₂_same]
  intro value _
  exact decoded value

theorem expectStrings_stringsValue (texts : List String) :
    (stringsValue texts).expectStrings = .ok texts := by
  have decoded : ∀ text, Value.expectString (.string text) = .ok text := fun _ => rfl
  exact mapM_map_eq_ok decoded texts

theorem readCategory_name (category : Category) :
    readCategory (.string category.name) = .ok category := by
  have named := category.ofName?_name
  simp [readCategory, expecting, Value.expectString, Except.mapError, Category.ofName, named, bind,
    Except.bind]

/-- The general part is read back. -/
theorem readHeader_headerEntries (header : Header) :
    readHeader (.table .headed (headerEntries header)) = .ok header := by
  have fallback := readCategory_name header.fallback
  have aliases := expectStrings_stringsValue header.aliases
  have filenames := expectStrings_stringsValue header.filenames
  simp [readHeader, headerEntries, Value.expectFields, expecting, setHeaderField, fallback, aliases,
    filenames, Value.expectString, Except.mapError, bind, Except.bind, pure, Except.pure]

/-- A rule is read back. -/
theorem readRule_ruleEntries (rule : RuleDef) :
    readRule (.table .headed (ruleEntries rule)) = .ok rule := by
  rcases rule with ⟨pattern, category, consumes, next, lookbehind⟩
  have named := readCategory_name category
  cases next <;> cases lookbehind <;>
    simp [readRule, ruleEntries, optionalEntry, Value.expectFields, expecting, setRuleField, named,
      Value.expectString, Value.expectBoolean, Except.mapError, bind, Except.bind, pure,
      Except.pure]

theorem readRules_elements (rules : List RuleDef) :
    readRules (DocumentSection.elements (rules.map ruleEntries)) = .ok rules := by
  have read := mapM_map_eq_ok readRule_ruleEntries rules
  simpa [readRules, DocumentSection.elements, Value.expectItems, expecting, Except.mapError, bind,
    Except.bind, Function.comp_def] using read

theorem readRules_none : readRules (stringsValue []) = .ok [] := rfl

end RuleFile

end RuleLexer
