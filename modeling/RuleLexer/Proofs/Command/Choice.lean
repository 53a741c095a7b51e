import RuleLexer.Command.LexerChoice
import RuleLexer.Proofs.Bundled.Expressions
import RuleLexer.Proofs.Command.Input
import RuleLexer.Proofs.RuleFile.RoundTrip

/-!
# Which lexer is chosen

A choice that all inputs have in common does not look at the input. Detecting a lexer by the name of
the input leads to the bundled language itself, which always compiles; it fails only where no name
matches, and then with the failure of the default language. So a rule file that is named for an
alias of a bundled language stands for the language where the alias is given, but not where the
language is detected by a file name.
-/

namespace RuleLexer

namespace Bundled

variable {language : Definition}

/-- There is one bundled language, so it is the first one with any property it has. -/
theorem find?_of_mem {condition : Definition → Bool} (bundled : language ∈ all)
    (holds : condition language = true) : all.find? condition = some language := by
  rw [all, List.mem_singleton] at bundled
  subst bundled
  rw [all, List.find?_cons_of_pos holds]

theorem exists_build (bundled : language ∈ all) :
    ∃ table, RuleTable.build language = .ok table := by
  rw [all, List.mem_singleton] at bundled
  subst bundled
  exact ⟨splTable, build_spl⟩

end Bundled

variable {files : FileSystem} {settings : Settings} {path name : String}

theorem loadRulesFile_of_entry {contents : Contents}
    (present : files.entry path = .file contents) :
    loadRulesFile files path = (do
      let text ← contents.readText.mapError .reading
      (RuleFile.read text).mapError fun cause => .rules (.read cause)) := by
  rw [loadRulesFile, FileSystem.isFile_of_entry present, FileSystem.readText_of_entry present]
  rfl

theorem loadRulesFile_of_text {text : String} (present : files.entry path = .file text.toUTF8) :
    loadRulesFile files path =
      (RuleFile.read text).mapError fun cause => .rules (.read cause) := by
  rw [loadRulesFile_of_entry present, Contents.readText_eq_ok_iff.mpr rfl]
  rfl

theorem loadRulesFile_of_not_isFile (missing : files.isFile path = false) :
    loadRulesFile files path = .error (.arguments (.ruleFileNotFound path)) := by
  rw [loadRulesFile, missing]
  rfl

namespace LexerChoice

variable {choice : LexerChoice} {language : Definition}

/-- A choice that all inputs have in common does not look at the input. -/
theorem resolve_of_isFixed (fixed : choice.isFixed = true) (path other : Option String) :
    choice.resolve files settings path = choice.resolve files settings other := by
  cases choice with
  | rulesFile rules => rfl
  | language name => rfl
  | detect => cases fixed

theorem eq_detect_of_not_isFixed (fixed : ¬ choice.isFixed = true) : choice = detect := by
  cases choice with
  | rulesFile rules => exact absurd rfl fixed
  | language name => exact absurd rfl fixed
  | detect => rfl

/-- Where a bundled language is detected, it is that language, whatever files there are. -/
theorem resolve_detect_of_matches (bundled : language ∈ Bundled.all)
    (detected : language.header.matchesFilename path = true) :
    detect.resolve files settings (some path) = compileDefinition language := by
  have found : Bundled.findForFilename? path = some language :=
    Bundled.find?_of_mem bundled detected
  rw [resolve, definition, Option.bind_some, found]
  rfl

/-- An alias stands for the first rule file that is named for it. -/
theorem resolve_language_of_place {place : String}
    (found : (rulesPlaces settings name).find? files.isFile = some place)
    (path : Option String) :
    (LexerChoice.language name).resolve files settings path =
      (rulesFile place).resolve files settings path := by
  simp only [resolve, definition, definitionForAlias, found]

/-- Without a rule file that is named for it, an alias of a bundled language stands for the
language. -/
theorem resolve_language_of_matches (bundled : language ∈ Bundled.all)
    (called : language.header.matchesAlias name = true)
    (none : (rulesPlaces settings name).find? files.isFile = none) (path : Option String) :
    (LexerChoice.language name).resolve files settings path = compileDefinition language := by
  have found : Bundled.findByAlias? name = some language := Bundled.find?_of_mem bundled called
  simp only [resolve, definition, definitionForAlias, none, found]
  rfl

/-- Detecting a lexer fails only with the failure of the default language. -/
theorem resolve_detect_eq_error {path : Option String} {failure : CommandError}
    (fails : detect.resolve files settings path = .error failure) :
    (LexerChoice.language settings.defaultLanguage).resolve files settings none =
      .error failure := by
  rw [resolve, definition] at fails
  split at fails
  · rename_i language found
    rw [Option.bind_eq_some_iff] at found
    rcases found with ⟨name, -, found⟩
    rcases Bundled.exists_build (List.mem_of_find?_eq_some found) with ⟨table, built⟩
    simp [compileDefinition, built, Except.mapError, bind, Except.bind] at fails
  · exact fails

/-- Whatever the inputs are, detecting their lexers fails with one failure only. -/
theorem resolve_detect_error_unique {path other : Option String} {failure failure' : CommandError}
    (fails : detect.resolve files settings path = .error failure)
    (fails' : detect.resolve files settings other = .error failure') : failure = failure' := by
  have same := (resolve_detect_eq_error fails).symm.trans (resolve_detect_eq_error fails')
  exact Except.error.inj same

/-- A bundled language that is detected by a file name is compiled as it is. This is what an alias
of the language leads to exactly if the first rule file named for the alias, if there is one, gives
the same. -/
theorem detect_eq_language_iff (bundled : language ∈ Bundled.all)
    (detected : language.header.matchesFilename path = true)
    (called : language.header.matchesAlias name = true) (files : FileSystem)
    (settings : Settings) (other : Option String) :
    detect.resolve files settings (some path) = compileDefinition language ∧
    (detect.resolve files settings (some path) =
        (LexerChoice.language name).resolve files settings other ↔
      ∀ place, (rulesPlaces settings name).find? files.isFile = some place →
        (rulesFile place).resolve files settings none = compileDefinition language) := by
  have direct : detect.resolve files settings (some path) = compileDefinition language :=
    resolve_detect_of_matches bundled detected
  refine ⟨direct, ?_⟩
  rw [direct]
  cases found : (rulesPlaces settings name).find? files.isFile with
  | none => simp [resolve_language_of_matches bundled called found]
  | some place =>
      rw [resolve_language_of_place found, resolve_of_isFixed rfl other none]
      simp [eq_comm]

/-- A definition that is meant to stand for the bundled language. -/
def ownLanguage : Definition where
  header := { name := "Mine" }
  states :=
    { entries := [("root", [{ pattern := "x", category := .keyword }])]
      nodup_keys := by decide }

/-- The files where the definition is in a rule file that is named for the alias. -/
def ownFiles : FileSystem :=
  .ofList [("rules/spl.toml", .file (RuleFile.write ownLanguage).toUTF8)]

/-- The settings where the rule file is looked for. -/
def ownSettings : Settings where
  rulesDirs := ["rules"]

theorem matches_spl : Bundled.spl ∈ Bundled.all ∧
    Bundled.spl.header.matchesFilename "a.spl" = true ∧
      Bundled.spl.header.matchesAlias "spl" = true :=
  ⟨List.mem_singleton_self _, by decide +kernel, by decide +kernel⟩

theorem load_ownLanguage :
    loadRulesFile ownFiles "rules/spl.toml" = .ok ownLanguage.emptyFirst := by
  have present : ownFiles.entry "rules/spl.toml" =
      .file (RuleFile.write ownLanguage).toUTF8 := rfl
  rw [loadRulesFile_of_text present, RuleFile.read_write]
  rfl

theorem exists_build_ownLanguage :
    ∃ table, RuleTable.build ownLanguage.emptyFirst = .ok table :=
  ⟨_, rfl⟩

/-- The alias leads to the definition in the rule file. -/
theorem exists_resolve_ownLanguage :
    ∃ table, (LexerChoice.language "spl").resolve ownFiles ownSettings none = .ok table ∧
      table.info.name = "Mine" := by
  have place : (rulesPlaces ownSettings "spl").find? ownFiles.isFile = some "rules/spl.toml" := by
    decide +kernel
  rcases exists_build_ownLanguage with ⟨table, built⟩
  refine ⟨table, ?_, ?_⟩
  · rw [resolve_language_of_place place, resolve, definition, load_ownLanguage]
    simp [compileDefinition, built, Except.mapError, bind, Except.bind]
  · rw [(RuleTable.build_eq_ok_iff.mp built).copied.1]
    rfl

/-- Without rule files, the file name and the alias lead to the same. -/
theorem detect_eq_language_spl :
    Bundled.spl ∈ Bundled.all ∧ Bundled.spl.header.matchesFilename "a.spl" = true ∧
      Bundled.spl.header.matchesAlias "spl" = true ∧
    detect.resolve ownFiles {} (some "a.spl") = compileDefinition Bundled.spl ∧
    detect.resolve ownFiles {} (some "a.spl") =
      (LexerChoice.language "spl").resolve ownFiles {} (some "a.spl") := by
  rcases matches_spl with ⟨bundled, detected, called⟩
  have agree := detect_eq_language_iff bundled detected called ownFiles {} (some "a.spl")
  refine ⟨bundled, detected, called, agree.1, agree.2.mpr ?_⟩
  intro place found
  simp [rulesPlaces] at found

/-- A rule file that is named for the alias is not what the file name leads to. -/
theorem own_rule_file_not_detected :
    Bundled.spl ∈ Bundled.all ∧ Bundled.spl.header.matchesFilename "a.spl" = true ∧
      Bundled.spl.header.matchesAlias "spl" = true ∧
    detect.resolve ownFiles ownSettings (some "a.spl") ≠
      (LexerChoice.language "spl").resolve ownFiles ownSettings (some "a.spl") := by
  rcases matches_spl with ⟨bundled, detected, called⟩
  refine ⟨bundled, detected, called, ?_⟩
  rcases exists_resolve_ownLanguage with ⟨table, resolved, own⟩
  have fixed : (LexerChoice.language "spl").isFixed = true := rfl
  have other : Bundled.splTable.info.name ≠ "Mine" := by decide +kernel
  rw [resolve_detect_of_matches bundled detected, resolve_of_isFixed fixed _ none, resolved,
    compileDefinition, Bundled.build_spl]
  intro same
  exact other (Except.ok.inj same ▸ own)

end LexerChoice

end RuleLexer
