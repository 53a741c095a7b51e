import RuleLexer.Proofs.Command.Choice
import RuleLexer.Proofs.Source.Records

/-!
# Workers and one reader

The command for tokens lets workers scan its inputs side by side, from texts that it finds in a
source map and under a table that they may have in common. What it gives is what one reader would
give who takes the inputs one after the other and resolves the lexer for each of them alone, in
whatever order the workers finish. Only resolving a lexer can fail in a worker, and where the lexers
of the inputs differ at all, all failures are that of the default language.
-/

namespace RuleLexer

namespace TokensRequest

/-- The tokens of a text under a table, merged if the request asks for it. -/
def scanned (request : TokensRequest) (table : RuleTable) (text : String) : List Token :=
  if request.merge then Token.coalesce (table.tokenize text) else table.tokenize text

/-- If all inputs have a lexer in common, it can be made. -/
def MakesCommonLexer (request : TokensRequest) (files : FileSystem) (settings : Settings) : Prop :=
  request.choice.isFixed = true →
    ∃ table, request.choice.resolve files settings none = .ok table

/-- The answer for an input alone: it has the name of the input, and it lists the tokens of the text
that the input holds under the table that the input leads to. -/
def AnswersAlone (request : TokensRequest) (files : FileSystem) (standardInput : Contents)
    (settings : Settings) (input : Input) (answer : FileTokens) : Prop :=
  ∃ text table, input.Holds files standardInput text ∧
    request.choice.resolve files settings input.path? = .ok table ∧
      answer.file = input.name ∧ answer.Lists (request.scanned table text)

/-- What one reader gives who takes the inputs one after the other. -/
inductive OneByOne (request : TokensRequest) (files : FileSystem) (standardInput : Contents)
    (settings : Settings) : Except CommandError (List FileTokens) → Prop
  /-- Standard input is named more than once. -/
  | repeated (repeated : 1 < request.arguments.count "-") :
      OneByOne request files standardInput settings
        (.error (.arguments .repeatedStandardInput))
  /-- The lexer that all inputs have in common cannot be made. -/
  | lexer {failure : CommandError} (once : request.arguments.count "-" ≤ 1)
      (fixed : request.choice.isFixed = true)
      (fails : request.choice.resolve files settings none = .error failure) :
      OneByOne request files standardInput settings (.error failure)
  /-- The first input that cannot be read. -/
  | reading {failure : CommandError} {before after : List Input} {input : Input}
      (once : request.arguments.count "-" ≤ 1)
      (lexer : request.MakesCommonLexer files settings)
      (parts : Input.named request.arguments = before ++ input :: after)
      (readable : ∀ earlier ∈ before, earlier.IsReadable files standardInput)
      (fails : input.read files standardInput = .error failure) :
      OneByOne request files standardInput settings (.error failure)
  /-- All inputs can be read, but the lexer for one of them cannot be made. -/
  | detection {failure : CommandError} {input : Input} (once : request.arguments.count "-" ≤ 1)
      (detects : request.choice = .detect)
      (readable : ∀ input ∈ Input.named request.arguments,
        input.IsReadable files standardInput)
      (mem : input ∈ Input.named request.arguments)
      (fails : request.choice.resolve files settings input.path? = .error failure) :
      OneByOne request files standardInput settings (.error failure)
  /-- Every input has its answer. -/
  | answers {answers : List FileTokens} (once : request.arguments.count "-" ≤ 1)
      (each : List.Forall₂ (request.AnswersAlone files standardInput settings)
        (Input.named request.arguments) answers) :
      OneByOne request files standardInput settings (.ok answers)

variable {request : TokensRequest} {files : FileSystem} {standardInput : Contents}
  {settings : Settings} {input : Input} {inputs : List Input} {failure : CommandError}

theorem AnswersAlone.unique {answer answer' : FileTokens}
    (alone : request.AnswersAlone files standardInput settings input answer)
    (alone' : request.AnswersAlone files standardInput settings input answer') :
    answer = answer' := by
  rcases alone with ⟨text, table, holds, resolved, name, lists⟩
  rcases alone' with ⟨text', table', holds', resolved', name', lists'⟩
  have text_eq : text = text' := by
    rw [← Input.read_eq_ok_iff] at holds holds'
    exact Except.ok.inj (holds.symm.trans holds')
  have table_eq : table = table' := Except.ok.inj (resolved.symm.trans resolved')
  subst text_eq table_eq
  exact lists.unique (name.trans name'.symm) lists'

/-- An identifier leads to the text that an input holds. -/
def Registered (files : FileSystem) (standardInput : Contents) (sources : SourceMap)
    (input : Input) (id : FileId) : Prop :=
  ∃ text, input.Holds files standardInput text ∧
    sources.get id = .ok (.ofText id input.name text)

/-- Inputs that can all be read are registered, next to what was registered before. -/
theorem exists_readInputs
    (readable : ∀ input ∈ inputs, input.IsReadable files standardInput)
    (sources : SourceMap) :
    ∃ all ids, readInputs files standardInput sources inputs = .ok (all, ids) ∧
      (∀ id file, sources.get id = .ok file → all.get id = .ok file) ∧
      List.Forall₂ (Registered files standardInput all) inputs ids := by
  induction inputs generalizing sources with
  | nil => exact ⟨sources, [], rfl, fun _ _ found => found, List.Forall₂.nil⟩
  | cons input inputs ih =>
      rcases readable input List.mem_cons_self with ⟨text, holds⟩
      have later : ∀ other ∈ inputs, other.IsReadable files standardInput :=
        fun other mem => readable other (List.mem_cons_of_mem input mem)
      rcases ih later (sources.add input.name text).1 with ⟨all, ids, made, kept, registered⟩
      refine ⟨all, (sources.add input.name text).2 :: ids, ?_, ?_, ?_⟩
      · simp [readInputs, Input.read_eq_ok_iff.mpr holds, made, bind, Except.bind, pure,
          Except.pure]
      · intro id file found
        apply kept
        exact SourceMap.get_add_of_get input.name text found
      · apply List.Forall₂.cons
        · exact ⟨text, holds, kept _ _ (SourceMap.get_add sources input.name text)⟩
        · exact registered

/-- The first input that cannot be read ends the reading. -/
theorem readInputs_eq_error {before after : List Input}
    (readable : ∀ earlier ∈ before, earlier.IsReadable files standardInput)
    (fails : input.read files standardInput = .error failure) (sources : SourceMap) :
    readInputs files standardInput sources (before ++ input :: after) = .error failure := by
  induction before generalizing sources with
  | nil => simp [readInputs, fails, bind, Except.bind]
  | cons first before ih =>
      rcases readable first List.mem_cons_self with ⟨text, holds⟩
      have later := ih (fun other mem => readable other (List.mem_cons_of_mem first mem))
        (sources.add first.name text).1
      simp [readInputs, Input.read_eq_ok_iff.mpr holds, later, bind, Except.bind]

theorem exists_related {α β : Type} {related : α → β → Prop} {first : List α} {second : List β}
    (pairs : List.Forall₂ related first second) {item : α} (mem : item ∈ first) :
    ∃ other ∈ second, related item other := by
  induction pairs with
  | nil => cases mem
  | @cons head other _ others holds later ih =>
      rcases List.mem_cons.mp mem with rfl | mem
      · exact ⟨other, List.mem_cons_self, holds⟩
      · rcases ih mem with ⟨found, found_mem, holds⟩
        exact ⟨found, List.mem_cons_of_mem other found_mem, holds⟩

/-- A worker gives the answer for its input alone, or the failure of its lexer. -/
def WorksAlone (request : TokensRequest) (files : FileSystem) (standardInput : Contents)
    (settings : Settings) (input : Input) : Except CommandError FileTokens → Prop
  | .ok answer => request.AnswersAlone files standardInput settings input answer
  | .error failure => request.choice.resolve files settings input.path? = .error failure

/-- The table that all inputs have in common, if there is one, is the table that each of them leads
to. -/
def Shares (request : TokensRequest) (files : FileSystem) (settings : Settings)
    (shared : Option RuleTable) : Prop :=
  ∀ table, shared = some table → ∀ path, request.choice.resolve files settings path = .ok table

/-- Whether or not there is a table in common, a worker has the table that its input leads to. -/
theorem tokensOf_eq {shared : Option RuleTable} (shares : request.Shares files settings shared)
    (sources : SourceMap) (input : Input) (id : FileId) :
    request.tokensOf files settings shared sources input id = (do
      let table ← request.choice.resolve files settings input.path?
      let file ← (sources.get id).mapError .source
      (file.tokenRecords table request.merge).mapError .source) := by
  cases shared with
  | none => rfl
  | some table =>
      rw [shares table rfl input.path?]
      rfl

/-- Scanning the text of an input never fails: it gives the answer for the input alone. -/
theorem exists_tokenRecords_ofText {text : String} {table : RuleTable}
    (holds : input.Holds files standardInput text)
    (resolved : request.choice.resolve files settings input.path? = .ok table) (id : FileId) :
    ∃ answer,
      (SourceFile.ofText id input.name text).tokenRecords table request.merge = .ok answer ∧
        request.AnswersAlone files standardInput settings input answer := by
  rcases (SourceFile.ofText id input.name text).exists_tokenRecords table request.merge with
    ⟨answer, made, name, lists⟩
  have content_eq : (SourceFile.ofText id input.name text).content = text :=
    String.ofList_toList
  rw [content_eq] at lists
  exact ⟨answer, made, text, table, holds, resolved, name, lists⟩

theorem worksAlone_tokensOf {shared : Option RuleTable} {sources : SourceMap} {id : FileId}
    (shares : request.Shares files settings shared)
    (registered : Registered files standardInput sources input id) :
    request.WorksAlone files standardInput settings input
      (request.tokensOf files settings shared sources input id) := by
  rcases registered with ⟨text, holds, found⟩
  rw [tokensOf_eq shares]
  cases resolved : request.choice.resolve files settings input.path? with
  | error failure => exact resolved
  | ok table =>
      rcases exists_tokenRecords_ofText holds resolved id with ⟨answer, made, alone⟩
      simp only [found, made, bind, Except.bind, Except.mapError]
      exact alone

theorem worksAlone_zipWith {shared : Option RuleTable} {sources : SourceMap} {ids : List FileId}
    (shares : request.Shares files settings shared)
    (registered : List.Forall₂ (Registered files standardInput sources) inputs ids) :
    List.Forall₂ (request.WorksAlone files standardInput settings) inputs
      (List.zipWith (request.tokensOf files settings shared sources) inputs ids) := by
  induction registered with
  | nil => exact List.Forall₂.nil
  | cons first later ih => exact List.Forall₂.cons (worksAlone_tokensOf shares first) ih

/-- Workers whose inputs have answers succeed with these answers. -/
theorem eq_map_ok_of_answersAlone {outcomes : List (Except CommandError FileTokens)}
    {answers : List FileTokens}
    (work : List.Forall₂ (request.WorksAlone files standardInput settings) inputs outcomes)
    (each : List.Forall₂ (request.AnswersAlone files standardInput settings) inputs answers) :
    outcomes = answers.map .ok := by
  induction work generalizing answers with
  | nil =>
      cases each
      rfl
  | @cons input outcome inputs outcomes first later ih =>
      rcases List.forall₂_cons_left_iff.mp each with ⟨answer, answers, alone, rest, rfl⟩
      rw [List.map_cons, ih rest]
      cases outcome with
      | ok answer' => rw [AnswersAlone.unique first alone]
      | error failure =>
          rcases alone with ⟨text, table, -, resolved, -⟩
          cases resolved.symm.trans first

/-- Inputs whose lexers can be made have answers, if they can be read. -/
theorem exists_answersAlone
    (readable : ∀ input ∈ inputs, input.IsReadable files standardInput)
    (lexers : ∀ input ∈ inputs,
      ∃ table, request.choice.resolve files settings input.path? = .ok table) :
    ∃ answers, List.Forall₂ (request.AnswersAlone files standardInput settings) inputs answers := by
  induction inputs with
  | nil => exact ⟨[], List.Forall₂.nil⟩
  | cons input inputs ih =>
      rw [List.forall_mem_cons] at readable lexers
      rcases readable.1 with ⟨text, holds⟩
      rcases lexers.1 with ⟨table, resolved⟩
      rcases exists_tokenRecords_ofText holds resolved ⟨0⟩ with ⟨answer, -, alone⟩
      rcases ih readable.2 lexers.2 with ⟨answers, each⟩
      exact ⟨answer :: answers, List.Forall₂.cons alone each⟩

variable {gathering : Gathering CommandError FileTokens}

theorem exists_sharedTable
    (lexer : request.MakesCommonLexer files settings) :
    ∃ shared, request.sharedTable files settings = .ok shared ∧
      request.Shares files settings shared := by
  rw [sharedTable]
  by_cases fixed : request.choice.isFixed = true
  · rcases lexer fixed with ⟨table, resolved⟩
    refine ⟨some table, ?_, ?_⟩
    · simp [fixed, resolved, Functor.map, Except.map]
    · intro other same path
      cases same
      rw [LexerChoice.resolve_of_isFixed fixed path none, resolved]
  · refine ⟨none, ?_, ?_⟩
    · simp [fixed]
    · simp [Shares]

/-- If all inputs can be read, what the workers give is gathered. -/
theorem exists_collect_eq_gather (once : request.arguments.count "-" ≤ 1)
    (lexer : request.MakesCommonLexer files settings)
    (readable : ∀ input ∈ Input.named request.arguments,
      input.IsReadable files standardInput) :
    ∃ outcomes, request.collect files standardInput settings gathering =
        gathering.gather outcomes ∧
      List.Forall₂ (request.WorksAlone files standardInput settings)
        (Input.named request.arguments) outcomes := by
  rcases exists_sharedTable lexer with ⟨shared, made, shares⟩
  rcases exists_readInputs readable .empty with ⟨sources, ids, read, -, registered⟩
  refine ⟨_, ?_, worksAlone_zipWith shares registered⟩
  rw [collect, Input.ofArguments_of_once once, made]
  simp only [bind, Except.bind, read]

theorem collect_eq_of_oneByOne {outcome : Except CommandError (List FileTokens)}
    (oneByOne : request.OneByOne files standardInput settings outcome) :
    request.collect files standardInput settings gathering = outcome := by
  cases oneByOne with
  | repeated repeated =>
      rw [collect, Input.ofArguments_of_repeated repeated]
      rfl
  | lexer once fixed fails =>
      rw [collect, Input.ofArguments_of_once once, sharedTable, if_pos fixed, fails]
      rfl
  | reading once lexer parts readable fails =>
      rcases exists_sharedTable lexer with ⟨shared, made, -⟩
      rw [collect, Input.ofArguments_of_once once, made, parts]
      simp only [bind, Except.bind, readInputs_eq_error readable fails]
  | detection once detects readable mem fails =>
      have lexer : request.MakesCommonLexer files settings := by
        intro fixed
        simp [detects, LexerChoice.isFixed] at fixed
      rcases exists_collect_eq_gather once lexer readable with ⟨outcomes, collected, work⟩
      rw [collected]
      -- Which worker is heard does not matter: all that fail have the failure of `fails`.
      apply gathering.gather_eq_error
      · rcases exists_related work mem with ⟨outcome, outcome_mem, works⟩
        cases outcome with
        | ok answer =>
            rcases works with ⟨text, table, -, resolved, -⟩
            cases resolved.symm.trans fails
        | error other =>
            cases works.symm.trans fails
            exact outcome_mem
      · intro other other_mem
        rcases exists_related work.flip other_mem with ⟨input', -, works⟩
        have fails' : request.choice.resolve files settings input'.path? = .error other := works
        rw [detects] at fails fails'
        exact LexerChoice.resolve_detect_error_unique fails' fails
  | answers once each =>
      have readable : ∀ input ∈ Input.named request.arguments,
          input.IsReadable files standardInput := by
        intro input mem
        rcases exists_related each mem with ⟨answer, -, text, table, holds, -⟩
        exact ⟨text, holds⟩
      have lexer : request.MakesCommonLexer files settings := by
        intro fixed
        rcases List.exists_mem_of_ne_nil _ (Input.named_ne_nil request.arguments) with
          ⟨input, mem⟩
        rcases exists_related each mem with ⟨answer, -, text, table, -, resolved, -⟩
        rw [LexerChoice.resolve_of_isFixed fixed input.path? none] at resolved
        exact ⟨table, resolved⟩
      rcases exists_collect_eq_gather once lexer readable with ⟨outcomes, collected, work⟩
      rw [collected, gathering.gather_eq_ok_iff]
      exact eq_map_ok_of_answersAlone work each

/-- One reader always comes to an end. -/
theorem exists_oneByOne (request : TokensRequest) (files : FileSystem) (standardInput : Contents)
    (settings : Settings) : ∃ outcome, request.OneByOne files standardInput settings outcome := by
  by_cases once : request.arguments.count "-" ≤ 1
  · by_cases lexer : request.MakesCommonLexer files settings
    · rcases Input.readable_or_exists_first (Input.named request.arguments) with
        readable | ⟨before, input, after, failure, parts, readable, fails⟩
      · by_cases lexers : ∀ input ∈ Input.named request.arguments,
            ∃ table, request.choice.resolve files settings input.path? = .ok table
        · rcases exists_answersAlone readable lexers with ⟨answers, each⟩
          exact ⟨_, .answers once each⟩
        · simp only [not_forall] at lexers
          rcases lexers with ⟨input, mem, fails⟩
          cases resolved : request.choice.resolve files settings input.path? with
          | ok table => exact absurd ⟨table, resolved⟩ fails
          | error failure =>
              refine ⟨_, .detection once ?_ readable mem resolved⟩
              apply LexerChoice.eq_detect_of_not_isFixed
              intro fixed
              rcases lexer fixed with ⟨table, succeeds⟩
              rw [LexerChoice.resolve_of_isFixed fixed input.path? none, succeeds] at resolved
              cases resolved
      · exact ⟨_, .reading once lexer parts readable fails⟩
    · simp only [MakesCommonLexer, Classical.not_imp] at lexer
      rcases lexer with ⟨fixed, fails⟩
      cases resolved : request.choice.resolve files settings none with
      | ok table => exact absurd ⟨table, resolved⟩ fails
      | error failure => exact ⟨_, .lexer once fixed resolved⟩
  · exact ⟨_, .repeated (by omega)⟩

/-- What the command gives are the answers for its inputs alone. -/
theorem answersAlone_of_collect {answers : List FileTokens}
    (collected : request.collect files standardInput settings gathering = .ok answers) :
    List.Forall₂ (request.AnswersAlone files standardInput settings)
      (Input.named request.arguments) answers := by
  rcases request.exists_oneByOne files standardInput settings with ⟨outcome, oneByOne⟩
  rw [collect_eq_of_oneByOne oneByOne] at collected
  subst collected
  cases oneByOne with
  | answers once each => exact each

/-- In whatever order the workers finish, the command gives what one reader gives who takes the
inputs one after the other. -/
theorem collect_eq_iff_oneByOne (request : TokensRequest) (files : FileSystem)
    (standardInput : Contents) (settings : Settings)
    (gathering : Gathering CommandError FileTokens)
    (outcome : Except CommandError (List FileTokens)) :
    request.collect files standardInput settings gathering = outcome ↔
      request.OneByOne files standardInput settings outcome := by
  constructor
  · rintro rfl
    rcases request.exists_oneByOne files standardInput settings with ⟨outcome, oneByOne⟩
    rw [collect_eq_of_oneByOne oneByOne]
    exact oneByOne
  · exact collect_eq_of_oneByOne

end TokensRequest

end RuleLexer
