import RuleLexer.Bundled
import RuleLexer.Proofs.Regex.Layout
import RuleLexer.Proofs.Regex.WordPattern
import RuleLexer.Proofs.RuleTable.Build

/-!
# The expressions of the bundled rules

The expressions that the patterns of the Search Processing Language stand for, and its compiled
rules. The patterns that list words are read by the general theorem on such patterns, the others by
running the reader.
-/

namespace RuleLexer.Bundled

open Regex Expr

def boundary : Expr := look (.wordBoundary .unicode)

def one (char : Char) : Expr := set (.single char)

/-- Any of some characters. -/
def oneOf (first : Char) (others : List Char) : CharClass :=
  others.foldl (fun chars char => .union chars (.single char)) (.single first)

def wordChars : CharClass := .property .wordChar

def digits : CharClass := .property (.category .decimalNumber)

def blanks : CharClass := .property (.binary .whiteSpace)

def wordGroup (words : List String) : Expr := group bodyGroup (anyOf (words.map String.toList))

/-- One of some words, with a boundary after it. -/
def wordBefore (words : List String) : Expr := seq (wordGroup words) boundary

/-- One of some words between boundaries. -/
def wholeWord (words : List String) : Expr := seq (seq boundary (wordGroup words)) boundary

/-- One of some words between boundaries, before an opening parenthesis. -/
def call (words : List String) : Expr := seq (wholeWord words) (one '(')

/-- A name after a backtick, before a parenthesis or a backtick. -/
def macroName : Expr :=
  seq (group bodyGroup (seq (one '\x60') (plus true (set wordChars)))) (set (oneOf '(' ['\x60']))

def number : Expr := seq (seq boundary (plus true (set digits))) boundary

/-- A backslash, with the character that it protects. -/
def escape : Expr :=
  alt (alt (alt (seq (one '\\') (one '|')) (seq (one '\\') (one '*'))) (seq (one '\\') (one '=')))
    (one '\\')

def sign : Expr := set (oneOf '|' [',', '(', ')'])

def parameterChars : CharClass := .compl (.union (oneOf '(' [')', '"', ',', '=']) blanks)

/-- A run of parameter characters before a closing parenthesis or a comma. -/
def parameter : Expr :=
  seq (group bodyGroup (plus true (set parameterChars))) (set (oneOf ')' [',']))

/-- What stands before a parameter. -/
def beforeParameter : Expr := set (.union (oneOf '(' [',']) blanks)

/-- A name with the blanks after it, before an equals sign. -/
def field : Expr :=
  seq (group bodyGroup
      (seq (plus true (set (.union wordChars (.single '.')))) (star true (set blanks))))
    (one '=')

/-- A character of a quoted text or an escape sequence in it. -/
def quotedUnit (quote : Char) : Expr :=
  group bodyGroup (alt (alt (seq (one '\\') (one '\\')) (seq (one '\\') (one quote)))
    (set (.compl (.single quote))))

def quoted (quote : Char) : Expr :=
  seq (seq (one quote) (star true (quotedUnit quote))) (one quote)

/-- Three backticks after an expression. -/
def fence (front : Expr) : Expr := seq (seq (seq front (one '\x60')) (one '\x60')) (one '\x60')

/-- A comment between fences. -/
def comment : Expr :=
  fence (seq (seq (seq (one '\x60') (one '\x60')) (one '\x60'))
    (star false (set (.union blanks (.compl blanks)))))

def gap : Expr := plus true (set blanks)

/-- The expression of every rule, and that of the character before it. -/
def splExprs : List (Expr × Option Expr) :=
  [(wordBefore searchCommands, none), (call evalFunctions, none), (call statsFunctions, none),
   (wholeWord internalCommands, none), (macroName, none), (number, none), (escape, none),
   (sign, none), (wholeWord clauseKeywords, none), (wholeWord constants, none),
   (parameter, some beforeParameter), (field, none), (one '=', none), (quoted '"', none),
   (quoted '\'', none), (comment, none), (gap, none)]

/-- A rule whose patterns stand for the given expressions. -/
def compileAs (rule : RuleDef) (exprs : Expr × Option Expr) : Rule where
  pattern := rule.pattern
  program := exprs.1.toProgram
  category := rule.category
  consumes := rule.consumes
  transition := none
  lookbehind := exprs.2.map toProgram

/-- The compiled rules of the Search Processing Language. -/
def splCompiled : List Rule :=
  (splRules.zip splExprs).map fun pair => compileAs pair.1 pair.2

/-- The word begins with a letter and is made of plain characters. -/
def isWord (word : List Char) : Bool :=
  match word with
  | [] => false
  | first :: _ => first.isAlpha && word.all isPlain

/-- The lists of words that rules are made of. -/
def wordLists : List (List String) :=
  [searchCommands, evalFunctions, statsFunctions, internalCommands, clauseKeywords, constants]

theorem words_of_mem_wordLists {words : List String} (mem : words ∈ wordLists) :
    words ≠ [] ∧ ∀ word ∈ words, isWord word.toList = true := by
  have all : wordLists.all (fun words =>
      !words.isEmpty && words.all fun word => isWord word.toList) = true := by
    decide +kernel
  have here := List.all_eq_true.mp all words mem
  simpa [List.all_eq_true] using here

section Words

variable {words : List String}

theorem plain_of_isWord {word : List Char} (isWord_word : isWord word = true) :
    word ≠ [] ∧ ∀ char ∈ word, isPlain char = true := by
  rcases word with _ | ⟨first, others⟩
  · cases isWord_word
  · rw [isWord, Bool.and_eq_true, List.all_eq_true] at isWord_word
    exact ⟨List.cons_ne_nil _ _, isWord_word.2⟩

theorem toList_anyWord (words : List String) :
    (anyWord words).toList =
      '(' :: (List.intercalate ['|'] (words.map String.toList) ++ [')']) := by
  simp [anyWord, String.toList_append, String.toList_intercalate]

/-- A list of words is read as the group of any of them. -/
theorem reads_anyWord (state : Reader.State) (rest : List Char)
    (unextended : state.extended = false) (known : words ∈ wordLists) :
    Reader.Reads state ((anyWord words).toList ++ rest)
      { state with
        level := state.level.push
          (.capture (state.groupCount + 1) (.ofWords (words.map String.toList)))
        groupCount := state.groupCount + 1 } rest := by
  rcases words_of_mem_wordLists known with ⟨nonempty, areWords⟩
  rcases List.exists_cons_of_ne_nil nonempty with ⟨word, others, rfl⟩
  have plain : ∀ each ∈ word.toList :: others.map String.toList, ∀ char ∈ each,
      isPlain char = true := by
    intro each mem
    rw [← List.map_cons, List.mem_map] at mem
    rcases mem with ⟨word', word'_mem, rfl⟩
    exact (plain_of_isWord (areWords word' word'_mem)).2
  have reads := Reader.reads_group state rest unextended
    (plain_of_isWord (areWords word List.mem_cons_self)).1 plain
  simpa [toList_anyWord] using reads

variable (known : words ∈ wordLists)

include known

theorem ofText_wordBefore :
    Program.ofText (anyWord words ++ "\\b") = .ok (wordBefore words).toProgram := by
  have reads := (reads_anyWord {} ['\\', 'b'] rfl known).trans
    (Reader.reads_boundary _ [] rfl (by simp))
  have text : (anyWord words ++ "\\b").toList = (anyWord words).toList ++ ['\\', 'b'] := by simp
  rw [← text] at reads
  have shallow := Pattern.depth_ofWords_le (words.map String.toList)
  refine Program.ofText_of_reads reads rfl rfl (show _ = Pattern.concat
      (.capture 1 (.ofWords (words.map String.toList))) (.assertion .wordBoundary) from rfl) ?_ ?_
  · simp only [Pattern.depth, Pattern.maxDepth, reduceCtorEq, if_false]
    omega
  · simp [Pattern.meaning, Pattern.meaning_ofWords, bind, Except.bind, pure, Except.pure]
    rfl

theorem ofText_wholeWord :
    Program.ofText ("\\b" ++ anyWord words ++ "\\b") = .ok (wholeWord words).toProgram := by
  have reads := (Reader.reads_boundary {} ((anyWord words).toList ++ ['\\', 'b']) rfl
    (by simp [toList_anyWord])).trans ((reads_anyWord _ _ rfl known).trans
      (Reader.reads_boundary _ [] rfl (by simp)))
  have text : ("\\b" ++ anyWord words ++ "\\b").toList =
      '\\' :: 'b' :: ((anyWord words).toList ++ ['\\', 'b']) := by simp
  rw [← text] at reads
  have shallow := Pattern.depth_ofWords_le (words.map String.toList)
  refine Program.ofText_of_reads reads rfl rfl (show _ = Pattern.concat
      (.concat (.assertion .wordBoundary) (.capture 1 (.ofWords (words.map String.toList))))
      (.assertion .wordBoundary) from rfl) ?_ ?_
  · simp only [Pattern.depth, Pattern.maxDepth, reduceCtorEq, if_false, if_true]
    omega
  · simp [Pattern.meaning, Pattern.meaning_ofWords, bind, Except.bind, pure, Except.pure]
    rfl

theorem ofText_call :
    Program.ofText ("\\b" ++ anyWord words ++ "\\b\\(") = .ok (call words).toProgram := by
  have parenthesis : ∀ state : Reader.State, state.extended = false →
      Reader.Reads state ['\\', '('] (state.push (.literal ⟨'(', false⟩)) [] :=
    fun state unextended => Reader.Reads.of_step unextended rfl (by simp)
  have reads := (Reader.reads_boundary {} ((anyWord words).toList ++ ['\\', 'b', '\\', '(']) rfl
    (by simp [toList_anyWord])).trans ((reads_anyWord _ _ rfl known).trans
      ((Reader.reads_boundary _ ['\\', '('] rfl (by simp)).trans (parenthesis _ rfl)))
  have text : ("\\b" ++ anyWord words ++ "\\b\\(").toList =
      '\\' :: 'b' :: ((anyWord words).toList ++ ['\\', 'b', '\\', '(']) := by simp
  rw [← text] at reads
  have shallow := Pattern.depth_ofWords_le (words.map String.toList)
  refine Program.ofText_of_reads reads rfl rfl (show _ = Pattern.concat
      (.concat (.concat (.assertion .wordBoundary)
        (.capture 1 (.ofWords (words.map String.toList)))) (.assertion .wordBoundary))
      (.literal ⟨'(', false⟩) from rfl) ?_ ?_
  · simp only [Pattern.depth, Pattern.maxDepth, reduceCtorEq, if_false, if_true]
    omega
  · simp [Pattern.meaning, Pattern.meaning_ofWords, Literal.meaning, bind, Except.bind, pure,
      Except.pure]
    rfl

end Words

theorem ofText_macroName : Program.ofText "(\x60\\w+)[(\x60]" = .ok macroName.toProgram := by
  rfl

theorem ofText_number : Program.ofText "\\b\\d+\\b" = .ok number.toProgram := by
  rfl

theorem ofText_escape : Program.ofText "\\\\\\||\\\\\\*|\\\\=|\\\\" = .ok escape.toProgram := by
  rfl

theorem ofText_sign : Program.ofText "[|,()]" = .ok sign.toProgram := by
  rfl

theorem ofText_parameter : Program.ofText "([^()\",=\\s]+)[),]" = .ok parameter.toProgram := by
  rfl

theorem ofText_beforeParameter : Program.ofText "[(,\\s]" = .ok beforeParameter.toProgram := by
  rfl

theorem ofText_field : Program.ofText "([\\w.]+\\s*)=" = .ok field.toProgram := by
  rfl

theorem ofText_equals : Program.ofText "=" = .ok (one '=').toProgram := by
  rfl

theorem ofText_quotedDouble :
    Program.ofText "\"(\\\\\\\\|\\\\\"|[^\"])*\"" = .ok (quoted '"').toProgram := by
  rfl

theorem ofText_quotedSingle :
    Program.ofText "\\x27(\\\\\\\\|\\\\\\x27|[^\\x27])*\\x27" = .ok (quoted '\'').toProgram := by
  rfl

theorem ofText_comment : Program.ofText "```[\\s\\S]*?```" = .ok comment.toProgram := by
  rfl

theorem ofText_gap : Program.ofText "\\s+" = .ok gap.toProgram := by
  rfl

/-- The patterns of a rule that changes no state stand for the expressions. -/
structure StandsFor (rule : RuleDef) (exprs : Expr × Option Expr) : Prop where
  pattern : Program.ofText rule.pattern = .ok exprs.1.toProgram
  captures : rule.consumes = true ∨ 0 < exprs.1.groupCount
  lookbehind : rule.lookbehind.map Program.ofText = exprs.2.map fun expr => .ok expr.toProgram
  next : rule.next = none

theorem StandsFor.compiles {rule : RuleDef} {exprs : Expr × Option Expr}
    (stands : StandsFor rule exprs) (states : OrderedMap (List RuleDef)) (site : RuleSite) :
    rule.Compiles states site (compileAs rule exprs) := by
  refine ⟨?_, ?_, RuleDef.Resolves.stay stands.next, rfl, rfl, rfl⟩
  · rw [RuleDef.compilePattern, stands.pattern]
    rcases stands.captures with consumes | grouped
    · simp [consumes, compileAs]
    · have some : (exprs.1.toProgram.groupCount == 0) = false := by
        rw [beq_eq_false_iff_ne]
        exact Nat.pos_iff_ne_zero.mp grouped
      simp [some, compileAs]
  · have behind := stands.lookbehind
    rw [RuleDef.compileLookbehind]
    rcases rule with ⟨pattern, category, consumes, next, _ | text⟩
    · rcases exprs with ⟨expr, _ | before⟩
      · rfl
      · cases behind
    · rcases exprs with ⟨expr, _ | before⟩
      · cases behind
      · simp only [Option.map_some, Option.some.injEq] at behind
        simp only [behind]
        rfl

theorem compileAll_zip {rules : List RuleDef} {exprs : List (Expr × Option Expr)}
    (stand : List.Forall₂ StandsFor rules exprs) (states : OrderedMap (List RuleDef))
    (state : String) (index : Nat) :
    RuleDef.compileAll states state index rules =
      .ok ((rules.zip exprs).map fun pair => compileAs pair.1 pair.2) := by
  induction stand generalizing index with
  | nil => rfl
  | cons first later ih =>
      exact RuleDef.compileAll_cons_eq_ok_iff.mpr ⟨_, _, first.compiles _ _, ih _, rfl⟩

theorem groupCount_call_pos (words : List String) : 0 < (call words).groupCount := by
  simp [call, wholeWord, wordGroup, groupCount, bodyGroup]

theorem splRules_standFor : List.Forall₂ StandsFor splRules splExprs := by
  have known : ∀ words ∈ wordLists, words ∈ wordLists := fun _ mem => mem
  simp only [wordLists, List.forall_mem_cons, List.not_mem_nil, false_implies, implies_true,
    and_true] at known
  rcases known with ⟨commands, evals, stats, internals, clauses, consts⟩
  refine .cons ⟨ofText_wordBefore commands, .inl rfl, rfl, rfl⟩ ?_
  refine .cons ⟨ofText_call evals, .inr (groupCount_call_pos _), rfl, rfl⟩ ?_
  refine .cons ⟨ofText_call stats, .inr (groupCount_call_pos _), rfl, rfl⟩ ?_
  refine .cons ⟨ofText_wholeWord internals, .inl rfl, rfl, rfl⟩ ?_
  refine .cons ⟨ofText_macroName, .inr (by decide), rfl, rfl⟩ ?_
  refine .cons ⟨ofText_number, .inl rfl, rfl, rfl⟩ ?_
  refine .cons ⟨ofText_escape, .inl rfl, rfl, rfl⟩ ?_
  refine .cons ⟨ofText_sign, .inl rfl, rfl, rfl⟩ ?_
  refine .cons ⟨ofText_wholeWord clauses, .inl rfl, rfl, rfl⟩ ?_
  refine .cons ⟨ofText_wholeWord consts, .inl rfl, rfl, rfl⟩ ?_
  refine .cons ⟨ofText_parameter, .inr (by decide), congrArg some ofText_beforeParameter, rfl⟩ ?_
  refine .cons ⟨ofText_field, .inr (by decide), rfl, rfl⟩ ?_
  refine .cons ⟨ofText_equals, .inl rfl, rfl, rfl⟩ ?_
  refine .cons ⟨ofText_quotedDouble, .inl rfl, rfl, rfl⟩ ?_
  refine .cons ⟨ofText_quotedSingle, .inl rfl, rfl, rfl⟩ ?_
  refine .cons ⟨ofText_comment, .inl rfl, rfl, rfl⟩ ?_
  exact .cons ⟨ofText_gap, .inl rfl, rfl, rfl⟩ .nil

def splTable : RuleTable where
  info := spl.header.toLexerInfo
  states := ⟨[("root", splCompiled)], by simp⟩
  entry := ⟨0⟩
  fallback := .plainText

theorem build_spl : RuleTable.build spl = .ok splTable := by
  refine RuleTable.build_eq_ok_iff.mpr ⟨⟨0, rfl, rfl⟩, ?_, rfl, rfl⟩
  rw [OrderedMap.traverse_eq_ok_iff, OrderedMap.traverseEntries_eq_ok_iff]
  exact .cons ⟨rfl, compileAll_zip splRules_standFor _ _ _⟩ .nil

theorem eq_splTable {table : RuleTable} (built : RuleTable.build spl = .ok table) :
    table = splTable := by
  rw [build_spl] at built
  exact (Except.ok.inj built).symm

end RuleLexer.Bundled
