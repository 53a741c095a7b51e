import RuleLexer.Definition
import RuleLexer.Regex.Meaning
import RuleLexer.Regex.Search
import RuleLexer.Text.Quoted

/-!
# Rule tables

A rule table is a compiled definition. States are known by their position, and every transition
leads to a position of the table. Compiling reports the first fault: the entry state is checked
before any rule, states and rules are checked in order, and of a rule first its pattern, then its
group, its lookbehind and its target.
-/

namespace RuleLexer

/-- The position of a state in a table. -/
structure StateId where
  index : Nat
  deriving DecidableEq, Repr, Inhabited

namespace StateId

/-- The greatest number that a state can have; numbers have 32 bits. -/
def greatest : Nat := 0xFFFFFFFF

/-- The state at a position; the positions beyond the greatest number share it. -/
def ofPosition (position : Nat) : StateId :=
  ⟨min position greatest⟩

end StateId

/-- What a match does to the stack of states. -/
inductive Transition
  | push (target : StateId)
  | pop
  deriving DecidableEq, Repr

/-- A compiled rule. -/
structure Rule where
  pattern : String
  program : Regex.Program
  category : Category
  /-- Whether the token is the whole match. -/
  consumes : Bool
  transition : Option Transition
  /-- The compiled pattern of the character before the token. -/
  lookbehind : Option Regex.Program
  deriving DecidableEq, Repr

/-- Where a rule stands in a definition. -/
structure RuleSite where
  state : String
  index : Nat
  deriving DecidableEq, Repr

/-- Why a definition does not compile. -/
inductive BuildError
  | missingEntryState (entry : String)
  | unknownState (site : RuleSite) (target : String)
  | invalidPattern (site : RuleSite) (pattern : String) (cause : Regex.PatternError)
  | invalidLookbehind (site : RuleSite) (pattern : String) (cause : Regex.PatternError)
  | missingCapture (site : RuleSite) (pattern : String)
  deriving DecidableEq, Repr

namespace BuildError

/-- The rule at fault. -/
def site? : BuildError → Option RuleSite
  | missingEntryState _ => none
  | unknownState site _ => some site
  | invalidPattern site _ _ => some site
  | invalidLookbehind site _ _ => some site
  | missingCapture site _ => some site

/-- How a message refers to a rule. -/
def describeSite (site : RuleSite) : String :=
  "rule " ++ toString site.index ++ " in state `" ++ site.state ++ "`"

/-- What a message says about a malformed pattern. -/
def malformedPattern : String := "error parsing pattern 0"

def message : BuildError → String
  | missingEntryState entry => "entry state `" ++ entry ++ "` is not defined"
  | unknownState site target =>
    describeSite site ++ " targets undefined state `" ++ target ++ "`"
  | invalidPattern site pattern _ =>
    describeSite site ++ " has an invalid pattern `" ++ pattern ++ "`: " ++ malformedPattern
  | invalidLookbehind site pattern _ =>
    describeSite site ++ " has an invalid lookbehind `" ++ pattern ++ "`: " ++ malformedPattern
  | missingCapture site pattern =>
    describeSite site ++ " does not consume but `" ++ pattern ++ "` has no capture group"

end BuildError

/-- A compiled definition. -/
structure RuleTable where
  info : LexerInfo
  states : OrderedMap (List Rule)
  entry : StateId
  fallback : Category
  deriving DecidableEq, Repr

namespace RuleDef

/-- Compiles the pattern of a rule. A rule whose token is a group needs one. -/
def compilePattern (rule : RuleDef) (site : RuleSite) : Except BuildError Regex.Program :=
  match Regex.Program.ofText rule.pattern with
  | .error cause => .error (.invalidPattern site rule.pattern cause)
  | .ok program =>
    if !rule.consumes && program.groupCount == 0 then .error (.missingCapture site rule.pattern)
    else .ok program

/-- Compiles the pattern of the character before the token. -/
def compileLookbehind (rule : RuleDef) (site : RuleSite) :
    Except BuildError (Option Regex.Program) :=
  match rule.lookbehind with
  | none => .ok none
  | some pattern =>
    match Regex.Program.ofText pattern with
    | .error cause => .error (.invalidLookbehind site pattern cause)
    | .ok program => .ok (some program)

/-- Resolves the target of a rule among the states of its definition. -/
def resolveTarget (rule : RuleDef) (states : OrderedMap (List RuleDef)) (site : RuleSite) :
    Except BuildError (Option Transition) :=
  match rule.next with
  | none => .ok none
  | some target =>
    if target = popTarget then .ok (some .pop)
    else
      match states.indexOf? target with
      | none => .error (.unknownState site target)
      | some index => .ok (some (.push (.ofPosition index)))

def compile (rule : RuleDef) (states : OrderedMap (List RuleDef)) (site : RuleSite) :
    Except BuildError Rule := do
  let program ← rule.compilePattern site
  let lookbehind ← rule.compileLookbehind site
  let transition ← rule.resolveTarget states site
  return {
    pattern := rule.pattern
    program
    category := rule.category
    consumes := rule.consumes
    transition
    lookbehind }

/-- Compiles the rules of a state, from a position on. -/
def compileAll (states : OrderedMap (List RuleDef)) (state : String) :
    Nat → List RuleDef → Except BuildError (List Rule)
  | _, [] => .ok []
  | index, rule :: rules => do
    let compiled ← rule.compile states ⟨state, index⟩
    let rest ← compileAll states state (index + 1) rules
    return compiled :: rest

end RuleDef

namespace RuleTable

/-- Compiles a definition. -/
def build (definition : Definition) : Except BuildError RuleTable := do
  match definition.states.indexOf? definition.header.entry with
  | none => throw (.missingEntryState definition.header.entry)
  | some entry =>
    let states ← definition.states.traverse fun state rules =>
      RuleDef.compileAll definition.states state 0 rules
    return {
      info := definition.header.toLexerInfo
      states
      entry := .ofPosition entry
      fallback := definition.header.fallback }

/-- The rules of a state; a position outside the table has none. -/
def rulesFor (table : RuleTable) (state : StateId) : List Rule :=
  match table.states.get? state.index with
  | some (_, rules) => rules
  | none => []

/-- The position of a state. -/
def stateId? (table : RuleTable) (name : String) : Option StateId :=
  (table.states.indexOf? name).map StateId.ofPosition

/-- The name of a state; a position outside the table has none. -/
def stateName? (table : RuleTable) (state : StateId) : Option String :=
  (table.states.get? state.index).map Prod.fst

/-- All states in order, each with its position, its name and its rules. -/
def listing (table : RuleTable) : List (StateId × String × List Rule) :=
  table.states.entries.zipIdx.map fun (entry, position) => (.ofPosition position, entry)

/-- The number of states. -/
def stateCount (table : RuleTable) : Nat :=
  table.states.size

/-- The number of rules in all states. -/
def ruleCount (table : RuleTable) : Nat :=
  table.states.values.flatten.length

end RuleTable

namespace Rule

/-- A change of state in words. -/
def describeTransition : Option Transition → String
  | none => "None"
  | some .pop => "Some(Pop)"
  | some (.push target) => "Some(Push(StateId(" ++ toString target.index ++ ")))"

def describe (rule : Rule) : String :=
  "Rule \x7b pattern: " ++ Text.quoted rule.pattern ++ ", category: " ++ rule.category.name ++
    ", consumes: " ++ toString rule.consumes ++ ", transition: " ++
    describeTransition rule.transition ++ ", lookbehind: " ++ toString rule.lookbehind.isSome ++
    " \x7d"

end Rule

end RuleLexer
