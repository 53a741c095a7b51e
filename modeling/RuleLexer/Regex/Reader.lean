import RuleLexer.Regex.Pattern
import RuleLexer.Unicode.Latest

/-!
# Reading patterns

Patterns are read from left to right. A stack of open groups, and inside a class a stack of open
brackets, holds what surrounds the part being read, so reading is a loop whose every round takes at
least one character. When the `extended` flag is on, white space and comments are skipped wherever a
new part may begin, and also inside counts, names and hexadecimal numbers.
-/

namespace RuleLexer.Regex.Reader

open Unicode (isWhiteSpace)

/-- Drops white space and comments; `inComment` says whether the text begins inside a comment. -/
def skipBlanks (inComment : Bool) : List Char → List Char
  | [] => []
  | char :: rest =>
    if inComment then skipBlanks (char != '\n') rest
    else if isWhiteSpace char then skipBlanks false rest
    else if char == '#' then skipBlanks true rest
    else char :: rest

/-- Drops white space and comments in an extended pattern. -/
def pastBlanks (extended : Bool) (text : List Char) : List Char :=
  if extended then skipBlanks false text else text

/-- The text after the first occurrence of `close` and what stands before it, with white space and
comments removed from an extended pattern. -/
def takeUntil (close : Char) (extended inComment : Bool) :
    List Char → Option (List Char × List Char)
  | [] => none
  | char :: rest =>
    if inComment then takeUntil close extended (char != '\n') rest
    else if extended && isWhiteSpace char then takeUntil close extended false rest
    else if extended && char == '#' then takeUntil close extended true rest
    else if char == close then some ([], rest)
    else (takeUntil close extended false rest).map fun (taken, rest) => (char :: taken, rest)

/-- The value of digits in a base, or `none` if a character is no digit. -/
def digitsValue? (base : Nat) (digitValue? : Char → Option Nat) (digits : List Char) : Option Nat :=
  digits.foldlM (fun value digit => (digitValue? digit).map fun d => value * base + d) 0

/-- The value of a hexadecimal digit. -/
def hexValue? (char : Char) : Option Nat :=
  if char.isDigit then some (char.toNat - 48)
  else if 'a' ≤ char ∧ char ≤ 'f' then some (char.toNat - 87)
  else if 'A' ≤ char ∧ char ≤ 'F' then some (char.toNat - 55)
  else none

/-- The character with a code, unless the code is a surrogate or too large. -/
def charOfCode? (code : Nat) : Option Char :=
  if h : code.isValidChar then some (Char.ofNatAux code h) else none

/-- The character that a run of hexadecimal digits names. -/
def charOfHex (digits : List Char) : Except PatternError Char :=
  match digitsValue? 16 hexValue? digits with
  | none => .error .codeInvalidDigit
  | some code =>
    match charOfCode? code with
    | none => .error .codeInvalid
    | some char => .ok char

/-- The first `count` characters, with blanks of an extended pattern skipped after each. -/
def takeSpaced (extended : Bool) : Nat → List Char → Except PatternError (List Char × List Char)
  | 0, text => .ok ([], text)
  | _ + 1, [] => .error .escapeUnfinished
  | count + 1, char :: rest => do
    let (taken, rest) ← takeSpaced extended count (pastBlanks extended rest)
    return (char :: taken, rest)

/-- A single character or a named set, as it may stand inside or outside a class. -/
inductive Atom
  | literal (literal : Literal)
  | assertion (name : AssertionName)
  | perl (kind : PerlClass) (negated : Bool)
  | property (name : PropertyName) (negated : Bool)
  deriving DecidableEq, Repr

/-- Reads a code point after its letter; `width` is the number of digits without braces. -/
def readCode (extended : Bool) (width : Nat) (text : List Char) :
    Except PatternError (Atom × List Char) :=
  match pastBlanks extended text with
  | [] => .error .escapeUnfinished
  | '\x7b' :: rest =>
    match takeUntil '\x7d' extended false rest with
    | none => .error .escapeUnfinished
    | some ([], _) => .error .codeEmpty
    | some (digits, rest) => do
      let char ← charOfHex digits
      return (.literal ⟨char, false⟩, rest)
  | text => do
    let (digits, rest) ← takeSpaced extended width text
    let char ← charOfHex digits
    return (.literal ⟨char, width == 2⟩, rest)

/-- Cuts a text at the first occurrence of a separator. -/
def cutAt? (separator : List Char) : List Char → Option (List Char × List Char)
  | [] => none
  | char :: rest =>
    if separator.isPrefixOf (char :: rest) then some ([], (char :: rest).drop separator.length)
    else (cutAt? separator rest).map fun (before, after) => (char :: before, after)

/-- Reads the inside of a property reference: a name, or a property and a value that are said to be
equal or different. -/
def propertyOfBraced (content : List Char) (negated : Bool) : Atom :=
  match cutAt? ['!', '='] content with
  | some (name, value) => .property (.value (String.ofList name) (String.ofList value)) (!negated)
  | none =>
    match (cutAt? [':'] content).orElse fun _ => cutAt? ['='] content with
    | some (name, value) => .property (.value (String.ofList name) (String.ofList value)) negated
    | none => .property (.name (String.ofList content)) negated

/-- Reads a property reference after its letter. -/
def readProperty (extended negated : Bool) (text : List Char) :
    Except PatternError (Atom × List Char) :=
  match pastBlanks extended text with
  | [] => .error .escapeUnfinished
  | '\x7b' :: rest =>
    match takeUntil '\x7d' extended false rest with
    | none => .error .escapeUnfinished
    | some (content, rest) => .ok (propertyOfBraced content negated, rest)
  | char :: rest =>
    if char == '\\' then .error .propertyMissing
    else .ok (.property (.name (String.singleton char)) negated, rest)

/-- Reads what may follow the letter of a word boundary: the name of a special boundary in braces. A
brace with a count is left for the repetition that it begins. -/
def readBoundary (extended : Bool) (text : List Char) : Except PatternError (Atom × List Char) :=
  match text with
  | '\x7b' :: inner =>
    match pastBlanks extended inner with
    | [] => .error .boundaryUnclosed
    | first :: _ =>
      if !(first.isAlpha || first == '-') then .ok (.assertion .wordBoundary, text)
      else
        match takeUntil '\x7d' extended false inner with
        | none => .error .boundaryUnclosed
        | some (content, rest) =>
          match String.ofList content with
          | "start" => .ok (.assertion .wordStart, rest)
          | "end" => .ok (.assertion .wordEnd, rest)
          | "start-half" => .ok (.assertion .wordStartHalf, rest)
          | "end-half" => .ok (.assertion .wordEndHalf, rest)
          | _ => .error .boundaryUnknown
  | _ => .ok (.assertion .wordBoundary, text)

/-- Reads an escape sequence after its backslash. -/
def readEscape (extended : Bool) : List Char → Except PatternError (Atom × List Char)
  | [] => .error .escapeUnfinished
  | char :: rest =>
    let literal (char : Char) : Except PatternError (Atom × List Char) :=
      .ok (.literal ⟨char, false⟩, rest)
    if char.isDigit then .error .backreference
    else match char with
      | 'x' => readCode extended 2 rest
      | 'u' => readCode extended 4 rest
      | 'U' => readCode extended 8 rest
      | 'p' => readProperty extended false rest
      | 'P' => readProperty extended true rest
      | 'd' => .ok (.perl .digit false, rest)
      | 'D' => .ok (.perl .digit true, rest)
      | 's' => .ok (.perl .space false, rest)
      | 'S' => .ok (.perl .space true, rest)
      | 'w' => .ok (.perl .word false, rest)
      | 'W' => .ok (.perl .word true, rest)
      | 'a' => literal '\x07'
      | 'f' => literal '\x0c'
      | 't' => literal '\t'
      | 'n' => literal '\n'
      | 'r' => literal '\r'
      | 'v' => literal '\x0b'
      | 'A' => .ok (.assertion .textStart, rest)
      | 'z' => .ok (.assertion .textEnd, rest)
      | 'b' => readBoundary extended rest
      | 'B' => .ok (.assertion .notWordBoundary, rest)
      | '<' => .ok (.assertion .wordStart, rest)
      | '>' => .ok (.assertion .wordEnd, rest)
      | _ => if char.toNat < 128 && !char.isAlpha then literal char else .error .escapeUnknown

/-- What surrounds the part of a class that is being read. -/
inductive ClassFrame
  /-- An open bracket, after the given items (last first) of the class around it. -/
  | bracket (outer : List ClassSet) (negated : Bool)
  /-- A set operation that waits for its right side. -/
  | operation (op : SetOp) (left : ClassSet)
  deriving DecidableEq, Repr

/-- Completes a set operation that waits for a right side. -/
def completeOperation (right : ClassSet) : List ClassFrame → ClassSet × List ClassFrame
  | .operation op left :: frames => (.operation op left right, frames)
  | frames => (right, frames)

/-- The class of ASCII characters with a name. -/
def asciiClass? (name : String) : Option AsciiClass :=
  [("alnum", .alnum), ("alpha", .alpha), ("ascii", .ascii), ("blank", .blank), ("cntrl", .cntrl),
   ("digit", .digit), ("graph", .graph), ("lower", .lower), ("print", .print), ("punct", .punct),
   ("space", .space), ("upper", .upper), ("word", .word),
   ("xdigit", (.xdigit : AsciiClass))].lookup name

/-- Reads the rest of a named ASCII class after its bracket; `none` if there is none here. -/
def readAscii? (text : List Char) : Option (ClassSet × List Char) :=
  match text with
  | ':' :: rest =>
    let (negated, rest) := match rest with
      | '^' :: rest => (true, rest)
      | _ => (false, rest)
    let (name, rest) := rest.span (· != ':')
    match rest with
    | ':' :: ']' :: rest =>
      (asciiClass? (String.ofList name)).map fun kind => (.ascii kind negated, rest)
    | _ => none
  | _ => none

/-- Takes leading hyphens of a class, each of which stands for itself. -/
def takeHyphens (extended : Bool) : Nat → List Char → List ClassSet × List Char
  | 0, text => ([], text)
  | fuel + 1, text =>
    match text with
    | '-' :: rest =>
      let (items, rest) := takeHyphens extended fuel (pastBlanks extended rest)
      (.literal ⟨'-', false⟩ :: items, rest)
    | _ => ([], text)

/-- Reads what follows an opening bracket: a negation sign, hyphens, and a closing bracket that
stands for itself. -/
def openClass (extended : Bool) (text : List Char) : Bool × List ClassSet × List Char :=
  let text := pastBlanks extended text
  let (negated, text) := match text with
    | '^' :: rest => (true, pastBlanks extended rest)
    | _ => (false, text)
  match takeHyphens extended text.length text with
  | ([], ']' :: rest) => (negated, [.literal ⟨']', false⟩], pastBlanks extended rest)
  | (hyphens, rest) => (negated, hyphens, rest)

/-- Reads one character or escape sequence inside a class. -/
def readClassAtom (extended : Bool) : List Char → Except PatternError (Atom × List Char)
  | [] => .error .classUnclosed
  | '\\' :: rest => readEscape extended rest
  | char :: rest => .ok (.literal ⟨char, false⟩, rest)

/-- The item of a class that an atom stands for. -/
def Atom.toClassSet : Atom → Except PatternError ClassSet
  | .literal char => .ok (.literal char)
  | .perl kind negated => .ok (.perl kind negated)
  | .property name negated => .ok (.property name negated)
  | .assertion _ => .error .classEscapeInvalid

/-- The end of a range that an atom stands for. -/
def Atom.toRangeEnd : Atom → Except PatternError Literal
  | .literal char => .ok char
  | _ => .error .rangeEndInvalid

/-- The character after the next one, past blanks of an extended pattern. A comment sign hides at
most the blanks around it. -/
def peekAfter (extended : Bool) (text : List Char) : Option Char :=
  let rest := text.drop 1
  if extended then
    match rest.dropWhile isWhiteSpace with
    | '#' :: rest => (rest.dropWhile isWhiteSpace).head?
    | rest => rest.head?
  else rest.head?

/-- Reads a character, an escape sequence or a range inside a class. -/
def readClassItem (extended : Bool) (text : List Char) :
    Except PatternError (ClassSet × List Char) := do
  let (atom, rest) ← readClassAtom extended text
  let rest := pastBlanks extended rest
  match rest with
  | [] => throw .classUnclosed
  | char :: afterHyphen =>
    let next := peekAfter extended rest
    if char != '-' || next == some ']' || next == some '-' then
      let item ← atom.toClassSet
      return (item, rest)
    let (lastAtom, rest) ← readClassAtom extended (pastBlanks extended afterHyphen)
    let first ← atom.toRangeEnd
    let last ← lastAtom.toRangeEnd
    if last.char < first.char then throw .rangeDisordered
    return (.range first last, rest)

/-- Reads the rest of a class. The items of the class being read come last first; `frames` is what
surrounds it. -/
def readClassRest (extended : Bool) :
    Nat → List ClassFrame → List ClassSet → List Char → Except PatternError (Pattern × List Char)
  | 0, _, _, _ => .error .classUnclosed
  | fuel + 1, frames, items, text =>
    let operation (op : SetOp) (rest : List Char) : Except PatternError (Pattern × List Char) :=
      let (left, frames) := completeOperation (.ofItems items.reverse) frames
      readClassRest extended fuel (.operation op left :: frames) [] rest
    match pastBlanks extended text with
    | [] => .error .classUnclosed
    | '[' :: rest =>
      match readAscii? rest with
      | some (item, rest) => readClassRest extended fuel frames (item :: items) rest
      | none =>
        let (negated, inner, rest) := openClass extended rest
        readClassRest extended fuel (.bracket items negated :: frames) inner.reverse rest
    | ']' :: rest =>
      match completeOperation (.ofItems items.reverse) frames with
      | (set, .bracket outer negated :: []) =>
        if outer.isEmpty then .ok (.bracketed negated set, rest) else .error .classUnclosed
      | (set, .bracket outer negated :: frames) =>
        readClassRest extended fuel frames (.bracketed negated set :: outer) rest
      | _ => .error .classUnclosed
    | '&' :: '&' :: rest => operation .intersection rest
    | '-' :: '-' :: rest => operation .difference rest
    | '~' :: '~' :: rest => operation .symmetricDifference rest
    | text => do
      let (item, rest) ← readClassItem extended text
      readClassRest extended fuel frames (item :: items) rest

/-- Reads a class after its opening bracket. -/
def readClass (extended : Bool) (text : List Char) : Except PatternError (Pattern × List Char) :=
  let (negated, items, rest) := openClass extended text
  readClassRest extended (rest.length + 1) [.bracket [] negated] items.reverse rest

/-- The flag of a letter. -/
def flagOf? : Char → Option Flag
  | 'i' => some .caseInsensitive
  | 'm' => some .multiLine
  | 's' => some .dotMatchesNewline
  | 'U' => some .swapGreed
  | 'u' => some .unicode
  | 'R' => some .crlf
  | 'x' => some .extended
  | _ => none

/-- Reads flags up to a colon or a closing parenthesis, which is returned with the flags. -/
def readFlags (changes : FlagChanges) (negated afterMinus : Bool) :
    List Char → Except PatternError (FlagChanges × Char × List Char)
  | [] => .error .flagsUnclosed
  | char :: rest =>
    if char == ':' || char == ')' then
      if afterMinus then .error .flagNegationDangling else .ok (changes, char, rest)
    else if char == '-' then
      if negated then .error .flagNegationRepeated else readFlags changes true true rest
    else
      match flagOf? char with
      | none => .error .flagUnknown
      | some flag =>
        if (changes.get? flag).isSome then .error .flagDuplicate
        else readFlags (changes ++ [(flag, !negated)]) negated false rest

/-- Whether a character may stand in a group name, at its start or later. -/
def isNameChar (isFirst : Bool) (char : Char) : Bool :=
  if isFirst then char == '_' || Unicode.Latest.isAlphabetic char
  else char == '_' || char == '.' || char == '[' || char == ']' ||
      Unicode.Latest.isAlphanumeric char

/-- Reads a group name up to its closing angle bracket. -/
def readName (text : List Char) : Except PatternError (String × List Char) :=
  match text.span (· != '>') with
  | (name, rest) =>
    let allowed := match name with
      | [] => true
      | first :: others => isNameChar true first && others.all (isNameChar false)
    if !allowed then .error .groupNameInvalid
    else match rest with
      | [] => .error .groupNameUnclosed
      | _ :: rest => if name.isEmpty then .error .groupNameEmpty else .ok (String.ofList name, rest)

/-- The alternatives and parts read so far at one level of nesting, all last first. -/
structure Level where
  alternatives : List Pattern := []
  parts : List Pattern := []
  deriving DecidableEq, Repr

namespace Level

/-- Adds a part. -/
def push (level : Level) (part : Pattern) : Level :=
  { level with parts := part :: level.parts }

/-- Begins the next alternative. -/
def nextAlternative (level : Level) : Level where
  alternatives := .ofParts level.parts.reverse :: level.alternatives

/-- The pattern that the level amounts to. -/
def toPattern (level : Level) : Pattern :=
  match level.nextAlternative.alternatives.reverse with
  | [] => .empty
  | first :: rest => .ofAlternatives first rest

end Level

/-- What a group does with its inside. -/
inductive GroupKind
  | capture (index : Nat)
  | within (changes : FlagChanges)
  deriving DecidableEq, Repr

/-- An open group. -/
structure OpenGroup where
  outer : Level
  kind : GroupKind
  extended : Bool
  deriving DecidableEq, Repr

/-- How far reading has come. -/
structure State where
  extended : Bool := false
  level : Level := {}
  /-- Open groups, the innermost first. -/
  groups : List OpenGroup := []
  groupCount : Nat := 0
  names : List String := []
  deriving DecidableEq, Repr

namespace State

/-- Adds a part to the level being read. -/
def push (state : State) (part : Pattern) : State :=
  { state with level := state.level.push part }

def openGroup (state : State) (kind : GroupKind) (extended : Bool) : State :=
  { state with
    extended
    level := {}
    groups := ⟨state.level, kind, state.extended⟩ :: state.groups }

/-- Opens the next numbered group. -/
def openCapture (state : State) : State :=
  { state.openGroup (.capture (state.groupCount + 1)) state.extended with
    groupCount := state.groupCount + 1 }

/-- Closes the innermost group. -/
def closeGroup (state : State) : Except PatternError State :=
  match state.groups with
  | [] => .error .groupUnopened
  | group :: groups =>
    let inner := state.level.toPattern
    let part := match group.kind with
      | .capture index => .capture index inner
      | .within changes => .within changes inner
    .ok { state with level := group.outer.push part, groups, extended := group.extended }

/-- Repeats the last part. -/
def repeatLast (state : State) (least : Nat) (most : Option Nat) (greedy : Bool) :
    Except PatternError State :=
  match state.level.parts with
  | [] | .flags _ :: _ => .error .repetitionMissing
  | part :: parts =>
    .ok { state with
      level := { state.level with parts := .repetition least most greedy part :: parts } }

end State

/-- Reads what follows the opening parenthesis of a group. -/
def readGroup (state : State) (text : List Char) : Except PatternError (State × List Char) :=
  let named (rest : List Char) : Except PatternError (State × List Char) := do
    let (name, rest) ← readName rest
    if state.names.contains name then throw .groupNameDuplicate
    return ({ state.openCapture with names := name :: state.names }, rest)
  match pastBlanks state.extended text with
  | '?' :: '=' :: _ | '?' :: '!' :: _ | '?' :: '<' :: '=' :: _ | '?' :: '<' :: '!' :: _ =>
    .error .lookaround
  | '?' :: 'P' :: '<' :: rest | '?' :: '<' :: rest => named rest
  | '?' :: rest => do
    let (changes, terminator, rest) ← readFlags [] false false rest
    let extended := (changes.get? .extended).getD state.extended
    if terminator == ':' then return (state.openGroup (.within changes) extended, rest)
    if changes.isEmpty then throw .repetitionMissing
    return ({ state.push (.flags changes) with extended }, rest)
  | rest => .ok (state.openCapture, rest)

/-- The digits at the start of a text, with blanks of an extended pattern skipped. -/
def takeDigits (extended inComment : Bool) : List Char → List Char × List Char
  | [] => ([], [])
  | char :: rest =>
    if inComment then takeDigits extended (char != '\n') rest
    else if char.isDigit then
      let (digits, rest) := takeDigits extended false rest
      (char :: digits, rest)
    else if extended && isWhiteSpace char then takeDigits extended false rest
    else if extended && char == '#' then takeDigits extended true rest
    else ([], char :: rest)

/-- Reads a count with the white space around it; `none` if it has no digits. -/
def readCount (extended : Bool) (text : List Char) :
    Except PatternError (Option Nat × List Char) :=
  let (digits, rest) := takeDigits extended false (text.dropWhile isWhiteSpace)
  let rest := pastBlanks extended (rest.dropWhile isWhiteSpace)
  if digits.isEmpty then .ok (none, rest)
  else
    let value := (digitsValue? 10 (fun digit => some (digit.toNat - 48)) digits).getD 0
    if value < 0x100000000 then .ok (some value, rest) else .error .countTooLarge

/-- Reads whether a repetition is lazy. -/
def readLaziness : List Char → Bool × List Char
  | '?' :: rest => (false, rest)
  | rest => (true, rest)

/-- Reads a counted repetition after its opening brace. -/
def readCounted (state : State) (text : List Char) : Except PatternError (State × List Char) := do
  let finish (least : Nat) (most : Option Nat) (rest : List Char) :
      Except PatternError (State × List Char) := do
    let (greedy, rest) := readLaziness (pastBlanks state.extended rest)
    if (most.getD least) < least then throw .countDisordered
    return (← state.repeatLast least most greedy, rest)
  let (first?, rest) ← readCount state.extended (pastBlanks state.extended text)
  match rest with
  | ',' :: rest =>
    match pastBlanks state.extended rest, first? with
    | [], _ => throw .countUnclosed
    | _, none => throw .countEmpty
    | '\x7d' :: rest, some least => finish least none rest
    | rest, some least =>
      match ← readCount state.extended rest with
      | (none, _) => throw .countEmpty
      | (some most, '\x7d' :: rest) => finish least (some most) rest
      | _ => throw .countUnclosed
  | '\x7d' :: rest =>
    match first? with
    | none => throw .countEmpty
    | some count => finish count (some count) rest
  | _ => throw .countUnclosed

/-- Reads one part: a group sign, an operator, a class, an escape sequence or a character. -/
def step (state : State) (char : Char) (rest : List Char) :
    Except PatternError (State × List Char) :=
  let repetition (least : Nat) (most : Option Nat) : Except PatternError (State × List Char) := do
    let (greedy, rest) := readLaziness rest
    return (← state.repeatLast least most greedy, rest)
  match char with
  | '(' => readGroup state rest
  | ')' => do return (← state.closeGroup, rest)
  | '|' => .ok ({ state with level := state.level.nextAlternative }, rest)
  | '[' => do
    let (part, rest) ← readClass state.extended rest
    return (state.push part, rest)
  | '?' => repetition 0 (some 1)
  | '*' => repetition 0 none
  | '+' => repetition 1 none
  | '\x7b' => readCounted state rest
  | '.' => .ok (state.push .dot, rest)
  | '^' => .ok (state.push (.assertion .lineStart), rest)
  | '$' => .ok (state.push (.assertion .lineEnd), rest)
  | '\\' => do
    let (atom, rest) ← readEscape state.extended rest
    let part : Pattern := match atom with
      | .literal char => .literal char
      | .assertion name => .assertion name
      | .perl kind negated => .perl kind negated
      | .property name negated => .property name negated
    return (state.push part, rest)
  | _ => .ok (state.push (.literal ⟨char, false⟩), rest)

/-- Reads parts until the text ends. -/
def loop : Nat → State → List Char → Except PatternError Pattern
  | 0, _, _ => .error .groupUnclosed
  | fuel + 1, state, text =>
    match pastBlanks state.extended text with
    | [] => if state.groups.isEmpty then .ok state.level.toPattern else .error .groupUnclosed
    | char :: rest => do
      let (state, rest) ← step state char rest
      loop fuel state rest

end Reader

def Pattern.read (text : List Char) : Except PatternError Pattern := do
  let pattern ← Reader.loop (text.length + 1) {} text
  if maxDepth < pattern.depth none then throw .nestingTooDeep
  return pattern

end RuleLexer.Regex
