/-!
# File name patterns

A pattern is a sequence of items: `*` stands for any run of characters, `?` for one character, a
bracketed class for one of its characters, and any other character for itself. A class begins with
`!` if it is negated; a `]` at its very start belongs to it; and a bracket that is never closed
stands for itself. A name matches if it can be cut into consecutive pieces, one for each item.
-/

namespace RuleLexer.Glob

/-- Takes a negation sign, if there is one. -/
def takeNegation : List Char → Bool × List Char
  | '!' :: rest => (true, rest)
  | text => (false, text)

/-- Takes a closing bracket that belongs to the class because it stands at its start. -/
def takeLead : List Char → List Char × List Char
  | ']' :: rest => ([']'], rest)
  | text => ([], text)

theorem length_takeNegation_le (text : List Char) :
    (takeNegation text).2.length ≤ text.length := by
  fun_cases takeNegation text <;> simp

theorem length_takeLead_le (text : List Char) : (takeLead text).2.length ≤ text.length := by
  fun_cases takeLead text <;> simp

/-- Divides a text at its first closing bracket. -/
def divide? : List Char → Option (List Char × List Char)
  | [] => none
  | char :: rest =>
    if char = ']' then some ([], rest)
    else (divide? rest).map fun (before, after) => (char :: before, after)

theorem divide?_eq_some_iff {text before after : List Char} :
    divide? text = some (before, after) ↔ text = before ++ ']' :: after ∧ ']' ∉ before := by
  induction text generalizing before with
  | nil => simp [divide?]
  | cons char rest ih =>
    by_cases closing : char = ']'
    · subst closing
      rcases before with _ | ⟨first, before⟩
      · simp [divide?]
      · simp only [divide?, if_pos, Option.some.injEq, Prod.mk.injEq, List.cons_append,
          List.cons.injEq, List.mem_cons]
        grind
    · rcases before with _ | ⟨first, before⟩
      · simp [divide?, closing]
      · simp only [divide?, closing, if_false, Option.map_eq_some_iff, Prod.exists]
        grind

/-- Reads a class after its opening bracket: whether it is negated, its inside, and the text after
its closing bracket. -/
def readClass? (text : List Char) : Option (Bool × List Char × List Char) :=
  let negation := takeNegation text
  let lead := takeLead negation.2
  (divide? lead.2).map fun (inside, rest) => (negation.1, lead.1 ++ inside, rest)

theorem length_rest_of_readClass? {text inside rest : List Char} {negated : Bool}
    (read : readClass? text = some (negated, inside, rest)) : rest.length < text.length := by
  have negationBound := length_takeNegation_le text
  have leadBound := length_takeLead_le (takeNegation text).2
  simp only [readClass?, Option.map_eq_some_iff, Prod.exists, divide?_eq_some_iff] at read
  rcases read with ⟨before, after, ⟨remains, -⟩, same⟩
  cases same
  rw [remains] at leadBound
  simp only [List.length_append, List.length_cons] at leadBound
  omega

/-- Whether a character is in the set inside a class. A hyphen between two characters makes a range
of them; any other character stands for itself. -/
def isInSet (char : Char) : List Char → Bool
  | first :: '-' :: last :: rest => decide (first ≤ char ∧ char ≤ last) || isInSet char rest
  | own :: rest => char == own || isInSet char rest
  | [] => false

/-- Whether some tail of a name satisfies a condition. -/
def someTail (condition : List Char → Bool) : List Char → Bool
  | [] => condition []
  | char :: rest => condition (char :: rest) || someTail condition rest

/-- Whether a name begins with a fitting character and the rest of it satisfies a condition. -/
def takesOne (fits : Char → Bool) (condition : List Char → Bool) : List Char → Bool
  | [] => false
  | char :: rest => fits char && condition rest

/-- Whether a name matches a pattern, which is read along with the name. -/
def matchesFrom (pattern : List Char) : List Char → Bool :=
  match pattern with
  | [] => List.isEmpty
  | '*' :: rest => someTail (matchesFrom rest)
  | '?' :: rest => takesOne (fun _ => true) (matchesFrom rest)
  | '[' :: rest =>
    match _found : readClass? rest with
    | some (negated, inside, rest) =>
      takesOne (fun char => isInSet char inside != negated) (matchesFrom rest)
    | none => takesOne (· == '[') (matchesFrom rest)
  | own :: rest => takesOne (· == own) (matchesFrom rest)
termination_by pattern.length
decreasing_by
  all_goals simp
  have := length_rest_of_readClass? _found
  omega

/-- Whether a name matches a pattern. -/
def isMatch (pattern name : String) : Bool :=
  matchesFrom pattern.toList name.toList

/-- The part of a path after its last slash or backslash. -/
def fileName (path : String) : String :=
  String.ofList (path.toList.reverse.takeWhile fun char => char != '/' && char != '\\').reverse

end RuleLexer.Glob
