import Mathlib.Data.List.Forall2
import Mathlib.Data.List.TakeWhile
import RuleLexer.Definition

/-!
# What file name patterns mean

A pattern is read, from left to right, as a list of items, each of which fits certain texts. Names
are matched while the pattern is read, but what comes out is the same as if the whole pattern were
read first: a name matches exactly if it can be cut into consecutive pieces, one for each item, that
fit their items. Every pattern is read in exactly one way.
-/

namespace RuleLexer.Glob

/-- One part of a pattern. -/
inductive Item
  | anyRun
  | anyChar
  /-- A character inside the ranges, or outside them. -/
  | oneOf (negated : Bool) (ranges : List (Char × Char))
  | literal (char : Char)

/-- A piece of a name fits an item. -/
def Item.Fits : Item → List Char → Prop
  | anyRun, _ => True
  | anyChar, piece => ∃ char, piece = [char]
  | oneOf negated ranges, piece => ∃ char, piece = [char] ∧
      ((∃ range ∈ ranges, range.1 ≤ char ∧ char ≤ range.2) ↔ negated = false)
  | literal own, piece => piece = [own]

/-- A name can be cut into consecutive pieces that fit the items. -/
def CutsInto (items : List Item) (name : List Char) : Prop :=
  ∃ pieces, List.Forall₂ Item.Fits items pieces ∧ pieces.flatten = name

/-- The ranges of the set inside a class, from left to right. A character that is followed by a
hyphen and a third character begins a range; any other one is a range of its own. -/
inductive IsSet : List Char → List (Char × Char) → Prop
  | nil : IsSet [] []
  | range {first last : Char} {rest : List Char} {ranges : List (Char × Char)}
      (later : IsSet rest ranges) : IsSet (first :: '-' :: last :: rest) ((first, last) :: ranges)
  | single {own : Char} {rest : List Char} {ranges : List (Char × Char)}
      (alone : ∀ last after, rest ≠ '-' :: last :: after) (later : IsSet rest ranges) :
      IsSet (own :: rest) ((own, own) :: ranges)

/-- After its opening bracket, a text begins with a class: possibly an exclamation mark, which
negates it, then its set, and the bracket that closes it. The first character of the set may be a
closing bracket; any later one closes the class. -/
structure IsClass (text : List Char) (negated : Bool) (inside rest : List Char) : Prop where
  parts : text = (if negated then ['!'] else []) ++ inside ++ ']' :: rest
  inside_eq : ∃ first more, inside = first :: more ∧ ']' ∉ more ∧ (negated = false → first ≠ '!')

/-- The items of a pattern, from left to right. -/
inductive IsPattern : List Char → List Item → Prop
  | nil : IsPattern [] []
  | anyRun {rest : List Char} {items : List Item} (later : IsPattern rest items) :
      IsPattern ('*' :: rest) (.anyRun :: items)
  | anyChar {rest : List Char} {items : List Item} (later : IsPattern rest items) :
      IsPattern ('?' :: rest) (.anyChar :: items)
  | oneOf {text inside rest : List Char} {negated : Bool} {ranges : List (Char × Char)}
      {items : List Item} (isClass : IsClass text negated inside rest)
      (isSet : IsSet inside ranges) (later : IsPattern rest items) :
      IsPattern ('[' :: text) (.oneOf negated ranges :: items)
  | unclosed {rest : List Char} {items : List Item}
      (unclosed : ∀ negated inside after, ¬IsClass rest negated inside after)
      (later : IsPattern rest items) : IsPattern ('[' :: rest) (.literal '[' :: items)
  | literal {own : Char} {rest : List Char} {items : List Item} (noRun : own ≠ '*')
      (noMark : own ≠ '?') (noClass : own ≠ '[') (later : IsPattern rest items) :
      IsPattern (own :: rest) (.literal own :: items)

/-- The part of a path after its last slash or backslash. -/
structure IsFileName (path name : List Char) : Prop where
  parts : ∃ directory, path = directory ++ name ∧
    ∀ separator ∈ directory.getLast?, separator = '/' ∨ separator = '\\'
  simple : '/' ∉ name ∧ '\\' ∉ name

variable {text inside rest name pattern : List Char} {negated : Bool} {char : Char}
  {ranges : List (Char × Char)} {item : Item} {items : List Item}

/-- The set inside a class and the text after it, if the class is not negated or the negation has
been read already. -/
theorem divide?_takeLead_iff :
    (∃ before, divide? (takeLead text).2 = some (before, rest) ∧
      (takeLead text).1 ++ before = inside) ↔
    text = inside ++ ']' :: rest ∧ ∃ first more, inside = first :: more ∧ ']' ∉ more := by
  simp only [divide?_eq_some_iff]
  fun_cases takeLead text with
  | case1 tail =>
      constructor
      · rintro ⟨before, ⟨rfl, noneCloses⟩, rfl⟩
        exact ⟨rfl, ']', before, rfl, noneCloses⟩
      · rintro ⟨parts, first, more, rfl, noneCloses⟩
        cases parts
        exact ⟨more, ⟨rfl, noneCloses⟩, rfl⟩
  | case2 text other =>
      constructor
      · rintro ⟨before, ⟨rfl, noneCloses⟩, rfl⟩
        rcases before with _ | ⟨first, more⟩
        · exact absurd rfl (other rest)
        · exact ⟨rfl, first, more, rfl, fun mem => noneCloses (List.mem_cons_of_mem first mem)⟩
      · rintro ⟨rfl, first, more, rfl, noneCloses⟩
        have notClosing : ']' ≠ first := by
          rintro rfl
          exact other _ rfl
        exact ⟨first :: more, ⟨rfl, by simp [notClosing, noneCloses]⟩, rfl⟩

theorem readClass?_eq_some_iff :
    readClass? text = some (negated, inside, rest) ↔ IsClass text negated inside rest := by
  have classes : readClass? text = some (negated, inside, rest) ↔
      (takeNegation text).1 = negated ∧
        (takeNegation text).2 = inside ++ ']' :: rest ∧
          ∃ first more, inside = first :: more ∧ ']' ∉ more := by
    rw [← divide?_takeLead_iff]
    simp only [readClass?, Option.map_eq_some_iff, Prod.exists, Prod.mk.injEq]
    grind
  rw [classes]
  fun_cases takeNegation text with
  | case1 tail =>
      constructor
      · rintro ⟨rfl, rfl, first, more, rfl, noneCloses⟩
        exact ⟨rfl, first, more, rfl, noneCloses, by simp⟩
      · rintro ⟨parts, first, more, rfl, noneCloses, plain⟩
        cases negated with
        | false =>
            cases parts
            exact absurd rfl (plain rfl)
        | true =>
            cases parts
            exact ⟨rfl, rfl, first, more, rfl, noneCloses⟩
  | case2 text other =>
      constructor
      · rintro ⟨rfl, rfl, first, more, rfl, noneCloses⟩
        refine ⟨rfl, first, more, rfl, noneCloses, ?_⟩
        rintro - rfl
        exact other _ rfl
      · rintro ⟨parts, first, more, rfl, noneCloses, plain⟩
        cases negated with
        | false => exact ⟨rfl, parts, first, more, rfl, noneCloses⟩
        | true => exact absurd parts (other _)

theorem isInSet_iff (isSet : IsSet inside ranges) :
    isInSet char inside = true ↔ ∃ range ∈ ranges, range.1 ≤ char ∧ char ≤ range.2 := by
  induction isSet with
  | nil => simp [isInSet]
  | range later ih => simp [isInSet, ih]
  | single alone later ih =>
      rename_i own rest ranges
      have own_iff : char = own ↔ own ≤ char ∧ char ≤ own := by
        constructor
        · rintro rfl
          simp
        · rintro ⟨least, greatest⟩
          exact Char.le_antisymm greatest least
      rw [isInSet]
      · simp [ih, own_iff]
      · intro last after same
        exact alone last after same

theorem exists_isSet (inside : List Char) : ∃ ranges, IsSet inside ranges := by
  induction inside using isInSet.induct with
  | case1 first last rest ih =>
      rcases ih with ⟨ranges, later⟩
      exact ⟨_, .range later⟩
  | case2 own rest alone ih =>
      rcases ih with ⟨ranges, later⟩
      exact ⟨_, .single alone later⟩
  | case3 => exact ⟨[], .nil⟩

theorem IsSet.unique {ranges' : List (Char × Char)} (isSet : IsSet inside ranges)
    (isSet' : IsSet inside ranges') : ranges = ranges' := by
  induction isSet generalizing ranges' with
  | nil =>
      cases isSet'
      rfl
  | range later ih =>
      cases isSet' with
      | range later' => rw [ih later']
      | single alone later' => exact absurd rfl (alone _ _)
  | single alone later ih =>
      cases isSet' with
      | range later' => exact absurd rfl (alone _ _)
      | single alone' later' => rw [ih later']

theorem cutsInto_nil_iff : CutsInto [] name ↔ name = [] := by
  simp [CutsInto, eq_comm]

theorem cutsInto_cons_iff : CutsInto (item :: items) name ↔
    ∃ piece rest, name = piece ++ rest ∧ item.Fits piece ∧ CutsInto items rest := by
  constructor
  · rintro ⟨pieces, fit, rfl⟩
    cases fit with
    | cons first later => exact ⟨_, _, List.flatten_cons, first, _, later, rfl⟩
  · rintro ⟨piece, rest, rfl, first, pieces, later, rfl⟩
    exact ⟨piece :: pieces, .cons first later, List.flatten_cons⟩

theorem someTail_iff {condition : List Char → Bool} : someTail condition name = true ↔
    ∃ skipped rest, name = skipped ++ rest ∧ condition rest = true := by
  induction name with
  | nil => simp [someTail]
  | cons char name ih =>
      simp only [someTail, Bool.or_eq_true, ih]
      constructor
      · rintro (here | ⟨skipped, rest, rfl, later⟩)
        · exact ⟨[], char :: name, rfl, here⟩
        · exact ⟨char :: skipped, rest, rfl, later⟩
      · rintro ⟨_ | ⟨first, skipped⟩, rest, parts, holds⟩
        · left
          rw [parts]
          exact holds
        · right
          cases parts
          exact ⟨skipped, rest, rfl, holds⟩

theorem someTail_iff_cutsInto {condition : List Char → Bool}
    (later : ∀ rest, condition rest = true ↔ CutsInto items rest) :
    someTail condition name = true ↔ CutsInto (.anyRun :: items) name := by
  simp [someTail_iff, cutsInto_cons_iff, later, Item.Fits]

theorem takesOne_iff_cutsInto {fits : Char → Bool} {condition : List Char → Bool}
    (single : ∀ piece, item.Fits piece ↔ ∃ char, piece = [char] ∧ fits char = true)
    (later : ∀ rest, condition rest = true ↔ CutsInto items rest) :
    takesOne fits condition name = true ↔ CutsInto (item :: items) name := by
  rw [cutsInto_cons_iff]
  cases name with
  | nil => simp [takesOne, single]
  | cons char name => simp [takesOne, single, ← later]

theorem matchesFrom_class (read : readClass? text = some (negated, inside, rest)) :
    matchesFrom ('[' :: text) =
      takesOne (fun char => isInSet char inside != negated) (matchesFrom rest) := by
  rw [matchesFrom]
  split
  · rename_i found
    rw [read] at found
    cases found
    rfl
  · rename_i found
    rw [read] at found
    cases found

theorem matchesFrom_unclosed (read : readClass? text = none) :
    matchesFrom ('[' :: text) = takesOne (· == '[') (matchesFrom text) := by
  rw [matchesFrom]
  split
  · rename_i found
    rw [read] at found
    cases found
  · rfl

theorem matchesFrom_literal (noRun : char ≠ '*') (noMark : char ≠ '?') (noClass : char ≠ '[') :
    matchesFrom (char :: rest) = takesOne (· == char) (matchesFrom rest) := by
  rw [matchesFrom]
  · exact noRun
  · exact noMark
  · exact noClass

theorem readClass?_eq_none_iff :
    readClass? text = none ↔ ∀ negated inside rest, ¬IsClass text negated inside rest := by
  simp only [← readClass?_eq_some_iff]
  cases readClass? text with
  | none => simp
  | some found =>
      rcases found with ⟨negated, inside, rest⟩
      simp

/-- A name matches a pattern exactly if it can be cut into pieces for the items of the pattern. -/
theorem matchesFrom_iff (isPattern : IsPattern pattern items) :
    matchesFrom pattern name = true ↔ CutsInto items name := by
  induction isPattern generalizing name with
  | nil => simp [matchesFrom, cutsInto_nil_iff]
  | anyRun later ih =>
      rw [matchesFrom]
      exact someTail_iff_cutsInto fun rest => ih
  | anyChar later ih =>
      rw [matchesFrom]
      apply takesOne_iff_cutsInto
      · simp [Item.Fits]
      · exact fun rest => ih
  | oneOf isClass isSet later ih =>
      rw [matchesFrom_class (readClass?_eq_some_iff.mpr isClass)]
      apply takesOne_iff_cutsInto
      · intro piece
        simp only [Item.Fits, ← isInSet_iff isSet, bne_iff_ne, ne_eq]
        rename_i negated _ _
        cases negated <;> simp
      · exact fun rest => ih
  | unclosed unclosed later ih =>
      rw [matchesFrom_unclosed (readClass?_eq_none_iff.mpr unclosed)]
      apply takesOne_iff_cutsInto
      · simp [Item.Fits]
      · exact fun rest => ih
  | literal noRun noMark noClass later ih =>
      rw [matchesFrom_literal noRun noMark noClass]
      apply takesOne_iff_cutsInto
      · simp [Item.Fits]
      · exact fun rest => ih

theorem exists_isPattern (pattern : List Char) : ∃ items, IsPattern pattern items := by
  induction pattern using matchesFrom.induct with
  | case1 => exact ⟨[], .nil⟩
  | case2 rest ih =>
      rcases ih with ⟨items, later⟩
      exact ⟨_, .anyRun later⟩
  | case3 rest ih =>
      rcases ih with ⟨items, later⟩
      exact ⟨_, .anyChar later⟩
  | case4 text negated inside rest read ih =>
      rcases ih with ⟨items, later⟩
      rcases exists_isSet inside with ⟨ranges, isSet⟩
      exact ⟨_, .oneOf (readClass?_eq_some_iff.mp read) isSet later⟩
  | case5 rest read ih =>
      rcases ih with ⟨items, later⟩
      exact ⟨_, .unclosed (readClass?_eq_none_iff.mp read) later⟩
  | case6 own rest noRun noMark noClass ih =>
      rcases ih with ⟨items, later⟩
      exact ⟨_, .literal noRun noMark noClass later⟩

theorem IsPattern.unique {items' : List Item} (isPattern : IsPattern pattern items)
    (isPattern' : IsPattern pattern items') : items = items' := by
  induction isPattern generalizing items' with
  | nil =>
      cases isPattern'
      rfl
  | anyRun later ih =>
      cases isPattern' with
      | anyRun later' => rw [ih later']
      | literal noRun => exact absurd rfl noRun
  | anyChar later ih =>
      cases isPattern' with
      | anyChar later' => rw [ih later']
      | literal noRun noMark => exact absurd rfl noMark
  | oneOf isClass isSet later ih =>
      cases isPattern' with
      | oneOf isClass' isSet' later' =>
          rw [← readClass?_eq_some_iff] at isClass isClass'
          cases isClass.symm.trans isClass'
          rw [isSet.unique isSet', ih later']
      | unclosed unclosed => exact absurd isClass (unclosed _ _ _)
      | literal noRun noMark noClass => exact absurd rfl noClass
  | unclosed unclosed later ih =>
      cases isPattern' with
      | oneOf isClass => exact absurd isClass (unclosed _ _ _)
      | unclosed unclosed' later' => rw [ih later']
      | literal noRun noMark noClass => exact absurd rfl noClass
  | literal noRun noMark noClass later ih =>
      cases isPattern' with
      | anyRun => exact absurd rfl noRun
      | anyChar => exact absurd rfl noMark
      | oneOf => exact absurd rfl noClass
      | unclosed => exact absurd rfl noClass
      | literal noRun' noMark' noClass' later' => rw [ih later']

theorem isFileName_fileName (path : String) :
    IsFileName path.toList (fileName path).toList := by
  rw [fileName, String.toList_ofList]
  refine ⟨⟨(path.toList.reverse.dropWhile fun char => char != '/' && char != '\\').reverse, ?_, ?_⟩,
    ?_, ?_⟩
  · rw [← List.reverse_append, List.takeWhile_append_dropWhile, List.reverse_reverse]
  · intro separator last
    rw [List.getLast?_reverse] at last
    have stops := List.head?_dropWhile_not (fun char => char != '/' && char != '\\')
      path.toList.reverse
    rw [last] at stops
    by_cases slash : separator = '/'
    · exact Or.inl slash
    · right
      simpa [slash] using stops
  · intro mem
    have plain := List.mem_takeWhile_imp (List.mem_reverse.mp mem)
    simp at plain
  · intro mem
    have plain := List.mem_takeWhile_imp (List.mem_reverse.mp mem)
    simp at plain

theorem IsFileName.eq_fileName {path : String} (isFileName : IsFileName path.toList name) :
    name = (fileName path).toList := by
  rcases isFileName with ⟨⟨directory, parts, last⟩, noSlash, noBackslash⟩
  have plain : ∀ char ∈ name.reverse, (char != '/' && char != '\\') = true := by
    intro char mem
    have noSlash' : char ≠ '/' := fun same => noSlash (same ▸ List.mem_reverse.mp mem)
    have noBackslash' : char ≠ '\\' := fun same => noBackslash (same ▸ List.mem_reverse.mp mem)
    simp [noSlash', noBackslash']
  have stops : directory.reverse.takeWhile (fun char => char != '/' && char != '\\') = [] := by
    cases reversed : directory.reverse with
    | nil => rfl
    | cons separator rest =>
        rw [← List.head?_reverse, reversed] at last
        rcases last separator rfl with rfl | rfl <;> rfl
  rw [fileName, String.toList_ofList, parts, List.reverse_append,
    List.takeWhile_append_of_pos plain, stops]
  simp

end RuleLexer.Glob

namespace RuleLexer.LexerInfo

open Glob

/-- A path matches the file names of a lexer exactly if the part of it after its last slash or
backslash can be cut into pieces that fit the items of one of the patterns. Every path has one such
part, and every pattern is read in one way. -/
theorem matchesFilename_iff (info : LexerInfo) (path : String) :
    (∃! name, IsFileName path.toList name) ∧
    (∀ pattern : String, ∃! items, IsPattern pattern.toList items) ∧
    (info.matchesFilename path = true ↔
      ∃ pattern ∈ info.filenames, ∃ name items, IsFileName path.toList name ∧
        IsPattern pattern.toList items ∧ CutsInto items name) := by
  refine ⟨⟨_, isFileName_fileName path, fun name isFileName => isFileName.eq_fileName⟩, ?_, ?_⟩
  · intro pattern
    rcases exists_isPattern pattern.toList with ⟨items, isPattern⟩
    exact ⟨items, isPattern, fun items' isPattern' => isPattern'.unique isPattern⟩
  · simp only [matchesFilename, isMatch, List.any_eq_true]
    constructor
    · rintro ⟨pattern, mem, holds⟩
      rcases exists_isPattern pattern.toList with ⟨items, isPattern⟩
      exact ⟨pattern, mem, _, items, isFileName_fileName path, isPattern,
        (matchesFrom_iff isPattern).mp holds⟩
    · rintro ⟨pattern, mem, name, items, isFileName, isPattern, cuts⟩
      rw [isFileName.eq_fileName] at cuts
      exact ⟨pattern, mem, (matchesFrom_iff isPattern).mpr cuts⟩

end RuleLexer.LexerInfo
