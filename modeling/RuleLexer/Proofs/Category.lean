import RuleLexer.Category

/-!
# The texts that name a category

A category has its variant name, its dotted name, and the dotted name without the literal segment at
its front. Looking up a name compares what is left of both sides once their literal segments are
removed, so a literal segment may also be put in front of a dotted name that has none. These are all
the texts that name a category, and no text names two of them.
-/

namespace RuleLexer.Category

variable {category other : Category} {text rest : String}

/-- The text is the variant name of the category, its dotted name, or its dotted name without its
own literal segment. -/
def IsProperName (category : Category) (text : String) : Prop :=
  text = category.name ∨ text = category.dottedName ∨
    literalSegment ++ text = category.dottedName

/-- The text has a literal segment before a dotted name that has none of its own. -/
def IsOverlongName (category : Category) (text : String) : Prop :=
  text = literalSegment ++ category.dottedName ∧
    ∀ rest, category.dottedName ≠ literalSegment ++ rest

instance (category : Category) (text : String) : Decidable (category.IsProperName text) :=
  inferInstanceAs (Decidable (_ ∨ _ ∨ _))

theorem withoutLiteral_append (rest : String) :
    withoutLiteral (literalSegment ++ rest) = rest.toList := by
  have dropped : (literalSegment.toList ++ rest.toList).drop literalSegment.length =
      rest.toList := List.drop_left' rfl
  simp [withoutLiteral, dropped]

theorem withoutLiteral_of_ne (bare : ∀ rest, text ≠ literalSegment ++ rest) :
    withoutLiteral text = text.toList := by
  have starts : ¬literalSegment.toList <+: text.toList := by
    rintro ⟨rest, parts⟩
    apply bare (String.ofList rest)
    apply String.toList_injective
    simp [parts]
  simp [withoutLiteral, starts]

/-- Two texts leave a text without a literal segment: itself, and itself after a literal segment. -/
theorem withoutLiteral_eq_iff (bare : ∀ later, rest ≠ literalSegment ++ later) :
    withoutLiteral text = rest.toList ↔ text = rest ∨ text = literalSegment ++ rest := by
  constructor
  · intro left
    by_cases starts : ∃ later, text = literalSegment ++ later
    · right
      rcases starts with ⟨later, rfl⟩
      rw [withoutLiteral_append] at left
      rw [String.toList_injective left]
    · left
      rw [withoutLiteral_of_ne (not_exists.mp starts)] at left
      exact String.toList_injective left
  · rintro (rfl | rfl)
    · exact withoutLiteral_of_ne bare
    · exact withoutLiteral_append rest

/-- The dotted name without a literal segment. -/
def shortName (category : Category) : String :=
  String.ofList (withoutLiteral category.dottedName)

theorem shortName_ne (category : Category) (later : String) :
    category.shortName ≠ literalSegment ++ later := by
  intro same
  have starts : literalSegment.toList.isPrefixOf category.shortName.toList = true := by
    simp [same]
  have bare : literalSegment.toList.isPrefixOf category.shortName.toList = false := by
    cases category <;> decide
  simp [bare] at starts

theorem dottedName_eq (category : Category) :
    category.dottedName = category.shortName ∨
      category.dottedName = literalSegment ++ category.shortName := by
  apply (withoutLiteral_eq_iff category.shortName_ne).mp
  simp [shortName]

/-- The texts that name the category. -/
def names (category : Category) : List String :=
  [category.name, category.shortName, literalSegment ++ category.shortName]

theorem mem_all (category : Category) : category ∈ all := by
  cases category <;> decide

theorem isNamed_iff : category.isNamed text = true ↔ text ∈ category.names := by
  have short : withoutLiteral text = withoutLiteral category.dottedName ↔
      text = category.shortName ∨ text = literalSegment ++ category.shortName := by
    rw [← withoutLiteral_eq_iff category.shortName_ne, shortName, String.toList_ofList]
  simp only [isNamed, Bool.or_eq_true, beq_iff_eq, short, names, List.mem_cons,
    List.not_mem_nil, or_false]
  constructor
  · rintro ((called | dotted) | named)
    · left
      exact called
    · right
      simpa [dotted] using category.dottedName_eq
    · right
      exact named
  · rintro (called | named)
    · left
      left
      exact called
    · right
      exact named

/-- A text names a category exactly if it is a proper name of it or an overlong one. -/
theorem mem_names_iff :
    text ∈ category.names ↔ category.IsProperName text ∨ category.IsOverlongName text := by
  have bare := category.shortName_ne
  simp only [names, IsProperName, IsOverlongName, List.mem_cons, List.not_mem_nil, or_false]
  rcases category.dottedName_eq with dotted | dotted
  · have noSegment : literalSegment ++ text ≠ category.shortName := (bare text).symm
    rw [dotted]
    simp [bare, noSegment, or_assoc]
  · have cancel : literalSegment ++ text = literalSegment ++ category.shortName ↔
        text = category.shortName := by
      simp
    rw [dotted, cancel, or_comm (a := text = category.shortName)]
    simp

/-- No text names two categories. -/
theorem names_disjoint (mem : text ∈ category.names) (also : text ∈ other.names) :
    category = other := by
  have apart : ∀ first ∈ all, ∀ second ∈ all, ∀ text ∈ first.names,
      text ∈ second.names → first = second := by
    decide +kernel
  exact apart category category.mem_all other other.mem_all text mem also

theorem mem_names_of_ofName? (found : ofName? text = some category) : text ∈ category.names := by
  rw [ofName?] at found
  have named := List.find?_some found
  rw [← isNamed_iff]
  exact named

theorem ofName?_eq_some_iff : ofName? text = some category ↔ text ∈ category.names := by
  constructor
  · exact mem_names_of_ofName?
  · intro mem
    cases found : ofName? text with
    | none =>
        have absent := List.find?_eq_none.mp found category category.mem_all
        rw [isNamed_iff] at absent
        exact absurd mem absent
    | some first => rw [names_disjoint (mem_names_of_ofName? found) mem]

theorem ofName_eq_ok_iff : ofName text = .ok category ↔ text ∈ category.names := by
  rw [← ofName?_eq_some_iff, ofName]
  cases ofName? text <;> simp

theorem ofName_eq_error_iff {unknown : Unknown} :
    ofName text = .error unknown ↔ unknown = ⟨text⟩ ∧ ∀ category : Category, text ∉ category.names := by
  simp only [← ofName?_eq_some_iff, ofName]
  cases ofName? text <;> simp [eq_comm]

/-- A text leads to a category exactly if it is a proper name of that category or an overlong one.
Every text that is neither for any category is reported as unknown. -/
theorem ofName_accepts_exactly (text : String) :
    (∀ category, ofName text = .ok category ↔
      category.IsProperName text ∨ category.IsOverlongName text) ∧
    ∀ unknown, ofName text = .error unknown ↔
      unknown = ⟨text⟩ ∧
        ∀ category : Category, ¬category.IsProperName text ∧ ¬category.IsOverlongName text := by
  constructor
  · intro category
    rw [ofName_eq_ok_iff, mem_names_iff]
  · intro unknown
    simp only [ofName_eq_error_iff, mem_names_iff, not_or]

/-- A literal segment before a dotted name that has none is accepted, although no category has the
text as a proper name. -/
theorem overlong_name_accepted :
    ofName "Literal.Keyword" = .ok .keyword ∧
      ∀ category : Category, ¬category.IsProperName "Literal.Keyword" := by
  constructor
  · rw [ofName_eq_ok_iff]
    decide +kernel
  · intro category
    cases category <;> decide +kernel

end RuleLexer.Category
