import RuleLexer.Proofs.Toml.StringForm
import RuleLexer.Toml.Key

/-!
# Written names are read back

A name is written bare or in quotes, depending on its characters, and is read back as it was if what
follows cannot continue a bare name.
-/

namespace RuleLexer.Toml.Key

open StringForm

variable {name : String} {text rest : List Char}

/-- What follows a name does not continue a bare one. -/
def Ends (rest : List Char) : Prop :=
  ∀ char ∈ rest.head?, isBareChar char = false

theorem takeWhile_bare (bare : ∀ char ∈ text, isBareChar char = true) (ends : Ends rest) :
    (text ++ rest).takeWhile isBareChar = text := by
  rw [List.takeWhile_append_of_pos bare]
  cases rest with
  | nil => simp
  | cons next rest => simp [ends next rfl]

theorem dropWhile_bare (bare : ∀ char ∈ text, isBareChar char = true) (ends : Ends rest) :
    (text ++ rest).dropWhile isBareChar = rest := by
  rw [List.dropWhile_append_of_pos bare]
  cases rest with
  | nil => simp
  | cons next rest => simp [ends next rfl]

theorem readName?_bare (nonempty : text ≠ []) (bare : ∀ char ∈ text, isBareChar char = true)
    (ends : Ends rest) : readName? (text ++ rest) = some (String.ofList text, rest) := by
  rcases List.exists_cons_of_ne_nil nonempty with ⟨first, tail, rfl⟩
  have first_bare := bare first List.mem_cons_self
  have taken := takeWhile_bare bare ends
  have dropped := dropWhile_bare bare ends
  rw [List.cons_append] at taken dropped ⊢
  unfold readName?
  split
  · rename_i same
    cases same
    exact absurd first_bare (by decide)
  · rename_i same
    cases same
    exact absurd first_bare (by decide)
  · simp only [taken, dropped]

theorem forKey_cases (text : List Char) : forKey text = basic ∨ forKey text = literal := by
  unfold forKey
  dsimp only
  repeat' split
  all_goals simp

theorem readName?_quoted (text rest : List Char) :
    readName? ((forKey text).write text ++ rest) = some (String.ofList text, rest) := by
  have suits := forKey_suits text
  rcases forKey_cases text with form_eq | form_eq
  · rw [form_eq] at suits ⊢
    have follows : basic.Follows rest := by simp [Follows, basic]
    have body := readBody_body suits follows
    rw [write_eq]
    change Option.map _
      (readBody basic (.text 0) (basic.body text ++ (basic.delimiter ++ rest))) = _
    rw [body]
    rfl
  · rw [form_eq] at suits ⊢
    have follows : literal.Follows rest := by simp [Follows, literal]
    have body := readBody_body suits follows
    rw [write_eq]
    change Option.map _
      (readBody literal (.text 0) (literal.body text ++ (literal.delimiter ++ rest))) = _
    rw [body]
    rfl

/-- A written name is read back. -/
theorem readName?_writeName (name : String) (ends : Ends rest) :
    readName? (writeName name ++ rest) = some (name, rest) := by
  rw [writeName]
  split
  · rename_i bare
    simp only [Bool.and_eq_true, Bool.not_eq_true', List.isEmpty_eq_false_iff,
      List.all_eq_true] at bare
    rw [readName?_bare bare.1 bare.2 ends, String.ofList_toList]
  · rw [readName?_quoted, String.ofList_toList]

/-- A written name begins with a quote or with a character of a bare name. -/
theorem head_writeName (name : String) :
    ∃ first tail, writeName name = first :: tail ∧
      (first = '"' ∨ first = '\'' ∨ isBareChar first = true) := by
  rw [writeName]
  split
  · rename_i bare
    simp only [Bool.and_eq_true, Bool.not_eq_true', List.isEmpty_eq_false_iff,
      List.all_eq_true] at bare
    rcases List.exists_cons_of_ne_nil bare.1 with ⟨first, tail, parts⟩
    refine ⟨first, tail, parts, Or.inr (Or.inr (bare.2 first ?_))⟩
    rw [parts]
    exact List.mem_cons_self
  · have written := write_eq (forKey name.toList) name.toList []
    rw [List.append_nil] at written
    rcases forKey_cases name.toList with form_eq | form_eq
    · rw [form_eq] at written ⊢
      exact ⟨'"', _, written, Or.inl rfl⟩
    · rw [form_eq] at written ⊢
      exact ⟨'\'', _, written, Or.inr (Or.inl rfl)⟩

theorem skipBlanks_writeName (name : String) (rest : List Char) :
    skipBlanks (writeName name ++ rest) = writeName name ++ rest := by
  rcases head_writeName name with ⟨first, tail, written, starts⟩
  have noBlank : isBlank first = false := by
    rcases starts with rfl | rfl | bare
    · decide
    · decide
    · cases blank : isBlank first with
      | false => rfl
      | true =>
          simp only [isBlank, Bool.or_eq_true, beq_iff_eq] at blank
          rcases blank with rfl | rfl <;> exact absurd bare (by decide)
  simp [written, skipBlanks, noBlank]

theorem return_not_mem_writeName (name : String) : '\r' ∉ writeName name := by
  rw [writeName]
  split
  · rename_i bare
    simp only [Bool.and_eq_true, List.all_eq_true] at bare
    intro mem
    exact absurd (bare.2 '\r' mem) (by decide)
  · refine return_not_mem_write ?_ (forKey_suits name.toList)
    rcases forKey_cases name.toList with form_eq | form_eq <;>
      · rw [form_eq]
        decide

/-- What follows a key does not continue it: neither a character of a bare name nor a dot. -/
def Closes (rest : List Char) : Prop :=
  Ends rest ∧ ∀ tail, skipBlanks rest ≠ '.' :: tail

theorem readNames?_last (count : Nat) (name : String) (closes : Closes rest) :
    readNames? (count + 1) (writeName name ++ rest) = some ([name], skipBlanks rest) := by
  rw [readNames?, skipBlanks_writeName, readName?_writeName name closes.1]
  dsimp only
  split
  · rename_i dotted
    exact absurd dotted (closes.2 _)
  · rfl

theorem readNames?_cons (count : Nat) (name : String) (rest : List Char) :
    readNames? (count + 1) (writeName name ++ '.' :: rest) =
      (readNames? count rest).map fun (names, rest) => (name :: names, rest) := by
  have ends : Ends ('.' :: rest) := by
    intro char mem
    cases mem
    rfl
  have undotted : skipBlanks ('.' :: rest) = '.' :: rest := rfl
  rw [readNames?, skipBlanks_writeName, readName?_writeName name ends]
  simp only [undotted]

/-- A single name is read as a key. Blanks after it are left out. -/
theorem read?_name (name : String) (closes : Closes rest) :
    read? (writeName name ++ rest) = some ([], name, skipBlanks rest) := by
  rw [read?, maxNames, readNames?_last 78 name closes]
  rfl

/-- Two names with a dot between them are read as a key. -/
theorem read?_pair (first second : String) (closes : Closes rest) :
    read? (writeName first ++ '.' :: (writeName second ++ rest)) =
      some ([first], second, skipBlanks rest) := by
  rw [read?, maxNames, readNames?_cons 78 first, readNames?_last 77 second closes]
  rfl

end RuleLexer.Toml.Key
