import RuleLexer.Proofs.Regex.Ways

/-!
# Words as expressions

What the expression of a word matches, and with which characters a match can begin. A word matches
where it stands and in no other way, so the place after it is told by its length.
-/

namespace RuleLexer.Regex

namespace Reading

/-- The place after a number of characters. -/
def skip (reading : Reading) (count : Nat) : Reading :=
  { reading with
    previous := (reading.rest.take count).getLast?.or reading.previous
    rest := reading.rest.drop count
    position := reading.position + count }

variable {reading after : Reading} {char : Char} {rest : List Char}

@[simp]
theorem rest_skip (reading : Reading) (count : Nat) :
    (reading.skip count).rest = reading.rest.drop count := rfl

@[simp]
theorem position_skip (reading : Reading) (count : Nat) :
    (reading.skip count).position = reading.position + count := rfl

@[simp]
theorem skip_zero (reading : Reading) : reading.skip 0 = reading := by
  simp [skip]

theorem past_eq_skip (remains : reading.rest = char :: rest) :
    reading.past char rest = reading.skip 1 := by
  simp [past, skip, remains]

theorem skip_skip (reading : Reading) (first second : Nat) :
    (reading.skip first).skip second = reading.skip (first + second) := by
  simp only [skip, List.drop_drop, List.take_add, List.getLast?_append, Option.or_assoc,
    Nat.add_assoc]

/-- A place that is reached differs from the one after some characters at most in the marks. -/
theorem Reaches.eq_skip (reaches : reading.Reaches after) :
    ∃ count ≤ reading.rest.length, after = { reading.skip count with marks := after.marks } := by
  rcases reaches with ⟨taken, remains, position, previous⟩
  refine ⟨taken.length, ?_, ?_⟩
  · rw [remains, List.length_append]
    exact Nat.le_add_right _ _
  · rcases after with ⟨previous', rest', position', marks'⟩
    simp only at remains position previous
    simp [skip, remains, position, previous]

end Reading

namespace Expr

def literal : List Char → Expr
  | [] => empty
  | first :: rest =>
    rest.foldl (fun front char => seq front (set (.single char))) (set (.single first))

/-- Any of the words, the earlier ones preferred. -/
def anyOf : List (List Char) → Expr
  | [] => empty
  | first :: rest => rest.foldl (fun words word => alt words (literal word)) (literal first)

/-- Whether a match that takes characters may begin with the given one. -/
def mayBegin : Expr → Char → Bool
  | .empty, _ | .look _, _ => false
  | .set chars, char => chars.contains char
  | .seq first second, char => first.mayBegin char || (!first.consumes && second.mayBegin char)
  | .alt preferred other, char => preferred.mayBegin char || other.mayBegin char
  | .plus _ body, char | .group _ body, char => body.mayBegin char

variable {following : Option Char} {reading after : Reading} {char : Char}

/-- The character `char` comes next and satisfies the condition. -/
def Begins (condition : Char → Bool) (reading : Reading) : Prop :=
  ∃ char, reading.rest.head? = some char ∧ condition char = true

theorem rounds_mayBegin {once : Reading → List Reading} {greedy : Bool} {bound : Nat}
    {condition : Char → Bool}
    (onceBegins : ∀ reading, ∀ after ∈ once reading,
      after.rest = reading.rest ∨ Begins condition reading)
    (mem : after ∈ rounds once greedy bound reading) :
    after.rest = reading.rest ∨ Begins condition reading := by
  induction bound generalizing reading with
  | zero => cases mem
  | succ bound ih =>
      rcases mem_rounds mem with ⟨middle, first, rfl | later⟩
      · exact onceBegins reading after first
      · rcases onceBegins reading middle first with same | begins
        · have further := ih later
          rw [Begins, same] at further
          exact further
        · exact Or.inr begins

/-- A match that takes characters begins with one that it may begin with. -/
theorem mayBegin_of_mem_ways (expr : Expr) (mem : after ∈ expr.ways following reading) :
    after.rest = reading.rest ∨ Begins expr.mayBegin reading := by
  induction expr generalizing reading after with
  | empty =>
      rw [ways, List.mem_singleton] at mem
      exact Or.inl (by rw [mem])
  | set chars =>
      rw [ways] at mem
      split at mem
      · cases mem
      · rename_i char rest remains
        split at mem
        · rename_i inside
          exact Or.inr ⟨char, by rw [remains]; rfl, inside⟩
        · cases mem
  | look assertion =>
      rw [ways] at mem
      split at mem
      · rw [List.mem_singleton] at mem
        exact Or.inl (by rw [mem])
      · cases mem
  | seq first second ihFirst ihSecond =>
      rw [ways, List.mem_flatMap] at mem
      rcases mem with ⟨middle, one, two⟩
      rcases ihFirst one with same | ⟨char, next, begins⟩
      · have stays : first.consumes = false := by
          rw [← Bool.not_eq_true]
          intro consuming
          have shorter := length_lt_of_mem_ways first consuming one
          rw [same] at shorter
          exact Nat.lt_irrefl _ shorter
        rcases ihSecond two with same' | ⟨char, next, begins⟩
        · exact Or.inl (same'.trans same)
        · rw [same] at next
          exact Or.inr ⟨char, next, by rw [mayBegin, stays, begins]; simp⟩
      · exact Or.inr ⟨char, next, by rw [mayBegin, begins, Bool.true_or]⟩
  | alt preferred other ihPreferred ihOther =>
      rw [ways, List.mem_append] at mem
      rcases mem with mem | mem
      · rcases ihPreferred mem with same | ⟨char, next, begins⟩
        · exact Or.inl same
        · exact Or.inr ⟨char, next, by rw [mayBegin, begins, Bool.true_or]⟩
      · rcases ihOther mem with same | ⟨char, next, begins⟩
        · exact Or.inl same
        · exact Or.inr ⟨char, next, by rw [mayBegin, begins, Bool.or_true]⟩
  | plus greedy body ih =>
      rw [ways] at mem
      exact rounds_mayBegin (fun reading after once => ih once) mem
  | group index body ih =>
      rw [ways] at mem
      split at mem
      · rcases List.mem_map.mp mem with ⟨inner, inner_mem, rfl⟩
        have inside := ih inner_mem
        exact inside
      · exact ih mem

theorem ways_set_eq_skip (chars : CharClass) (reading : Reading) :
    (set chars).ways following reading =
      if reading.rest.head?.any chars.contains then [reading.skip 1] else [] := by
  rw [ways]
  split
  · rename_i ended
    simp [ended]
  · rename_i char rest remains
    rw [← Reading.past_eq_skip remains]
    simp [remains]

theorem mem_ways_set_iff {chars : CharClass} :
    after ∈ (set chars).ways following reading ↔
      (∃ char, reading.rest.head? = some char ∧ chars.contains char = true) ∧
        after = reading.skip 1 := by
  rw [ways_set_eq_skip, List.mem_ite_nil_right, List.mem_singleton, Option.any_eq_true]

theorem ways_single (char : Char) (reading : Reading) :
    (set (.single char)).ways following reading =
      if [char] <+: reading.rest then [reading.skip 1] else [] := by
  rw [ways_set_eq_skip]
  rcases reading.rest with _ | ⟨next, rest⟩
  · simp
  · simp [CharClass.contains_single, eq_comm]

theorem ways_foldl_seq (front : Expr) (word : List Char) (reading : Reading) :
    (word.foldl (fun front char => seq front (set (.single char))) front).ways following reading =
      (front.ways following reading).flatMap fun after =>
        if word <+: after.rest then [after.skip word.length] else [] := by
  induction word generalizing front with
  | nil => simp
  | cons char word ih =>
      rw [List.foldl_cons, ih, ways, List.flatMap_assoc]
      refine List.flatMap_congr ?_
      intro after _
      rw [ways_single]
      rcases rest_eq : after.rest with _ | ⟨next, rest⟩
      · simp
      · by_cases same : char = next
        · simp [same, rest_eq, Reading.skip_skip, Nat.add_comm]
        · simp [same]

theorem ways_literal (word : List Char) (reading : Reading) :
    (literal word).ways following reading =
      if word <+: reading.rest then [reading.skip word.length] else [] := by
  rcases word with _ | ⟨char, word⟩
  · simp [literal, ways]
  · rw [literal, ways_foldl_seq, ways_single]
    rcases rest_eq : reading.rest with _ | ⟨next, rest⟩
    · simp
    · by_cases same : char = next
      · simp [same, rest_eq, Reading.skip_skip, Nat.add_comm]
      · simp [same]

theorem consumes_literal {word : List Char} (nonempty : word ≠ []) :
    (literal word).consumes = true := by
  rcases word with _ | ⟨char, word⟩
  · exact absurd rfl nonempty
  · refine List.foldlRecOn (motive := fun front : Expr => front.consumes = true) word _ rfl ?_
    intro front consuming char _
    rw [consumes, consuming, Bool.true_or]

theorem isProductive_literal (word : List Char) : (literal word).isProductive = true := by
  rcases word with _ | ⟨char, word⟩
  · rfl
  · refine List.foldlRecOn (motive := fun front : Expr => front.isProductive = true) word _ rfl ?_
    intro front productive char _
    rw [isProductive, productive]
    rfl

theorem consumes_anyOf {words : List (List Char)} (nonempty : words ≠ [])
    (allNonempty : ∀ word ∈ words, word ≠ []) : (anyOf words).consumes = true := by
  rcases words with _ | ⟨first, words⟩
  · exact absurd rfl nonempty
  · refine List.foldlRecOn (motive := fun front : Expr => front.consumes = true) words _
      (consumes_literal (allNonempty first List.mem_cons_self)) ?_
    intro front consuming word mem
    rw [consumes, consuming, consumes_literal (allNonempty word (List.mem_cons_of_mem _ mem))]
    rfl

theorem isProductive_anyOf (words : List (List Char)) : (anyOf words).isProductive = true := by
  rcases words with _ | ⟨first, words⟩
  · rfl
  · refine List.foldlRecOn (motive := fun front : Expr => front.isProductive = true) words _
      (isProductive_literal first) ?_
    intro front productive word _
    rw [isProductive, productive, isProductive_literal]
    rfl

end Expr

end RuleLexer.Regex
