import RuleLexer.Proofs.Regex.Words
import RuleLexer.Regex.Meaning

/-!
# Patterns for words

A pattern that lists words between parentheses is read as the choice between these words, whatever
stands before and after the parentheses. Words are made of letters, digits and underscores, which
stand for themselves in patterns.
-/

namespace RuleLexer.Regex

/-- Whether a character is a letter, a digit or the underscore of ASCII. -/
def isPlain (char : Char) : Bool :=
  char.isAlphanum || char == '_'

namespace Pattern

def ofWord (word : List Char) : Pattern :=
  ofParts (word.map fun char => literal ⟨char, false⟩)

/-- The pattern of a choice between words. -/
def ofWords : List (List Char) → Pattern
  | [] => empty
  | first :: rest => ofAlternatives (ofWord first) (rest.map ofWord)

theorem meaning_literal (char : Char) :
    (literal ⟨char, false⟩).meaning {} = .ok (.set (.single char), {}) := by
  simp [meaning, Literal.meaning, bind, Except.bind, pure, Except.pure]

theorem meaning_ofWord (word : List Char) : (ofWord word).meaning {} = .ok (.literal word, {}) := by
  have folded : ∀ (chars : List Char) (front : Pattern) (expr : Expr),
      front.meaning {} = .ok (expr, {}) →
        ((chars.map fun char => literal ⟨char, false⟩).foldl concat front).meaning {} =
          .ok (chars.foldl (fun front char => .seq front (.set (.single char))) expr, {}) := by
    intro chars
    induction chars with
    | nil => exact fun _ _ means => means
    | cons char chars ih =>
        intro front expr means
        refine ih _ _ ?_
        simp [meaning, means, Literal.meaning, bind, Except.bind, pure, Except.pure]
  rcases word with _ | ⟨char, chars⟩
  · rfl
  · exact folded chars _ _ (meaning_literal char)

theorem meaning_ofWords (words : List (List Char)) :
    (ofWords words).meaning {} = .ok (.anyOf words, {}) := by
  have folded : ∀ (words : List (List Char)) (front : Pattern) (expr : Expr),
      front.meaning {} = .ok (expr, {}) →
        ((words.map ofWord).foldl alternation front).meaning {} =
          .ok (words.foldl (fun words word => .alt words (.literal word)) expr, {}) := by
    intro words
    induction words with
    | nil => exact fun _ _ means => means
    | cons word words ih =>
        intro front expr means
        refine ih _ _ ?_
        simp [meaning, means, meaning_ofWord, bind, Except.bind, pure, Except.pure]
  rcases words with _ | ⟨word, words⟩
  · rfl
  · exact folded words _ _ (meaning_ofWord word)

theorem depth_ofWord_le (word : List Char) (run : Option RunKind) : (ofWord word).depth run ≤ 1 := by
  have folded : ∀ (chars : List Char) (front : Pattern), front.depth (some .concat) = 0 →
      ((chars.map fun char => literal ⟨char, false⟩).foldl concat front).depth
        (some .concat) = 0 := by
    intro chars
    induction chars with
    | nil => exact fun _ flat => flat
    | cons char chars ih =>
        intro front flat
        exact ih _ (by simp [depth, flat])
  have outside : ∀ pattern : Pattern, pattern.depth (some .concat) = 0 → pattern.depth run ≤ 1 := by
    intro pattern flat
    cases pattern with
    | concat parts part =>
        rw [depth, if_pos rfl] at flat
        rw [depth, flat]
        split <;> omega
    | alternation alternatives alternative => simp [depth] at flat
    | _ => simp_all [depth]
  rcases word with _ | ⟨char, chars⟩
  · exact outside _ rfl
  · exact outside _ (folded chars _ rfl)

theorem depth_ofWords_le (words : List (List Char)) : (ofWords words).depth none ≤ 2 := by
  have folded : ∀ (words : List (List Char)) (front : Pattern),
      front.depth (some .alternation) ≤ 1 →
        ((words.map ofWord).foldl alternation front).depth (some .alternation) ≤ 1 := by
    intro words
    induction words with
    | nil => exact fun _ shallow => shallow
    | cons word words ih =>
        intro front shallow
        refine ih _ ?_
        have := depth_ofWord_le word none
        simp only [depth, if_true]
        omega
  have outside : ∀ pattern : Pattern, pattern.depth (some .alternation) ≤ 1 →
      pattern.depth none ≤ 2 := by
    intro pattern shallow
    cases pattern with
    | alternation alternatives alternative =>
        simp only [depth, if_true] at shallow
        simp only [depth, reduceCtorEq, if_false]
        omega
    | concat parts part =>
        simp only [depth, Option.some.injEq, reduceCtorEq, if_false] at shallow ⊢
        omega
    | _ =>
        simp only [depth] at shallow ⊢
        omega
  rcases words with _ | ⟨word, words⟩
  · exact outside _ (Nat.zero_le 1)
  · exact outside _ (folded words _ (depth_ofWord_le word _))

end Pattern

namespace Reader

/-- Reading the text takes the state to another one, with the rest of the text still to come. -/
def Reads (state : State) (text : List Char) (state' : State) (rest : List Char) : Prop :=
  ∃ steps, steps + rest.length ≤ text.length ∧
    ∀ fuel, loop (fuel + steps) state text = loop fuel state' rest

variable {state state' state'' : State} {text middle rest : List Char} {char : Char}

theorem Reads.refl (state : State) (text : List Char) : Reads state text state text :=
  ⟨0, by omega, fun _ => rfl⟩

theorem Reads.trans (one : Reads state text state' middle) (two : Reads state' middle state'' rest) :
    Reads state text state'' rest := by
  rcases one with ⟨steps, shorter, loops⟩
  rcases two with ⟨steps', shorter', loops'⟩
  refine ⟨steps' + steps, by omega, fun fuel => ?_⟩
  rw [← Nat.add_assoc, loops, loops']

theorem Reads.of_step (unextended : state.extended = false)
    (goes : step state char text = .ok (state', rest)) (shorter : rest.length ≤ text.length) :
    Reads state (char :: text) state' rest := by
  refine ⟨1, by simp only [List.length_cons]; omega, fun fuel => ?_⟩
  rw [loop, unextended]
  simp only [pastBlanks, Bool.false_eq_true, if_false, goes]
  rfl

/-- A text that is read to its end gives the pattern of the level that is left. -/
theorem Reads.loop_eq (reads : Reads {} text state []) (closed : state.groups = [])
    (unextended : state.extended = false) :
    loop (text.length + 1) {} text = .ok state.level.toPattern := by
  rcases reads with ⟨steps, shorter, loops⟩
  obtain ⟨fuel, enough⟩ : ∃ fuel, text.length + 1 = fuel + 1 + steps :=
    ⟨text.length - steps, by simp only [List.length_nil] at shorter; omega⟩
  rw [enough, loops, loop, unextended, closed]
  rfl

theorem step_plain (state : State) (text : List Char) (plain : isPlain char = true) :
    step state char text = .ok (state.push (.literal ⟨char, false⟩), text) := by
  rw [step]
  all_goals
    rintro rfl
    exact absurd plain (by decide)

theorem reads_word (state : State) (word rest : List Char) (unextended : state.extended = false)
    (plain : ∀ char ∈ word, isPlain char = true) :
    Reads state (word ++ rest)
      { state with level :=
        { state.level with parts :=
          (word.map fun char => .literal ⟨char, false⟩).reverse ++ state.level.parts } } rest := by
  induction word generalizing state with
  | nil => exact Reads.refl state rest
  | cons char word ih =>
      rw [List.forall_mem_cons] at plain
      have first := Reads.of_step unextended (step_plain state (word ++ rest) plain.1)
        (Nat.le_refl _)
      have later := ih (state.push (.literal ⟨char, false⟩)) unextended plain.2
      simpa [State.push, Level.push] using first.trans later

theorem reads_bar (state : State) (text : List Char) (unextended : state.extended = false) :
    Reads state ('|' :: text) { state with level := state.level.nextAlternative } text :=
  Reads.of_step unextended rfl (Nat.le_refl _)

/-- The alternatives of a list of words are read one after the other. -/
theorem reads_words (state : State) (rest : List Char) (unextended : state.extended = false)
    (fresh : state.level.parts = [])
    {word : List Char} {words : List (List Char)}
    (plain : ∀ each ∈ word :: words, ∀ char ∈ each, isPlain char = true) :
    ∃ level : Level, level.nextAlternative.alternatives =
        ((word :: words).map Pattern.ofWord).reverse ++ state.level.alternatives ∧
      Reads state (List.intercalate ['|'] (word :: words) ++ rest) { state with level } rest := by
  induction words generalizing state word with
  | nil =>
      rw [List.forall_mem_singleton] at plain
      have reads := reads_word state word rest unextended plain
      rw [fresh, List.append_nil] at reads
      refine ⟨_, ?_, by simpa [List.intercalate] using reads⟩
      simp [Level.nextAlternative, Pattern.ofWord]
  | cons next words ih =>
      rw [List.forall_mem_cons] at plain
      have reads := reads_word state word ('|' :: (List.intercalate ['|'] (next :: words) ++ rest))
        unextended plain.1
      rw [fresh, List.append_nil] at reads
      have bar := reads_bar { state with level :=
        { state.level with parts := (word.map fun char => .literal ⟨char, false⟩).reverse } }
        (List.intercalate ['|'] (next :: words) ++ rest) unextended
      rcases ih { state with level := (⟨state.level.alternatives,
        (word.map fun char => .literal ⟨char, false⟩).reverse⟩ : Level).nextAlternative }
        unextended rfl plain.2 with ⟨level, alternatives, later⟩
      refine ⟨level, ?_, ?_⟩
      · rw [alternatives]
        simp [Level.nextAlternative, Pattern.ofWord]
      · have all := reads.trans (bar.trans later)
        simpa [List.intercalate] using all

theorem readGroup_plain (unextended : state.extended = false) (plain : isPlain char = true) :
    readGroup state (char :: text) = .ok (state.openCapture, char :: text) := by
  have other : char ≠ '?' := by
    rintro rfl
    exact absurd plain (by decide)
  rw [readGroup, unextended]
  simp only [pastBlanks, Bool.false_eq_true, if_false]
  split <;> simp_all

/-- Words between parentheses are read as a numbered group. -/
theorem reads_group (state : State) (rest : List Char) (unextended : state.extended = false)
    {word : List Char} {words : List (List Char)} (nonempty : word ≠ [])
    (plain : ∀ each ∈ word :: words, ∀ char ∈ each, isPlain char = true) :
    Reads state ('(' :: (List.intercalate ['|'] (word :: words) ++ ')' :: rest))
      { state with
        level := state.level.push (.capture (state.groupCount + 1) (.ofWords (word :: words)))
        groupCount := state.groupCount + 1 } rest := by
  rcases List.exists_cons_of_ne_nil nonempty with ⟨first, others, rfl⟩
  have opens : Reads state
      ('(' :: (List.intercalate ['|'] ((first :: others) :: words) ++ ')' :: rest))
      state.openCapture (List.intercalate ['|'] ((first :: others) :: words) ++ ')' :: rest) := by
    refine Reads.of_step unextended ?_ (Nat.le_refl _)
    have begins := plain _ List.mem_cons_self first List.mem_cons_self
    cases words with
    | nil => exact readGroup_plain unextended begins
    | cons next words => exact readGroup_plain unextended begins
  rcases reads_words state.openCapture (')' :: rest) unextended rfl plain with
    ⟨level, alternatives, inside⟩
  refine opens.trans (inside.trans (Reads.of_step unextended ?_ (Nat.le_refl _)))
  have pattern_eq : level.toPattern = .ofWords ((first :: others) :: words) := by
    rw [Level.toPattern, alternatives]
    simp [State.openCapture, State.openGroup, Pattern.ofWords]
  rw [step, State.closeGroup]
  simp only [State.openCapture, State.openGroup, pattern_eq, bind, Except.bind, pure, Except.pure]

theorem reads_boundary (state : State) (rest : List Char) (unextended : state.extended = false)
    (uncounted : rest.head? ≠ some '\x7b') :
    Reads state ('\\' :: 'b' :: rest) (state.push (.assertion .wordBoundary)) rest := by
  refine Reads.of_step unextended ?_ (by simp)
  have boundary : readBoundary state.extended rest = .ok (.assertion .wordBoundary, rest) := by
    unfold readBoundary
    split
    · simp at uncounted
    · rfl
  have escape : readEscape state.extended ('b' :: rest) =
      .ok (.assertion .wordBoundary, rest) := boundary
  rw [step, escape]
  rfl

end Reader

/-- The program of a text is that of the expression that the pattern read from it means. -/
theorem Program.ofText_of_reads {text : String} {state : Reader.State} {pattern : Pattern}
    {expr : Expr} (reads : Reader.Reads {} text.toList state []) (closed : state.groups = [])
    (unextended : state.extended = false) (amounts : state.level.toPattern = pattern)
    (shallow : pattern.depth none ≤ Pattern.maxDepth)
    (means : pattern.meaning {} = .ok (expr, {})) :
    Program.ofText text = .ok expr.toProgram := by
  rw [ofText, Pattern.read, reads.loop_eq closed unextended, amounts]
  simp only [bind, Except.bind, pure, Except.pure, if_neg (Nat.not_lt.mpr shallow), Pattern.toExpr,
    means]

end RuleLexer.Regex
