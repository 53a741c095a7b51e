import RuleLexer.Regex.Expr

/-!
# Complete matches

What it means that an expression matches a part of a text as a whole, said without an order among
the ways of matching. Over one character the ways can also be listed in order of preference, by
whether they take it. This holds even if a loop has rounds that take nothing: a further round only
repeats ways that came before. The character is matched as a whole exactly if one of these ways
takes it.
-/

namespace RuleLexer.Regex.Expr

/-- The expression matches `taken` as a whole where it stands between `before` and `after`. -/
inductive Matches : Expr → List Char → List Char → List Char → Prop
  | empty {before after : List Char} : Matches .empty before [] after
  | set {chars : CharClass} {char : Char} {before after : List Char}
      (inside : chars.contains char = true) : Matches (.set chars) before [char] after
  | look {assertion : Assertion} {before after : List Char}
      (holds : assertion.holds ⟨before.getLast?, after.head?⟩ = true) :
      Matches (.look assertion) before [] after
  | seq {first second : Expr} {before taken taken' after : List Char}
      (one : Matches first before taken (taken' ++ after))
      (two : Matches second (before ++ taken) taken' after) :
      Matches (.seq first second) before (taken ++ taken') after
  | preferred {preferred other : Expr} {before taken after : List Char}
      (one : Matches preferred before taken after) :
      Matches (.alt preferred other) before taken after
  | other {preferred other : Expr} {before taken after : List Char}
      (one : Matches other before taken after) : Matches (.alt preferred other) before taken after
  | once {greedy : Bool} {body : Expr} {before taken after : List Char}
      (one : Matches body before taken after) : Matches (.plus greedy body) before taken after
  | again {greedy : Bool} {body : Expr} {before taken taken' after : List Char}
      (one : Matches body before taken (taken' ++ after))
      (two : Matches (.plus greedy body) (before ++ taken) taken' after) :
      Matches (.plus greedy body) before (taken ++ taken') after
  | group {index : Nat} {body : Expr} {before taken after : List Char}
      (one : Matches body before taken after) : Matches (.group index body) before taken after

variable {here there : Surroundings} {char : Char} {before taken after : List Char}

/-- Whether the expression matches the empty text at a place. -/
def skips (around : Surroundings) : Expr → Bool
  | .empty => true
  | .set _ => false
  | .look assertion => assertion.holds around
  | .seq first second => first.skips around && second.skips around
  | .alt preferred other => preferred.skips around || other.skips around
  | .plus _ body | .group _ body => body.skips around

/-- The ways over a single character, the preferred first: whether they take it or stop before it.
The place before the character is `here`, the one after it `there`. -/
def singleWays (here there : Surroundings) (char : Char) : Expr → List Bool
  | .empty => [false]
  | .set chars => if chars.contains char then [true] else []
  | .look assertion => if assertion.holds here then [false] else []
  | .seq first second =>
    (first.singleWays here there char).flatMap fun taken =>
      if taken then if second.skips there then [true] else []
      else second.singleWays here there char
  | .alt preferred other =>
    preferred.singleWays here there char ++ other.singleWays here there char
  | .plus _ body | .group _ body => body.singleWays here there char

theorem false_mem_singleWays_iff (expr : Expr) :
    false ∈ expr.singleWays here there char ↔ expr.skips here = true := by
  induction expr with
  | empty => simp [singleWays, skips]
  | set chars => simp [singleWays, skips]
  | look assertion => simp [singleWays, skips]
  | seq first second ihFirst ihSecond =>
      simp only [singleWays, skips, List.mem_flatMap, Bool.exists_bool, Bool.and_eq_true,
        ← ihFirst, ← ihSecond]
      simp
  | alt preferred other ihPreferred ihOther =>
      simp only [singleWays, skips, List.mem_append, Bool.or_eq_true, ihPreferred, ihOther]
  | plus greedy body ih => exact ih
  | group index body ih => exact ih

theorem true_mem_singleWays_seq_iff {first second : Expr} :
    true ∈ (seq first second).singleWays here there char ↔
      (true ∈ first.singleWays here there char ∧ second.skips there = true) ∨
        (first.skips here = true ∧ true ∈ second.singleWays here there char) := by
  simp only [singleWays, List.mem_flatMap, Bool.exists_bool, false_mem_singleWays_iff]
  simp [or_comm]

/-- What a complete match of nothing, or of one character, comes to. -/
theorem Matches.short {expr : Expr} (matched : expr.Matches before taken after) :
    (taken = [] → expr.skips ⟨before.getLast?, after.head?⟩ = true) ∧
      ∀ char, taken = [char] →
        true ∈ expr.singleWays ⟨before.getLast?, some char⟩ ⟨some char, after.head?⟩ char := by
  induction matched with
  | empty => simp [skips]
  | set inside => simp_all [singleWays]
  | look holds => simpa [skips] using holds
  | seq one two ihOne ihTwo =>
      refine ⟨?_, ?_⟩
      · intro nothing
        rcases List.append_eq_nil_iff.mp nothing with ⟨rfl, rfl⟩
        have one := ihOne.1 rfl
        have two := ihTwo.1 rfl
        rw [List.append_nil] at two
        rw [skips, Bool.and_eq_true]
        exact ⟨one, two⟩
      · intro char single
        rw [true_mem_singleWays_seq_iff]
        rcases List.append_eq_singleton_iff.mp single with ⟨rfl, rfl⟩ | ⟨rfl, rfl⟩
        · have two := ihTwo.2 char rfl
          rw [List.append_nil] at two
          exact Or.inr ⟨ihOne.1 rfl, two⟩
        · have two := ihTwo.1 rfl
          rw [List.getLast?_concat] at two
          exact Or.inl ⟨ihOne.2 char rfl, two⟩
  | preferred one ih =>
      refine ⟨fun nothing => ?_, fun char single => ?_⟩
      · rw [skips, ih.1 nothing, Bool.true_or]
      · exact List.mem_append_left _ (ih.2 char single)
  | other one ih =>
      refine ⟨fun nothing => ?_, fun char single => ?_⟩
      · rw [skips, ih.1 nothing, Bool.or_true]
      · exact List.mem_append_right _ (ih.2 char single)
  | once one ih => exact ih
  | again one two ihOne ihTwo =>
      refine ⟨?_, ?_⟩
      · intro nothing
        rcases List.append_eq_nil_iff.mp nothing with ⟨rfl, rfl⟩
        exact ihOne.1 rfl
      · intro char single
        rcases List.append_eq_singleton_iff.mp single with ⟨rfl, rfl⟩ | ⟨rfl, rfl⟩
        · have two := ihTwo.2 char rfl
          rwa [List.append_nil] at two
        · exact ihOne.2 char rfl
  | group one ih => exact ih

theorem matches_nil_of_skips (expr : Expr)
    (skips : expr.skips ⟨before.getLast?, after.head?⟩ = true) : expr.Matches before [] after := by
  induction expr with
  | empty => exact Matches.empty
  | set chars => cases skips
  | look assertion => exact Matches.look skips
  | seq first second ihFirst ihSecond =>
      rw [Expr.skips, Bool.and_eq_true] at skips
      have second_matches : second.Matches (before ++ []) [] after := by
        rw [List.append_nil]
        exact ihSecond skips.2
      exact Matches.seq (ihFirst skips.1) second_matches
  | alt preferred other ihPreferred ihOther =>
      rw [Expr.skips, Bool.or_eq_true] at skips
      rcases skips with skips | skips
      · exact Matches.preferred (ihPreferred skips)
      · exact Matches.other (ihOther skips)
  | plus greedy body ih => exact Matches.once (ih skips)
  | group index body ih => exact Matches.group (ih skips)

theorem matches_singleton_of_mem (expr : Expr)
    (mem : true ∈ expr.singleWays ⟨before.getLast?, some char⟩ ⟨some char, after.head?⟩ char) :
    expr.Matches before [char] after := by
  induction expr with
  | empty => simp [singleWays] at mem
  | set chars =>
      simp only [singleWays, List.mem_ite_nil_right, List.mem_singleton, and_true] at mem
      exact Matches.set mem
  | look assertion => simp [singleWays] at mem
  | seq first second ihFirst ihSecond =>
      rcases true_mem_singleWays_seq_iff.mp mem with ⟨one, two⟩ | ⟨one, two⟩
      · have second_matches : second.Matches (before ++ [char]) [] after := by
          apply matches_nil_of_skips
          rwa [List.getLast?_concat]
        exact Matches.seq (ihFirst one) second_matches
      · have first_matches : first.Matches before [] ([char] ++ after) :=
          matches_nil_of_skips first one
        apply Matches.seq first_matches
        rw [List.append_nil]
        exact ihSecond two
  | alt preferred other ihPreferred ihOther =>
      rw [singleWays, List.mem_append] at mem
      rcases mem with mem | mem
      · exact Matches.preferred (ihPreferred mem)
      · exact Matches.other (ihOther mem)
  | plus greedy body ih => exact Matches.once (ih mem)
  | group index body ih => exact Matches.group (ih mem)

/-- The expression matches a single character completely if one of its ways takes it. -/
theorem matches_singleton_iff (expr : Expr) :
    expr.Matches before [char] after ↔
      true ∈ expr.singleWays ⟨before.getLast?, some char⟩ ⟨some char, after.head?⟩ char :=
  ⟨fun matched => matched.short.2 char rfl, matches_singleton_of_mem expr⟩

/-- Of the ways over the character the preferred one stops before it. -/
def PrefersNothing (expr : Expr) (before : List Char) (char : Char) (after : List Char) : Prop :=
  (expr.singleWays ⟨before.getLast?, some char⟩ ⟨some char, after.head?⟩ char).head? = some false

end RuleLexer.Regex.Expr
