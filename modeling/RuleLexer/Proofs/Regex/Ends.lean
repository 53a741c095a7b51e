import RuleLexer.Proofs.Regex.Words

/-!
# Last characters

With which character a match can end is seen from its expression, as it is for the first one. The
character is the one before the place where the match stops.
-/

namespace RuleLexer.Regex

namespace Reading

/-- Nothing is taken between the two places. -/
structure Stays (first second : Reading) : Prop where
  rest_eq : second.rest = first.rest
  previous_eq : second.previous = first.previous

variable {first second third : Reading}

theorem Stays.refl (reading : Reading) : reading.Stays reading := ⟨rfl, rfl⟩

theorem Stays.trans (one : first.Stays second) (two : second.Stays third) : first.Stays third :=
  ⟨two.rest_eq.trans one.rest_eq, two.previous_eq.trans one.previous_eq⟩

/-- The character before the place satisfies the condition. -/
def EndsIn (condition : Char → Bool) (reading : Reading) : Prop :=
  ∃ char, reading.previous = some char ∧ condition char = true

theorem EndsIn.stays {condition : Char → Bool} (ends : first.EndsIn condition)
    (stays : first.Stays second) : second.EndsIn condition := by
  rcases ends with ⟨char, previous, last⟩
  exact ⟨char, stays.previous_eq.trans previous, last⟩

theorem EndsIn.mono {condition wider : Char → Bool} (ends : first.EndsIn condition)
    (implies : ∀ char, condition char = true → wider char = true) : first.EndsIn wider := by
  rcases ends with ⟨char, previous, last⟩
  exact ⟨char, previous, implies char last⟩

end Reading

namespace Expr

/-- Whether a match that takes characters may end with the given one. -/
def mayEnd : Expr → Char → Bool
  | .empty, _ | .look _, _ => false
  | .set chars, char => chars.contains char
  | .seq first second, char => second.mayEnd char || (!second.consumes && first.mayEnd char)
  | .alt preferred other, char => preferred.mayEnd char || other.mayEnd char
  | .plus _ body, char | .group _ body, char => body.mayEnd char

variable {following : Option Char} {reading after : Reading} {char : Char}

theorem rounds_mayEnd {once : Reading → List Reading} {greedy : Bool} {bound : Nat}
    {condition : Char → Bool}
    (onceEnds : ∀ reading, ∀ after ∈ once reading,
      reading.Stays after ∨ after.EndsIn condition)
    (mem : after ∈ rounds once greedy bound reading) :
    reading.Stays after ∨ after.EndsIn condition := by
  induction bound generalizing reading with
  | zero => cases mem
  | succ bound ih =>
      rcases mem_rounds mem with ⟨middle, first, rfl | later⟩
      · exact onceEnds reading after first
      · rcases ih later with stays | ends
        · rcases onceEnds reading middle first with stays' | ends
          · left
            exact stays'.trans stays
          · right
            exact ends.stays stays
        · right
          exact ends

/-- A match that takes characters ends with one that it may end with. -/
theorem mayEnd_of_mem_ways (expr : Expr) (mem : after ∈ expr.ways following reading) :
    reading.Stays after ∨ after.EndsIn expr.mayEnd := by
  induction expr generalizing reading after with
  | empty =>
      rw [ways, List.mem_singleton] at mem
      subst mem
      exact Or.inl (Reading.Stays.refl _)
  | set chars =>
      rw [ways] at mem
      split at mem
      · cases mem
      · rename_i char rest remains
        split at mem
        · rename_i inside
          rw [List.mem_singleton] at mem
          subst mem
          exact Or.inr ⟨char, rfl, inside⟩
        · cases mem
  | look assertion =>
      rw [ways, List.mem_ite_nil_right, List.mem_singleton] at mem
      rcases mem with ⟨-, rfl⟩
      exact Or.inl (Reading.Stays.refl _)
  | seq first second ihFirst ihSecond =>
      rw [ways, List.mem_flatMap] at mem
      rcases mem with ⟨middle, one, two⟩
      rcases ihSecond two with stays | ends
      · have optional : second.consumes = false := by
          rw [← Bool.not_eq_true]
          intro consuming
          have shorter := length_lt_of_mem_ways second consuming two
          rw [stays.rest_eq] at shorter
          exact Nat.lt_irrefl _ shorter
        rcases ihFirst one with stays' | ends
        · left
          exact stays'.trans stays
        · right
          apply (ends.stays stays).mono
          intro char last
          simp [mayEnd, optional, last]
      · right
        apply ends.mono
        intro char last
        simp [mayEnd, last]
  | alt preferred other ihPreferred ihOther =>
      rw [ways, List.mem_append] at mem
      rcases mem with mem | mem
      · apply (ihPreferred mem).imp_right
        intro ends
        apply ends.mono
        intro char last
        simp [mayEnd, last]
      · apply (ihOther mem).imp_right
        intro ends
        apply ends.mono
        intro char last
        simp [mayEnd, last]
  | plus greedy body ih =>
      rw [ways] at mem
      exact rounds_mayEnd (fun reading after once => ih once) mem
  | group index body ih =>
      rw [ways] at mem
      split at mem
      · rcases List.mem_map.mp mem with ⟨inner, inner_mem, rfl⟩
        rcases ih inner_mem with stays | ends
        · left
          exact ⟨stays.rest_eq, stays.previous_eq⟩
        · right
          exact ends
      · exact ih mem

theorem mem_of_mayEnd_literal {word : List Char} (ends : (literal word).mayEnd char = true) :
    char ∈ word := by
  rcases word with _ | ⟨first, others⟩
  · cases ends
  · rw [literal] at ends
    revert ends
    refine List.foldlRecOn (motive := fun front : Expr =>
      front.mayEnd char = true → char ∈ first :: others) others _ ?_ ?_
    · intro ends
      simp_all [mayEnd]
    · intro front ih next mem ends
      have same : char = next := by simpa [mayEnd, consumes] using ends
      rw [same]
      exact List.mem_cons_of_mem first mem

theorem exists_word_of_mayEnd {words : List (List Char)}
    (ends : (anyOf words).mayEnd char = true) : ∃ word ∈ words, char ∈ word := by
  rcases words with _ | ⟨first, others⟩
  · cases ends
  · rw [anyOf] at ends
    revert ends
    refine List.foldlRecOn (motive := fun front : Expr => front.mayEnd char = true →
      ∃ word ∈ first :: others, char ∈ word) others _ ?_ ?_
    · intro ends
      exact ⟨first, List.mem_cons_self, mem_of_mayEnd_literal ends⟩
    · intro front ih word mem ends
      rw [mayEnd, Bool.or_eq_true] at ends
      rcases ends with ends | ends
      · exact ih ends
      · exact ⟨word, List.mem_cons_of_mem _ mem, mem_of_mayEnd_literal ends⟩

end Expr

end RuleLexer.Regex
