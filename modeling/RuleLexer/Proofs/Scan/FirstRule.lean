import RuleLexer.Proofs.Regex.Bounds
import RuleLexer.Scan.Tokens

/-!
# The first rule that matches

What it means that a rule takes a number of characters at a position, said without the search for
it, and that a rule is the first of a list to take any. The search finds exactly such a rule.

A position is given by the characters before it, in the order of the text, and those after it. The
number that a rule takes is determined by the position, because the preferred match is.
-/

namespace RuleLexer

namespace Rule

/-- The character before the position satisfies the lookbehind, if there is one: there is such a
character, and the preferred match from its start ends right after it. -/
def LookbehindHolds (rule : Rule) (before rest : List Char) : Prop :=
  ∀ program, rule.lookbehind = some program →
    ∃ front previous found, before = front ++ [previous] ∧
      program.match? front.getLast? [previous] rest.head? = some found ∧ found.length = 1

/-- The rule finds a token of `count` characters at the position: the whole match, or its first
group if the group begins where the match does. -/
structure Takes (rule : Rule) (before rest : List Char) (count : Nat) : Prop where
  lookbehind : rule.LookbehindHolds before rest
  matched : ∃ found, rule.program.match? before.getLast? rest none = some found ∧
    if rule.consumes then found.length = count else found.body = some (0, count)
  nonempty : 0 < count

theorem allows_eq_true_iff {rule : Rule} {before rest : List Char} :
    rule.allows before.reverse rest = true ↔ rule.LookbehindHolds before rest := by
  unfold allows LookbehindHolds
  cases lookbehind : rule.lookbehind with
  | none => simp
  | some program =>
      rcases List.eq_nil_or_concat before with rfl | ⟨front, previous, rfl⟩
      · simp
      · simp only [List.concat_eq_append, List.reverse_append, List.reverse_cons, List.reverse_nil,
          List.nil_append, List.cons_append, List.head?_reverse, Option.some.injEq, forall_eq']
        constructor
        · intro holds
          split at holds
          · cases holds
          · rename_i found result
            exact ⟨front, previous, found, rfl, result, by simpa using holds⟩
        · rintro ⟨front', previous', found, same, result, single⟩
          rcases List.append_inj' same rfl with ⟨rfl, last⟩
          cases last
          simp [result, single]

theorem tokenEnd?_eq_some_iff {rule : Rule} {found : Regex.Match} {count : Nat} :
    rule.tokenEnd? found = some count ↔
      if rule.consumes then found.length = count else found.body = some (0, count) := by
  unfold tokenEnd?
  split
  · simp
  · split
    · rename_i stop body
      simp [body]
    · rename_i other
      simp only [reduceCtorEq, false_iff]
      exact other count

theorem matchLength?_eq_some_iff {rule : Rule} {before rest : List Char} {count : Nat} :
    rule.matchLength? before.reverse rest = some count ↔ rule.Takes before rest count := by
  unfold matchLength?
  constructor
  · intro result
    split at result
    · rename_i allowed
      rw [Option.filter_eq_some_iff, Option.bind_eq_some_iff] at result
      rcases result with ⟨⟨found, matched, token⟩, nonempty⟩
      rw [List.head?_reverse] at matched
      exact ⟨allows_eq_true_iff.mp allowed, ⟨found, matched, tokenEnd?_eq_some_iff.mp token⟩,
        by simpa using nonempty⟩
    · cases result
  · rintro ⟨lookbehind, ⟨found, matched, token⟩, nonempty⟩
    rw [if_pos (allows_eq_true_iff.mpr lookbehind), Option.filter_eq_some_iff,
      Option.bind_eq_some_iff, List.head?_reverse]
    exact ⟨⟨found, matched, tokenEnd?_eq_some_iff.mpr token⟩, by simpa using nonempty⟩

/-- A token lies inside the text. -/
theorem Takes.le_length {rule : Rule} {before rest : List Char} {count : Nat}
    (takes : rule.Takes before rest count) : count ≤ rest.length := by
  rcases takes.matched with ⟨found, matched, token⟩
  have within := Regex.Program.match?_within matched
  split at token
  · rw [← token]
    exact within.1
  · exact Nat.le_trans (within.2 0 count token).2 within.1

theorem Takes.unique {rule : Rule} {before rest : List Char} {count other : Nat}
    (takes : rule.Takes before rest count) (also : rule.Takes before rest other) :
    count = other := by
  have found := matchLength?_eq_some_iff.mpr takes
  rw [matchLength?_eq_some_iff.mpr also] at found
  exact (Option.some.inj found).symm

/-- No rule of a list finds a token at the position. -/
def NoneTakes (rules : List Rule) (before rest : List Char) : Prop :=
  ∀ rule ∈ rules, ∀ count, ¬rule.Takes before rest count

/-- The rule at `index` of a list takes `count` characters, and no rule before it takes any. -/
structure FirstTakes (rules : List Rule) (before rest : List Char) (index : Nat) (rule : Rule)
    (count : Nat) : Prop where
  present : rules[index]? = some rule
  takes : rule.Takes before rest count
  first : NoneTakes (rules.take index) before rest

end Rule

namespace RuleTable

theorem firstMatch?_eq_none_iff {before rest : List Char} {rules : List Rule} :
    firstMatch? before.reverse rest rules = none ↔ Rule.NoneTakes rules before rest := by
  induction rules with
  | nil => simp [firstMatch?, Rule.NoneTakes]
  | cons rule rules ih =>
      simp only [firstMatch?, Rule.NoneTakes, List.mem_cons, forall_eq_or_imp]
      split
      · rename_i count result
        simp only [reduceCtorEq, false_iff]
        exact fun none => none.1 count (Rule.matchLength?_eq_some_iff.mp result)
      · rename_i result
        rw [ih]
        refine ⟨fun none => ⟨?_, none⟩, fun none => none.2⟩
        intro count takes
        rw [Rule.matchLength?_eq_some_iff.mpr takes] at result
        cases result

theorem firstMatch?_eq_some_iff {before rest : List Char} {rules : List Rule} {rule : Rule}
    {count : Nat} :
    firstMatch? before.reverse rest rules = some (rule, count) ↔
      ∃ index, Rule.FirstTakes rules before rest index rule count := by
  induction rules with
  | nil =>
      simp only [firstMatch?, reduceCtorEq, false_iff, not_exists]
      intro index first
      simpa using first.present
  | cons head rules ih =>
      simp only [firstMatch?]
      split
      · rename_i headCount result
        have headTakes := Rule.matchLength?_eq_some_iff.mp result
        constructor
        · intro same
          cases same
          exact ⟨0, rfl, headTakes, by simp [Rule.NoneTakes]⟩
        · rintro ⟨index, present, takes, first⟩
          cases index with
          | zero =>
              cases present
              rw [takes.unique headTakes]
          | succ index =>
              exact absurd headTakes (first head (by simp) headCount)
      · rename_i result
        have headFails : ∀ count, ¬head.Takes before rest count := by
          intro count takes
          rw [Rule.matchLength?_eq_some_iff.mpr takes] at result
          cases result
        rw [ih]
        constructor
        · rintro ⟨index, present, takes, first⟩
          refine ⟨index + 1, by simpa using present, takes, ?_⟩
          intro earlier mem
          rw [List.take_succ_cons, List.mem_cons] at mem
          rcases mem with rfl | mem
          · exact headFails
          · exact first earlier mem
        · rintro ⟨index, present, takes, first⟩
          cases index with
          | zero =>
              cases present
              exact absurd takes (headFails count)
          | succ index =>
              refine ⟨index, by simpa using present, takes, ?_⟩
              exact fun earlier mem => first earlier (by simp [mem])

end RuleTable

end RuleLexer
