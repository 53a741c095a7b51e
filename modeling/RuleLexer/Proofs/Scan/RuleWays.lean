import RuleLexer.Proofs.Regex.Ends
import RuleLexer.Proofs.Regex.Layout
import RuleLexer.Proofs.Regex.Words
import RuleLexer.Proofs.Scan.FirstRule

/-!
# Rules and the ways of their expressions

What a rule takes, said by the ways of the expression of its pattern. From it, facts that do not
need to know the preferred way: a rule whose expression cannot begin with the next character takes
nothing, a token ends with a character that the expression of its rule can end with, and the token
of a rule that looks ahead ends right before the characters that it looks at.
-/

namespace RuleLexer

namespace Regex

/-- The place between two parts of a text, at which a match begins. -/
def Reading.between (before rest : List Char) : Reading :=
  ⟨before.getLast?, rest, 0, {}⟩

@[simp]
theorem Reading.rest_between (before rest : List Char) : (between before rest).rest = rest := rfl

namespace Expr

variable {following : Option Char} {reading after : Reading} {front second : Expr}

/-- Wherever the expression stops, the end of the group is recorded there. -/
def EndsGroup (front : Expr) : Prop :=
  ∀ following reading, ∀ after ∈ front.ways following reading,
    after.marks.stop = some after.position

theorem endsGroup_group (body : Expr) : (group bodyGroup body).EndsGroup := by
  intro following reading after mem
  rw [ways, if_pos rfl] at mem
  rcases List.mem_map.mp mem with ⟨inner, -, rfl⟩
  rfl

theorem EndsGroup.seq (ends : second.EndsGroup) : (seq front second).EndsGroup := by
  intro following reading after mem
  rw [ways, List.mem_flatMap] at mem
  rcases mem with ⟨middle, -, mem⟩
  exact ends following middle after mem

theorem EndsGroup.look (ends : front.EndsGroup) (assertion : Assertion) :
    (Expr.seq front (.look assertion)).EndsGroup := by
  intro following reading after mem
  simp only [ways, List.mem_flatMap, List.mem_ite_nil_right, List.mem_singleton] at mem
  rcases mem with ⟨middle, mem, -, rfl⟩
  exact ends following reading after mem

theorem stop_of_mem_ways_seq {chars : CharClass} (ends : front.EndsGroup)
    (mem : after ∈ (seq front (set chars)).ways following reading) :
    ∃ middle ∈ front.ways following reading, after.marks.stop = some middle.position ∧
      ∃ char, middle.rest.head? = some char ∧ chars.contains char = true := by
  rw [ways, List.mem_flatMap] at mem
  rcases mem with ⟨middle, middle_mem, mem⟩
  rcases mem_ways_set_iff.mp mem with ⟨⟨char, next, inside⟩, rfl⟩
  exact ⟨middle, middle_mem, ends following reading middle middle_mem, char, next, inside⟩

variable {before rest : List Char} {expr : Expr}

/-- A match that begins between two parts of a text stops after some characters of the second
one. -/
theorem between_of_mem_ways (mem : after ∈ expr.ways following (.between before rest)) :
    after.position ≤ rest.length ∧ after.rest = rest.drop after.position ∧
      after.previous = (rest.take after.position).getLast?.or before.getLast? := by
  rcases (reaches_of_mem_ways expr mem).eq_skip with ⟨count, within, after_eq⟩
  have position : after.position = count := by
    rw [after_eq]
    exact Nat.zero_add count
  rw [position, after_eq]
  exact ⟨within, rfl, rfl⟩

theorem exists_last_of_mem_ways (mem : after ∈ expr.ways following (.between before rest))
    (nonempty : 0 < after.position) :
    ∃ char, (rest.take after.position).getLast? = some char ∧ expr.mayEnd char = true := by
  rcases between_of_mem_ways mem with ⟨within, rest_eq, previous_eq⟩
  rcases mayEnd_of_mem_ways expr mem with stays | ⟨char, previous, ends⟩
  · have same := congrArg List.length (rest_eq.symm.trans stays.rest_eq)
    rw [Reading.rest_between, List.length_drop] at same
    omega
  · refine ⟨char, ?_, ends⟩
    have taken : (rest.take after.position).getLast?.isSome = true := by
      apply List.getLast?_isSome.mpr
      apply List.ne_nil_of_length_pos
      rwa [List.length_take_of_le within]
    rwa [previous_eq, Option.or_of_isSome taken] at previous

end Expr

end Regex

namespace Rule

open Regex

variable {rule : Rule} {expr : Expr} {before rest : List Char} {count : Nat}

/-- The preferred way gives the token: its end, or the group if that begins with the match. -/
def Gives (rule : Rule) (after : Reading) (count : Nat) : Prop :=
  if rule.consumes then after.position = count else after.marks = ⟨some 0, some count⟩

theorem body_matchAt_eq_some_iff {position start stop : Nat} {marks : Marks} :
    (Program.matchAt position marks).body = some (start, stop) ↔ marks = ⟨some start, some stop⟩ := by
  rcases marks with ⟨_ | start', _ | stop'⟩ <;> simp [Program.matchAt]

/-- A rule takes what the preferred way of its expression gives. -/
theorem takes_iff (program : rule.program = expr.toProgram)
    (productive : expr.isProductive = true) :
    rule.Takes before rest count ↔ rule.LookbehindHolds before rest ∧
      (∃ after, (expr.ways none (.between before rest)).head? = some after ∧
        rule.Gives after count) ∧ 0 < count := by
  have matched : rule.program.match? before.getLast? rest none =
      (expr.ways none (.between before rest)).head?.map fun after =>
        Program.matchAt after.position after.marks := by
    rw [program, Expr.match?_toProgram expr productive]
    rfl
  constructor
  · rintro ⟨lookbehind, ⟨found, found_eq, token⟩, nonempty⟩
    rw [matched, Option.map_eq_some_iff] at found_eq
    rcases found_eq with ⟨after, first, rfl⟩
    refine ⟨lookbehind, ⟨after, first, ?_⟩, nonempty⟩
    rw [body_matchAt_eq_some_iff] at token
    exact token
  · rintro ⟨lookbehind, ⟨after, first, token⟩, nonempty⟩
    refine ⟨lookbehind, ⟨Program.matchAt after.position after.marks, ?_, ?_⟩, nonempty⟩
    · rw [matched, first, Option.map_some]
    · rw [body_matchAt_eq_some_iff]
      exact token

/-- What a rule takes begins as its expression may begin. -/
theorem Takes.begins (program : rule.program = expr.toProgram)
    (productive : expr.isProductive = true) (consuming : expr.consumes = true)
    (takes : rule.Takes before rest count) :
    ∃ char, rest.head? = some char ∧ expr.mayBegin char = true := by
  rcases ((takes_iff program productive).mp takes).2.1 with ⟨after, first, -⟩
  have mem := List.mem_of_mem_head? first
  rcases Expr.mayBegin_of_mem_ways expr mem with same | begins
  · have shorter := Expr.length_lt_of_mem_ways expr consuming mem
    rw [same] at shorter
    exact absurd shorter (Nat.lt_irrefl _)
  · exact begins

theorem lookbehindHolds_of_none (alone : rule.lookbehind = none) :
    rule.LookbehindHolds before rest := by
  intro program present
  rw [alone] at present
  cases present

/-- A rule without lookbehind that consumes its match takes what the preferred way takes. -/
theorem takes_iff_of_preferred {length : Nat} {possible : Prop}
    (program : rule.program = expr.toProgram) (productive : expr.isProductive = true)
    (alone : rule.lookbehind = none) (consumes : rule.consumes = true)
    (preferred : ∀ after, (expr.ways none (.between before rest)).head? = some after ↔
      possible ∧ after = (Reading.between before rest).skip length) :
    rule.Takes before rest count ↔ possible ∧ 0 < count ∧ count = length := by
  rw [takes_iff program productive]
  simp only [preferred, Gives, if_pos consumes]
  constructor
  · rintro ⟨-, ⟨after, ⟨holds, rfl⟩, position⟩, nonempty⟩
    refine ⟨holds, nonempty, ?_⟩
    rw [← position]
    exact Nat.zero_add length
  · rintro ⟨holds, nonempty, rfl⟩
    refine ⟨lookbehindHolds_of_none alone, ?_, nonempty⟩
    exact ⟨_, ⟨holds, rfl⟩, Nat.zero_add count⟩

theorem takes_set {chars : CharClass} {char : Char}
    (program : rule.program = (Expr.set chars).toProgram) (alone : rule.lookbehind = none)
    (consumes : rule.consumes = true) (next : rest.head? = some char)
    (inside : chars.contains char = true) : rule.Takes before rest 1 := by
  refine (takes_iff program rfl).mpr ⟨lookbehindHolds_of_none alone, ?_, Nat.one_pos⟩
  refine ⟨(Reading.between before rest).skip 1, ?_, ?_⟩
  · have begins : rest.head?.any chars.contains = true := by rw [next, Option.any_some, inside]
    rw [Expr.ways_set_eq_skip, Reading.rest_between, if_pos begins, List.head?_cons]
  · rw [Gives, if_pos consumes]
    rfl

/-- The token of a rule that looks ahead is what its expression takes before the character that it
looks at. -/
theorem Takes.exists_front {front : Expr} {chars : CharClass}
    (program : rule.program = (Expr.seq front (.set chars)).toProgram)
    (productive : front.isProductive = true) (ahead : rule.consumes = false)
    (ends : front.EndsGroup) (takes : rule.Takes before rest count) :
    ∃ middle ∈ front.ways none (.between before rest), middle.position = count ∧
      ∃ char, middle.rest.head? = some char ∧ chars.contains char = true := by
  have productive : (Expr.seq front (.set chars)).isProductive = true := by
    rw [Expr.isProductive, productive]
    rfl
  rcases ((takes_iff program productive).mp takes).2.1 with ⟨after, first, gives⟩
  rw [Gives, ahead] at gives
  rcases Expr.stop_of_mem_ways_seq ends (List.mem_of_mem_head? first) with
    ⟨middle, mem, stop, char, next, inside⟩
  rw [gives] at stop
  exact ⟨middle, mem, (Option.some.inj stop).symm, char, next, inside⟩

/-- The token of a rule that looks ahead is followed by one of the characters that it looks at. -/
theorem Takes.lookahead {front : Expr} {chars : CharClass}
    (program : rule.program = (Expr.seq front (.set chars)).toProgram)
    (productive : front.isProductive = true) (ahead : rule.consumes = false)
    (ends : front.EndsGroup) (takes : rule.Takes before rest count) :
    ∃ char, (rest.drop count).head? = some char ∧ chars.contains char = true := by
  rcases takes.exists_front program productive ahead ends with
    ⟨middle, mem, position, char, next, inside⟩
  rw [(Expr.between_of_mem_ways mem).2.1, position] at next
  exact ⟨char, next, inside⟩

/-- The token of a rule that consumes its match ends as its expression may end. -/
theorem Takes.ends (program : rule.program = expr.toProgram)
    (productive : expr.isProductive = true) (consumes : rule.consumes = true)
    (takes : rule.Takes before rest count) :
    ∃ char, (rest.take count).getLast? = some char ∧ expr.mayEnd char = true := by
  rcases ((takes_iff program productive).mp takes).2.1 with ⟨after, first, position⟩
  rw [Gives, if_pos consumes] at position
  subst position
  exact Expr.exists_last_of_mem_ways (List.mem_of_mem_head? first) takes.nonempty

/-- The token of a rule that looks ahead ends as the expression before the characters that it looks
at may end. -/
theorem Takes.ends_ahead {front : Expr} {chars : CharClass}
    (program : rule.program = (Expr.seq front (.set chars)).toProgram)
    (productive : front.isProductive = true) (ahead : rule.consumes = false)
    (ends : front.EndsGroup) (takes : rule.Takes before rest count) :
    ∃ char, (rest.take count).getLast? = some char ∧ front.mayEnd char = true := by
  rcases takes.exists_front program productive ahead ends with ⟨middle, mem, rfl, -⟩
  exact Expr.exists_last_of_mem_ways mem takes.nonempty

theorem lookbehindHolds_set_iff {chars : CharClass}
    (lookbehind : rule.lookbehind = some (Expr.set chars).toProgram) :
    rule.LookbehindHolds before rest ↔
      ∃ char, before.getLast? = some char ∧ chars.contains char = true := by
  have matched : ∀ previous char following found,
      (Expr.set chars).toProgram.match? previous [char] following = some found ↔
        chars.contains char = true ∧ found = Program.matchAt 1 {} := by
    intro previous char following found
    rw [Expr.match?_toProgram (.set chars) rfl, Expr.ways]
    by_cases inside : chars.contains char = true
    · simp [inside, Reading.past, eq_comm]
    · simp [inside]
  constructor
  · intro holds
    rcases holds _ lookbehind with ⟨front, previous, found, rfl, result, -⟩
    exact ⟨previous, List.getLast?_concat, ((matched _ _ _ _).mp result).1⟩
  · rintro ⟨char, last, inside⟩ program same
    rw [lookbehind] at same
    cases same
    rcases List.getLast?_eq_some_iff.mp last with ⟨front, rfl⟩
    exact ⟨front, char, Program.matchAt 1 {}, rfl, (matched _ _ _ _).mpr ⟨inside, rfl⟩, rfl⟩

end Rule

end RuleLexer
