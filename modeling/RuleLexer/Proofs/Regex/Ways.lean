import Mathlib.Data.List.Basic
import RuleLexer.Regex.Search

/-!
# Ways of matching

All the ways in which an expression can match from a place in a text, in order of preference: those
of the preferred alternative before those of the other one, those with another round of a greedy
loop before the one that leaves it. This is the order in which a search by trial and error finds
them, and it says what a match is without threads and addresses.

Every round of a loop whose body takes at least one character shortens the text, so such a loop has
as many rounds as it can use if it has as many as there are characters.
-/

namespace RuleLexer.Regex

/-- A place in a text that is being matched, with the ends of the group recorded so far. -/
structure Reading where
  previous : Option Char
  rest : List Char
  position : Nat
  marks : Marks
  deriving DecidableEq, Repr

namespace Reading

/-- The characters around the place; `following` stands after the text. -/
def around (following : Option Char) (reading : Reading) : Surroundings :=
  ⟨reading.previous, reading.rest.head?.or following⟩

/-- The place after the next character. -/
def past (reading : Reading) (char : Char) (rest : List Char) : Reading :=
  { reading with previous := some char, rest, position := reading.position + 1 }

/-- The same place with an end of the group recorded there. -/
def record (reading : Reading) (edge : Edge) : Reading :=
  { reading with marks := reading.marks.record reading.position edge }

@[simp]
theorem rest_record (reading : Reading) (edge : Edge) : (reading.record edge).rest = reading.rest :=
  rfl

/-- The second place is reached from the first one by taking characters. -/
def Reaches (first second : Reading) : Prop :=
  ∃ taken, first.rest = taken ++ second.rest ∧
    second.position = first.position + taken.length ∧
    second.previous = taken.getLast?.or first.previous

theorem Reaches.refl (reading : Reading) : reading.Reaches reading :=
  ⟨[], rfl, rfl, rfl⟩

theorem Reaches.trans {first second third : Reading} (one : first.Reaches second)
    (two : second.Reaches third) : first.Reaches third := by
  rcases one with ⟨taken, rest, position, previous⟩
  rcases two with ⟨taken', rest', position', previous'⟩
  refine ⟨taken ++ taken', ?_, ?_, ?_⟩
  · rw [rest, rest', List.append_assoc]
  · rw [position', position, List.length_append, Nat.add_assoc]
  · rw [previous', previous, List.getLast?_append, Option.or_assoc]

theorem Reaches.length_le {first second : Reading} (reaches : first.Reaches second) :
    second.rest.length ≤ first.rest.length := by
  rcases reaches with ⟨taken, rest, -, -⟩
  rw [rest, List.length_append]
  omega

end Reading

namespace Expr

/-- The ways of going round a loop once or more, with a bound on the number of rounds. -/
def rounds (once : Reading → List Reading) (greedy : Bool) : Nat → Reading → List Reading
  | 0, _ => []
  | bound + 1, reading =>
    (once reading).flatMap fun after =>
      if greedy then rounds once greedy bound after ++ [after]
      else after :: rounds once greedy bound after

/-- The places at which the expression can stop when it starts at a place, the preferred first. -/
def ways (following : Option Char) : Expr → Reading → List Reading
  | .empty, reading => [reading]
  | .set chars, reading =>
    match reading.rest with
    | [] => []
    | char :: rest => if chars.contains char then [reading.past char rest] else []
  | .look assertion, reading =>
    if assertion.holds (reading.around following) then [reading] else []
  | .seq first second, reading => (ways following first reading).flatMap (ways following second)
  | .alt preferred other, reading =>
    ways following preferred reading ++ ways following other reading
  | .plus greedy body, reading =>
    rounds (ways following body) greedy reading.rest.length reading
  | .group index body, reading =>
    if index = bodyGroup then
      (ways following body (reading.record .start)).map (·.record .stop)
    else ways following body reading

-- This also generates the equations here, once, before the proofs that would wait for one another.
attribute [grind =] rounds ways

/-- Whether the expression takes at least one character in every way. -/
def consumes : Expr → Bool
  | .empty | .look _ => false
  | .set _ => true
  | .seq first second => first.consumes || second.consumes
  | .alt preferred other => preferred.consumes && other.consumes
  | .plus _ body | .group _ body => body.consumes

/-- Whether every round of every loop takes at least one character. -/
def isProductive : Expr → Bool
  | .empty | .look _ | .set _ => true
  | .seq first second | .alt first second => first.isProductive && second.isProductive
  | .plus _ body => body.consumes && body.isProductive
  | .group _ body => body.isProductive

variable {following : Option Char} {reading after : Reading} {greedy : Bool} {body : Expr}
  {chars : CharClass}

theorem mem_rounds {once : Reading → List Reading} {bound : Nat}
    (mem : after ∈ rounds once greedy (bound + 1) reading) :
    ∃ middle ∈ once reading, after = middle ∨ after ∈ rounds once greedy bound middle := by
  rw [rounds, List.mem_flatMap] at mem
  rcases mem with ⟨middle, first, later⟩
  refine ⟨middle, first, ?_⟩
  split at later
  · rw [List.mem_append, List.mem_singleton] at later
    exact later.symm
  · exact List.mem_cons.mp later

theorem rounds_reaches {once : Reading → List Reading} {bound : Nat}
    (onceReaches : ∀ reading, ∀ after ∈ once reading, reading.Reaches after)
    (mem : after ∈ rounds once greedy bound reading) : reading.Reaches after := by
  induction bound generalizing reading with
  | zero => cases mem
  | succ bound ih =>
      rcases mem_rounds mem with ⟨middle, first, rfl | later⟩
      · exact onceReaches reading after first
      · exact (onceReaches reading middle first).trans (ih later)

theorem reaches_of_mem_ways (expr : Expr) (mem : after ∈ expr.ways following reading) :
    reading.Reaches after := by
  induction expr generalizing reading after with
  | empty =>
      rw [ways, List.mem_singleton] at mem
      rw [mem]
      exact Reading.Reaches.refl reading
  | set chars =>
      rw [ways] at mem
      split at mem
      · cases mem
      · rename_i char rest remains
        split at mem
        · rw [List.mem_singleton] at mem
          rw [mem]
          exact ⟨[char], remains, rfl, rfl⟩
        · cases mem
  | look assertion =>
      rw [ways] at mem
      split at mem
      · rw [List.mem_singleton] at mem
        rw [mem]
        exact Reading.Reaches.refl reading
      · cases mem
  | seq first second ihFirst ihSecond =>
      rw [ways, List.mem_flatMap] at mem
      rcases mem with ⟨middle, one, two⟩
      exact (ihFirst one).trans (ihSecond two)
  | alt preferred other ihPreferred ihOther =>
      rw [ways, List.mem_append] at mem
      rcases mem with mem | mem
      · exact ihPreferred mem
      · exact ihOther mem
  | plus greedy body ih =>
      rw [ways] at mem
      exact rounds_reaches (fun reading after inner => ih inner) mem
  | group index body ih =>
      rw [ways] at mem
      split at mem
      · rcases List.mem_map.mp mem with ⟨inner, inner_mem, rfl⟩
        have inside := ih inner_mem
        exact inside
      · exact ih mem

theorem length_lt_of_mem_ways (expr : Expr) (consuming : expr.consumes = true)
    (mem : after ∈ expr.ways following reading) :
    after.rest.length < reading.rest.length := by
  induction expr generalizing reading after with
  | empty => cases consuming
  | set chars =>
      rw [ways] at mem
      split at mem
      · cases mem
      · rename_i char rest remains
        split at mem
        · rw [List.mem_singleton] at mem
          rw [mem, remains]
          exact Nat.lt_succ_self _
        · cases mem
  | look assertion => cases consuming
  | seq first second ihFirst ihSecond =>
      rw [consumes, Bool.or_eq_true] at consuming
      rw [ways, List.mem_flatMap] at mem
      rcases mem with ⟨middle, one, two⟩
      rcases consuming with consuming | consuming
      · exact Nat.lt_of_le_of_lt (reaches_of_mem_ways second two).length_le
          (ihFirst consuming one)
      · exact Nat.lt_of_lt_of_le (ihSecond consuming two)
          (reaches_of_mem_ways first one).length_le
  | alt preferred other ihPreferred ihOther =>
      rw [consumes, Bool.and_eq_true] at consuming
      rw [ways, List.mem_append] at mem
      rcases mem with mem | mem
      · exact ihPreferred consuming.1 mem
      · exact ihOther consuming.2 mem
  | plus greedy body ih =>
      rw [ways] at mem
      rcases bound_eq : reading.rest.length with _ | bound
      · rw [bound_eq] at mem
        cases mem
      · rw [← bound_eq]
        rw [bound_eq] at mem
        rcases mem_rounds mem with ⟨middle, first, rfl | later⟩
        · exact ih consuming first
        · have reaches := rounds_reaches
            (fun reading after inner => reaches_of_mem_ways body inner) later
          exact Nat.lt_of_le_of_lt reaches.length_le (ih consuming first)
  | group index body ih =>
      rw [ways] at mem
      split at mem
      · rcases List.mem_map.mp mem with ⟨inner, inner_mem, rfl⟩
        have inside := ih consuming inner_mem
        exact inside
      · exact ih consuming mem

section Loops

variable {once : Reading → List Reading}
  (shortens : ∀ reading, ∀ after ∈ once reading, after.rest.length < reading.rest.length)

include shortens

theorem once_eq_nil (ended : reading.rest.length = 0) : once reading = [] := by
  rw [List.eq_nil_iff_forall_not_mem]
  intro after mem
  have := shortens reading after mem
  omega

/-- More rounds than there are characters make no difference. -/
theorem rounds_eq {bound bound' : Nat} (enough : reading.rest.length ≤ bound)
    (enough' : reading.rest.length ≤ bound') :
    rounds once greedy bound reading = rounds once greedy bound' reading := by
  induction bound generalizing reading bound' with
  | zero =>
      have none := once_eq_nil shortens (Nat.le_zero.mp enough)
      cases bound' with
      | zero => rfl
      | succ bound' => rw [rounds, rounds, none, List.flatMap_nil]
  | succ bound ih =>
      cases bound' with
      | zero =>
          have none := once_eq_nil shortens (Nat.le_zero.mp enough')
          rw [rounds, rounds, none, List.flatMap_nil]
      | succ bound' =>
          rw [rounds, rounds]
          refine List.flatMap_congr ?_
          intro after mem
          have shorter := shortens reading after mem
          have same : rounds once greedy bound after = rounds once greedy bound' after :=
            ih (by omega) (by omega)
          rw [same]

/-- The bound on the rounds of a loop by the number of characters does not show. -/
theorem rounds_length (reading : Reading) :
    rounds once greedy reading.rest.length reading =
      (once reading).flatMap fun after =>
        if greedy then rounds once greedy after.rest.length after ++ [after]
        else after :: rounds once greedy after.rest.length after := by
  rcases bound_eq : reading.rest.length with _ | bound
  · rw [once_eq_nil shortens bound_eq]
    rfl
  · rw [rounds]
    refine List.flatMap_congr ?_
    intro after mem
    have shorter := shortens reading after mem
    have same : rounds once greedy bound after = rounds once greedy after.rest.length after :=
      rounds_eq shortens (by omega) (Nat.le_refl _)
    rw [same]

end Loops

theorem ways_plus (consuming : body.consumes = true) (reading : Reading) :
    (plus greedy body).ways following reading =
      (body.ways following reading).flatMap ((star greedy body).ways following) := by
  have shortens : ∀ reading, ∀ after ∈ body.ways following reading,
      after.rest.length < reading.rest.length :=
    fun _ _ mem => length_lt_of_mem_ways body consuming mem
  rw [ways, rounds_length shortens]
  refine List.flatMap_congr ?_
  intro after mem
  cases greedy <;> simp [star, optional, ways]

theorem ways_star_greedy (consuming : body.consumes = true) (reading : Reading) :
    (star true body).ways following reading =
      (body.ways following reading).flatMap ((star true body).ways following) ++ [reading] := by
  rw [← ways_plus consuming]
  rfl

theorem ways_star_lazy (consuming : body.consumes = true) (reading : Reading) :
    (star false body).ways following reading =
      reading :: (body.ways following reading).flatMap ((star false body).ways following) := by
  rw [← ways_plus consuming]
  rfl

theorem mem_ways_seq_iff {first second : Expr} :
    after ∈ (seq first second).ways following reading ↔
      ∃ middle ∈ first.ways following reading, after ∈ second.ways following middle := by
  rw [ways, List.mem_flatMap]

/-- Before an expression, a greedy loop tries another round and then the expression. -/
theorem ways_seq_star_greedy (consuming : body.consumes = true) (tail : Expr) (reading : Reading) :
    (seq (star true body) tail).ways following reading =
      (body.ways following reading).flatMap ((seq (star true body) tail).ways following) ++
        tail.ways following reading := by
  rw [ways, ways_star_greedy consuming, List.flatMap_append, List.flatMap_assoc,
    List.flatMap_singleton]
  rfl

/-- Before an expression, a lazy loop tries the expression and then another round. -/
theorem ways_seq_star_lazy (consuming : body.consumes = true) (tail : Expr) (reading : Reading) :
    (seq (star false body) tail).ways following reading =
      tail.ways following reading ++
        (body.ways following reading).flatMap ((seq (star false body) tail).ways following) := by
  rw [ways, ways_star_lazy consuming, List.flatMap_cons, List.flatMap_assoc]
  rfl

theorem ways_seq_assoc (first second third : Expr) (reading : Reading) :
    (seq (seq first second) third).ways following reading =
      (seq first (seq second third)).ways following reading := by
  simp only [ways, List.flatMap_assoc]

end Expr

end RuleLexer.Regex
