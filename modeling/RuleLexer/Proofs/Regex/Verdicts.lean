import RuleLexer.Proofs.Regex.Passing

/-!
# Verdicts before the last character

Exploring a program before the last character of a text comes upon instructions that wait there. The
first of them that leads to a match decides whether the match takes the character. What is said here
about a part of the code supposes that nothing in it has been entered, and that what follows at its
exit does not come back to it except to its start, which has been entered by then.
-/

namespace RuleLexer.Regex

namespace Program

/-- What a thread that waits at an address before the last character decides: whether the match that
it leads to takes the character. -/
def verdict (program : Program) (there : Surroundings) (char : Char) (address : Nat) :
    Option Bool :=
  match program.code[address]? with
  | some .accept => some false
  | some (.consume chars) =>
    if chars.contains char && program.acceptsAt there (address + 1) then some true else none
  | _ => none

/-- The verdict of the first of the entered addresses that has one. -/
def decided (program : Program) (there : Surroundings) (char : Char) (seen : List Nat) :
    Option Bool :=
  seen.reverse.findSome? (program.verdict there char)

/-- Unless there is a verdict before, exploring from an address gives the verdict; if it gives none,
it enters only addresses of the given kind. -/
def Decides (program : Program) (here there : Surroundings) (char : Char) (start : Nat)
    (result : Option Bool) (reached : Nat → Prop) (seen : List Nat) : Prop :=
  program.decided there char seen = none → ∀ after, program.Visits here [start] seen after →
    program.decided there char after = result ∧
      (result = none → ∀ address ∈ after, address ∈ seen ∨ reached address)

variable {program : Program} {here there : Surroundings} {char : Char} {address next : Nat}
  {instr : Instr} {one seen after : List Nat} {result result' : Option Bool}
  {reached reached' : Nat → Prop}

theorem decided_cons : program.decided there char (address :: seen) =
    (program.decided there char seen).or (program.verdict there char address) := by
  simp only [decided, List.reverse_cons, List.findSome?_append, List.findSome?_singleton]

theorem decided_eq_none_iff :
    program.decided there char seen = none ↔
      ∀ address ∈ seen, program.verdict there char address = none := by
  simp only [decided, List.findSome?_eq_none_iff, List.mem_reverse]

theorem decided_of_visits (visits : program.Visits here one seen after) {taken : Bool}
    (before : program.decided there char seen = some taken) :
    program.decided there char after = some taken := by
  induction visits with
  | done => exact before
  | skip _ _ ih => exact ih before
  | enter _ _ _ ih =>
      apply ih
      rw [decided_cons, before]
      rfl

namespace Decides

theorem mono (decides : program.Decides here there char address result reached seen)
    (weaker : result = none → ∀ other, reached other → other ∈ seen ∨ reached' other) :
    program.Decides here there char address result reached' seen := by
  intro undecided after visits
  rcases decides undecided after visits with ⟨same, entered⟩
  refine ⟨same, ?_⟩
  intro none other mem
  rcases entered none other mem with earlier | new
  · exact Or.inl earlier
  · exact weaker none other new

theorem known (mem : address ∈ seen) :
    program.Decides here there char address none reached seen := by
  intro undecided after visits
  rw [visits.eq_of_known mem]
  exact ⟨undecided, fun _ other mem => Or.inl mem⟩

theorem eq_none_of_known (mem : address ∈ seen)
    (decides : program.Decides here there char address result reached seen)
    (undecided : program.decided there char seen = none) : result = none := by
  have visits : program.Visits here [address] seen seen := Visits.skip (Or.inl mem) Visits.done
  rw [← (decides undecided seen visits).1, undecided]

theorem stop (at_address : program.code[address]? = some instr)
    (ends : program.successors here address = []) (fresh : address ∉ seen) :
    program.Decides here there char address (program.verdict there char address)
      (· = address) seen := by
  intro undecided after visits
  have visits := visits.of_fresh at_address fresh
  rw [ends] at visits
  cases visits
  refine ⟨by rw [decided_cons, undecided, Option.none_or], ?_⟩
  intro _ other mem
  exact (List.mem_cons.mp mem).symm

theorem step (at_address : program.code[address]? = some instr)
    (goes : program.successors here address = [next])
    (silent : program.verdict there char address = none) (fresh : address ∉ seen)
    (decides : program.Decides here there char next result reached (address :: seen)) :
    program.Decides here there char address result
      (fun other => other = address ∨ reached other) seen := by
  intro undecided after visits
  have visits := visits.of_fresh at_address fresh
  rw [goes] at visits
  rcases decides (by rw [decided_cons, undecided, silent, Option.none_or]) after visits with
    ⟨same, entered⟩
  refine ⟨same, ?_⟩
  intro none other mem
  rcases entered none other mem with earlier | new
  · rcases List.mem_cons.mp earlier with rfl | earlier
    · exact Or.inr (Or.inl rfl)
    · exact Or.inl earlier
  · exact Or.inr (Or.inr new)

/-- At a split the other branch is explored after the preferred one, if that gives no verdict. -/
theorem split {preferred other : Nat}
    (at_address : program.code[address]? = some (.split preferred other))
    (fresh : address ∉ seen)
    (first : program.Decides here there char preferred result reached (address :: seen))
    (second : result = none → ∀ middle, program.Visits here [preferred] (address :: seen) middle →
      (∀ earlier ∈ middle, earlier ∈ address :: seen ∨ reached earlier) →
      program.Decides here there char other result' reached' middle) :
    program.Decides here there char address (result.or result')
      (fun other => other = address ∨ reached other ∨ reached' other) seen := by
  intro undecided after visits
  have visits := visits.of_fresh at_address fresh
  simp only [successors, at_address] at visits
  rcases @Visits.divide _ _ [preferred] [other] _ _ visits with ⟨middle, visits, visits'⟩
  have silent : program.verdict there char address = none := by simp only [verdict, at_address]
  rcases first (by rw [decided_cons, undecided, silent, Option.none_or]) middle visits with
    ⟨same, entered⟩
  cases result with
  | some taken =>
      refine ⟨decided_of_visits visits' same, ?_⟩
      intro none
      cases none
  | none =>
      rcases second rfl middle visits (entered rfl) same after visits' with ⟨same', entered'⟩
      refine ⟨same', ?_⟩
      intro none other mem
      rcases entered' none other mem with mem | new
      · rcases entered rfl other mem with mem | new
        · rcases List.mem_cons.mp mem with rfl | earlier
          · exact Or.inr (Or.inl rfl)
          · exact Or.inl earlier
        · exact Or.inr (Or.inr (Or.inl new))
      · exact Or.inr (Or.inr (Or.inr new))

/-- The end of a loop whose start has been entered: going back there adds nothing. -/
theorem loop {greedy : Bool} {base exit : Nat}
    (at_address : program.code[address]? =
      some (if greedy then .split base exit else .split exit base))
    (fresh : address ∉ seen) (entered : base ∈ address :: seen)
    (leaves : program.Decides here there char exit result reached (address :: seen)) :
    program.Decides here there char address result
      (fun other => other = address ∨ reached other) seen := by
  have known : ∀ later, address :: seen ⊆ later →
      program.Decides here there char base none (fun _ => False) later :=
    fun later more => Decides.known (more entered)
  cases greedy with
  | true =>
      have decides := (known _ (List.Subset.refl _)).split at_address fresh
        fun _ later visits _ => (visits.eq_of_known entered).symm ▸ leaves
      rw [Option.none_or] at decides
      simpa only [false_or] using decides
  | false =>
      have decides := leaves.split at_address fresh fun _ later visits _ => known later visits.subset
      rw [Option.or_none] at decides
      simpa only [or_false] using decides

end Decides

variable {around : Surroundings} {other : Nat}

theorem acceptsAt_congr
    (same : program.Accepts around address ↔ program.Accepts around other) :
    program.acceptsAt around address = program.acceptsAt around other := by
  rw [Bool.eq_iff_iff, acceptsAt_iff, acceptsAt_iff]
  exact same

/-- What a way over the character decides that ends at an exit: acceptance must be reached after the
character, or the exit leads to the given verdict before it. -/
def ending (program : Program) (there : Surroundings) (exit : Nat) (result : Option Bool)
    (taken : Bool) : Option Bool :=
  if taken then if program.acceptsAt there exit then some true else none else result

theorem ending_congr {there : Surroundings} {exit exit' : Nat}
    (same : program.Accepts there exit ↔ program.Accepts there exit') :
    program.ending there exit = program.ending there exit' := by
  funext result taken
  simp only [ending, acceptsAt_congr same]

/-- More addresses have been entered, all of them from `base` on and before `exit`. -/
structure Grows (base exit : Nat) (seen middle : List Nat) : Prop where
  keeps : seen ⊆ middle
  inner : ∀ address ∈ middle, address ∈ seen ∨ (base ≤ address ∧ address < exit)

namespace Grows

variable {base exit base' exit' address : Nat} {seen middle after : List Nat}

theorem refl : Grows base exit seen seen :=
  ⟨List.Subset.refl seen, fun _ mem => Or.inl mem⟩

theorem cons (grows : Grows base exit seen middle) (ge : base ≤ address) (lt : address < exit) :
    Grows base exit seen (address :: middle) := by
  refine ⟨fun other mem => List.mem_cons_of_mem _ (grows.keeps mem), ?_⟩
  intro other mem
  rcases List.mem_cons.mp mem with rfl | mem
  · exact Or.inr ⟨ge, lt⟩
  · exact grows.inner other mem

theorem trans (one : Grows base exit seen middle) (two : Grows base exit middle after) :
    Grows base exit seen after := by
  refine ⟨List.Subset.trans one.keeps two.keeps, ?_⟩
  intro address mem
  rcases two.inner address mem with earlier | inside
  · exact one.inner address earlier
  · exact Or.inr inside

theorem widen (grows : Grows base exit seen middle) (ge : base' ≤ base) (le : exit ≤ exit') :
    Grows base' exit' seen middle := by
  refine ⟨grows.keeps, ?_⟩
  intro address mem
  rcases grows.inner address mem with earlier | inside
  · exact Or.inl earlier
  · exact Or.inr (by omega)

theorem not_mem (grows : Grows base exit seen middle) (new : address ∉ seen)
    (outside : ¬ (base ≤ address ∧ address < exit)) : address ∉ middle := by
  intro mem
  rcases grows.inner address mem with earlier | inside
  · exact new earlier
  · exact outside inside

end Grows

/-- The addresses from `base` on before `exit`, none of which has been entered, are about to be
explored, and what follows at the exit is known to give a verdict without coming back to them. -/
structure Approaches (program : Program) (here there : Surroundings) (char : Char)
    (base exit : Nat) (result : Option Bool) (reached : Nat → Prop) (seen : List Nat) : Prop where
  fresh : ∀ address ∈ seen, ¬ (base ≤ address ∧ address < exit)
  clear : ∀ address, reached address → ¬ (base ≤ address ∧ address < exit)
  leaves : ∀ middle, Grows base exit seen middle → base ∈ exit :: middle →
    program.Decides here there char exit result reached middle

variable {program : Program} {here there : Surroundings} {char : Char} {base exit : Nat}
  {result : Option Bool} {reached : Nat → Prop} {seen middle : List Nat}

namespace Approaches

theorem not_mem (approaches : program.Approaches here there char base exit result reached seen)
    {address : Nat} (ge : base ≤ address) (lt : address < exit) : address ∉ seen :=
  fun mem => approaches.fresh address mem ⟨ge, lt⟩

/-- The exit after further addresses of the part have been entered, the first among them. -/
theorem leave (approaches : program.Approaches here there char base exit result reached seen)
    (grows : Grows base exit seen middle) (entered : base ∈ middle) :
    program.Decides here there char exit result reached middle :=
  approaches.leaves middle grows (List.mem_cons_of_mem _ entered)

/-- The beginning of a part, if the rest of it is known to give a verdict. -/
theorem front (approaches : program.Approaches here there char base exit result reached seen)
    {between : Nat} {result' : Option Bool} {reached' : Nat → Prop} (le : between ≤ exit)
    (outside : ∀ address, reached' address → (between ≤ address ∧ address < exit) ∨ reached address)
    (leaves : ∀ middle, Grows base between seen middle → base ∈ between :: middle →
      program.Decides here there char between result' reached' middle) :
    program.Approaches here there char base between result' reached' seen := by
  refine ⟨?_, ?_, leaves⟩
  · intro address mem inside
    exact approaches.fresh address mem (by omega)
  · intro address new inside
    rcases outside address new with after | new
    · omega
    · exact approaches.clear address new (by omega)

/-- The rest of a part after some of its beginning has been entered. -/
theorem back (approaches : program.Approaches here there char base exit result reached seen)
    {between : Nat} (ge : base ≤ between) (le : between ≤ exit)
    (grows : Grows base between seen middle) (entered : base ∈ between :: middle) :
    program.Approaches here there char between exit result reached middle := by
  refine ⟨?_, ?_, ?_⟩
  · intro address mem inside
    exact grows.not_mem (approaches.not_mem (by omega) inside.2) (by omega) mem
  · intro address new inside
    exact approaches.clear address new (by omega)
  · intro later grows' entered'
    apply approaches.leaves later
    · exact (grows.widen (Nat.le_refl base) le).trans (grows'.widen ge (Nat.le_refl exit))
    · rcases List.mem_cons.mp entered with same | earlier
      · exact same ▸ entered'
      · exact List.mem_cons_of_mem _ (grows'.keeps earlier)

/-- The part between two instructions, of which the last one leads to the exit. -/
theorem within (approaches : program.Approaches here there char base exit result reached seen)
    {last : Nat} {instr : Instr} (at_last : program.code[last]? = some instr)
    (goes : program.successors here last = [exit])
    (silent : program.verdict there char last = none) (after : base < last) (before : last < exit) :
    program.Approaches here there char (base + 1) last result
      (fun address => address = last ∨ reached address) (base :: seen) := by
  have first : Grows base exit seen (base :: seen) :=
    Grows.refl.cons (Nat.le_refl base) (Nat.lt_trans after before)
  refine ⟨?_, ?_, ?_⟩
  · intro address mem inside
    rcases List.mem_cons.mp mem with rfl | mem
    · omega
    · exact approaches.fresh address mem (by omega)
  · intro address new inside
    rcases new with rfl | new
    · omega
    · exact approaches.clear address new (by omega)
  · intro middle grows _
    have new : last ∉ middle := by
      apply grows.not_mem _ (by omega)
      intro mem
      rcases List.mem_cons.mp mem with same | earlier
      · omega
      · exact approaches.not_mem (by omega) before earlier
    have whole : Grows base exit seen (last :: middle) :=
      (first.trans (grows.widen (by omega) (by omega))).cons (by omega) before
    apply Decides.step at_last goes silent new
    apply approaches.leave whole
    exact List.mem_cons_of_mem _ (grows.keeps List.mem_cons_self)

/-- The rest of a part whose beginning has been explored and gave no verdict. -/
theorem rest (approaches : program.Approaches here there char base exit result reached seen)
    (stays : ∀ address, base ≤ address → address < exit →
      ∀ next ∈ program.successors here address, base ≤ next ∧ next ≤ exit)
    {last : Nat} (after : base < last) (before : last < exit)
    (visits : program.Visits here [base + 1] (base :: seen) middle)
    (entered : ∀ address ∈ middle, address ∈ base :: seen ∨
      (base + 1 ≤ address ∧ address < last) ∨ ((address = last ∨ reached address) ∧ result = none)) :
    program.Approaches here there char (last + 1) exit result reached middle := by
  have first : Grows base exit seen (base :: seen) :=
    Grows.refl.cons (Nat.le_refl base) (Nat.lt_trans after before)
  refine ⟨?_, ?_, ?_⟩
  · intro address mem inside
    rcases entered address mem with earlier | beginning | ⟨rfl | new, none⟩
    · rcases List.mem_cons.mp earlier with rfl | earlier
      · omega
      · exact approaches.fresh address earlier (by omega)
    · omega
    · omega
    · exact approaches.clear address new (by omega)
  · intro address new inside
    exact approaches.clear address new (by omega)
  · intro later grows _
    by_cases left : exit ∈ middle
    · intro undecided
      have none : result = none := by
        rcases entered exit left with earlier | beginning | ⟨-, none⟩
        · apply (approaches.leave first List.mem_cons_self).eq_none_of_known earlier
          rw [decided_eq_none_iff] at undecided ⊢
          intro address mem
          exact undecided address (grows.keeps (visits.subset mem))
        · omega
        · exact none
      rw [none]
      exact Decides.known (grows.keeps left) undecided
    · have stays : ∀ address, base ≤ address ∧ address < exit →
          ∀ next ∈ program.successors here address,
            (base ≤ next ∧ next < exit) ∨ next = exit := by
        intro address within next mem
        have := stays address within.1 within.2 next mem
        omega
      have starts : ∀ start ∈ [base + 1], (base ≤ start ∧ start < exit) ∨ start = exit := by
        simp only [List.mem_singleton, forall_eq]
        omega
      have second : Grows base exit (base :: seen) middle :=
        ⟨visits.subset, visits.mem_of_avoids stays starts left⟩
      apply approaches.leave ((first.trans second).trans (grows.widen (by omega) (Nat.le_refl exit)))
      exact grows.keeps (visits.subset List.mem_cons_self)

end Approaches

end Program

end RuleLexer.Regex
