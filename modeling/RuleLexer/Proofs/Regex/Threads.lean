import RuleLexer.Proofs.Regex.Outcome

/-!
# Threads find what trial and error finds

Following all threads at once and entering every address at most once finds the same match as trial
and error, if the program settles. An address that is entered again is passed over, which loses
nothing if everything that can be found from it has been found before; and that is so except for the
addresses whose successors are still being followed. Those settle later than the addresses that are
being entered, so the bound within which an address settles tells the two kinds apart.
-/

namespace RuleLexer.Regex

def Frontier.Entered (frontier : Frontier) (address : Nat) : Prop :=
  frontier.entered.getD address true = true

def Frontier.enter (frontier : Frontier) (address : Nat) : Frontier :=
  { frontier with entered := frontier.entered.setIfInBounds address true }

theorem Frontier.entered_enter {frontier : Frontier} {address other : Nat}
    (entered : (frontier.enter address).Entered other) :
    other = address ∨ frontier.Entered other := by
  by_cases same : other = address
  · exact Or.inl same
  · right
    simp only [Entered, enter, Array.getD_eq_getD_getElem?] at entered ⊢
    rwa [Array.getElem?_setIfInBounds_ne (Ne.symm same)] at entered

namespace Program

/-- What trial and error finds first from a thread; the marks are those of the thread. -/
def threadOutcome (program : Program) (following : Option Char) (reading : Reading)
    (thread : Thread) : Option Match :=
  program.outcome following { reading with marks := thread.marks } thread.address

def found (program : Program) (following : Option Char) (reading : Reading)
    (frontier : Frontier) : Option Match :=
  frontier.waiting.reverse.findSome? (program.threadOutcome following reading)

/-- If anything can be found from an entered address that settles within the bound, then something
has been found. -/
def Exhausts (program : Program) (following : Option Char) (reading : Reading) (bound : Nat)
    (frontier : Frontier) : Prop :=
  ∀ address, frontier.Entered address → program.SettlesWithin bound address →
    (program.outcome following reading address).isSome →
    (program.found following reading frontier).isSome

/-- The second frontier comes from the first one by following what has the given outcome; what it
enters settles within the bound. -/
structure Follows (program : Program) (following : Option Char) (reading : Reading) (bound : Nat)
    (outcome : Option Match) (before after : Frontier) : Prop where
  found_eq : program.found following reading after =
    (program.found following reading before).or outcome
  exhausts : program.Exhausts following reading bound after
  entered : ∀ address, after.Entered address →
    before.Entered address ∨ program.SettlesWithin bound address

variable {program : Program} {following : Option Char} {reading : Reading} {bound fuel : Nat}
  {thread : Thread} {before middle after frontier : Frontier} {first second : Option Match}

theorem isSome_threadOutcome (thread : Thread) :
    (program.threadOutcome following reading thread).isSome =
      (program.outcome following reading thread.address).isSome :=
  isSome_outcome reading thread.marks thread.address

theorem Exhausts.mono (exhausts : program.Exhausts following reading (bound + 1) frontier) :
    program.Exhausts following reading bound frontier := by
  intro address entered settles some
  exact exhausts address entered (settles.mono (Nat.le_succ bound)) some

/-- An address that does not settle yet may be entered before anything is found from it. -/
theorem Exhausts.enter (exhausts : program.Exhausts following reading (bound + 1) frontier)
    {address : Nat} (late : ¬ program.SettlesWithin bound address) :
    program.Exhausts following reading bound (frontier.enter address) := by
  intro other entered settles some
  rcases Frontier.entered_enter entered with rfl | entered
  · exact absurd settles late
  · exact exhausts.mono other entered settles some

namespace Follows

theorem refl (exhausts : program.Exhausts following reading bound frontier) :
    program.Follows following reading bound none frontier frontier where
  found_eq := (Option.or_none).symm
  exhausts := exhausts
  entered := fun _ entered => Or.inl entered

theorem trans (one : program.Follows following reading bound first before middle)
    (two : program.Follows following reading bound second middle after) :
    program.Follows following reading bound (first.or second) before after where
  found_eq := by rw [two.found_eq, one.found_eq, Option.or_assoc]
  exhausts := two.exhausts
  entered := by
    intro address entered
    rcases two.entered address entered with entered | settles
    · exact one.entered address entered
    · exact Or.inr settles

/-- A thread that waits is found where it waits. -/
theorem wait (thread : Thread) (exhausts : program.Exhausts following reading bound frontier) :
    program.Follows following reading bound (program.threadOutcome following reading thread)
      frontier { frontier with waiting := thread :: frontier.waiting } := by
  have found_eq : program.found following reading
      { frontier with waiting := thread :: frontier.waiting } =
        (program.found following reading frontier).or
          (program.threadOutcome following reading thread) := by
    simp only [found, List.reverse_cons, List.findSome?_append, List.findSome?_cons,
      List.findSome?_nil]
    cases program.threadOutcome following reading thread <;> rfl
  refine ⟨found_eq, ?_, fun _ entered => Or.inl entered⟩
  intro address entered settles some
  rw [found_eq, Option.isSome_or, exhausts address entered settles some, Bool.true_or]

theorem mono (follows : program.Follows following reading bound first before after)
    (exhausts : program.Exhausts following reading (bound + 1) before) :
    program.Follows following reading (bound + 1) first before after := by
  refine ⟨follows.found_eq, ?_, ?_⟩
  · intro address entered settles some
    rcases follows.entered address entered with earlier | soon
    · rw [follows.found_eq, Option.isSome_or, exhausts address earlier settles some, Bool.true_or]
    · exact follows.exhausts address entered soon some
  · intro address entered
    rcases follows.entered address entered with earlier | soon
    · exact Or.inl earlier
    · exact Or.inr (soon.mono (Nat.le_succ bound))

/-- Once everything after an entered address has been followed, the address is exhausted too. -/
theorem leave
    (follows : program.Follows following reading bound
      (program.threadOutcome following reading thread) (frontier.enter thread.address) after)
    (exhausts : program.Exhausts following reading (bound + 1) frontier)
    (settles : program.SettlesWithin (bound + 1) thread.address) :
    program.Follows following reading (bound + 1)
      (program.threadOutcome following reading thread) frontier after := by
  have found_eq : program.found following reading after =
      (program.found following reading frontier).or
        (program.threadOutcome following reading thread) := follows.found_eq
  refine ⟨found_eq, ?_, ?_⟩
  · intro address entered settles some
    rcases follows.entered address entered with entered | soon
    · rcases Frontier.entered_enter entered with rfl | earlier
      · rw [found_eq, Option.isSome_or, isSome_threadOutcome, some, Bool.or_true]
      · rw [found_eq, Option.isSome_or, exhausts address earlier settles some, Bool.true_or]
    · exact follows.exhausts address entered soon some
  · intro address entered
    rcases follows.entered address entered with entered | soon
    · rcases Frontier.entered_enter entered with rfl | earlier
      · exact Or.inr settles
      · exact Or.inl earlier
    · exact Or.inr (soon.mono (Nat.le_succ bound))

end Follows

/-- Exploring from a thread adds what trial and error finds from it. -/
theorem explore_follows (settles : program.Settles)
    (soon : program.SettlesWithin bound thread.address) (enough : bound ≤ fuel)
    (exhausts : program.Exhausts following reading bound frontier) :
    program.Follows following reading bound (program.threadOutcome following reading thread)
      frontier
      (program.explore (reading.around following) reading.position fuel thread frontier) := by
  induction bound generalizing thread frontier fuel with
  | zero => exact soon.elim
  | succ bound ih =>
      by_cases sooner : program.SettlesWithin bound thread.address
      · exact (ih sooner (by omega) exhausts.mono).mono exhausts
      obtain ⟨fuel, rfl⟩ : ∃ less, fuel = less + 1 := ⟨fuel - 1, by omega⟩
      have enough : bound ≤ fuel := by omega
      rcases thread with ⟨address, marks⟩
      rw [explore]
      by_cases entered : frontier.Entered address
      · rw [if_pos (show frontier.entered.getD address true = true from entered)]
        have same := Follows.refl exhausts
        refine ⟨?_, same.exhausts, same.entered⟩
        cases here : program.threadOutcome following reading ⟨address, marks⟩ with
        | none => exact Option.or_none.symm
        | some result =>
            have some : (program.outcome following reading address).isSome = true := by
              rw [← isSome_threadOutcome ⟨address, marks⟩, here, Option.isSome_some]
            rw [Option.or_of_isSome (exhausts address entered soon some)]
      · rw [if_neg (show ¬ frontier.entered.getD address true = true from entered)]
        refine Follows.leave ?_ exhausts soon
        have exhausts := exhausts.enter sooner
        simp only [SettlesWithin] at soon
        simp only [threadOutcome]
        cases instr : program.code[address]? with
        | none =>
            rw [outcome_none instr]
            exact Follows.refl exhausts
        | some step =>
            rw [instr] at soon
            cases step with
            | accept => exact Follows.wait ⟨address, marks⟩ exhausts
            | consume chars => exact Follows.wait ⟨address, marks⟩ exhausts
            | require assertion =>
                rw [outcome_require settles instr]
                by_cases holds : assertion.holds (reading.around following) = true
                · have follows := @ih fuel ⟨address + 1, marks⟩ _ soon enough exhausts
                  simp only [if_pos holds]
                  exact (if_pos holds).symm ▸ follows
                · simp only [if_neg holds]
                  exact (if_neg holds).symm ▸ Follows.refl exhausts
            | split preferred other =>
                rw [outcome_split settles instr]
                have one := @ih fuel ⟨preferred, marks⟩ _ soon.1 enough exhausts
                exact one.trans (@ih fuel ⟨other, marks⟩ _ soon.2 enough one.exhausts)
            | jump target =>
                rw [outcome_jump settles instr]
                exact @ih fuel ⟨target, marks⟩ _ soon enough exhausts
            | record edge =>
                rw [outcome_record settles instr]
                exact @ih fuel ⟨address + 1, marks.record reading.position edge⟩ _ soon enough
                  exhausts

/-- What is found from the threads at a frontier is what is found from those that arrive. -/
theorem findSome?_frontier (settles : program.Settles) (arrivals : List Thread) :
    (program.frontier (reading.around following) reading.position arrivals).findSome?
        (program.threadOutcome following reading) =
      arrivals.findSome? (program.threadOutcome following reading) := by
  have folded : ∀ frontier,
      program.Exhausts following reading (program.code.size + 1) frontier →
      program.found following reading
          (arrivals.foldl (fun frontier thread =>
            program.explore (reading.around following) reading.position (program.code.size + 1)
              thread frontier) frontier) =
        (program.found following reading frontier).or
          (arrivals.findSome? (program.threadOutcome following reading)) := by
    induction arrivals with
    | nil => exact fun _ _ => Option.or_none.symm
    | cons thread arrivals ih =>
        intro frontier exhausts
        have follows := explore_follows settles (settles thread.address) (Nat.le_refl _) exhausts
        rw [List.foldl_cons, ih _ follows.exhausts, follows.found_eq, Option.or_assoc,
          List.findSome?_cons]
        cases program.threadOutcome following reading thread <;> rfl
  have fresh : program.Exhausts following reading (program.code.size + 1)
      ⟨Array.replicate program.code.size false, []⟩ := by
    intro address entered settles some
    have outside : program.code[address]? = none := by
      by_contra inside
      rw [Array.getElem?_eq_none_iff, Nat.not_le] at inside
      simp [Frontier.Entered, Array.getD_eq_getD_getElem?, inside] at entered
    rw [outcome_none outside] at some
    cases some
  exact folded _ fresh

/-- The thread stands at an instruction that takes a character or accepts. -/
def Waits (program : Program) (thread : Thread) : Prop :=
  (∃ chars, program.code[thread.address]? = some (.consume chars)) ∨
    program.code[thread.address]? = some .accept

theorem explore_waits {around : Surroundings} {position : Nat}
    (waits : ∀ waiting ∈ frontier.waiting, program.Waits waiting) :
    ∀ waiting ∈ (program.explore around position fuel thread frontier).waiting,
      program.Waits waiting := by
  fun_induction explore program around position fuel thread frontier with
  | case1 | case2 | case3 | case7 => exact waits
  | case4 fuel address marks entered waiting _ _ chars instr =>
      exact List.forall_mem_cons.mpr ⟨Or.inl ⟨chars, instr⟩, waits⟩
  | case5 fuel address marks entered waiting _ _ instr =>
      exact List.forall_mem_cons.mpr ⟨Or.inr instr, waits⟩
  | case6 _ _ _ _ _ _ _ _ _ _ ih => exact ih waits
  | case8 _ _ _ _ _ _ _ _ _ _ ihPreferred ihOther => exact ihOther (ihPreferred waits)
  | case9 _ _ _ _ _ _ _ _ _ ih => exact ih waits
  | case10 _ _ _ _ _ _ _ _ _ ih => exact ih waits

theorem frontier_waits (program : Program) (around : Surroundings) (position : Nat)
    (arrivals : List Thread) :
    ∀ waiting ∈ program.frontier around position arrivals, program.Waits waiting := by
  have folded : ∀ frontier : Frontier, (∀ waiting ∈ frontier.waiting, program.Waits waiting) →
      ∀ waiting ∈ (arrivals.foldl (fun frontier thread =>
        program.explore around position (program.code.size + 1) thread frontier)
          frontier).waiting, program.Waits waiting := by
    induction arrivals with
    | nil => exact fun _ waits => waits
    | cons thread arrivals ih => exact fun _ waits => ih _ (explore_waits waits)
  intro waiting mem
  exact folded _ (by simp) waiting (List.mem_reverse.mp mem)

theorem findSome?_untilAccept (threads : List Thread) :
    threads.findSome? (program.threadOutcome following reading) =
      ((program.untilAccept threads).1.findSome? (program.threadOutcome following reading)).or
        ((program.untilAccept threads).2.map fun thread =>
          matchAt reading.position thread.marks) := by
  induction threads with
  | nil => rfl
  | cons thread threads ih =>
      rw [untilAccept]
      split
      · rename_i accepts
        rw [List.findSome?_cons, threadOutcome, outcome_accept accepts]
        rfl
      · rw [List.findSome?_cons, List.findSome?_cons, ih]
        cases program.threadOutcome following reading thread <;> rfl

theorem mem_untilAccept {threads : List Thread} {live : Thread}
    (mem : live ∈ (program.untilAccept threads).1) :
    live ∈ threads ∧ program.code[live.address]? ≠ some .accept := by
  induction threads with
  | nil => cases mem
  | cons thread threads ih =>
      rw [untilAccept] at mem
      split at mem
      · cases mem
      · rename_i goes
        rcases List.mem_cons.mp mem with rfl | mem
        · exact ⟨List.mem_cons_self, goes⟩
        · exact ⟨List.mem_cons_of_mem _ (ih mem).1, (ih mem).2⟩

/-- The threads before the first accepting one wait for a character. -/
theorem untilAccept_consumes {threads : List Thread}
    (waits : ∀ thread ∈ threads, program.Waits thread) :
    ∀ live ∈ (program.untilAccept threads).1,
      ∃ chars, program.code[live.address]? = some (.consume chars) := by
  intro live mem
  rcases mem_untilAccept mem with ⟨mem, goes⟩
  rcases waits live mem with consumes | accepts
  · exact consumes
  · exact absurd accepts goes

/-- At the end of the text nothing is found from threads that wait for a character. -/
theorem findSome?_ended (following : Option Char) (reading : Reading)
    (ended : reading.rest = []) {threads : List Thread}
    (consumes : ∀ thread ∈ threads,
      ∃ chars, program.code[thread.address]? = some (.consume chars)) :
    threads.findSome? (program.threadOutcome following reading) = none := by
  rw [List.findSome?_eq_none_iff]
  intro thread mem
  rcases consumes thread mem with ⟨chars, instr⟩
  exact outcome_consume_nil instr ended

/-- What is found from threads that wait for a character is found after it. -/
theorem findSome?_advance (following : Option Char) (reading : Reading) {char : Char}
    {rest : List Char} (remains : reading.rest = char :: rest) {threads : List Thread}
    (consumes : ∀ thread ∈ threads,
      ∃ chars, program.code[thread.address]? = some (.consume chars)) :
    (program.advance char threads).findSome?
        (program.threadOutcome following (reading.past char rest)) =
      threads.findSome? (program.threadOutcome following reading) := by
  induction threads with
  | nil => rfl
  | cons thread threads ih =>
      rw [List.forall_mem_cons] at consumes
      rcases consumes.1 with ⟨chars, instr⟩
      have here : program.threadOutcome following reading thread =
          if chars.contains char then
            program.threadOutcome following (reading.past char rest)
              { thread with address := thread.address + 1 }
          else none := outcome_consume_cons instr remains
      have later := ih consumes.2
      rw [advance] at later ⊢
      rw [List.findSome?_cons, here, ← later, List.filterMap_cons, instr]
      by_cases inside : chars.contains char = true
      · simp only [if_pos inside, List.findSome?_cons]
      · simp only [if_neg inside]

/-- What is found from the threads that arrive is found from those that wait for a character or, if
nothing is, from the first one that accepts. -/
theorem findSome?_arrivals (settles : program.Settles) (arrivals : List Thread) :
    arrivals.findSome? (program.threadOutcome following reading) =
      ((program.untilAccept (program.frontier (reading.around following) reading.position
          arrivals)).1.findSome? (program.threadOutcome following reading)).or
        ((program.untilAccept (program.frontier (reading.around following) reading.position
          arrivals)).2.map fun thread => matchAt reading.position thread.marks) := by
  rw [← findSome?_frontier settles, findSome?_untilAccept]

/-- Running threads over a text finds what trial and error finds from the first of them that leads
to a match. -/
theorem run_eq (settles : program.Settles) (reading : Reading) (arrivals : List Thread)
    (best : Option Match) :
    program.run following reading.previous reading.rest reading.position arrivals best =
      (arrivals.findSome? (program.threadOutcome following reading)).or best := by
  rcases reading with ⟨previous, rest, position, marks⟩
  induction rest generalizing previous position arrivals best with
  | nil =>
      have consumes := untilAccept_consumes
        (frontier_waits program ⟨previous, following⟩ position arrivals)
      have none := findSome?_ended following ⟨previous, [], position, marks⟩ rfl consumes
      rw [findSome?_arrivals settles, run]
      exact congrArg (fun found => Option.or (Option.or found _) best) none.symm
  | cons char rest ih =>
      have consumes := untilAccept_consumes
        (frontier_waits program ⟨previous, some char⟩ position arrivals)
      have later := findSome?_advance following ⟨previous, char :: rest, position, marks⟩ rfl
        consumes
      rw [findSome?_arrivals settles, run, Option.or_assoc]
      refine Eq.trans ?_ (congrArg (fun found => Option.or found _) later)
      simp only [List.head?_cons]
      split
      · rename_i ended
        exact congrArg
          (fun threads => Option.or
            (threads.findSome? (program.threadOutcome following
              ⟨some char, rest, position + 1, marks⟩)) _) ended.symm
      · exact ih _ _ _ _

/-- A program that settles matches what trial and error finds first. -/
theorem match?_eq_outcome (settles : program.Settles) (previous : Option Char)
    (text : List Char) :
    program.match? previous text following =
      program.outcome following ⟨previous, text, 0, {}⟩ 0 := by
  rw [match?, run_eq settles ⟨previous, text, 0, {}⟩, Option.or_none, List.findSome?_cons,
    List.findSome?_nil, threadOutcome]
  cases program.outcome following ⟨previous, text, 0, {}⟩ 0 <;> rfl

end Program

end RuleLexer.Regex
