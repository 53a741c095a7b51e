import Mathlib.Data.List.Perm.Subperm
import RuleLexer.Proofs.Regex.Threads

/-!
# The order in which addresses are entered

Between two characters a program is explored depth first: after an address come the addresses that
follow it, the preferred first, and none is entered twice. This is said here as a relation on the
addresses left to try and those entered, without fuel, marks and threads. Which addresses are
entered does not depend on the order; which of them comes first does.
-/

namespace RuleLexer.Regex

theorem Frontier.entered_enter_iff {frontier : Frontier} {address other : Nat} :
    (frontier.enter address).Entered other ↔ other = address ∨ frontier.Entered other := by
  refine ⟨Frontier.entered_enter, ?_⟩
  simp only [Entered, enter, Array.getD_eq_getD_getElem?, Array.getElem?_setIfInBounds]
  rintro (rfl | entered)
  · by_cases inside : other < frontier.entered.size
    · simp [inside]
    · simp [inside]
  · split
    · split <;> rfl
    · exact entered

namespace Program

/-- The addresses that follow an address without a character being taken, the preferred first. -/
def successors (program : Program) (around : Surroundings) (address : Nat) : List Nat :=
  match program.code[address]? with
  | some (.require assertion) => if assertion.holds around then [address + 1] else []
  | some (.split preferred other) => [preferred, other]
  | some (.jump target) => [target]
  | some (.record _) => [address + 1]
  | _ => []

/-- Whether a thread waits at the address. -/
def waitsAt (program : Program) (address : Nat) : Bool :=
  match program.code[address]? with
  | some (.consume _) | some .accept => true
  | _ => false

/-- Trying addresses in order, and what follows each one before the next, leads from the entered
addresses `seen` to those in the last list. Both lists have the last address first. -/
inductive Visits (program : Program) (around : Surroundings) :
    List Nat → List Nat → List Nat → Prop
  | done {seen : List Nat} : Visits program around [] seen seen
  | skip {address : Nat} {others seen after : List Nat}
      (known : address ∈ seen ∨ program.code.size ≤ address)
      (later : Visits program around others seen after) :
      Visits program around (address :: others) seen after
  | enter {address : Nat} {others seen after : List Nat} (fresh : address ∉ seen)
      (inside : address < program.code.size)
      (later : Visits program around (program.successors around address ++ others)
        (address :: seen) after) :
      Visits program around (address :: others) seen after

variable {program : Program} {around : Surroundings} {address : Nat} {instr : Instr}
  {one two seen middle after : List Nat}

namespace Visits

theorem append (first : program.Visits around one seen middle)
    (second : program.Visits around two middle after) :
    program.Visits around (one ++ two) seen after := by
  induction first with
  | done => exact second
  | skip known _ ih => exact skip known (ih second)
  | enter fresh inside _ ih =>
      rw [List.cons_append]
      apply enter fresh inside
      rw [← List.append_assoc]
      exact ih second

theorem divide (visits : program.Visits around (one ++ two) seen after) :
    ∃ middle, program.Visits around one seen middle ∧
      program.Visits around two middle after := by
  generalize whole : one ++ two = all at visits
  induction visits generalizing one with
  | done =>
      rcases List.append_eq_nil_iff.mp whole with ⟨rfl, rfl⟩
      exact ⟨_, done, done⟩
  | skip known later ih =>
      rcases List.append_eq_cons_iff.mp whole with ⟨rfl, rfl⟩ | ⟨one, rfl, rfl⟩
      · exact ⟨_, done, skip known later⟩
      · rcases ih rfl with ⟨middle, first, second⟩
        exact ⟨middle, skip known first, second⟩
  | enter fresh inside later ih =>
      rcases List.append_eq_cons_iff.mp whole with ⟨rfl, rfl⟩ | ⟨one, rfl, rfl⟩
      · exact ⟨_, done, enter fresh inside later⟩
      · rcases ih (List.append_assoc _ _ _) with ⟨middle, first, second⟩
        exact ⟨middle, enter fresh inside first, second⟩

theorem subset (visits : program.Visits around one seen after) : seen ⊆ after := by
  induction visits with
  | done => exact List.Subset.refl _
  | skip _ _ ih => exact ih
  | enter _ _ _ ih => exact fun address mem => ih (List.mem_cons_of_mem _ mem)

theorem length_le (visits : program.Visits around one seen after) :
    seen.length ≤ after.length := by
  induction visits with
  | done => exact Nat.le_refl _
  | skip _ _ ih => exact ih
  | enter _ _ _ ih => exact Nat.le_of_succ_le ih

theorem eq_of_known (visits : program.Visits around [address] seen after)
    (known : address ∈ seen) : after = seen := by
  cases visits with
  | skip _ later =>
      cases later
      rfl
  | enter fresh => exact absurd known fresh

theorem of_fresh (visits : program.Visits around [address] seen after)
    (here : program.code[address]? = some instr) (fresh : address ∉ seen) :
    program.Visits around (program.successors around address) (address :: seen) after := by
  cases visits with
  | skip known =>
      have inside := (Array.getElem?_eq_some_iff.mp here).1
      rcases known with known | outside
      · exact absurd known fresh
      · omega
  | enter _ _ later => rwa [List.append_nil] at later

theorem single (fresh : address ∉ seen) (here : program.code[address]? = some instr)
    (later : program.Visits around (program.successors around address) (address :: seen) after) :
    program.Visits around [address] seen after := by
  apply enter fresh (Array.getElem?_eq_some_iff.mp here).1
  rwa [List.append_nil]

end Visits

/-- The frontier has the given addresses entered, and threads wait at those that wait. -/
structure Shows (program : Program) (frontier : Frontier) (seen : List Nat) : Prop where
  entered : ∀ address, frontier.Entered address ↔
    address ∈ seen ∨ program.code.size ≤ address
  waiting : frontier.waiting.map Thread.address = seen.filter program.waitsAt
  nodup : seen.Nodup
  inside : ∀ address ∈ seen, address < program.code.size

namespace Shows

variable {frontier : Frontier} {fuel position : Nat} {thread : Thread}

theorem length_le (shows : program.Shows frontier seen) : seen.length ≤ program.code.size := by
  have among : seen ⊆ List.range program.code.size :=
    fun address mem => List.mem_range.mpr (shows.inside address mem)
  have shorter := (shows.nodup.subperm among).length_le
  rwa [List.length_range] at shorter

/-- The frontier after an address is entered and perhaps a thread waits there. -/
theorem enter (shows : program.Shows frontier seen) (fresh : address ∉ seen)
    (here : program.code[address]? = some instr) (waiting : List Thread)
    (waits : waiting.map Thread.address = (address :: seen).filter program.waitsAt) :
    program.Shows ⟨frontier.entered.setIfInBounds address true, waiting⟩ (address :: seen) where
  entered := by
    intro other
    rw [List.mem_cons, or_assoc, ← shows.entered other]
    exact Frontier.entered_enter_iff
  waiting := waits
  nodup := List.nodup_cons.mpr ⟨fresh, shows.nodup⟩
  inside := List.forall_mem_cons.mpr ⟨(Array.getElem?_eq_some_iff.mp here).1, shows.inside⟩

theorem pass (shows : program.Shows frontier seen) (fresh : address ∉ seen)
    (here : program.code[address]? = some instr) (passes : program.waitsAt address = false) :
    program.Shows (frontier.enter address) (address :: seen) := by
  apply shows.enter fresh here
  rw [List.filter_cons, passes, shows.waiting]
  rfl

theorem wait (shows : program.Shows frontier seen) {marks : Marks} (fresh : address ∉ seen)
    (here : program.code[address]? = some instr) (waits : program.waitsAt address = true) :
    program.Shows ⟨frontier.entered.setIfInBounds address true,
      ⟨address, marks⟩ :: frontier.waiting⟩ (address :: seen) := by
  apply shows.enter fresh here
  rw [List.map_cons, shows.waiting, List.filter_cons, if_pos waits]

/-- With enough fuel an exploration enters the addresses in the order of visits. -/
theorem explore (shows : program.Shows frontier seen) (around : Surroundings) (position : Nat)
    (thread : Thread)
    (enough : program.code.size + 1 ≤ fuel + seen.length) :
    ∃ after, program.Visits around [thread.address] seen after ∧
      program.Shows (program.explore around position fuel thread frontier) after := by
  induction fuel generalizing thread frontier seen with
  | zero =>
      have := shows.length_le
      omega
  | succ fuel ih =>
      rcases thread with ⟨address, marks⟩
      rw [Program.explore]
      have known := shows.entered address
      by_cases already : frontier.Entered address
      · rw [if_pos (show frontier.entered.getD address true = true from already)]
        exact ⟨seen, Visits.skip (known.mp already) Visits.done, shows⟩
      rw [if_neg (show ¬ frontier.entered.getD address true = true from already)]
      rw [known, not_or, Nat.not_le] at already
      rcases already with ⟨fresh, inside⟩
      have enough : program.code.size + 1 ≤ fuel + (address :: seen).length := by
        rw [List.length_cons]
        omega
      obtain ⟨instr, here⟩ : ∃ instr, program.code[address]? = some instr :=
        ⟨_, Array.getElem?_eq_some_iff.mpr ⟨inside, rfl⟩⟩
      have visits := fun after => @Visits.single program around address instr seen after fresh here
      simp only [successors, here] at visits ⊢
      cases instr with
      | accept =>
          have waits : program.waitsAt address = true := by rw [waitsAt, here]
          exact ⟨address :: seen, visits _ Visits.done, shows.wait fresh here waits⟩
      | consume chars =>
          have waits : program.waitsAt address = true := by rw [waitsAt, here]
          exact ⟨address :: seen, visits _ Visits.done, shows.wait fresh here waits⟩
      | require assertion =>
          have shows := shows.pass fresh here (by rw [waitsAt, here])
          by_cases holds : assertion.holds around = true
          · simp only [if_pos holds] at visits ⊢
            rcases ih shows ⟨address + 1, marks⟩ enough with ⟨after, later, shows⟩
            exact ⟨after, visits after later, shows⟩
          · simp only [if_neg holds] at visits ⊢
            exact ⟨address :: seen, visits _ Visits.done, shows⟩
      | split preferred other =>
          have shows := shows.pass fresh here (by rw [waitsAt, here])
          rcases ih shows ⟨preferred, marks⟩ enough with ⟨middle, one, shows⟩
          have longer := one.length_le
          rcases ih shows ⟨other, marks⟩ (by omega) with ⟨after, two, shows⟩
          exact ⟨after, visits after (one.append two), shows⟩
      | jump target =>
          have shows := shows.pass fresh here (by rw [waitsAt, here])
          rcases ih shows ⟨target, marks⟩ enough with ⟨after, later, shows⟩
          exact ⟨after, visits after later, shows⟩
      | record edge =>
          have shows := shows.pass fresh here (by rw [waitsAt, here])
          rcases ih shows ⟨address + 1, marks.record position edge⟩ enough with
            ⟨after, later, shows⟩
          exact ⟨after, visits after later, shows⟩

end Shows

/-- The threads that wait when the given ones arrive stand in the order of visits. -/
theorem frontier_visits (program : Program) (around : Surroundings) (position : Nat)
    (arrivals : List Thread) :
    ∃ after, program.Visits around (arrivals.map Thread.address) [] after ∧
      (program.frontier around position arrivals).map Thread.address =
        after.reverse.filter program.waitsAt := by
  have folded : ∀ frontier seen, program.Shows frontier seen →
      ∃ after, program.Visits around (arrivals.map Thread.address) seen after ∧
        program.Shows (arrivals.foldl (fun frontier thread =>
          program.explore around position (program.code.size + 1) thread frontier) frontier)
          after := by
    induction arrivals with
    | nil => exact fun frontier seen shows => ⟨seen, Visits.done, shows⟩
    | cons thread arrivals ih =>
        intro frontier seen shows
        rcases shows.explore around position thread (Nat.le_add_right _ _) with
          ⟨middle, one, shows⟩
        rcases ih _ middle shows with ⟨after, others, shows⟩
        exact ⟨after, one.append others, shows⟩
  have fresh : program.Shows ⟨Array.replicate program.code.size false, []⟩ [] := by
    refine ⟨fun address => ?_, rfl, List.nodup_nil, by simp⟩
    by_cases inside : address < program.code.size
    · simp [Frontier.Entered, Array.getD_eq_getD_getElem?, inside]
    · simp [Frontier.Entered, Array.getD_eq_getD_getElem?, inside, Nat.le_of_not_lt inside]
  rcases folded _ _ fresh with ⟨after, visits, shows⟩
  refine ⟨after, visits, ?_⟩
  rw [frontier, List.map_reverse, shows.waiting, List.filter_reverse]

/-- Acceptance is so many instructions away, if no character is taken. -/
def AcceptsIn (program : Program) (around : Surroundings) : Nat → Nat → Prop
  | 0, address => program.code[address]? = some .accept
  | steps + 1, address =>
    ∃ next ∈ program.successors around address, program.AcceptsIn around steps next

/-- Acceptance can be reached without taking a character. -/
def Accepts (program : Program) (around : Surroundings) (address : Nat) : Prop :=
  ∃ steps, program.AcceptsIn around steps address

theorem inside_of_acceptsIn {steps : Nat} (accepts : program.AcceptsIn around steps address) :
    address < program.code.size := by
  by_contra outside
  have absent : program.code[address]? = none :=
    Array.getElem?_eq_none (Nat.le_of_not_lt outside)
  cases steps with
  | zero => simp [AcceptsIn, absent] at accepts
  | succ steps => simp [AcceptsIn, successors, absent] at accepts

namespace Visits

theorem accepts_of_mem (visits : program.Visits around one seen after)
    (mem : address ∈ after) (accepting : program.code[address]? = some .accept) :
    address ∈ seen ∨ ∃ start ∈ one, program.Accepts around start := by
  induction visits with
  | done => exact Or.inl mem
  | skip _ _ ih =>
      rcases ih mem with earlier | ⟨start, start_mem, accepts⟩
      · exact Or.inl earlier
      · exact Or.inr ⟨start, List.mem_cons_of_mem _ start_mem, accepts⟩
  | @enter entered others _ _ _ _ _ ih =>
      rcases ih mem with earlier | ⟨start, start_mem, steps, accepts⟩
      · rcases List.mem_cons.mp earlier with rfl | earlier
        · exact Or.inr ⟨address, List.mem_cons_self, 0, accepting⟩
        · exact Or.inl earlier
      · right
        rcases List.mem_append.mp start_mem with next | later
        · exact ⟨entered, List.mem_cons_self, steps + 1, start, next, accepts⟩
        · exact ⟨start, List.mem_cons_of_mem _ later, steps, accepts⟩

/-- What is left to try and has an instruction is entered in the end. -/
theorem mem_of_mem (visits : program.Visits around one seen after) (mem : address ∈ one)
    (inside : address < program.code.size) : address ∈ after := by
  induction visits with
  | done => cases mem
  | skip known later ih =>
      rcases List.mem_cons.mp mem with rfl | mem
      · rcases known with known | outside
        · exact later.subset known
        · omega
      · exact ih mem
  | enter _ _ later ih =>
      rcases List.mem_cons.mp mem with rfl | mem
      · exact later.subset List.mem_cons_self
      · exact ih (List.mem_append_right _ mem)

/-- If what follows an entered address is entered or left to try, it is all entered in the end. -/
theorem closed (visits : program.Visits around one seen after)
    (pending : ∀ address ∈ seen, ∀ next ∈ program.successors around address,
      next < program.code.size → next ∈ seen ∨ next ∈ one) :
    ∀ address ∈ after, ∀ next ∈ program.successors around address,
      next < program.code.size → next ∈ after := by
  induction visits with
  | done =>
      intro address mem next next_mem inside
      rcases pending address mem next next_mem inside with entered | left
      · exact entered
      · cases left
  | skip known _ ih =>
      apply ih
      intro address mem next next_mem inside
      rcases pending address mem next next_mem inside with entered | left
      · exact Or.inl entered
      · rcases List.mem_cons.mp left with rfl | left
        · rcases known with known | outside
          · exact Or.inl known
          · omega
        · exact Or.inr left
  | enter _ _ _ ih =>
      apply ih
      intro address mem next next_mem inside
      rcases List.mem_cons.mp mem with rfl | mem
      · exact Or.inr (List.mem_append_left _ next_mem)
      rcases pending address mem next next_mem inside with entered | left
      · exact Or.inl (List.mem_cons_of_mem _ entered)
      · rcases List.mem_cons.mp left with rfl | left
        · exact Or.inl List.mem_cons_self
        · exact Or.inr (List.mem_append_right _ left)

/-- An accepting address is entered exactly if acceptance can be reached from one that is tried. -/
theorem exists_accept_iff (visits : program.Visits around one [] after) :
    (∃ address ∈ after, program.code[address]? = some .accept) ↔
      ∃ start ∈ one, program.Accepts around start := by
  constructor
  · rintro ⟨address, mem, accepting⟩
    rcases visits.accepts_of_mem mem accepting with none | some
    · cases none
    · exact some
  · rintro ⟨start, mem, steps, accepts⟩
    have closed := visits.closed (by simp)
    have entered := visits.mem_of_mem mem (inside_of_acceptsIn accepts)
    clear mem
    induction steps generalizing start with
    | zero => exact ⟨start, entered, accepts⟩
    | succ steps ih =>
        rcases accepts with ⟨next, next_mem, accepts⟩
        exact ih next accepts (closed start entered next next_mem (inside_of_acceptsIn accepts))

/-- From inside a part that is left only for its exit, nothing outside is entered before that. -/
theorem mem_of_avoids {inner : Nat → Prop} {exit : Nat}
    (stays : ∀ address, inner address → ∀ next ∈ program.successors around address,
      inner next ∨ next = exit)
    (visits : program.Visits around one seen after)
    (starts : ∀ start ∈ one, inner start ∨ start = exit)
    (avoids : exit ∉ after) : ∀ address ∈ after, address ∈ seen ∨ inner address := by
  induction visits with
  | done => exact fun address mem => Or.inl mem
  | skip _ _ ih => exact ih (List.forall_mem_cons.mp starts).2 avoids
  | @enter entered others _ _ _ _ later ih =>
      rw [List.forall_mem_cons] at starts
      have within : inner entered := by
        rcases starts.1 with within | rfl
        · exact within
        · exact absurd (later.subset List.mem_cons_self) avoids
      intro address mem
      have starts : ∀ start ∈ program.successors around entered ++ others,
          inner start ∨ start = exit :=
        List.forall_mem_append.mpr ⟨stays entered within, starts.2⟩
      rcases ih starts avoids address mem with earlier | inside
      · rcases List.mem_cons.mp earlier with rfl | earlier
        · exact Or.inr within
        · exact Or.inl earlier
      · exact Or.inr inside

end Visits

/-- A waiting thread accepts exactly if acceptance can be reached from one that arrives. -/
theorem exists_accept_frontier_iff (position : Nat) (arrivals : List Thread) :
    (∃ thread ∈ program.frontier around position arrivals,
        program.code[thread.address]? = some .accept) ↔
      ∃ arrival ∈ arrivals, program.Accepts around arrival.address := by
  rcases frontier_visits program around position arrivals with ⟨after, visits, waiting⟩
  have accepting := visits.exists_accept_iff
  simp only [List.mem_map, exists_exists_and_eq_and] at accepting
  rw [← accepting]
  constructor
  · rintro ⟨thread, mem, accepts⟩
    have entered : thread.address ∈ after.reverse.filter program.waitsAt := by
      rw [← waiting]
      exact List.mem_map_of_mem mem
    rw [List.mem_filter, List.mem_reverse] at entered
    exact ⟨thread.address, entered.1, accepts⟩
  · rintro ⟨address, mem, accepts⟩
    have mem : address ∈ after.reverse.filter program.waitsAt := by
      rw [List.mem_filter, List.mem_reverse]
      exact ⟨mem, by rw [waitsAt, accepts]⟩
    rw [← waiting] at mem
    rcases List.mem_map.mp mem with ⟨thread, waits, rfl⟩
    exact ⟨thread, waits, accepts⟩

/-- Whether acceptance can be reached without taking a character, found by exploring. -/
def acceptsAt (program : Program) (around : Surroundings) (address : Nat) : Bool :=
  (program.frontier around 0 [⟨address, {}⟩]).any fun thread =>
    decide (program.code[thread.address]? = some .accept)

theorem acceptsAt_iff :
    program.acceptsAt around address = true ↔ program.Accepts around address := by
  simp only [acceptsAt, List.any_eq_true, decide_eq_true_eq, exists_accept_frontier_iff,
    List.mem_singleton, exists_eq_left]

end Program

end RuleLexer.Regex
