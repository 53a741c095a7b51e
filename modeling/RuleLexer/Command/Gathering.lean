/-!
# Gathering what workers give

Workers that run side by side each give a result or a failure. If all of them succeed, their results
are gathered in the order of the workers. Otherwise the failure of one worker is the failure of the
whole; which one it is depends on the order in which the workers finish.
-/

namespace RuleLexer

/-- A way to gather what workers give. -/
structure Gathering (ε α : Type) where
  gather : List (Except ε α) → Except ε (List α)
  /-- The results are gathered, in order, exactly if all workers succeed. -/
  gather_eq_ok_iff : ∀ outcomes results,
    gather outcomes = .ok results ↔ outcomes = results.map .ok
  /-- The failure of the whole is the failure of a worker. -/
  mem_of_gather_eq_error : ∀ outcomes failure,
    gather outcomes = .error failure → .error failure ∈ outcomes

namespace Gathering

variable {ε α : Type} {outcomes : List (Except ε α)} {failure : ε}

/-- The first failure among some outcomes. -/
def firstFailure? : List (Except ε α) → Option ε
  | [] => none
  | .error failure :: _ => some failure
  | .ok _ :: outcomes => firstFailure? outcomes

theorem firstFailure?_eq_none_iff :
    firstFailure? outcomes = none ↔ ∀ failure, .error failure ∉ outcomes := by
  induction outcomes with
  | nil => simp [firstFailure?]
  | cons outcome outcomes ih =>
    cases outcome with
    | error failure =>
      simp only [firstFailure?, reduceCtorEq, false_iff]
      exact fun none => none failure List.mem_cons_self
    | ok result => simp [firstFailure?, ih]

theorem mem_of_firstFailure? (first : firstFailure? outcomes = some failure) :
    .error failure ∈ outcomes := by
  induction outcomes with
  | nil => cases first
  | cons outcome outcomes ih =>
    cases outcome with
    | error other =>
      cases first
      exact List.mem_cons_self
    | ok result => exact List.mem_cons_of_mem _ (ih first)

theorem map_ok_filterMap (none : ∀ failure, .error failure ∉ outcomes) :
    (outcomes.filterMap Except.toOption).map .ok = outcomes := by
  induction outcomes with
  | nil => rfl
  | cons outcome outcomes ih =>
    cases outcome with
    | error failure => exact absurd List.mem_cons_self (none failure)
    | ok result =>
      have later := ih fun failure mem => none failure (List.mem_cons_of_mem _ mem)
      simp [Except.toOption, later]

/-- The way to gather in which workers finish in the given order, which is a rearrangement of their
outcomes. The failure that comes first is that of the whole. -/
def ofArrival (arrange : List (Except ε α) → List (Except ε α))
    (rearranges : ∀ outcomes, (arrange outcomes).Perm outcomes) : Gathering ε α where
  gather outcomes :=
    match firstFailure? (arrange outcomes) with
    | some failure => .error failure
    | none => .ok (outcomes.filterMap Except.toOption)
  gather_eq_ok_iff outcomes results := by
    have same : ∀ failure, .error failure ∈ arrange outcomes ↔ .error failure ∈ outcomes :=
      fun failure => (rearranges outcomes).mem_iff
    constructor
    · intro succeeds
      split at succeeds
      · cases succeeds
      · rename_i none
        cases succeeds
        symm
        apply map_ok_filterMap
        intro failure mem
        exact firstFailure?_eq_none_iff.mp none failure ((same failure).mpr mem)
    · rintro rfl
      have none : firstFailure? (arrange (results.map .ok)) = none := by
        rw [firstFailure?_eq_none_iff]
        intro failure mem
        simpa using (same failure).mp mem
      simp [none, List.filterMap_map, Function.comp_def, Except.toOption]
  mem_of_gather_eq_error outcomes failure fails := by
    split at fails
    · rename_i first
      cases fails
      exact (rearranges outcomes).mem_iff.mp (mem_of_firstFailure? first)
    · cases fails

/-- The way to gather in which workers finish one after the other. -/
def inOrder : Gathering ε α :=
  ofArrival id fun outcomes => List.Perm.refl outcomes

/-- A failure is that of the whole if all workers that fail have the same one. -/
theorem gather_eq_error (gathering : Gathering ε α) (mem : .error failure ∈ outcomes)
    (same : ∀ other, .error other ∈ outcomes → other = failure) :
    gathering.gather outcomes = .error failure := by
  cases gathered : gathering.gather outcomes with
  | error other => rw [same other (gathering.mem_of_gather_eq_error outcomes other gathered)]
  | ok results =>
    rw [(gathering.gather_eq_ok_iff outcomes results).mp gathered] at mem
    simp at mem

end Gathering

end RuleLexer
