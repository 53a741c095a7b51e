import RuleLexer.Definition
import RuleLexer.Proofs.OrderedMap

/-!
# Definitions that agree

Definitions that agree have the same general part, and the states of one are a rearrangement of
those of the other.
-/

namespace RuleLexer.Definition

variable {first second : Definition}

theorem agrees_iff : first.agrees second = true ↔
    first.header = second.header ∧ first.states.entries.Perm second.states.entries := by
  rw [agrees, Bool.and_eq_true, beq_iff_eq, OrderedMap.sameEntries_iff]

theorem agrees_symm (same : first.agrees second = true) : second.agrees first = true := by
  rw [agrees_iff] at same ⊢
  exact ⟨same.1.symm, same.2.symm⟩

theorem size_eq_of_agrees (same : first.agrees second = true) :
    first.states.size = second.states.size :=
  (agrees_iff.mp same).2.length_eq

theorem mem_keys_of_agrees (same : first.agrees second = true) (name : String)
    (mem : name ∈ first.states.keys) : name ∈ second.states.keys :=
  ((agrees_iff.mp same).2.map Prod.fst).mem_iff.mp mem

end RuleLexer.Definition
