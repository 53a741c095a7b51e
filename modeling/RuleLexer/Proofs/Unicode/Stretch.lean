import Mathlib.Data.List.Basic
import RuleLexer.Unicode.Property

/-!
# The code points of a table

A table lists its code points in stretches. What has been checked for all code points of a short
table holds of every character in it.
-/

namespace RuleLexer.Unicode

variable {code : Nat} {char : Char}

/-- The code points of a stretch. -/
def Stretch.codes (stretch : Stretch) : List Nat :=
  List.range' stretch.first ((stretch.last - stretch.first) / stretch.step + 1) stretch.step

theorem Stretch.mem_codes {stretch : Stretch} (inside : stretch.contains code = true) :
    code ∈ stretch.codes := by
  simp only [contains, Bool.and_eq_true, decide_eq_true_eq, beq_iff_eq] at inside
  rcases inside with ⟨⟨first_le, le_last⟩, multiple⟩
  apply List.mem_range'.mpr
  refine ⟨(code - stretch.first) / stretch.step, ?_, ?_⟩
  · apply Nat.lt_succ_of_le
    apply Nat.div_le_div_right
    omega
  · rw [Nat.mul_div_cancel' (Nat.dvd_of_mod_eq_zero multiple)]
    omega

namespace Table

/-- The code points of a table. -/
def codes (table : Table) : List Nat := table.flatMap Stretch.codes

theorem mem_codes {table : Table} (inside : table.containsCode code = true) : code ∈ table.codes := by
  induction table with
  | nil => cases inside
  | cons stretch table ih =>
      rw [containsCode] at inside
      simp only [codes, List.flatMap_cons, List.mem_append]
      split at inside
      · cases inside
      · split at inside
        · rename_i here
          left
          exact Stretch.mem_codes here
        · right
          exact ih inside

/-- What holds of all code points of a table holds of every character in it. -/
theorem forall_of_codes {table : Table} {motive : Char → Prop}
    (codes : ∀ code ∈ table.codes, motive (Char.ofNat code)) (inside : table.contains char = true) :
    motive char := by
  have holds := codes char.toNat (mem_codes inside)
  rwa [Char.ofNat_toNat] at holds

end Table

end RuleLexer.Unicode
