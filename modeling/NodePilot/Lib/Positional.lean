import Mathlib.Algebra.Group.Nat.Defs

/-!
# Positional notation

The digits of a number to a base, most significant first, as many as one asks for, and the number that Horner's rule
makes of digits.
-/

namespace NodePilot.Lib

variable {b k n d : Nat} {ds : List Nat}

/-- The last `k` digits of a number. -/
def positions (b : Nat) : Nat → Nat → List Nat
  | 0, _ => []
  | k + 1, n => positions b k (n / b) ++ [n % b]

/-- The number of digits. -/
def horner (b : Nat) (ds : List Nat) : Nat := ds.foldl (fun n d => b * n + d) 0

@[simp]
theorem length_positions : (positions b k n).length = k := by
  induction k generalizing n with
  | zero => rfl
  | succ k ih => rw [positions, List.length_append, ih, List.length_singleton]

theorem lt_of_mem_positions (base : 0 < b) (h : d ∈ positions b k n) : d < b := by
  induction k generalizing n with
  | zero => cases h
  | succ k ih =>
    rcases List.mem_append.mp h with before | last
    · exact ih before
    · rw [List.mem_singleton.mp last]
      exact Nat.mod_lt n base

theorem horner_append_singleton : horner b (ds ++ [d]) = b * horner b ds + d := by
  rw [horner, List.foldl_append]
  rfl

/-- The digits of a number give the number back, up to those that were not asked for. -/
theorem horner_positions : horner b (positions b k n) = n % b ^ k := by
  induction k generalizing n with
  | zero => rw [pow_zero, Nat.mod_one, positions, horner, List.foldl_nil]
  | succ k ih => rw [positions, horner_append_singleton, ih, pow_succ', Nat.mod_mul, Nat.add_comm]

end NodePilot.Lib
