import Mathlib.Algebra.Order.BigOperators.Group.List
import Mathlib.Algebra.Order.Ring.Nat

/-!
# Tallies

What rows add up to, for each of the keys that they hang off.
-/

namespace NodePilot.Lib

variable {β : Type} {key weight : β → Nat} {bs bs' : List β} {k : Nat}

/-- The weights of the rows that hang off `k`. -/
def tally (key weight : β → Nat) (bs : List β) (k : Nat) : Nat :=
  ((bs.filter (key · = k)).map weight).sum

theorem tally_cons {b : β} :
    tally key weight (b :: bs) k = (if key b = k then weight b else 0) + tally key weight bs k := by
  by_cases h : key b = k <;> simp [tally, h]

theorem tally_append :
    tally key weight (bs ++ bs') k = tally key weight bs k + tally key weight bs' k := by
  simp [tally]

theorem tally_eq_zero (h : ∀ b ∈ bs, key b ≠ k) : tally key weight bs k = 0 := by
  have none : bs.filter (key · = k) = [] := by simpa using h
  simp [tally, none]

theorem tally_le_of_sublist (h : bs.Sublist bs') :
    tally key weight bs k ≤ tally key weight bs' k :=
  ((h.filter _).map _).sum_le_sum fun _ _ => Nat.zero_le _

/-- Over different keys, a row is counted once at most. -/
theorem sum_once_le {ks : List Nat} (nodup : ks.Nodup) (k w : Nat) :
    (ks.map fun k' => if k = k' then w else 0).sum ≤ w := by
  induction ks with
  | nil => simp
  | cons k' ks ih =>
    rw [List.nodup_cons] at nodup
    rw [List.map_cons, List.sum_cons]
    by_cases same : k = k'
    · subst same
      have rest : (ks.map fun k' => if k = k' then w else 0).sum = 0 := by
        refine List.sum_eq_zero fun n hn => ?_
        obtain ⟨k', hk', rfl⟩ := List.mem_map.mp hn
        exact if_neg (by rintro rfl; exact nodup.1 hk')
      rw [rest, if_pos rfl]
      exact Nat.le_refl w
    · rw [if_neg same, Nat.zero_add]
      exact ih nodup.2

theorem sum_tally_le (key weight : β → Nat) (bs : List β) {ks : List Nat} (nodup : ks.Nodup) :
    (ks.map (tally key weight bs)).sum ≤ (bs.map weight).sum := by
  induction bs with
  | nil =>
    rw [List.map_nil, List.sum_nil, Nat.le_zero]
    refine List.sum_eq_zero fun n hn => ?_
    obtain ⟨k, -, rfl⟩ := List.mem_map.mp hn
    rfl
  | cons b bs ih =>
    calc (ks.map (tally key weight (b :: bs))).sum
        = (ks.map fun k => (if key b = k then weight b else 0) + tally key weight bs k).sum := by
          congr 1
          exact List.map_congr_left fun k _ => tally_cons
      _ = (ks.map fun k => if key b = k then weight b else 0).sum +
            (ks.map (tally key weight bs)).sum := List.sum_map_add
      _ ≤ weight b + (bs.map weight).sum := Nat.add_le_add (sum_once_le nodup _ _) ih
      _ = ((b :: bs).map weight).sum := by rw [List.map_cons, List.sum_cons]

end NodePilot.Lib
