import Mathlib.Data.List.Lex
import Mathlib.Order.BoundedOrder.Basic
import Mathlib.Order.Lattice

/-!
# Lists of different lengths, compared with and without padding

The lexicographic order puts a list before all that it is a proper prefix of. When both are padded with the least
element first, such a list is equal to the other one if nothing but the least element is missing. The two comparisons
differ there and nowhere else.
-/

namespace NodePilot.Lib

variable {α : Type*} [LinearOrder α] {x y : α} {xs ys : List α} {n : Nat}

/-- A list that is not before the other one. -/
theorem not_cons_lt_cons : ¬ x :: xs < y :: ys ↔ y < x ∨ x = y ∧ ¬ xs < ys := by
  rw [List.cons_lt_cons_iff, not_or, not_and, not_lt]
  constructor
  · rintro ⟨above, rest⟩
    rcases above.lt_or_eq with above | rfl
    · exact .inl above
    · exact .inr ⟨rfl, rest rfl⟩
  · rintro (above | ⟨rfl, rest⟩)
    · exact ⟨above.le, fun same => absurd same above.ne'⟩
    · exact ⟨le_rfl, fun _ => rest⟩

variable [OrderBot α]

theorem rightpad_cons : (x :: xs).rightpad (n + 1) ⊥ = x :: xs.rightpad n ⊥ := by
  simp [List.rightpad, Nat.add_sub_add_right]

theorem length_rightpad (h : xs.length ≤ n) : (xs.rightpad n ⊥).length = n := by
  rw [List.rightpad, List.length_append, List.length_replicate, Nat.add_sub_cancel' h]

theorem rightpad_append_replicate {k : Nat} (h : (xs ++ List.replicate k ⊥).length ≤ n) :
    (xs ++ List.replicate k ⊥).rightpad n ⊥ = xs.rightpad n ⊥ := by
  rw [List.length_append, List.length_replicate] at h
  rw [List.rightpad, List.rightpad, List.append_assoc, ← List.replicate_add, List.length_append, List.length_replicate]
  congr 2
  omega

/-- No list is before the least one of its length. -/
theorem not_lt_replicate (xs : List α) : ¬ xs < List.replicate xs.length ⊥ := by
  induction xs with
  | nil => exact List.not_lt_nil _
  | cons x xs ih =>
    rw [List.length_cons, List.replicate_succ, not_cons_lt_cons]
    exact bot_le.lt_or_eq.imp_right fun same => ⟨same.symm, ih⟩

/-- Of the lists of its length only itself is not after the least one. -/
theorem not_replicate_lt (h : ¬ List.replicate xs.length ⊥ < xs) : xs = List.replicate xs.length ⊥ := by
  induction xs with
  | nil => rfl
  | cons x xs ih =>
    rw [List.length_cons, List.replicate_succ, not_cons_lt_cons] at h
    rcases h with below | ⟨rfl, rest⟩
    · exact absurd below not_lt_bot
    · rw [List.length_cons, List.replicate_succ, ← ih rest]

/-- **Where the comparisons differ**: a list that is not before another one as it is, is not before it when both are
padded, and does not lack only the least element of it. The induction is on both lists. -/
theorem not_lt_iff_rightpad (hx : xs.length ≤ n) (hy : ys.length ≤ n) :
    ¬ xs < ys ↔ ¬ xs.rightpad n ⊥ < ys.rightpad n ⊥ ∧ ∀ k, ys ≠ xs ++ List.replicate (k + 1) ⊥ := by
  induction xs generalizing ys n with
  | nil =>
    cases ys with
    | nil => simp [List.rightpad]
    | cons y ys =>
      refine iff_of_false (not_not.mpr (List.nil_lt_cons y ys)) ?_
      rintro ⟨notBefore, lacks⟩
      have least : ([] : List α).rightpad n ⊥ = List.replicate ((y :: ys).rightpad n ⊥).length ⊥ := by
        rw [length_rightpad hy]
        rfl
      rw [least] at notBefore
      have only : ∀ a ∈ y :: ys, a = ⊥ := by
        intro a mem
        have padded : a ∈ (y :: ys).rightpad n ⊥ := List.mem_append_left _ mem
        rw [not_replicate_lt notBefore] at padded
        exact List.eq_of_mem_replicate padded
      exact lacks ys.length (List.eq_replicate_of_mem only)
  | cons x xs ih =>
    cases ys with
    | nil =>
      refine iff_of_true (List.not_lt_nil _) ⟨?_, nofun⟩
      have least : ([] : List α).rightpad n ⊥ = List.replicate ((x :: xs).rightpad n ⊥).length ⊥ := by
        rw [length_rightpad hx]
        rfl
      rw [least]
      exact not_lt_replicate _
    | cons y ys =>
      obtain ⟨m, rfl⟩ : ∃ m, n = m + 1 := ⟨n - 1, by simp at hx; omega⟩
      have rest := ih (Nat.le_of_succ_le_succ hx) (Nat.le_of_succ_le_succ hy)
      rw [rightpad_cons, rightpad_cons, not_cons_lt_cons, not_cons_lt_cons, rest]
      constructor
      · rintro (above | ⟨rfl, notBefore, lacks⟩)
        · exact ⟨.inl above, fun k same => absurd (List.cons.inj same).1 above.ne⟩
        · exact ⟨.inr ⟨rfl, notBefore⟩, fun k same => lacks k (List.cons.inj same).2⟩
      · rintro ⟨above | ⟨rfl, notBefore⟩, lacks⟩
        · exact .inl above
        · exact .inr ⟨rfl, notBefore, fun k same => lacks k (congrArg (x :: ·) same)⟩

end NodePilot.Lib
