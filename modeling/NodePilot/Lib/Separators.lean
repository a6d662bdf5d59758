import Mathlib.Data.List.Basic

/-!
# Texts that are joined with a separator

Two lists that are joined with a separator can be told apart again when the separator does not occur in
the first of them, or does not occur in the second.
-/

namespace NodePilot.Lib

variable {α : Type} {sep : α} {a b x y : List α}

/-- What stands before the first separator, and what follows it. -/
theorem append_sep_inj (ha : sep ∉ a) (hb : sep ∉ b) (h : a ++ sep :: x = b ++ sep :: y) :
    a = b ∧ x = y := by
  rcases List.append_eq_append_iff.mp h with ⟨t, rfl, rest⟩ | ⟨t, rfl, rest⟩
  · cases t with
    | nil => simpa using rest
    | cons c t =>
      rw [List.cons_append, List.cons.injEq] at rest
      exact absurd (by simp [rest.1]) hb
  · cases t with
    | nil => simpa using rest.symm
    | cons c t =>
      rw [List.cons_append, List.cons.injEq] at rest
      exact absurd (by simp [rest.1]) ha

/-- What stands before the last separator, and what follows it. -/
theorem append_last_sep_inj (hx : sep ∉ x) (hy : sep ∉ y) (h : a ++ sep :: x = b ++ sep :: y) :
    a = b ∧ x = y := by
  rcases List.append_eq_append_iff.mp h with ⟨t, rfl, rest⟩ | ⟨t, rfl, rest⟩
  · cases t with
    | nil => simpa using rest
    | cons c t =>
      rw [List.cons_append, List.cons.injEq] at rest
      exact absurd (by simp [rest.2]) hx
  · cases t with
    | nil => simpa using rest.symm
    | cons c t =>
      rw [List.cons_append, List.cons.injEq] at rest
      exact absurd (by simp [rest.2]) hy

/-- Two texts with a colon between them. -/
theorem toList_colon (s t : String) : (s ++ ":" ++ t).toList = s.toList ++ ':' :: t.toList := by
  have colon : ":".toList = [':'] := by decide
  rw [String.toList_append, String.toList_append, List.append_assoc, colon, List.singleton_append]

end NodePilot.Lib
