import Mathlib.Data.List.Basic

/-!
# Two kinds of entries in turn

A log, newest entry first, in which some entries open something and others close it. It `Alternates` when
between any two that open there is one that closes. Whether a log goes on alternating is told by whether it
is `Open`: whether the last entry of either kind opens.
-/

namespace NodePilot.Lib

variable {α : Type}

/-- Between any two entries that open there is one that closes. -/
def Alternates (opens closes : α → Prop) (log : List α) : Prop :=
  ∀ after a between b before, log = after ++ a :: (between ++ b :: before) → opens a → opens b →
    ∃ e ∈ between, closes e

/-- The last entry of either kind opens. -/
def Open (opens closes : α → Prop) : List α → Prop
  | [] => False
  | a :: log => opens a ∨ ¬ closes a ∧ Open opens closes log

variable {opens closes : α → Prop} {a : α} {log : List α}

theorem open_iff : Open opens closes log ↔
    ∃ between b before, log = between ++ b :: before ∧ opens b ∧ ∀ e ∈ between, ¬ closes e := by
  induction log with
  | nil => simp [Open]
  | cons a log ih =>
    rw [Open, ih]
    constructor
    · rintro (now | ⟨still, between, b, before, rfl, hb, none⟩)
      · exact ⟨[], a, log, rfl, now, fun e he => absurd he List.not_mem_nil⟩
      · exact ⟨a :: between, b, before, rfl, hb, List.forall_mem_cons.mpr ⟨still, none⟩⟩
    · rintro ⟨between, b, before, same, hb, none⟩
      cases between with
      | nil =>
        cases same
        exact .inl hb
      | cons e between =>
        cases same
        obtain ⟨still, none⟩ := List.forall_mem_cons.mp none
        exact .inr ⟨still, between, b, before, rfl, hb, none⟩

theorem alternates_nil : Alternates opens closes [] := by
  intro after a between b before same
  simp at same

/-- An entry that opens may come where the log is not open. -/
theorem alternates_cons : Alternates opens closes (a :: log) ↔
    Alternates opens closes log ∧ (opens a → ¬ Open opens closes log) := by
  constructor
  · intro h
    refine ⟨fun after a' between b before same => ?_, fun ha isOpen => ?_⟩
    · exact h (a :: after) a' between b before (by rw [same]; rfl)
    · obtain ⟨between, b, before, same, hb, none⟩ := open_iff.mp isOpen
      obtain ⟨e, he, closed⟩ := h [] a between b before (by rw [same]; rfl) ha hb
      exact none e he closed
  · rintro ⟨h, first⟩ after a' between b before same ha hb
    cases after with
    | nil =>
      cases same
      by_contra none
      refine first ha (open_iff.mpr ⟨between, b, before, rfl, hb, fun e he closed => ?_⟩)
      exact none ⟨e, he, closed⟩
    | cons c after =>
      cases same
      exact h after a' between b before rfl ha hb

end NodePilot.Lib
