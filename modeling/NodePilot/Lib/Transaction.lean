import Mathlib.Data.List.Basic

/-!
# Transactions with savepoints and row locks

What the transactions of a database keep to themselves: the writes that are not committed yet, and
the row locks. A transaction begins with its first savepoint. Rolling back to a savepoint drops what
was written and locked after it; releasing a savepoint drops nothing, so a lock that was taken inside
outlives it. A lock has one holder at most, and whoever else wants it waits: `lock` is `none` then.

What the writes are, and what becomes of them at the commit, is not fixed here.
-/

namespace NodePilot.Lib

/-- What a transaction has written and locked. -/
structure Part (ω κ : Type) where
  writes : ω
  locks : List κ

/-- A transaction: what it has done so far, and what it had done at each savepoint, the last one
first. One that has no savepoint has not begun. -/
structure Transaction (ω κ : Type) where
  current : Part ω κ
  savepoints : List (Part ω κ)

/-- The transactions of a database, and the holder of each lock. -/
structure Transactions (ω κ : Type) where
  of : Nat → Transaction ω κ
  holder : κ → Option Nat

namespace Transactions

section Plain

variable {ω κ : Type}

def set (t : Transactions ω κ) (i : Nat) (x : Transaction ω κ) : Transactions ω κ :=
  { t with of := fun j => if j = i then x else t.of j }

/-- `BEGIN`, or `SAVEPOINT` in a transaction that has begun. -/
def enter (t : Transactions ω κ) (i : Nat) : Transactions ω κ :=
  t.set i { t.of i with savepoints := (t.of i).current :: (t.of i).savepoints }

def write (t : Transactions ω κ) (i : Nat) (f : ω → ω) : Transactions ω κ :=
  t.set i { t.of i with current := { (t.of i).current with writes := f (t.of i).current.writes } }

/-- `RELEASE SAVEPOINT` -/
def release (t : Transactions ω κ) (i : Nat) : Transactions ω κ :=
  t.set i { t.of i with savepoints := (t.of i).savepoints.tail }

/-- The other transactions are left alone, with their locks. -/
structure Others (i : Nat) (t t' : Transactions ω κ) : Prop where
  of : ∀ j, j ≠ i → t'.of j = t.of j
  holder : ∀ j, j ≠ i → ∀ k, t.holder k = some j → t'.holder k = some j

variable {t t' : Transactions ω κ} {i j : Nat} {x : Transaction ω κ}

@[simp] theorem of_set_self : (t.set i x).of i = x := if_pos rfl

@[simp] theorem of_set_ne (h : j ≠ i) : (t.set i x).of j = t.of j := if_neg h

theorem Others.refl : Others i t t := ⟨fun _ _ => rfl, fun _ _ _ h => h⟩

theorem Others.trans {t'' : Transactions ω κ} (h : Others i t t') (h' : Others i t' t'') :
    Others i t t'' :=
  ⟨fun j hj => (h'.of j hj).trans (h.of j hj), fun j hj k hk => h'.holder j hj k (h.holder j hj k hk)⟩

theorem others_set : Others i t (t.set i x) := ⟨fun _ hj => of_set_ne hj, fun _ _ _ h => h⟩

end Plain

section Locks

variable {ω κ : Type} [DecidableEq κ]

/-- The locks of a transaction are released, but for those in `keep`. -/
def free (t : Transactions ω κ) (i : Nat) (keep : List κ) : Transactions ω κ :=
  { t with holder := fun k => if t.holder k = some i ∧ k ∉ keep then none else t.holder k }

/-- `SELECT ... FOR UPDATE`, which waits for another transaction that holds the lock. -/
def lock (t : Transactions ω κ) (i : Nat) (k : κ) : Option (Transactions ω κ) :=
  match t.holder k with
  | some j => if j = i then some t else none
  | none =>
    let x := t.of i
    let t := t.set i { x with current := { x.current with locks := k :: x.current.locks } }
    some { t with holder := fun k' => if k' = k then some i else t.holder k' }

/-- `ROLLBACK`, to the last savepoint. -/
def rollback (t : Transactions ω κ) (i : Nat) : Transactions ω κ :=
  match (t.of i).savepoints with
  | [] => t
  | part :: rest => (t.set i ⟨part, rest⟩).free i part.locks

/-- The end of a transaction. -/
def finish (t : Transactions ω κ) (i : Nat) (nothing : ω) : Transactions ω κ :=
  (t.set i ⟨⟨nothing, []⟩, []⟩).free i []

variable {t t' : Transactions ω κ} {i : Nat} {k : κ}

@[simp] theorem of_free {keep : List κ} : (t.free i keep).of = t.of := rfl

theorem of_lock (h : t.lock i k = some t') :
    (t'.of i).savepoints = (t.of i).savepoints ∧
      (t'.of i).current.writes = (t.of i).current.writes := by
  unfold lock at h
  split at h
  · split at h
    · cases h
      exact ⟨rfl, rfl⟩
    · cases h
  · cases h
    simp

theorem holder_lock (h : t.lock i k = some t') : t'.holder k = some i := by
  unfold lock at h
  split at h
  · next j held =>
    split at h
    · next same =>
      cases h
      rw [held, same]
    · cases h
  · cases h
    exact if_pos rfl

theorem others_free {keep : List κ} : Others i t (t.free i keep) := by
  refine ⟨fun _ _ => rfl, fun j hj k hk => ?_⟩
  have other : ¬ (t.holder k = some i ∧ k ∉ keep) := by
    rintro ⟨mine, -⟩
    exact hj (Option.some.inj (hk.symm.trans mine))
  exact (if_neg other).trans hk

theorem others_lock (h : t.lock i k = some t') : Others i t t' := by
  unfold lock at h
  split at h
  · split at h
    · cases h
      exact .refl
    · cases h
  · next free =>
    cases h
    refine ⟨fun j hj => of_set_ne hj, fun j hj k' hk' => ?_⟩
    have other : k' ≠ k := by
      rintro rfl
      rw [free] at hk'
      cases hk'
    exact (if_neg other).trans hk'

theorem others_rollback : Others i t (t.rollback i) := by
  unfold rollback
  split
  · exact .refl
  · exact others_set.trans others_free

theorem others_finish {nothing : ω} : Others i t (t.finish i nothing) := others_set.trans others_free

end Locks

end Transactions

end NodePilot.Lib
