import Mathlib.Data.List.Basic

/-!
# Tables of rows with a primary key

A table is the list of its rows in the order they were inserted. A row carries its own primary
key, and every operation here names rows by it: `Table.get` reads one row, `Table.modify` rewrites
it in place, `Table.remove` deletes it. The equations say what a later read sees.
-/

namespace NodePilot.Lib

/-- A search finds the only element it accepts. -/
theorem find?_of_only {α : Type} {l : List α} {p : α → Bool} {a : α} (ha : a ∈ l) (hp : p a)
    (only : ∀ b ∈ l, p b → b = a) : l.find? p = some a := by
  cases h : l.find? p with
  | none => exact absurd hp (List.find?_eq_none.mp h a ha)
  | some b => rw [only b (List.mem_of_find?_eq_some h) (List.find?_some h)]

/-- A row type with its primary key. -/
class Row (ρ : Type) where
  pk : ρ → Nat

namespace Table

variable {ρ : Type} [Row ρ] {t : List ρ} {k k' : Nat} {r : ρ} {f : ρ → ρ}

/-- The row with primary key `k`. -/
def get (t : List ρ) (k : Nat) : Option ρ := t.find? fun r => Row.pk r == k

/-- The table with `f` applied to the row with primary key `k`. -/
def modify (t : List ρ) (k : Nat) (f : ρ → ρ) : List ρ :=
  t.map fun r => if Row.pk r = k then f r else r

/-- The table without the row with primary key `k`. -/
def remove (t : List ρ) (k : Nat) : List ρ := t.filter fun r => Row.pk r ≠ k

/-- A primary key no row has. -/
def nextPk (t : List ρ) : Nat := t.foldr (fun r n => max (Row.pk r) n) 0 + 1

theorem pk_of_get (h : get t k = some r) : Row.pk r = k := by
  simpa using List.find?_some h

theorem mem_of_get (h : get t k = some r) : r ∈ t := List.mem_of_find?_eq_some h

/-- A row is read back by its key where no two rows have the same. -/
theorem get_of_mem (keyed : (t.map Row.pk).Nodup) (h : r ∈ t) : get t (Row.pk r) = some r := by
  induction t with
  | nil => cases h
  | cons r' t ih =>
    rw [List.map_cons, List.nodup_cons] at keyed
    rcases List.mem_cons.mp h with rfl | h
    · simp [get]
    · have other : Row.pk r' ≠ Row.pk r := fun same => keyed.1 (same ▸ List.mem_map_of_mem h)
      simpa [get, other] using ih keyed.2 h

/-- An update that keeps primary keys is what a later read of that row sees. -/
theorem get_modify_self (hf : ∀ r, Row.pk (f r) = Row.pk r) :
    get (modify t k f) k = (get t k).map f := by
  induction t with
  | nil => rfl
  | cons r t ih =>
    by_cases h : Row.pk r = k
    · simp [get, modify, h, hf]
    · simpa [get, modify, h] using ih

/-- An update of one row is not seen by a read of another. -/
theorem get_modify_ne (hf : ∀ r, Row.pk (f r) = Row.pk r) (hne : k' ≠ k) :
    get (modify t k f) k' = get t k' := by
  induction t with
  | nil => rfl
  | cons r t ih =>
    by_cases h : Row.pk r = k
    · have other : ¬ k = k' := fun e => hne e.symm
      simpa [get, modify, h, hf, other] using ih
    · by_cases h' : Row.pk r = k'
      · simp [get, modify, hne, h']
      · simpa [get, modify, h, h'] using ih

theorem get_modify (hf : ∀ r, Row.pk (f r) = Row.pk r) :
    get (modify t k f) k' = if k' = k then (get t k').map f else get t k' := by
  split
  · next h => subst h; exact get_modify_self hf
  · next h => exact get_modify_ne hf h

/-- A row after an update is one of before, or the update of one. -/
theorem mem_modify (h : r ∈ modify t k f) : ∃ r₀ ∈ t, r = r₀ ∨ r = f r₀ := by
  obtain ⟨r₀, hr₀, same⟩ := List.mem_map.mp h
  refine ⟨r₀, hr₀, ?_⟩
  split at same
  · exact .inr same.symm
  · exact .inl same.symm

/-- An update that does not touch what a view shows leaves the view of the table. -/
theorem map_modify {ν : Type} (view : ρ → ν) (hf : ∀ r, view (f r) = view r) :
    (modify t k f).map view = t.map view := by
  unfold modify
  rw [List.map_map]
  refine List.map_congr_left fun r _ => ?_
  simp only [Function.comp]
  split
  · exact hf r
  · rfl

/-- A view that keeps the keys is read by them. -/
theorem get_map {ν : Type} [Row ν] (view : ρ → ν) (hview : ∀ r, Row.pk (view r) = Row.pk r) :
    get (t.map view) k = (get t k).map view := by
  simp only [get, List.find?_map, Function.comp_def, hview]

theorem get_remove_self : get (remove t k) k = none := by
  simp only [get, remove, List.find?_eq_none, List.mem_filter, decide_eq_true_eq, beq_iff_eq]
  exact fun r hr => hr.2

theorem get_remove_ne (hne : k' ≠ k) : get (remove t k) k' = get t k' := by
  induction t with
  | nil => rfl
  | cons r t ih =>
    by_cases h : Row.pk r = k
    · have other : ¬ k = k' := fun e => hne e.symm
      simpa [get, remove, h, other] using ih
    · by_cases h' : Row.pk r = k'
      · simp [get, remove, hne, h']
      · simpa [get, remove, h, h'] using ih

/-- A row inserted at the end is not seen by a read of another key. -/
theorem get_append_ne {r' : ρ} (h : Row.pk r' ≠ k) : get (t ++ [r']) k = get t k := by
  simp [get, List.find?_append, h]

/-- A read after an insertion sees a row that was there or the new one. -/
theorem get_append_cases {r' : ρ} (h : get (t ++ [r']) k = some r) : get t k = some r ∨ r = r' := by
  simp only [get, List.find?_append] at h ⊢
  cases old : t.find? fun r => Row.pk r == k with
  | some r'' =>
    rw [old] at h
    exact .inl h
  | none =>
    rw [old, Option.none_or] at h
    exact .inr (List.mem_singleton.mp (List.mem_of_find?_eq_some h))

theorem lt_nextPk (h : r ∈ t) : Row.pk r < nextPk t := by
  unfold nextPk
  induction t with
  | nil => cases h
  | cons r' t ih =>
    rw [List.foldr_cons]
    rcases List.mem_cons.mp h with rfl | h
    · omega
    · have := ih h
      omega

/-- The key of a new row is not the key of a row that is there. -/
theorem nextPk_ne (h : get t k = some r) : nextPk t ≠ k := by
  have lt := lt_nextPk (mem_of_get h)
  rw [pk_of_get h] at lt
  omega

theorem get_nextPk (t : List ρ) : get t (nextPk t) = none := by
  cases h : get t (nextPk t) with
  | none => rfl
  | some r => exact absurd rfl (nextPk_ne h)

/-- A new row is read back by its key. -/
theorem get_append_new {r' : ρ} (h : Row.pk r' = nextPk t) : get (t ++ [r']) (nextPk t) = some r' := by
  have absent := get_nextPk t
  simp only [get, List.find?_append] at absent ⊢
  rw [absent]
  simp [h]

end Table

end NodePilot.Lib
