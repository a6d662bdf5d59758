import NodePilot.Lib.Table

/-!
# Tables with a sequence of keys

A table whose primary keys come from a sequence: a new row gets the next key, and no key is given twice, not even
after its row was removed.
-/

namespace NodePilot.Lib

/-- A table, and the next key of its sequence. -/
structure Sequenced (ρ : Type) [Row ρ] where
  rows : List ρ
  next : Nat
  distinct : (rows.map Row.pk).Nodup
  below : ∀ r ∈ rows, Row.pk r < next

namespace Sequenced

variable {ρ : Type} [Row ρ]

def empty : Sequenced ρ := ⟨[], 1, .nil, by simp⟩

def get (t : Sequenced ρ) (k : Nat) : Option ρ := Table.get t.rows k

def insert (t : Sequenced ρ) (row : ρ) (key : Row.pk row = t.next) : Sequenced ρ where
  rows := t.rows ++ [row]
  next := t.next + 1
  distinct := by
    rw [List.map_append, List.nodup_append]
    refine ⟨t.distinct, List.pairwise_singleton _ _, fun a there b new same => ?_⟩
    obtain ⟨r, member, rfl⟩ := List.mem_map.mp there
    have less := t.below r member
    rw [List.map_singleton, List.mem_singleton] at new
    omega
  below := by
    intro r there
    rcases List.mem_append.mp there with old | new
    · exact Nat.lt_succ_of_lt (t.below r old)
    · rw [List.mem_singleton.mp new, key]
      exact Nat.lt_succ_self _

def modify (t : Sequenced ρ) (k : Nat) (f : ρ → ρ) (keeps : ∀ r, Row.pk (f r) = Row.pk r) : Sequenced ρ where
  rows := Table.modify t.rows k f
  next := t.next
  distinct := by
    rw [Table.map_modify Row.pk keeps]
    exact t.distinct
  below := by
    intro r there
    obtain ⟨r₀, old, rfl | rfl⟩ := Table.mem_modify there
    · exact t.below r old
    · rw [keeps]
      exact t.below r₀ old

def remove (t : Sequenced ρ) (k : Nat) : Sequenced ρ where
  rows := Table.remove t.rows k
  next := t.next
  distinct := t.distinct.sublist (List.filter_sublist.map _)
  below r there := t.below r (List.mem_of_mem_filter there)

/-- The rows that meet a condition. -/
def filter (t : Sequenced ρ) (keep : ρ → Bool) : Sequenced ρ where
  rows := t.rows.filter keep
  next := t.next
  distinct := t.distinct.sublist (List.filter_sublist.map _)
  below r there := t.below r (List.mem_of_mem_filter there)

/-- Rewrites every row, and no key. -/
def mapRows (t : Sequenced ρ) (f : ρ → ρ) (keeps : ∀ r, Row.pk (f r) = Row.pk r) : Sequenced ρ where
  rows := t.rows.map f
  next := t.next
  distinct := by
    have same : Row.pk ∘ f = (Row.pk : ρ → Nat) := funext keeps
    rw [List.map_map, same]
    exact t.distinct
  below := by
    intro r there
    obtain ⟨r₀, old, rfl⟩ := List.mem_map.mp there
    rw [keeps]
    exact t.below r₀ old

variable {t : Sequenced ρ} {k k' : Nat} {r row : ρ} {f : ρ → ρ} {key : Row.pk row = t.next}
  {keeps : ∀ r, Row.pk (f r) = Row.pk r}

theorem pk_of_get (h : t.get k = some r) : Row.pk r = k := Table.pk_of_get h

theorem lt_of_get (h : t.get k = some r) : k < t.next := by
  rw [← pk_of_get h]
  exact t.below r (Table.mem_of_get h)

theorem get_next : t.get t.next = none := by
  cases h : t.get t.next with
  | none => rfl
  | some r => exact absurd (lt_of_get h) (Nat.lt_irrefl _)

theorem get_insert : (t.insert row key).get k = if k = t.next then some row else t.get k := by
  by_cases same : k = t.next
  · subst same
    have absent : Table.get t.rows t.next = none := get_next
    simp only [get, insert, Table.get, List.find?_append] at absent ⊢
    rw [absent]
    simp [key]
  · rw [if_neg same]
    exact Table.get_append_ne (by rw [key]; exact Ne.symm same)

theorem get_modify : (t.modify k f keeps).get k' = if k' = k then (t.get k).map f else t.get k' := by
  by_cases same : k' = k
  · subst same
    rw [if_pos rfl]
    exact Table.get_modify_self keeps
  · rw [if_neg same]
    exact Table.get_modify_ne keeps same

/-- A row that stays as it is leaves the table as it is. -/
theorem modify_eq_self (there : t.get k = some r) (same : f r = r) : t.modify k f keeps = t := by
  have rows : Table.modify t.rows k f = t.rows := by
    calc Table.modify t.rows k f
        = t.rows.map id := by
          apply List.map_congr_left
          intro r' member
          split_ifs with key
          · have found := Table.get_of_mem t.distinct member
            rw [key] at found
            obtain rfl : r' = r := Option.some.inj (found.symm.trans there)
            exact same
          · rfl
      _ = t.rows := List.map_id _
  unfold modify
  congr

end Sequenced

end NodePilot.Lib
