/-!
# Lists, item by item

`List.mapM` of a function that may have no result: it has one exactly if the function has one for every item. The
items that are made of the numbers from one to another.
-/

namespace NodePilot.Lib

variable {α β : Type} {f : α → Option β} {xs : List α}

theorem isSome_mapM_iff : (xs.mapM f).isSome ↔ ∀ x ∈ xs, (f x).isSome := by
  induction xs with
  | nil => simp
  | cons x xs ih =>
    rw [List.mapM_cons, List.forall_mem_cons, ← ih]
    cases f x with
    | none => simp
    | some y => cases xs.mapM f <;> simp

/-- A function that is `g` on the items. -/
theorem mapM_eq_some_map {g : α → β} (same : ∀ x ∈ xs, f x = some (g x)) : xs.mapM f = some (xs.map g) := by
  induction xs with
  | nil => rfl
  | cons x xs ih =>
    obtain ⟨first, rest⟩ := List.forall_mem_cons.mp same
    rw [List.mapM_cons, first, ih rest]
    rfl

/-- What is written item by item is read back item by item. -/
theorem mapM_map_of_read {g : β → α} {ys : List β} (read : ∀ y ∈ ys, f (g y) = some y) :
    (ys.map g).mapM f = some ys := by
  have composed : ys.mapM (f ∘ g) = some (ys.map id) := mapM_eq_some_map read
  rw [List.mapM_map, composed, List.map_id]

theorem mem_map_range_add {g : Nat → α} {low high : Nat} {a : α} :
    a ∈ (List.range (high + 1 - low)).map (fun k => g (low + k)) ↔ ∃ n, low ≤ n ∧ n ≤ high ∧ a = g n := by
  rw [List.mem_map]
  constructor
  · rintro ⟨k, inside, rfl⟩
    have below := List.mem_range.mp inside
    exact ⟨low + k, by omega, by omega, rfl⟩
  · rintro ⟨n, above, below, rfl⟩
    exact ⟨n - low, List.mem_range.mpr (by omega), by rw [Nat.add_sub_cancel' above]⟩

end NodePilot.Lib
