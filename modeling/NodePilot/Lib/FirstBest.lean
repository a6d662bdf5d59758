import Mathlib.Data.List.Sort

/-!
# The first of the best

A stable sort that puts the best first keeps the order of those that are equally good, so what it puts in front
is the first of the best in the order of the list: nothing before it is as good, nothing after it is better.
-/

namespace NodePilot.Lib

variable {α β : Type*} [LinearOrder β] {f : α → β} {l : List α} {a b : α}

/-- The list has `a` at a place before which all are worse and after which none is better. -/
def FirstBest (f : α → β) (l : List α) (a : α) : Prop :=
  ∃ before after, l = before ++ a :: after ∧ (∀ b ∈ before, f b < f a) ∧ ∀ b ∈ after, f b ≤ f a

namespace FirstBest

theorem mem (h : FirstBest f l a) : a ∈ l := by
  obtain ⟨before, after, rfl, -, -⟩ := h
  simp

theorem le (h : FirstBest f l a) : ∀ b ∈ l, f b ≤ f a := by
  obtain ⟨before, after, rfl, worse, rest⟩ := h
  intro b hb
  rcases List.mem_append.mp hb with hb | hb
  · exact (worse b hb).le
  · rcases List.mem_cons.mp hb with rfl | hb
    · exact le_rfl
    · exact rest b hb

/-- The first element is the first of the best, or one of the others is and is better. -/
theorem cons_iff : FirstBest f (b :: l) a ↔ (a = b ∧ ∀ c ∈ l, f c ≤ f b) ∨ (f b < f a ∧ FirstBest f l a) := by
  constructor
  · rintro ⟨before, after, same, worse, rest⟩
    cases before with
    | nil =>
      obtain ⟨rfl, rfl⟩ := List.cons.inj same
      exact .inl ⟨rfl, rest⟩
    | cons c before =>
      obtain ⟨rfl, rfl⟩ := List.cons.inj same
      obtain ⟨first, worse⟩ := List.forall_mem_cons.mp worse
      exact .inr ⟨first, before, after, rfl, worse, rest⟩
  · rintro (⟨rfl, rest⟩ | ⟨first, before, after, rfl, worse, rest⟩)
    · exact ⟨[], l, rfl, List.forall_mem_nil _, rest⟩
    · exact ⟨b :: before, after, rfl, List.forall_mem_cons.mpr ⟨first, worse⟩, rest⟩

end FirstBest

/-- **What a stable sort puts in front.** -/
theorem head?_insertionSort_iff :
    (l.insertionSort fun a b => f b ≤ f a).head? = some a ↔ FirstBest f l a := by
  induction l generalizing a with
  | nil => simp [FirstBest]
  | cons b l ih =>
    rw [List.insertionSort_cons, FirstBest.cons_iff, ← ih]
    cases sorted : l.insertionSort fun a b => f b ≤ f a with
    | nil =>
      have same := List.perm_insertionSort (fun a b => f b ≤ f a) l
      rw [sorted, List.nil_perm] at same
      simp [same, eq_comm]
    | cons c rest =>
      have best : FirstBest f l c := ih.mp (by rw [sorted]; rfl)
      rw [List.orderedInsert_cons]
      by_cases first : f c ≤ f b
      · rw [if_pos first]
        constructor
        · intro same
          cases same
          exact .inl ⟨rfl, fun d hd => (best.le d hd).trans first⟩
        · rintro (⟨rfl, -⟩ | ⟨better, same⟩)
          · rfl
          · cases same
            exact absurd first (not_le.mpr better)
      · rw [if_neg first]
        constructor
        · intro same
          cases same
          exact .inr ⟨not_le.mp first, rfl⟩
        · rintro (⟨rfl, all⟩ | ⟨-, same⟩)
          · exact absurd (all c best.mem) first
          · exact same

/-- The same, found by a search. -/
theorem find?_best_iff : l.find? (fun b => l.all fun c => f c ≤ f b) = some a ↔ FirstBest f l a := by
  rw [List.find?_eq_some_iff_append]
  constructor
  · rintro ⟨best, before, after, same, worse⟩
    simp only [List.all_eq_true, decide_eq_true_eq] at best
    refine ⟨before, after, same, fun b hb => ?_, fun b hb => best b (by simp [same, hb])⟩
    have worse : ∃ c ∈ l, f b < f c := by simpa using worse b hb
    obtain ⟨c, hc, better⟩ := worse
    exact better.trans_le (best c hc)
  · intro h
    have all := h.le
    obtain ⟨before, after, same, worse, -⟩ := h
    refine ⟨by simpa using all, before, after, same, fun b hb => ?_⟩
    have better : ∃ c ∈ l, f b < f c := ⟨a, by simp [same], worse b hb⟩
    simpa using better

theorem head?_insertionSort : (l.insertionSort fun a b => f b ≤ f a).head? =
    l.find? fun b => l.all fun c => f c ≤ f b := by
  ext a
  exact head?_insertionSort_iff.trans find?_best_iff.symm

end NodePilot.Lib
