import Mathlib.Data.List.Basic

/-!
# Pipelines that may lose things

A pipeline is a list of stages. Things come in at the end of the last one and go out at the head of the first, each
stage in its order, and any of them may be lost on the way. `Flows input stages` says that what the stages hold, one
stage after the other, was put in in that order, each thing once at most. What has gone out may be a stage too: the
first one, from which nothing is taken.
-/

namespace NodePilot.Lib

variable {α β : Type}

/-- The stages hold nothing but what was put in, in its order. -/
def Flows (input : List α) (stages : List (List α)) : Prop := stages.flatten.Sublist input

variable {input more stage rest : List α} {stages stages' : List (List α)} {x : α}

theorem flows_singleton : Flows input [stage] ↔ stage.Sublist input := by
  rw [Flows, List.flatten_singleton]

theorem flows_cons : Flows input (stage :: stages) ↔ (stage ++ stages.flatten).Sublist input := by
  rw [Flows, List.flatten_cons]

/-- Things move on or are lost. -/
theorem Flows.mono (h : Flows input stages) (fewer : stages'.flatten.Sublist stages.flatten) : Flows input stages' :=
  fewer.trans h

/-- The input goes on. -/
theorem Flows.append (h : Flows input stages) : Flows (input ++ more) stages :=
  h.trans (List.sublist_append_left input more)

/-- What comes in may be taken into the last stage. -/
theorem Flows.feed (stages : List (List α)) (more : List α) (h : Flows input (stages ++ [stage])) :
    Flows (input ++ more) (stages ++ [stage ++ more]) := by
  rw [Flows, List.flatten_append, List.flatten_singleton] at h ⊢
  rw [← List.append_assoc]
  exact h.append_right more

/-- The head of a stage moves to the end of the one before. -/
theorem Flows.move {last : List α} (before after : List (List α))
    (h : Flows input (before ++ last :: (x :: stage) :: after)) :
    Flows input (before ++ (last ++ [x]) :: stage :: after) := by
  refine h.mono ?_
  simp

/-- A stage is emptied to some part of it. -/
theorem Flows.lose (before after : List (List α)) (h : Flows input (before ++ stage :: after))
    (fewer : rest.Sublist stage) : Flows input (before ++ rest :: after) := by
  refine h.mono ?_
  simp only [List.flatten_append, List.flatten_cons]
  exact (fewer.append_right _).append_left _

/-- The first stage. -/
theorem Flows.head (h : Flows input (stage :: stages)) : stage.Sublist input :=
  (List.sublist_append_left stage _).trans (flows_cons.mp h)

/-- What is read once is read at one place. -/
theorem index_eq_of_nodup_filterMap {f : α → Option β} {xs : List α} (once : (xs.filterMap f).Nodup)
    {i j : Nat} {a b : α} {c : β} (ha : xs[i]? = some a) (hb : xs[j]? = some b) (fa : f a = some c) (fb : f b = some c) : i = j := by
  induction xs generalizing i j with
  | nil => simp at ha
  | cons x xs ih =>
    have head (y : α) (hx : f x = some c) (hy : y ∈ xs) (fy : f y = some c) : False := by
      rw [List.filterMap_cons, hx] at once
      exact (List.nodup_cons.mp once).1 (List.mem_filterMap.mpr ⟨y, hy, fy⟩)
    have rest : (xs.filterMap f).Nodup :=
      List.Sublist.nodup (List.Sublist.filterMap f (List.sublist_cons_self x xs)) once
    cases i with
    | zero =>
      cases j with
      | zero => rfl
      | succ j =>
        rw [List.getElem?_cons_zero, Option.some.injEq] at ha
        rw [List.getElem?_cons_succ] at hb
        exact (head b (ha ▸ fa) (List.mem_of_getElem? hb) fb).elim
    | succ i =>
      rw [List.getElem?_cons_succ] at ha
      cases j with
      | zero =>
        rw [List.getElem?_cons_zero, Option.some.injEq] at hb
        exact (head a (hb ▸ fb) (List.mem_of_getElem? ha) fa).elim
      | succ j =>
        rw [List.getElem?_cons_succ] at hb
        exact congrArg Nat.succ (ih rest ha hb)

/-- And of one thing. -/
theorem eq_of_nodup_filterMap {f : α → Option β} {xs : List α} (once : (xs.filterMap f).Nodup) {a b : α} {c : β}
    (ha : a ∈ xs) (hb : b ∈ xs) (fa : f a = some c) (fb : f b = some c) : a = b := by
  obtain ⟨i, hi⟩ := List.mem_iff_getElem?.mp ha
  obtain ⟨j, hj⟩ := List.mem_iff_getElem?.mp hb
  have same := index_eq_of_nodup_filterMap once hi hj fa fb
  exact Option.some.inj (hi.symm.trans (same ▸ hj))

/-- What the stages of one pipeline put into the next. -/
theorem Flows.trans (h : Flows input [stage]) (next : Flows stage stages) : Flows input stages :=
  List.Sublist.trans next (flows_singleton.mp h)

end NodePilot.Lib
