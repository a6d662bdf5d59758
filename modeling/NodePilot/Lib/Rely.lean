import NodePilot.Lib.Footprint
import NodePilot.Lib.Pool

/-!
# Rely and guarantee

Programs side by side are verified one at a time. A `Discipline` of a system fixes an invariant of
the shared state, what each thread may do in one step (`guar`) and what it must expect between two
of its own steps (`rely`); what one thread guarantees every other may rely on. `Safe` says that a
program keeps to the discipline from a state on, whatever the others do in between, and ends in a
postcondition. The steps of a run may be restricted (`ok`), so that a program is only asked to keep
to the discipline where the restriction is met.

`Discipline.keeps_act` and `Discipline.keeps_env` put the programs together again.
-/

namespace NodePilot.Lib

variable {ι Op : Type} {Ans : Op → Type} {ρ σ C E : Type}

/-- An invariant, and what the threads of a system do to each other. -/
structure Discipline (S : System ι Op Ans ρ σ C E) where
  /-- The steps that are considered. -/
  ok : C → Nat → Op → σ → Prop
  inv : σ → Prop
  rely : Nat → σ → σ → Prop
  guar : Nat → σ → σ → Prop
  rely_refl : ∀ i s, rely i s s
  rely_trans : ∀ i s s' s'', rely i s s' → rely i s' s'' → rely i s s''
  guar_rely : ∀ i j s s', i ≠ j → guar i s s' → rely j s s'

variable {S : System ι Op Ans ρ σ C E} (D : Discipline S) (i : Nat)

namespace Prog

variable {α β : Type}

/-- The program keeps to the discipline as thread `i`, and ends in `Q`. -/
def Safe (Q : α → σ → Prop) : Prog Op Ans α → σ → Prop
  | ret a, s => Q a s
  | vis o k, s => ∀ s', D.rely i s s' → D.inv s' → ∀ c a s'', D.ok c i o s' →
      S.act c i o s' = some (a, s'') → D.inv s'' ∧ D.guar i s' s'' ∧ (k a).Safe Q s''

variable {D i} {Q Q' : α → σ → Prop} {p : Prog Op Ans α} {s s' : σ}

/-- What others do in between does no harm. -/
theorem Safe.rely (stable : ∀ a s s', D.rely i s s' → Q a s → Q a s') (h : p.Safe D i Q s)
    (step : D.rely i s s') : p.Safe D i Q s' := by
  cases p with
  | ret a => exact stable a s s' step h
  | vis o k => exact fun t ht => h t (D.rely_trans i s s' t step ht)

theorem Safe.mono (h : p.Safe D i Q s) (hQ : ∀ a s, Q a s → Q' a s) : p.Safe D i Q' s := by
  induction p generalizing s with
  | ret a => exact hQ a s h
  | vis o k ih =>
    intro t ht hinv c a t' hok hact
    obtain ⟨inv, guar, rest⟩ := h t ht hinv c a t' hok hact
    exact ⟨inv, guar, ih a rest⟩

theorem Safe.bind {R : β → σ → Prop} {f : α → Prog Op Ans β} (h : p.Safe D i Q s)
    (hf : ∀ a s, Q a s → (f a).Safe D i R s) : (p >>= f).Safe D i R s := by
  induction p generalizing s with
  | ret a => exact hf a s h
  | vis o k ih =>
    intro t ht hinv c a t' hok hact
    obtain ⟨inv, guar, rest⟩ := h t ht hinv c a t' hok hact
    exact ⟨inv, guar, ih a rest⟩

/-- What neither the others nor the thread itself undo may be carried along. -/
theorem Safe.frame {F : σ → Prop} (rely : ∀ s s', D.rely i s s' → F s → F s')
    (guar : ∀ s s', D.guar i s s' → F s → F s') (h : p.Safe D i Q s) (hF : F s) :
    p.Safe D i (fun a s => Q a s ∧ F s) s := by
  induction p generalizing s with
  | ret a => exact ⟨h, hF⟩
  | vis o k ih =>
    intro t ht hinv c a t' hok hact
    obtain ⟨inv, step, rest⟩ := h t ht hinv c a t' hok hact
    exact ⟨inv, step, ih a rest (guar t t' step (rely s t ht hF))⟩

/-- A program whose operations all keep an assertion is safe from it. -/
theorem Obeys.safe {φ : Op → Prop} {Q : α → Prop} {J : σ → Prop}
    (h : p.Obeys (fun _ _ => True) φ Q) (stable : ∀ s s', D.rely i s s' → J s → J s')
    (step : ∀ o, φ o → ∀ s c a s', J s → D.inv s → D.ok c i o s → S.act c i o s = some (a, s') →
      D.inv s' ∧ D.guar i s s' ∧ J s')
    (hJ : J s) : p.Safe D i (fun a s => Q a ∧ J s) s := by
  induction p generalizing s with
  | ret a => exact ⟨h, hJ⟩
  | vis o k ih =>
    intro t ht hinv c a t' hok hact
    obtain ⟨inv, guar, kept⟩ := step o h.1 t c a t' (stable s t ht hJ) hinv hok hact
    exact ⟨inv, guar, ih a (h.2 a trivial) kept⟩

end Prog

namespace Script

variable {ε L α β : Type}

/-- From a state of `P`, the script keeps to the discipline, and returns in `Q` or raises in `R`. -/
def Safe (P : σ → Prop) (x : Script Op Ans ε L α) (Q : α → σ → Prop) (R : ε → σ → Prop) : Prop :=
  ∀ l s, P s → (x.prog l).Safe D i (fun r s => match r.1 with
    | .ok a => Q a s
    | .error e => R e s) s

variable {D i} {P P' : σ → Prop} {Q Q' : α → σ → Prop} {R R' : ε → σ → Prop}

theorem Safe.pure {a : α} (h : ∀ s, P s → Q a s) :
    Safe D i P (pure a : Script Op Ans ε L α) Q R := fun _ s hP => h s hP

theorem Safe.throw {e : ε} (h : ∀ s, P s → R e s) :
    Safe D i P (throw e : Script Op Ans ε L α) Q R := fun _ s hP => h s hP

/-- One operation, from an assertion that the other threads respect. -/
theorem Safe.perform {o : Op} {Q : Ans o → σ → Prop}
    (stable : ∀ s s', D.rely i s s' → P s → P s')
    (step : ∀ s c a s', P s → D.inv s → D.ok c i o s → S.act c i o s = some (a, s') →
      D.inv s' ∧ D.guar i s s' ∧ Q a s') :
    Safe D i P (perform o : Script Op Ans ε L (Ans o)) Q R := by
  intro l s hP t ht hinv c a t' hok hact
  exact step t c a t' (stable s t ht hP) hinv hok hact

theorem Safe.bind {x : Script Op Ans ε L α} {f : α → Script Op Ans ε L β} {T : β → σ → Prop}
    (hx : Safe D i P x Q R) (hf : ∀ a, Safe D i (Q a) (f a) T R) : Safe D i P (x >>= f) T R := by
  intro l s hP
  rw [prog_bind]
  refine (hx l s hP).bind ?_
  rintro ⟨e | a, l'⟩ t ht
  · exact ht
  · exact hf a l' t ht

theorem Safe.tryCatch {x : Script Op Ans ε L α} {f : ε → Script Op Ans ε L α}
    (hx : Safe D i P x Q R) (hf : ∀ e, Safe D i (R e) (f e) Q R') :
    Safe D i P (tryCatch x f) Q R' := by
  intro l s hP
  rw [prog_tryCatch]
  refine (hx l s hP).bind ?_
  rintro ⟨e | a, l'⟩ t ht
  · exact hf e l' t ht
  · exact ht

theorem Safe.conseq {x : Script Op Ans ε L α} (hx : Safe D i P x Q R) (hP : ∀ s, P' s → P s)
    (hQ : ∀ a s, Q a s → Q' a s) (hR : ∀ e s, R e s → R' e s) : Safe D i P' x Q' R' := by
  intro l s h
  refine (hx l s (hP s h)).mono ?_
  rintro ⟨e | a, l'⟩ t ht
  · exact hR e t ht
  · exact hQ a t ht

/-- A loop, by what each round adds to the part of the list that is done. -/
theorem Safe.forM {xs : List α} {f : α → Script Op Ans ε L PUnit} {P : List α → σ → Prop}
    (hf : ∀ a ∈ xs, ∀ ready, Safe D i (P ready) (f a) (fun _ => P (ready ++ [a])) R) :
    Safe D i (P []) (xs.forM f) (fun _ => P xs) R := by
  have rounds (ready : List α) :
      Safe D i (P ready) (xs.forM f) (fun _ => P (ready ++ xs)) R := by
    induction xs generalizing ready with
    | nil => exact Safe.pure fun s h => by rwa [List.append_nil]
    | cons a xs ih =>
      have rest := ih (fun b hb => hf b (List.mem_cons_of_mem a hb)) (ready ++ [a])
      rw [List.append_assoc] at rest
      exact Safe.bind (hf a List.mem_cons_self ready) fun _ => rest
  exact rounds []

theorem Safe.frame {x : Script Op Ans ε L α} {F : σ → Prop}
    (rely : ∀ s s', D.rely i s s' → F s → F s') (guar : ∀ s s', D.guar i s s' → F s → F s')
    (hx : Safe D i P x Q R) :
    Safe D i (fun s => P s ∧ F s) x (fun a s => Q a s ∧ F s) R := by
  intro l s h
  refine ((hx l s h.1).frame rely guar h.2).mono ?_
  rintro ⟨e | a, l'⟩ t ht
  · exact ht.1
  · exact ht

theorem Obeys.safe {φ : Op → Prop} {J : σ → Prop} {x : Script Op Ans ε L α}
    (h : Obeys (fun _ _ => True) φ (fun _ => True) x) (stable : ∀ s s', D.rely i s s' → J s → J s')
    (step : ∀ o, φ o → ∀ s c a s', J s → D.inv s → D.ok c i o s → S.act c i o s = some (a, s') →
      D.inv s' ∧ D.guar i s s' ∧ J s') :
    Safe D i J x (fun _ => J) fun _ => J := by
  intro l s hJ
  refine ((h l).safe stable step hJ).mono ?_
  rintro ⟨e | a, l'⟩ t ht
  · exact ht.2
  · exact ht.2

end Script

/-! ## Putting threads together -/

namespace Discipline

variable {D} {p p' : Pool ι Op Ans ρ σ}

/-- The invariant holds, and every thread is safe and ends in its own postcondition. -/
structure Ending (D : Discipline S) (Q : Nat → ι → ρ → σ → Prop) (p : Pool ι Op Ans ρ σ) : Prop where
  inv : D.inv p.shared
  safe : ∀ (j : Nat) (t : Thread ι Op Ans ρ), p.threads[j]? = some t →
    t.rest.Safe D j (Q j t.tag) p.shared

section Ending

variable {i} {Q : Nat → ι → ρ → σ → Prop}

theorem Ending.act {c : C} (stable : ∀ j tag a s s', D.rely j s s' → Q j tag a s → Q j tag a s')
    (h : D.Ending Q p) (hstep : S.step (.act i c) p = some p')
    (hok : ∀ tag o k, p.threads[i]? = some ⟨tag, .vis o k⟩ → D.ok c i o p.shared) :
    D.Ending Q p' := by
  obtain ⟨tag, o, k, a, s, hi, hact, rfl⟩ := System.step_act hstep
  obtain ⟨inv, guar, rest⟩ :=
    h.safe i _ hi p.shared (D.rely_refl i _) h.inv c a s (hok tag o k hi) hact
  refine ⟨inv, ?_⟩
  intro j t ht
  by_cases same : i = j
  · subst same
    rw [List.getElem?_set_self (List.getElem?_eq_some_iff.mp hi).1] at ht
    cases ht
    exact rest
  · rw [List.getElem?_set_ne same] at ht
    exact (h.safe j t ht).rely (stable j t.tag) (D.guar_rely i j _ _ same guar)

theorem Ending.env {e : E} (stable : ∀ j tag a s s', D.rely j s s' → Q j tag a s → Q j tag a s')
    (h : D.Ending Q p) (hstep : S.step (.env e) p = some p')
    (henv : ∀ ts s, S.env e p.shared = some (ts, s) → D.inv s ∧ (∀ j, D.rely j p.shared s) ∧
      ∀ (j : Nat) (t : Thread ι Op Ans ρ), ts[j]? = some t →
        t.rest.Safe D (p.threads.length + j) (Q (p.threads.length + j) t.tag) s) :
    D.Ending Q p' := by
  obtain ⟨ts, s, hs, rfl⟩ := System.step_env hstep
  obtain ⟨inv, others, started⟩ := henv ts s hs
  refine ⟨inv, ?_⟩
  intro j t ht
  by_cases old : j < p.threads.length
  · rw [List.getElem?_append_left old] at ht
    exact (h.safe j t ht).rely (stable j t.tag) (others j)
  · rw [List.getElem?_append_right (Nat.not_lt.mp old)] at ht
    have sum : p.threads.length + (j - p.threads.length) = j := by omega
    have safe := started _ t ht
    rw [sum] at safe
    exact safe

end Ending

/-- The invariant holds and every thread is safe. -/
structure Threaded (D : Discipline S) (p : Pool ι Op Ans ρ σ) : Prop where
  inv : D.inv p.shared
  safe : ∀ (j : Nat) (t : Thread ι Op Ans ρ), p.threads[j]? = some t →
    t.rest.Safe D j (fun _ _ => True) p.shared

theorem threaded_iff : D.Threaded p ↔ D.Ending (fun _ _ _ _ => True) p :=
  ⟨fun h => ⟨h.inv, h.safe⟩, fun h => ⟨h.inv, h.safe⟩⟩

theorem keeps_act {c : C} (h : D.Threaded p) (hstep : S.step (.act i c) p = some p')
    (hok : ∀ tag o k, p.threads[i]? = some ⟨tag, .vis o k⟩ → D.ok c i o p.shared) :
    D.Threaded p' :=
  threaded_iff.mpr ((threaded_iff.mp h).act (fun _ _ _ _ _ _ => id) hstep hok)

/-- A step of a safe thread is within its guarantee. -/
theorem guar_act {c : C} (h : D.Threaded p) (hstep : S.step (.act i c) p = some p')
    (hok : ∀ tag o k, p.threads[i]? = some ⟨tag, .vis o k⟩ → D.ok c i o p.shared) :
    D.guar i p.shared p'.shared := by
  obtain ⟨tag, o, k, a, s, hi, hact, rfl⟩ := System.step_act hstep
  exact (h.safe i _ hi p.shared (D.rely_refl i _) h.inv c a s (hok tag o k hi) hact).2.1

theorem keeps_env {e : E} (h : D.Threaded p) (hstep : S.step (.env e) p = some p')
    (henv : ∀ ts s, S.env e p.shared = some (ts, s) → D.inv s ∧ (∀ j, D.rely j p.shared s) ∧
      ∀ (j : Nat) (t : Thread ι Op Ans ρ), ts[j]? = some t →
        t.rest.Safe D (p.threads.length + j) (fun _ _ => True) s) :
    D.Threaded p' :=
  threaded_iff.mpr ((threaded_iff.mp h).env (fun _ _ _ _ _ _ => id) hstep henv)

end Discipline

end NodePilot.Lib
