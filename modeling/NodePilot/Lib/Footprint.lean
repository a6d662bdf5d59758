import NodePilot.Lib.Prog

/-!
# What a program may perform

`Obeys ok φ Q`: as long as the answers are among `ok`, every operation a program comes to satisfies
`φ` and what it returns satisfies `Q`. Nothing is said of a state, so the property survives whatever
other programs do between two operations: one step of the program leaves a rest that still obeys.

A program over one signature can be read as a program over a larger one (`translate`).
-/

namespace NodePilot.Lib

namespace Prog

variable {Op Op' : Type} {Ans : Op → Type} {Ans' : Op' → Type} {α β : Type}

/-- Every operation satisfies `φ` and every result `Q`, whatever the answers among `ok` are. -/
def Obeys (ok : (o : Op) → Ans o → Prop) (φ : Op → Prop) (Q : α → Prop) : Prog Op Ans α → Prop
  | ret a => Q a
  | vis o k => φ o ∧ ∀ a, ok o a → (k a).Obeys ok φ Q

variable {ok : (o : Op) → Ans o → Prop} {φ ψ : Op → Prop} {Q Q' : α → Prop}

theorem Obeys.mono {p : Prog Op Ans α} (h : p.Obeys ok φ Q) (hφ : ∀ o, φ o → ψ o)
    (hQ : ∀ a, Q a → Q' a) : p.Obeys ok ψ Q' := by
  induction p with
  | ret a => exact hQ a h
  | vis o k ih => exact ⟨hφ o h.1, fun a ha => ih a (h.2 a ha)⟩

/-- Fewer answers to expect. -/
theorem Obeys.weaken {ok' : (o : Op) → Ans o → Prop} {p : Prog Op Ans α} (h : p.Obeys ok φ Q)
    (hok : ∀ o a, ok' o a → ok o a) : p.Obeys ok' φ Q := by
  induction p with
  | ret a => exact h
  | vis o k ih => exact ⟨h.1, fun a ha => ih a (h.2 a (hok o a ha))⟩

theorem Obeys.bind {p : Prog Op Ans α} {f : α → Prog Op Ans β} {R : β → Prop}
    (hp : p.Obeys ok φ Q) (hf : ∀ a, Q a → (f a).Obeys ok φ R) : (p >>= f).Obeys ok φ R := by
  induction p with
  | ret a => exact hf a hp
  | vis o k ih => exact ⟨hp.1, fun a ha => ih a (hp.2 a ha)⟩

/-- **An invariant under which the answers are the expected ones is kept by what the program
performs.** -/
theorem Obeys.run {σ : Type} {h : Handler Op Ans σ} {I : σ → Prop} {p : Prog Op Ans α}
    (hp : p.Obeys ok φ Q) (step : ∀ o s, φ o → I s → ok o (h o s).1 ∧ I (h o s).2) {s : σ}
    (start : I s) : Q (p.run h s).1 ∧ I (p.run h s).2 := by
  induction p generalizing s with
  | ret a => exact ⟨hp, start⟩
  | vis o k ih =>
    obtain ⟨answered, kept⟩ := step o s hp.1 start
    exact ih _ (hp.2 _ answered) kept

/-- The state in which a program is cut after so many operations; a program with fewer ends by itself. -/
def cut {σ : Type} (h : Handler Op Ans σ) : Nat → Prog Op Ans α → σ → σ
  | 0, _, s => s
  | _ + 1, ret _, s => s
  | n + 1, vis o k, s => (k (h o s).1).cut h n (h o s).2

/-- What every operation of the footprint keeps, the program has kept wherever it is cut. -/
theorem Obeys.cut {σ : Type} {h : Handler Op Ans σ} {I : σ → Prop} {p : Prog Op Ans α} (hp : p.Obeys ok φ Q)
    (step : ∀ o s, φ o → I s → ok o (h o s).1 ∧ I (h o s).2) {n : Nat} {s : σ} (start : I s) : I (p.cut h n s) := by
  induction p generalizing n s with
  | ret a =>
    cases n with
    | zero => exact start
    | succ n => exact start
  | vis o k ih =>
    cases n with
    | zero => exact start
    | succ n =>
      obtain ⟨answered, kept⟩ := step o s hp.1 start
      exact ih _ (hp.2 _ answered) kept

/-- The same program over another signature, each operation and each answer renamed. -/
def translate (f : Op → Op') (g : (o : Op) → Ans' (f o) → Ans o) : Prog Op Ans α → Prog Op' Ans' α
  | ret a => ret a
  | vis o k => vis (f o) fun a => (k (g o a)).translate f g

theorem Obeys.translate {f : Op → Op'} {g : (o : Op) → Ans' (f o) → Ans o}
    {ok' : (o : Op') → Ans' o → Prop} {φ' : Op' → Prop} {p : Prog Op Ans α}
    (h : p.Obeys (fun o a => ∃ a', g o a' = a ∧ ok' (f o) a') (fun o => φ' (f o)) Q) :
    (p.translate f g).Obeys ok' φ' Q := by
  induction p with
  | ret a => exact h
  | vis o k ih => exact ⟨h.1, fun a ha => ih (g o a) (h.2 (g o a) ⟨a, rfl, ha⟩)⟩

end Prog

namespace Script

variable {Op : Type} {Ans : Op → Type} {ε L α β : Type}

/-- A script obeys when its program does from any local objects. Exceptions are free. -/
def Obeys (ok : (o : Op) → Ans o → Prop) (φ : Op → Prop) (Q : α → Prop)
    (x : Script Op Ans ε L α) : Prop :=
  ∀ l, (x.prog l).Obeys ok φ fun r => ∀ a, r.1 = .ok a → Q a

variable {ok : (o : Op) → Ans o → Prop} {φ ψ : Op → Prop} {Q Q' : α → Prop} {R : β → Prop}

theorem Obeys.pure {a : α} (h : Q a) : Obeys ok φ Q (pure a : Script Op Ans ε L α) := by
  intro l b hb
  cases hb
  exact h

theorem Obeys.throw {e : ε} : Obeys ok φ Q (throw e : Script Op Ans ε L α) := by
  intro l b hb
  cases hb

theorem Obeys.perform {o : Op} {Q : Ans o → Prop} (ho : φ o) (hQ : ∀ a, ok o a → Q a) :
    Obeys ok φ Q (perform o : Script Op Ans ε L (Ans o)) := by
  intro l
  refine ⟨ho, ?_⟩
  intro a ha b hb
  cases hb
  exact hQ a ha

theorem Obeys.bind {x : Script Op Ans ε L α} {f : α → Script Op Ans ε L β}
    (hx : Obeys ok φ Q x) (hf : ∀ a, Q a → Obeys ok φ R (f a)) : Obeys ok φ R (x >>= f) := by
  intro l
  rw [prog_bind]
  refine (hx l).bind ?_
  rintro ⟨e | a, l'⟩ h
  · intro b hb
    cases hb
  · exact hf a (h a rfl) l'

theorem Obeys.tryCatch {x : Script Op Ans ε L α} {f : ε → Script Op Ans ε L α}
    (hx : Obeys ok φ Q x) (hf : ∀ e, Obeys ok φ Q (f e)) : Obeys ok φ Q (tryCatch x f) := by
  intro l
  rw [prog_tryCatch]
  refine (hx l).bind ?_
  rintro ⟨e | a, l'⟩ h
  · exact hf e l'
  · exact h

theorem Obeys.mono {x : Script Op Ans ε L α} (hx : Obeys ok φ Q x) (hφ : ∀ o, φ o → ψ o)
    (hQ : ∀ a, Q a → Q' a) : Obeys ok ψ Q' x :=
  fun l => (hx l).mono hφ fun _ h a ha => hQ a (h a ha)

theorem Obeys.ite {c : Prop} [Decidable c] {x y : Script Op Ans ε L α}
    (hx : c → Obeys ok φ Q x) (hy : ¬ c → Obeys ok φ Q y) :
    Obeys ok φ Q (if c then x else y) := by
  split
  · exact hx ‹_›
  · exact hy ‹_›

theorem Obeys.forM {xs : List α} {f : α → Script Op Ans ε L PUnit} {R : PUnit → Prop}
    (hR : R ⟨⟩) (hf : ∀ a ∈ xs, Obeys ok φ R (f a)) : Obeys ok φ R (xs.forM f) := by
  induction xs with
  | nil => exact Obeys.pure hR
  | cons a xs ih =>
    exact Obeys.bind (hf a List.mem_cons_self) fun _ _ =>
      ih fun b hb => hf b (List.mem_cons_of_mem a hb)

theorem Obeys.exec {σ : Type} {h : Handler Op Ans σ} {I : σ → Prop} {x : Script Op Ans ε L α}
    (hx : Obeys ok φ Q x) (step : ∀ o s, φ o → I s → ok o (h o s).1 ∧ I (h o s).2) {l : L} {s : σ}
    (start : I s) : I (exec h x l s).2.2 :=
  ((hx l).run step start).2

/-- What every operation of the footprint keeps, the script keeps however it ends. -/
theorem Obeys.keeps {σ : Type} {h : Handler Op Ans σ} {I : σ → Prop} {x : Script Op Ans ε L α}
    (hx : Obeys ok φ Q x) (step : ∀ o s, φ o → I s → ok o (h o s).1 ∧ I (h o s).2) :
    Keeps h (fun _ => I) (fun _ => True) x := by
  intro l s start
  have after := hx.exec step (l := l) start
  generalize Script.exec h x l s = r at after ⊢
  rcases r with ⟨e | a, l', s'⟩
  · exact ⟨after, trivial⟩
  · exact after

/-- A script read over a larger signature. -/
def translate {Op' : Type} {Ans' : Op' → Type} (f : Op → Op')
    (g : (o : Op) → Ans' (f o) → Ans o) (x : Script Op Ans ε L α) : Script Op' Ans' ε L α :=
  ExceptT.mk fun l => (x.prog l).translate f g

theorem Obeys.translate {Op' : Type} {Ans' : Op' → Type} {f : Op → Op'}
    {g : (o : Op) → Ans' (f o) → Ans o} {ok' : (o : Op') → Ans' o → Prop} {φ' : Op' → Prop}
    {x : Script Op Ans ε L α}
    (h : Obeys (fun o a => ∃ a', g o a' = a ∧ ok' (f o) a') (fun o => φ' (f o)) Q x) :
    Obeys ok' φ' Q (x.translate f g) :=
  fun l => (h l).translate

end Script

end NodePilot.Lib
