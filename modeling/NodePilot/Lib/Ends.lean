import NodePilot.Lib.Prog

/-!
# Which way a script ends

What a script comes to wherever it starts: it raises (`Fails`) or it returns (`Returns`). And what decides it: from a
start of a certain kind a script returns exactly if a condition holds (`Decides`). There is a rule for each construct;
the condition of a sequence is the conjunction of the conditions of its parts.
-/

namespace NodePilot.Lib.Script

variable {Op : Type} {Ans : Op → Type} {ε L α β σ : Type}
variable {h : Handler Op Ans σ} {x : Script Op Ans ε L α} {f : α → Script Op Ans ε L β} {a : α} {b : β}

/-- A script that never returns. -/
def Fails (h : Handler Op Ans σ) (x : Script Op Ans ε L α) : Prop :=
  ∀ l s, ∃ e l' s', exec h x l s = (.error e, l', s')

/-- A script that always returns. -/
def Returns (h : Handler Op Ans σ) (x : Script Op Ans ε L α) : Prop :=
  ∀ l s, ∃ a l' s', exec h x l s = (.ok a, l', s')

theorem Returns.pure : Returns h (pure a : Script Op Ans ε L α) := fun l s => ⟨a, l, s, rfl⟩

theorem Returns.perform {o : Op} : Returns h (perform o : Script Op Ans ε L (Ans o)) :=
  fun l _ => ⟨_, l, _, rfl⟩

theorem Returns.bind (hx : Returns h x) (hf : ∀ a, Returns h (f a)) : Returns h (x >>= f) := by
  intro l s
  obtain ⟨a, l', s', done⟩ := hx l s
  rw [exec_bind, done]
  exact hf a l' s'

/-! ## What decides it -/

section Decides

variable {c d : Prop} {P P' I : L → σ → Prop} {Q : α → L → σ → Prop} {S : β → L → σ → Prop}

/-- From a start that satisfies `P` the script returns, in `Q`, exactly if `c` holds. Where it raises, `I` holds. -/
def Decides (h : Handler Op Ans σ) (c : Prop) (P : L → σ → Prop) (x : Script Op Ans ε L α) (Q : α → L → σ → Prop)
    (I : L → σ → Prop) : Prop :=
  Triple h P x (fun a l s => c ∧ Q a l s) fun _ l s => ¬ c ∧ I l s

theorem Decides.congr (hx : Decides h c P x Q I) (same : c ↔ d) : Decides h d P x Q I :=
  propext same ▸ hx

/-- A fact in the precondition that does not speak of the state. -/
theorem Decides.fact {p : Prop} (hx : p → Decides h c P x Q I) : Decides h c (fun l s => p ∧ P l s) x Q I :=
  Triple.fact hx

theorem Decides.start (hx : Decides h c P x Q I) (hP : ∀ l s, P' l s → P l s) : Decides h c P' x Q I :=
  Triple.conseq hx hP (fun _ _ _ => id) fun _ _ _ => id

theorem Decides.mono {Q' : α → L → σ → Prop} (hx : Decides h c P x Q I) (hQ : ∀ a l s, Q a l s → Q' a l s) :
    Decides h c P x Q' I :=
  Triple.conseq hx (fun _ _ => id) (fun a l s ends => ⟨ends.1, hQ a l s ends.2⟩) fun _ _ _ => id

theorem Decides.ite {p : Prop} [Decidable p] {y : Script Op Ans ε L α} (hx : p → Decides h c P x Q I)
    (hy : ¬ p → Decides h c P y Q I) : Decides h c P (if p then x else y) Q I :=
  Triple.ite hx hy

/-- A script that returns, where the condition holds. -/
theorem Decides.returns (hc : c) (hx : Triple h P x Q fun _ _ _ => False) : Decides h c P x Q I :=
  hx.conseq (fun _ _ => id) (fun _ _ _ hQ => ⟨hc, hQ⟩) fun _ _ _ never => never.elim

theorem Decides.pure {Q : α → L → σ → Prop} (hc : c) (hQ : ∀ l s, P l s → Q a l s) :
    Decides h c P (pure a : Script Op Ans ε L α) Q I :=
  Triple.pure fun l s start => ⟨hc, hQ l s start⟩

theorem Decides.throw {e : ε} (hc : ¬ c) (hI : ∀ l s, P l s → I l s) :
    Decides h c P (throw e : Script Op Ans ε L α) Q I :=
  Triple.throw fun l s start => ⟨hc, hI l s start⟩

theorem Decides.bind (hx : Decides h c P x Q I) (hf : ∀ a, Decides h d (Q a) (f a) S I) :
    Decides h (c ∧ d) P (x >>= f) S I := by
  refine Triple.bind (hx.conseq (fun _ _ => id) (fun _ _ _ => id) fun _ _ _ ends => ?_) fun a => Triple.fact fun hc => ?_
  · exact ⟨fun both => ends.1 both.1, ends.2⟩
  · exact (hf a).conseq (fun _ _ => id) (fun _ _ _ ends => ⟨⟨hc, ends.1⟩, ends.2⟩)
      fun _ _ _ ends => ⟨fun both => ends.1 both.2, ends.2⟩

/-- What is raised is raised again, whatever the handler does before. -/
theorem Decides.tryCatch {g : ε → Script Op Ans ε L α} (hx : Decides h c P x Q I)
    (hg : ∀ e, Triple h I (g e) (fun _ _ _ => False) fun _ => I) : Decides h c P (tryCatch x g) Q I := by
  intro l s start
  have body := hx l s start
  rw [exec_tryCatch]
  generalize exec h x l s = r at body ⊢
  rcases r with ⟨e | a, l', s'⟩
  · have again := hg e l' s' body.2
    simp only
    generalize exec h (g e) l' s' = r at again ⊢
    rcases r with ⟨e' | a, l'', s''⟩
    · exact ⟨body.1, again⟩
    · exact again.elim
  · exact body

/-- The last part decides, too, unless the first one has raised. -/
theorem Decides.ensuring {last : Script Op Ans ε L PUnit} {S : α → L → σ → Prop} (hx : Decides h c P x Q I)
    (hQ : ∀ a, Decides h d (Q a) last (fun _ => S a) I) (hI : Triple h I last (fun _ => I) fun _ => I) :
    Decides h (c ∧ d) P (ensuring x last) S I := by
  have caught : Decides h c P (MonadExcept.tryCatch x fun e => do last; MonadExcept.throw e) Q I :=
    hx.tryCatch fun e => hI.bind fun _ => Triple.throw fun _ _ => id
  exact caught.bind fun a => ((hQ a).bind fun _ => Decides.pure trivial fun _ _ => id).congr (iff_of_eq (and_true d))

end Decides

end NodePilot.Lib.Script
