import NodePilot.Lib.Ends

/-!
# A script that tells how another one ends

Two scripts that begin alike. The shorter one stops where the other goes on, and whether it raises decides
what the other leaves behind: where it raises the other raises too and is left in `Q`; where it returns, the
other ends in `R`, however it ends. There is a rule for each construct; what both begin with is treated once,
and what only one of them goes on with has to keep what is left.
-/

namespace NodePilot.Lib.Script

variable {Op : Type} {Ans : Op → Type} {ε L α β γ σ : Type}
variable {h : Handler Op Ans σ} {P P' Q R : L → σ → Prop}

/-- From a start that satisfies `P`, the other script `x` is left in `Q` where `y` raises, and then it raises as
well; where `y` returns, `x` is left in `R`. -/
def Foretells (h : Handler Op Ans σ) (P : L → σ → Prop) (y : Script Op Ans ε L β) (x : Script Op Ans ε L α)
    (Q R : L → σ → Prop) : Prop :=
  ∀ l s, P l s → match exec h y l s with
    | (.error _, _, _) => ∃ e l' s', exec h x l s = (.error e, l', s') ∧ Q l' s'
    | (.ok _, _, _) => R (exec h x l s).2.1 (exec h x l s).2.2

section Rules

variable {y : Script Op Ans ε L β} {x : Script Op Ans ε L α}

theorem Foretells.weaken (hyx : Foretells h P y x Q R) (hP : ∀ l s, P' l s → P l s) : Foretells h P' y x Q R :=
  fun l s start => hyx l s (hP l s start)

/-- Both raise. -/
theorem Foretells.throw {e : ε} (hQ : ∀ l s, P l s → Q l s) :
    Foretells h P (throw e : Script Op Ans ε L β) (throw e : Script Op Ans ε L α) Q R :=
  fun l s start => ⟨e, l, s, rfl, hQ l s start⟩

/-- Both do the same, and then the other ends. -/
theorem Foretells.same {x : Script Op Ans ε L α} (hx : Triple h P x (fun _ => R) fun _ => Q) :
    Foretells h P x x Q R := by
  intro l s start
  have ends := hx l s start
  generalize exec h x l s = r at ends ⊢
  rcases r with ⟨e | a, l', s'⟩
  · exact ⟨e, l', s', rfl, ends⟩
  · exact ends

/-- Both begin with `z`. -/
theorem Foretells.bind {z : Script Op Ans ε L γ} {f : γ → Script Op Ans ε L β} {g : γ → Script Op Ans ε L α}
    (hz : Triple h P z (fun _ => P') fun _ => Q) (hfg : ∀ a, Foretells h P' (f a) (g a) Q R) :
    Foretells h P (z >>= f) (z >>= g) Q R := by
  intro l s start
  have first := hz l s start
  rw [exec_bind, exec_bind]
  generalize exec h z l s = r at first ⊢
  rcases r with ⟨e | a, l', s'⟩
  · exact ⟨e, l', s', rfl, first⟩
  · exact hfg a l' s' first

theorem Foretells.ite {c : Prop} [Decidable c] {y' : Script Op Ans ε L β} {x' : Script Op Ans ε L α}
    (hc : c → Foretells h P y x Q R) (hn : ¬ c → Foretells h P y' x' Q R) :
    Foretells h P (if c then y else y') (if c then x else x') Q R := by
  split
  · exact hc ‹_›
  · exact hn ‹_›

/-- The other goes on, and keeps what it is left in. -/
theorem Foretells.andThen {g : α → Script Op Ans ε L γ} (hyx : Foretells h P y x Q R)
    (hg : ∀ a, Keeps h R (fun _ => True) (g a)) : Foretells h P y (x >>= g) Q R := by
  intro l s start
  have ends := hyx l s start
  generalize exec h y l s = r at ends ⊢
  rcases r with ⟨e | b, l₁, s₁⟩
  · obtain ⟨e', l', s', raised, left⟩ := ends
    refine ⟨e', l', s', ?_, left⟩
    rw [exec_bind, raised]
  · have left : R (exec h x l s).2.1 (exec h x l s).2.2 := ends
    show R (exec h (x >>= g) l s).2.1 (exec h (x >>= g) l s).2.2
    rw [exec_bind]
    generalize exec h x l s = r at left ⊢
    rcases r with ⟨e | a, l', s'⟩
    · exact left
    · have kept := hg a l' s' left
      simp only
      generalize exec h (g a) l' s' = r at kept ⊢
      rcases r with ⟨e | c, l'', s''⟩
      · exact kept.1
      · exact kept

/-- The shorter one goes on, and returns. -/
theorem Foretells.quiet {f : β → Script Op Ans ε L γ} (hyx : Foretells h P y x Q R) (hf : ∀ b, Returns h (f b)) :
    Foretells h P (y >>= f) x Q R := by
  intro l s start
  have ends := hyx l s start
  rw [exec_bind]
  generalize exec h y l s = r at ends ⊢
  rcases r with ⟨e | b, l₁, s₁⟩
  · exact ends
  · obtain ⟨c, l₂, s₂, done⟩ := hf b l₁ s₁
    simp only [done]
    exact ends

/-- What the shorter one raises is raised again. -/
theorem Foretells.reraise {f : ε → Script Op Ans ε L β} (hyx : Foretells h P y x Q R) (hf : ∀ e, Fails h (f e)) :
    Foretells h P (tryCatch y f) x Q R := by
  intro l s start
  have ends := hyx l s start
  rw [exec_tryCatch]
  generalize exec h y l s = r at ends ⊢
  rcases r with ⟨e | b, l₁, s₁⟩
  · obtain ⟨e', l₂, s₂, raised⟩ := hf e l₁ s₁
    simp only [raised]
    exact ends
  · exact ends

/-- What the other raises is raised again, and what it is left in is kept. -/
theorem Foretells.handled {f : ε → Script Op Ans ε L α} (hyx : Foretells h P y x Q R) (hf : ∀ e, Fails h (f e))
    (hQ : ∀ e, Keeps h Q (fun _ => True) (f e)) (hR : ∀ e, Keeps h R (fun _ => True) (f e)) :
    Foretells h P y (tryCatch x f) Q R := by
  intro l s start
  have ends := hyx l s start
  generalize exec h y l s = r at ends ⊢
  rcases r with ⟨e | b, l₁, s₁⟩
  · obtain ⟨e', l', s', raised, left⟩ := ends
    obtain ⟨e'', l'', s'', again⟩ := hf e' l' s'
    have kept := hQ e' l' s' left
    rw [again] at kept
    refine ⟨e'', l'', s'', ?_, kept.1⟩
    rw [exec_tryCatch, raised]
    exact again
  · have left : R (exec h x l s).2.1 (exec h x l s).2.2 := ends
    show R (exec h (tryCatch x f) l s).2.1 (exec h (tryCatch x f) l s).2.2
    rw [exec_tryCatch]
    generalize exec h x l s = r at left ⊢
    rcases r with ⟨e | a, l', s'⟩
    · have kept := hR e l' s' left
      obtain ⟨e', l'', s'', again⟩ := hf e l' s'
      rw [again] at kept
      simp only [again]
      exact kept.1
    · exact left

end Rules

end NodePilot.Lib.Script
