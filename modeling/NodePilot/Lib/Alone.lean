import NodePilot.Lib.Prog

/-!
# A program alone

The run of one program over a state in which an operation may have to wait, as in a pool, while nobody else does
anything: it ends, or it waits for good.
-/

namespace NodePilot.Lib

variable {Op : Type} {Ans : Op → Type} {ε L α β σ : Type} {act : (o : Op) → σ → Option (Ans o × σ)}

/-- The run of a program to its end, `none` where it waits. -/
def Prog.alone (act : (o : Op) → σ → Option (Ans o × σ)) : Prog Op Ans α → σ → Option (α × σ)
  | .ret a, s => some (a, s)
  | .vis o k, s => (act o s).bind fun r => (k r.1).alone act r.2

theorem Prog.alone_bind (p : Prog Op Ans α) (f : α → Prog Op Ans β) (s : σ) :
    (p >>= f).alone act s = (p.alone act s).bind fun r => (f r.1).alone act r.2 := by
  induction p generalizing s with
  | ret a => rfl
  | vis o k ih =>
    show (act o s).bind _ = ((act o s).bind _).bind _
    rw [Option.bind_assoc]
    apply Option.bind_congr
    intro r _
    exact ih r.1 r.2

namespace Script

variable {l l' : L} {s s' : σ} {a : α} {e : ε}

/-- How a script ends, with its local objects and the state at the end. -/
def alone (act : (o : Op) → σ → Option (Ans o × σ)) (x : Script Op Ans ε L α) (l : L) (s : σ) :
    Option (Except ε α × L × σ) :=
  ((x.prog l).alone act s).map fun r => (r.1.1, r.1.2, r.2)

@[simp]
theorem alone_pure : alone act (pure a : Script Op Ans ε L α) l s = some (.ok a, l, s) := rfl

@[simp]
theorem alone_throw : alone act (throw e : Script Op Ans ε L α) l s = some (.error e, l, s) := rfl

theorem alone_perform (o : Op) : alone act (perform o : Script Op Ans ε L (Ans o)) l s =
    (act o s).map fun r => (.ok r.1, l, r.2) := by
  show ((act o s).bind _).map _ = _
  cases act o s <;> rfl

theorem alone_bind (x : Script Op Ans ε L α) (f : α → Script Op Ans ε L β) :
    alone act (x >>= f) l s = (alone act x l s).bind fun
      | (.ok a, l', s') => alone act (f a) l' s'
      | (.error e, l', s') => some (.error e, l', s') := by
  unfold alone
  rw [prog_bind, Prog.alone_bind]
  cases (x.prog l).alone act s with
  | none => rfl
  | some r =>
    obtain ⟨⟨result, l'⟩, s'⟩ := r
    cases result <;> rfl

theorem alone_tryCatch (x : Script Op Ans ε L α) (f : ε → Script Op Ans ε L α) :
    alone act (tryCatch x f) l s = (alone act x l s).bind fun
      | (.ok a, l', s') => some (.ok a, l', s')
      | (.error e, l', s') => alone act (f e) l' s' := by
  unfold alone
  rw [prog_tryCatch, Prog.alone_bind]
  cases (x.prog l).alone act s with
  | none => rfl
  | some r =>
    obtain ⟨⟨result, l'⟩, s'⟩ := r
    cases result <;> rfl

/-- What follows a part that has returned. -/
theorem alone_bind_ok {x : Script Op Ans ε L α} {f : α → Script Op Ans ε L β}
    (returned : alone act x l s = some (.ok a, l', s')) : alone act (x >>= f) l s = alone act (f a) l' s' := by
  rw [alone_bind, returned]
  rfl

/-- Nothing follows a part that has raised. -/
theorem alone_bind_error {x : Script Op Ans ε L α} {f : α → Script Op Ans ε L β}
    (raised : alone act x l s = some (.error e, l', s')) :
    alone act (x >>= f) l s = some (.error e, l', s') := by
  rw [alone_bind, raised]
  rfl

end Script

end NodePilot.Lib
