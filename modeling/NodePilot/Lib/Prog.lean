import Mathlib.Tactic.Common

/-!
# Resumable programs with exceptions

A program of an effect signature is a tree: it returns, or it performs one operation and waits
for the answer. The tree says nothing of what an operation does. A `Handler` answers one
operation over a state, and `Prog.run` drives a whole tree with it. The same tree can be driven
one operation at a time, between the operations of other programs, so one text of a program
serves its sequential runs and its interleaved ones.

`Script` adds what the body of a worker needs: exceptions, and local objects that an exception
handler still sees as they were when the exception was raised. `Script.exec` runs a script, and
the `exec_` equations reduce it one statement at a time.

Two rules carry the proofs about runs:

* `Keeps`: an invariant of the local objects and the state that every operation keeps is kept by
  the script, whatever the answers are; the exceptions that leave it satisfy a predicate.
* `Triple`: a precondition, and a postcondition for each way the script ends.
-/

namespace NodePilot.Lib

/-! ## Programs -/

/-- A program over operations `Op`, where `Ans o` is the type of the answers to `o`. -/
inductive Prog (Op : Type) (Ans : Op → Type) (α : Type) : Type
  | ret (a : α)
  | vis (o : Op) (k : Ans o → Prog Op Ans α)

namespace Prog

variable {Op : Type} {Ans : Op → Type} {α β γ σ : Type}

/-- Sequencing: the second program is grafted on every leaf of the first. -/
def bind : Prog Op Ans α → (α → Prog Op Ans β) → Prog Op Ans β
  | ret a, f => f a
  | vis o k, f => vis o fun x => (k x).bind f

instance : Monad (Prog Op Ans) where
  pure := ret
  bind := bind

/-- The operation a program waits at. -/
def next? : Prog Op Ans α → Option Op
  | ret _ => none
  | vis o _ => some o

/-- The program that performs one operation and returns its answer. -/
def perform (o : Op) : Prog Op Ans (Ans o) := vis o ret

/-- Returning the result at once adds nothing. -/
theorem bind_ret (p : Prog Op Ans α) : p.bind ret = p := by
  induction p with
  | ret a => rfl
  | vis o k ih => exact congrArg (vis o) (funext ih)

/-- Programs are composed in any grouping. -/
theorem bind_assoc (p : Prog Op Ans α) (f : α → Prog Op Ans β) (g : β → Prog Op Ans γ) :
    (p.bind f).bind g = p.bind fun a => (f a).bind g := by
  induction p with
  | ret a => rfl
  | vis o k ih => exact congrArg (vis o) (funext ih)

instance : LawfulMonad (Prog Op Ans) :=
  LawfulMonad.mk' _ bind_ret (fun _ _ => rfl) bind_assoc

/-! ## Running a program alone -/

end Prog

/-- A handler answers each operation over a state. What the surroundings decide (a failure, a
reply) is part of the state. -/
abbrev Handler (Op : Type) (Ans : Op → Type) (σ : Type) : Type := (o : Op) → σ → Ans o × σ

namespace Prog

variable {Op : Type} {Ans : Op → Type} {α β γ σ : Type}

/-- The run of a program to its end. -/
def run (h : Handler Op Ans σ) : Prog Op Ans α → σ → α × σ
  | ret a, s => (a, s)
  | vis o k, s => (k (h o s).1).run h (h o s).2

/-- A program that returns at once leaves the state. -/
@[simp]
theorem run_pure (h : Handler Op Ans σ) (a : α) (s : σ) :
    (pure a : Prog Op Ans α).run h s = (a, s) := rfl

/-- A single operation is handled once. -/
@[simp]
theorem run_perform (h : Handler Op Ans σ) (o : Op) (s : σ) : (perform o).run h s = h o s := rfl

/-- Programs run one after the other. -/
@[simp]
theorem run_bind (h : Handler Op Ans σ) (p : Prog Op Ans α) (f : α → Prog Op Ans β) (s : σ) :
    (p >>= f).run h s = (f (p.run h s).1).run h (p.run h s).2 := by
  induction p generalizing s with
  | ret a => rfl
  | vis o k ih => exact ih (h o s).1 (h o s).2

end Prog

/-! ## Scripts -/

/-- A program that may raise and that owns local objects `L`. An exception keeps the local objects
as they were when it was raised. -/
abbrev Script (Op : Type) (Ans : Op → Type) (ε L α : Type) : Type :=
  ExceptT ε (StateT L (Prog Op Ans)) α

namespace Script

variable {Op : Type} {Ans : Op → Type} {ε L α β σ : Type}

/-- One operation, as a statement of a script. -/
def perform (o : Op) : Script Op Ans ε L (Ans o) :=
  ExceptT.lift (StateT.lift (Prog.perform o))

/-- The program that a script is, started on the local objects `l`. -/
def prog (x : Script Op Ans ε L α) (l : L) : Prog Op Ans (Except ε α × L) := x.run.run l

/-- A script with local objects of its own, which end with it. -/
def scope {L' : Type} (l : L') (x : Script Op Ans ε L' α) : Script Op Ans ε L α :=
  ExceptT.mk do
    let r ← StateT.lift (x.prog l)
    return r.1

/-- A script with a last part that runs however the first one ends. -/
def ensuring (x : Script Op Ans ε L α) (last : Script Op Ans ε L PUnit) : Script Op Ans ε L α := do
  let a ← tryCatch x fun e => do
    last
    throw e
  last
  return a

/-- The run of a script: how it ends, its local objects and the state at the end. -/
def exec (h : Handler Op Ans σ) (x : Script Op Ans ε L α) (l : L) (s : σ) :
    Except ε α × L × σ :=
  let r := (x.prog l).run h s
  (r.1.1, r.1.2, r.2)

section Exec

variable (h : Handler Op Ans σ) (l : L) (s : σ)

/-- A script that returns leaves its locals and the state. -/
@[simp]
theorem exec_pure (a : α) :
    exec h (pure a : Script Op Ans ε L α) l s = (.ok a, l, s) := rfl

/-- An exception leaves the locals and the state. -/
@[simp]
theorem exec_throw (e : ε) :
    exec h (throw e : Script Op Ans ε L α) l s = (.error e, l, s) := rfl

/-- A single operation leaves the locals. -/
@[simp]
theorem exec_perform (o : Op) :
    exec h (perform o : Script Op Ans ε L (Ans o)) l s = (.ok (h o s).1, l, (h o s).2) := rfl

/-- Reading the locals changes nothing. -/
@[simp]
theorem exec_get : exec h (get : Script Op Ans ε L L) l s = (.ok l, l, s) := rfl

/-- Changing the locals leaves the state. -/
@[simp]
theorem exec_modify (f : L → L) :
    exec h (modify f : Script Op Ans ε L PUnit) l s = (.ok ⟨⟩, f l, s) := rfl

/-- What follows runs unless there was an exception. -/
theorem prog_bind (x : Script Op Ans ε L α) (f : α → Script Op Ans ε L β) :
    (x >>= f).prog l = x.prog l >>= fun r => match r.1 with
      | .ok a => (f a).prog r.2
      | .error e => pure (.error e, r.2) := by
  change Prog.bind (x.prog l) _ = Prog.bind (x.prog l) _
  congr 1
  funext r
  rcases r with ⟨_ | _, _⟩ <;> rfl

/-- The handler runs only if there was an exception. -/
theorem prog_tryCatch (x : Script Op Ans ε L α) (f : ε → Script Op Ans ε L α) :
    (tryCatch x f).prog l = x.prog l >>= fun r => match r.1 with
      | .ok a => pure (.ok a, r.2)
      | .error e => (f e).prog r.2 := by
  change Prog.bind (x.prog l) _ = Prog.bind (x.prog l) _
  congr 1
  funext r
  rcases r with ⟨_ | _, _⟩ <;> rfl

/-- A sequence runs its second part from where the first ended, or ends where it raised. -/
theorem exec_bind (x : Script Op Ans ε L α) (f : α → Script Op Ans ε L β) :
    exec h (x >>= f) l s = match exec h x l s with
      | (.ok a, l', s') => exec h (f a) l' s'
      | (.error e, l', s') => (.error e, l', s') := by
  unfold exec
  rw [prog_bind, Prog.run_bind]
  rcases (x.prog l).run h s with ⟨⟨e | a, l'⟩, s'⟩ <;> rfl

/-- A sequence returns if both parts do. -/
theorem exec_bind_eq_ok {x : Script Op Ans ε L α} {f : α → Script Op Ans ε L β} {b : β} {l' : L} {s' : σ} :
    exec h (x >>= f) l s = (.ok b, l', s') ↔
      ∃ a l₁ s₁, exec h x l s = (.ok a, l₁, s₁) ∧ exec h (f a) l₁ s₁ = (.ok b, l', s') := by
  rw [exec_bind]
  rcases exec h x l s with ⟨e | a, l₁, s₁⟩
  · simp
  · simp

/-- A handled script ends as its body does, or as the handler does on what the body raised. -/
theorem exec_tryCatch (x : Script Op Ans ε L α) (f : ε → Script Op Ans ε L α) :
    exec h (tryCatch x f) l s = match exec h x l s with
      | (.ok a, l', s') => (.ok a, l', s')
      | (.error e, l', s') => exec h (f e) l' s' := by
  unfold exec
  rw [prog_tryCatch, Prog.run_bind]
  rcases (x.prog l).run h s with ⟨⟨e | a, l'⟩, s'⟩ <;> rfl

/-- A scope has its own locals, and the outer ones are there again after it. -/
@[simp]
theorem exec_scope {L' : Type} (l' : L') (x : Script Op Ans ε L' α) :
    exec h (scope l' x) l s = ((exec h x l' s).1, l, (exec h x l' s).2.2) := by
  have inner : (scope l' x : Script Op Ans ε L α).prog l
      = x.prog l' >>= fun r => pure (r.1, l) := by
    change Prog.bind (Prog.bind (x.prog l') _) _ = Prog.bind (x.prog l') _
    exact Prog.bind_assoc _ _ _
  unfold exec
  rw [inner, Prog.run_bind]
  rfl

end Exec

/-! ## Preconditions and postconditions -/

/-- From a start that satisfies `P`, the script returns in `Q` or raises in `R`. -/
def Triple (h : Handler Op Ans σ) (P : L → σ → Prop) (x : Script Op Ans ε L α)
    (Q : α → L → σ → Prop) (R : ε → L → σ → Prop) : Prop :=
  ∀ l s, P l s → match exec h x l s with
    | (.ok a, l', s') => Q a l' s'
    | (.error e, l', s') => R e l' s'

/-- The script keeps the invariant `I` however it ends, and raises only exceptions of `E`. -/
def Keeps (h : Handler Op Ans σ) (I : L → σ → Prop) (E : ε → Prop)
    (x : Script Op Ans ε L α) : Prop :=
  Triple h I x (fun _ => I) (fun e l s => I l s ∧ E e)

section Rules

variable {h : Handler Op Ans σ} {P P' I : L → σ → Prop} {E E' : ε → Prop}
variable {Q Q' : α → L → σ → Prop} {R R' : ε → L → σ → Prop}

/-- The rule of a return. -/
theorem Triple.pure {a : α} (hQ : ∀ l s, P l s → Q a l s) :
    Triple h P (pure a : Script Op Ans ε L α) Q R := hQ

/-- The rule of an exception. -/
theorem Triple.throw {e : ε} (hR : ∀ l s, P l s → R e l s) :
    Triple h P (throw e : Script Op Ans ε L α) Q R := hR

/-- The rule of a single operation. -/
theorem Triple.perform {o : Op} {Q : Ans o → L → σ → Prop}
    (hQ : ∀ l s, P l s → Q (h o s).1 l (h o s).2) :
    Triple h P (perform o : Script Op Ans ε L (Ans o)) Q R := hQ

/-- The rule of reading the locals. -/
theorem Triple.get {Q : L → L → σ → Prop} (hQ : ∀ l s, P l s → Q l l s) :
    Triple h P (get : Script Op Ans ε L L) Q R := hQ

/-- The rule of changing the locals. -/
theorem Triple.modify {f : L → L} {Q : PUnit → L → σ → Prop}
    (hQ : ∀ l s, P l s → Q ⟨⟩ (f l) s) :
    Triple h P (modify f : Script Op Ans ε L PUnit) Q R := hQ

/-- The rule of composition. -/
theorem Triple.bind {x : Script Op Ans ε L α} {f : α → Script Op Ans ε L β}
    {S : β → L → σ → Prop} (hx : Triple h P x Q R) (hf : ∀ a, Triple h (Q a) (f a) S R) :
    Triple h P (x >>= f) S R := by
  intro l s hP
  have first := hx l s hP
  rw [exec_bind]
  generalize exec h x l s = r at first ⊢
  rcases r with ⟨e | a, l', s'⟩
  · exact first
  · exact hf a l' s' first

/-- What follows a read of the local objects may rely on them having satisfied the
precondition. -/
theorem Triple.get_bind {f : L → Script Op Ans ε L β} {S : β → L → σ → Prop}
    (hf : ∀ l, (∃ s, P l s) → Triple h P (f l) S R) :
    Triple h P ((MonadState.get : Script Op Ans ε L L) >>= f) S R := by
  intro l s hP
  rw [exec_bind, exec_get]
  exact hf l ⟨s, hP⟩ l s hP

/-- The rule of an exception's handler. -/
theorem Triple.tryCatch {x : Script Op Ans ε L α} {f : ε → Script Op Ans ε L α}
    (hx : Triple h P x Q R) (hf : ∀ e, Triple h (R e) (f e) Q R') :
    Triple h P (tryCatch x f) Q R' := by
  intro l s hP
  have body := hx l s hP
  rw [exec_tryCatch]
  generalize exec h x l s = r at body ⊢
  rcases r with ⟨e | a, l', s'⟩
  · exact hf e l' s' body
  · exact body

/-- The last part starts from where the first returned or raised. -/
theorem Triple.ensuring {x : Script Op Ans ε L α} {last : Script Op Ans ε L PUnit}
    {S : α → L → σ → Prop} (hx : Triple h P x Q R) (hQ : ∀ a, Triple h (Q a) last (fun _ => S a) R')
    (hR : ∀ e, Triple h (R e) last (fun _ => R' e) R') : Triple h P (ensuring x last) S R' := by
  unfold Script.ensuring
  apply Triple.bind (Q := Q)
  · apply Triple.tryCatch hx
    intro e
    exact Triple.bind (hR e) fun _ => Triple.throw fun _ _ => id
  · intro a
    exact Triple.bind (hQ a) fun _ => Triple.pure fun _ _ => id

/-- The rules of a script with its own local objects speak of the state alone outside it. -/
theorem Triple.scope {L' : Type} {l' : L'} {x : Script Op Ans ε L' α} {P : σ → Prop}
    {Q : α → σ → Prop} {R : ε → σ → Prop}
    (hx : Triple h (fun l s => l = l' ∧ P s) x (fun a _ => Q a) fun e _ => R e) :
    Triple h (fun _ => P) (Script.scope l' x : Script Op Ans ε L α) (fun a _ => Q a)
      fun e _ => R e := by
  intro l s hP
  have inner := hx l' s ⟨rfl, hP⟩
  rw [exec_scope]
  generalize exec h x l' s = r at inner ⊢
  rcases r with ⟨e | a, _, s'⟩
  · exact inner
  · exact inner

/-- The rule of consequence. -/
theorem Triple.conseq {x : Script Op Ans ε L α} (hx : Triple h P x Q R)
    (hP : ∀ l s, P' l s → P l s) (hQ : ∀ a l s, Q a l s → Q' a l s)
    (hR : ∀ e l s, R e l s → R' e l s) : Triple h P' x Q' R' := by
  intro l s start
  have ends := hx l s (hP l s start)
  generalize exec h x l s = r at ends ⊢
  rcases r with ⟨e | a, l', s'⟩
  · exact hR e l' s' ends
  · exact hQ a l' s' ends

/-- Two rules for one script. -/
theorem Triple.both {x : Script Op Ans ε L α} (hx : Triple h P x Q R) (hx' : Triple h P' x Q' R') :
    Triple h (fun l s => P l s ∧ P' l s) x (fun a l s => Q a l s ∧ Q' a l s)
      fun e l s => R e l s ∧ R' e l s := by
  intro l s start
  have one := hx l s start.1
  have other := hx' l s start.2
  generalize exec h x l s = r at one other ⊢
  rcases r with ⟨e | a, l', s'⟩
  · exact ⟨one, other⟩
  · exact ⟨one, other⟩

/-- A script that may start in either of two ways. -/
theorem Triple.either {x : Script Op Ans ε L α} (hx : Triple h P x Q R) (hx' : Triple h P' x Q R) :
    Triple h (fun l s => P l s ∨ P' l s) x Q R :=
  fun l s start => start.elim (hx l s) (hx' l s)

/-- A fact in the precondition that does not speak of the state. -/
theorem Triple.fact {p : Prop} {x : Script Op Ans ε L α} (hx : p → Triple h P x Q R) :
    Triple h (fun l s => p ∧ P l s) x Q R :=
  fun l s start => hx start.1 l s start.2

/-- Some object of which the precondition speaks. -/
theorem Triple.exists {ι : Type} {P : ι → L → σ → Prop} {x : Script Op Ans ε L α}
    (hx : ∀ i, Triple h (P i) x Q R) : Triple h (fun l s => ∃ i, P i l s) x Q R :=
  fun l s start => start.elim fun i => hx i l s

/-- The rule of a condition. -/
theorem Triple.ite {c : Prop} [Decidable c] {x y : Script Op Ans ε L α}
    (hx : c → Triple h P x Q R) (hy : ¬ c → Triple h P y Q R) :
    Triple h P (if c then x else y) Q R := by
  split
  · exact hx ‹_›
  · exact hy ‹_›

/-- A return keeps every invariant. -/
theorem Keeps.pure (a : α) : Keeps h I E (pure a : Script Op Ans ε L α) := fun _ _ hI => hI

/-- An exception keeps every invariant. -/
theorem Keeps.throw {e : ε} (he : E e) : Keeps h I E (throw e : Script Op Ans ε L α) :=
  fun _ _ hI => ⟨hI, he⟩

/-- A single operation keeps what its handler keeps. -/
theorem Keeps.perform {o : Op} (hI : ∀ l s, I l s → I l (h o s).2) :
    Keeps h I E (perform o : Script Op Ans ε L (Ans o)) := hI

theorem Keeps.get : Keeps h I E (get : Script Op Ans ε L L) := fun _ _ hI => hI

/-- Changing the locals keeps what the change keeps. -/
theorem Keeps.modify {f : L → L} (hI : ∀ l s, I l s → I (f l) s) :
    Keeps h I E (modify f : Script Op Ans ε L PUnit) := hI

/-- What keeps an invariant can be followed by what keeps it. -/
theorem Keeps.bind {x : Script Op Ans ε L α} {f : α → Script Op Ans ε L β}
    (hx : Keeps h I E x) (hf : ∀ a, Keeps h I E (f a)) : Keeps h I E (x >>= f) :=
  Triple.bind hx hf

/-- A handler keeps the invariant too. -/
theorem Keeps.tryCatch {x : Script Op Ans ε L α} {f : ε → Script Op Ans ε L α}
    (hx : Keeps h I E x) (hf : ∀ e, E e → Keeps h I E' (f e)) :
    Keeps h I E' (tryCatch x f) :=
  Triple.tryCatch hx fun e l s hI => hf e hI.2 l s hI.1

/-- Both branches keep the invariant. -/
theorem Keeps.ite {c : Prop} [Decidable c] {x y : Script Op Ans ε L α}
    (hx : c → Keeps h I E x) (hy : ¬ c → Keeps h I E y) : Keeps h I E (if c then x else y) :=
  Triple.ite hx hy

/-- The exceptions may be bounded more weakly. -/
theorem Keeps.imp {x : Script Op Ans ε L α} (hx : Keeps h I E x) (hE : ∀ e, E e → E' e) :
    Keeps h I E' x :=
  hx.conseq (fun _ _ => id) (fun _ _ _ => id) fun e _ _ hI => ⟨hI.1, hE e hI.2⟩

/-- An invariant of the state alone is kept through a scope. -/
theorem Keeps.scope {L' : Type} {l' : L'} {x : Script Op Ans ε L' α} {I : σ → Prop}
    (hx : Keeps h (fun _ => I) E x) :
    Keeps h (fun _ => I) E (Script.scope l' x : Script Op Ans ε L α) :=
  Triple.scope (hx.conseq (fun _ _ hI => hI.2) (fun _ _ _ => id) fun _ _ _ => id)

/-- A loop keeps what every round of it keeps. The induction is on the list it walks. -/
theorem Keeps.forM {xs : List α} {f : α → Script Op Ans ε L PUnit}
    (hf : ∀ a ∈ xs, Keeps h I E (f a)) : Keeps h I E (xs.forM f) := by
  induction xs with
  | nil => exact Keeps.pure _
  | cons a xs ih =>
    exact Keeps.bind (hf a List.mem_cons_self) fun _ =>
      ih fun b hb => hf b (List.mem_cons_of_mem a hb)

end Rules

end Script

/-! ## Fallible functions -/

/-- A sequence that succeeds does so in both its parts. -/
theorem bind_eq_ok {ε α β : Type} {x : Except ε α} {f : α → Except ε β} {b : β}
    (h : (x >>= f) = .ok b) : ∃ a, x = .ok a ∧ f a = .ok b := by
  cases x with
  | error => exact nomatch h
  | ok a => exact ⟨a, rfl, h⟩

theorem ok_of_toOption {ε α : Type} {x : Except ε α} {a : α} (h : x.toOption = some a) : x = .ok a := by
  cases x with
  | error e => cases h
  | ok b =>
    cases h
    rfl

end NodePilot.Lib
