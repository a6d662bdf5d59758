import NodePilot.Lib.Prog

/-!
# Runs, and programs side by side

A labelled transition function gives its runs: lists of labels, each step taken from the state the
last one left. `runFrom_keeps` is the invariant rule. It asks for the invariant only of steps that
meet a side condition, and `Along` says that every step of a run does.

A `Pool` is a number of programs over one shared state. A `System` says what one operation of one
program does to that state, and what else can happen around the programs, a new program being
started included. One step of a pool is one operation of one program, or one step of the
surroundings, so the runs of a pool are all the interleavings there are.
-/

namespace NodePilot.Lib

/-! ## Runs -/

section Runs

variable {Λ σ : Type}

/-- The state after a list of steps, `none` where one of them cannot be taken. -/
def runFrom (step : Λ → σ → Option σ) : List Λ → σ → Option σ
  | [], s => some s
  | l :: ls, s => (step l s).bind (runFrom step ls)

/-- The states of a run, the first one included, up to a step that cannot be taken. -/
def visited (step : Λ → σ → Option σ) : List Λ → σ → List σ
  | [], s => [s]
  | l :: ls, s => s :: match step l s with
    | some s' => visited step ls s'
    | none => []

/-- Every step of the run meets `C` in the state it is taken from. -/
def Along (step : Λ → σ → Option σ) (C : Λ → σ → Prop) : List Λ → σ → Prop
  | [], _ => True
  | l :: ls, s => C l s ∧ match step l s with
    | some s' => Along step C ls s'
    | none => True

instance Along.decidable (step : Λ → σ → Option σ) (C : Λ → σ → Prop)
    [∀ l s, Decidable (C l s)] : (ls : List Λ) → (s : σ) → Decidable (Along step C ls s)
  | [], _ => isTrue trivial
  | l :: ls, s =>
    match h : step l s with
    | some s' =>
      have := Along.decidable step C ls s'
      decidable_of_iff (C l s ∧ Along step C ls s') (by rw [Along, h])
    | none => decidable_of_iff (C l s) (by rw [Along, h]; exact (and_iff_left trivial).symm)

variable {step : Λ → σ → Option σ} {C : Λ → σ → Prop} {I : σ → Prop}

/-- **An invariant that every step meeting `C` keeps is kept by every run whose steps all do.** -/
theorem runFrom_keeps (hstep : ∀ l s s', I s → C l s → step l s = some s' → I s') {ls : List Λ}
    {s s' : σ} (start : I s) (along : Along step C ls s) (run : runFrom step ls s = some s') :
    I s' := by
  induction ls generalizing s with
  | nil =>
    cases run
    exact start
  | cons l ls ih =>
    obtain ⟨t, taken, rest⟩ := Option.bind_eq_some_iff.mp run
    obtain ⟨here, later⟩ := along
    rw [taken] at later
    exact ih (hstep l s t start here taken) later rest

theorem runFrom_append {ls ms : List Λ} {s : σ} :
    runFrom step (ls ++ ms) s = (runFrom step ls s).bind (runFrom step ms) := by
  induction ls generalizing s with
  | nil => rfl
  | cons l ls ih =>
    rw [List.cons_append, runFrom, runFrom, Option.bind_assoc]
    exact Option.bind_congr fun t _ => ih

/-- A run visits the state it ends in. -/
theorem mem_visited {ls : List Λ} {s s' : σ} (run : runFrom step ls s = some s') :
    s' ∈ visited step ls s := by
  induction ls generalizing s with
  | nil =>
    cases run
    exact List.mem_singleton_self _
  | cons l ls ih =>
    obtain ⟨t, taken, rest⟩ := Option.bind_eq_some_iff.mp run
    rw [visited, taken]
    exact List.mem_cons_of_mem s (ih rest)

/-- What a run visits keeps an invariant of its steps. -/
theorem visited_keeps (hstep : ∀ l s s', I s → C l s → step l s = some s' → I s') {ls : List Λ}
    {s t : σ} (start : I s) (along : Along step C ls s) (ht : t ∈ visited step ls s) : I t := by
  induction ls generalizing s with
  | nil =>
    rw [visited, List.mem_singleton] at ht
    exact ht ▸ start
  | cons l ls ih =>
    obtain ⟨here, later⟩ := along
    rcases List.mem_cons.mp ht with rfl | ht
    · exact start
    · cases taken : step l s with
      | none => simp [taken] at ht
      | some s' =>
        rw [taken] at ht later
        exact ih (hstep l s s' start here taken) later ht

/-- What a run shows of its states through `f`, once it shows something, goes on from one to the
next by `R`. -/
theorem visited_chain {β : Type} {f : σ → Option β} {R : β → β → Prop}
    (hstep : ∀ l s s', I s → step l s = some s' →
      I s' ∧ ∀ b, f s = some b → ∃ b', f s' = some b' ∧ R b b')
    {ls : List Λ} {s : σ} (start : I s) : List.IsChain R ((visited step ls s).filterMap f) := by
  induction ls generalizing s with
  | nil =>
    cases h : f s with
    | none => simp [visited, h]
    | some b => simp [visited, h]
  | cons l ls ih =>
    cases taken : step l s with
    | none => cases h : f s <;> simp [visited, taken, h]
    | some s' =>
      obtain ⟨kept, next⟩ := hstep l s s' start taken
      have rest := ih kept
      have head : ∃ later, visited step ls s' = s' :: later := by cases ls <;> exact ⟨_, rfl⟩
      obtain ⟨later, hlater⟩ := head
      cases h : f s with
      | none => simpa [visited, taken, h] using rest
      | some b =>
        obtain ⟨b', hb', hR⟩ := next b h
        simp only [visited, taken, hlater, List.filterMap_cons, h, hb'] at rest ⊢
        exact .cons_cons hR rest

/-- **Exactly when a property holds all along a run.** Steps that meet `C` keep an invariant that
gives the property, and a step after which the property holds has met `C`; `F` restricts the steps
that are considered. -/
theorem visited_iff {P : σ → Prop} {F : Λ → σ → Prop} (gives : ∀ s, I s → P s)
    (hstep : ∀ l s s', I s → F l s → step l s = some s' → (C l s → I s') ∧ (P s' → C l s))
    (refused : ∀ l s, step l s = none → C l s) {ls : List Λ} {s : σ} (start : I s)
    (along : Along step F ls s) : (∀ t ∈ visited step ls s, P t) ↔ Along step C ls s := by
  induction ls generalizing s with
  | nil => simpa [visited, Along] using gives s start
  | cons l ls ih =>
    obtain ⟨here, later⟩ := along
    cases taken : step l s with
    | none => simpa [visited, Along, taken] using iff_of_true (gives s start) (refused l s taken)
    | some s' =>
      rw [taken] at later
      obtain ⟨keeps, meets⟩ := hstep l s s' start here taken
      have head : s' ∈ visited step ls s' := by cases ls <;> exact List.mem_cons_self
      simp only [visited, Along, taken, List.forall_mem_cons]
      constructor
      · rintro ⟨-, rest⟩
        have met := meets (rest s' head)
        exact ⟨met, (ih (keeps met) later).mp rest⟩
      · rintro ⟨met, rest⟩
        exact ⟨gives s start, (ih (keeps met) later).mpr rest⟩

/-- Two conditions that hold along a run hold along it together. -/
theorem Along.and {D : Λ → σ → Prop} {ls : List Λ} {s : σ} (hC : Along step C ls s)
    (hD : Along step D ls s) : Along step (fun l s => C l s ∧ D l s) ls s := by
  induction ls generalizing s with
  | nil => trivial
  | cons l ls ih =>
    refine ⟨⟨hC.1, hD.1⟩, ?_⟩
    have laterC := hC.2
    have laterD := hD.2
    split
    · next taken =>
      rw [taken] at laterC laterD
      exact ih laterC laterD
    · trivial

/-- A condition holds along a run of two parts if it does along each. -/
theorem Along.append {ls ms : List Λ} {s : σ} : Along step C (ls ++ ms) s ↔
    Along step C ls s ∧ ∀ t, runFrom step ls s = some t → Along step C ms t := by
  induction ls generalizing s with
  | nil => simp [Along, runFrom]
  | cons l ls ih =>
    rw [List.cons_append, Along, Along, runFrom, and_assoc, and_congr_right_iff]
    intro _
    cases step l s with
    | none => simp
    | some s' => exact ih

/-- Where an invariant of the run turns one condition on its steps into another. -/
theorem Along.implies {D : Λ → σ → Prop} {ls : List Λ} {s : σ} (hC : Along step C ls s)
    (hstep : ∀ l s s', I s → C l s → step l s = some s' → I s')
    (turns : ∀ l s, I s → C l s → D l s) (start : I s) : Along step D ls s := by
  induction ls generalizing s with
  | nil => trivial
  | cons l ls ih =>
    refine ⟨turns l s start hC.1, ?_⟩
    have later := hC.2
    split
    · next s' taken =>
      rw [taken] at later
      exact ih later (hstep l s s' start hC.1 taken)
    · trivial

/-- A condition that some steps meet anyway need not be checked along them. -/
theorem Along.of_forall {ls : List Λ} (h : ∀ l ∈ ls, ∀ s, C l s) (s : σ) : Along step C ls s := by
  induction ls generalizing s with
  | nil => trivial
  | cons l ls ih =>
    refine ⟨h l List.mem_cons_self s, ?_⟩
    split
    · exact ih (fun l' hl' => h l' (List.mem_cons_of_mem l hl')) _
    · trivial

end Runs

/-! ## Pools -/

/-- A program in flight: what it still has to do, and what it was started for. -/
structure Thread (ι Op : Type) (Ans : Op → Type) (ρ : Type) where
  tag : ι
  rest : Prog Op Ans ρ

/-- Programs in flight over a shared state. A program that has ended keeps its place. -/
structure Pool (ι Op : Type) (Ans : Op → Type) (ρ σ : Type) where
  threads : List (Thread ι Op Ans ρ) := []
  shared : σ

/-- What can happen in a pool, `none` where it cannot happen now. `C` is what the surroundings
decide about an operation. -/
structure System (ι Op : Type) (Ans : Op → Type) (ρ σ C E : Type) where
  /-- One operation of the thread at an index. -/
  act : C → Nat → (o : Op) → σ → Option (Ans o × σ)
  /-- A step of the surroundings, with the threads that it starts. -/
  env : E → σ → Option (List (Thread ι Op Ans ρ) × σ)

/-- One step of a pool. -/
inductive Label (C E : Type)
  | act (thread : Nat) (choice : C)
  | env (event : E)

namespace System

variable {ι Op : Type} {Ans : Op → Type} {ρ σ C E : Type}

/-- The pool after one step. -/
def step (S : System ι Op Ans ρ σ C E) : Label C E → Pool ι Op Ans ρ σ → Option (Pool ι Op Ans ρ σ)
  | .act i c, p =>
    match p.threads[i]? with
    | some ⟨tag, .vis o k⟩ =>
      (S.act c i o p.shared).map fun r => ⟨p.threads.set i ⟨tag, k r.1⟩, r.2⟩
    | _ => none
  | .env e, p => (S.env e p.shared).map fun r => ⟨p.threads ++ r.1, r.2⟩

variable {S : System ι Op Ans ρ σ C E} {p p' : Pool ι Op Ans ρ σ}

theorem step_act {i : Nat} {c : C} (h : S.step (.act i c) p = some p') :
    ∃ tag o k a s, p.threads[i]? = some ⟨tag, .vis o k⟩ ∧ S.act c i o p.shared = some (a, s) ∧
      p' = ⟨p.threads.set i ⟨tag, k a⟩, s⟩ := by
  simp only [step] at h
  split at h
  · next tag o k hi =>
    obtain ⟨⟨a, s⟩, hact, hp⟩ := Option.map_eq_some_iff.mp h
    exact ⟨tag, o, k, a, s, hi, hact, hp.symm⟩
  · cases h

theorem step_env {e : E} (h : S.step (.env e) p = some p') :
    ∃ ts s, S.env e p.shared = some (ts, s) ∧ p' = ⟨p.threads ++ ts, s⟩ := by
  obtain ⟨⟨ts, s⟩, henv, hp⟩ := Option.map_eq_some_iff.mp h
  exact ⟨ts, s, henv, hp.symm⟩

end System

end NodePilot.Lib
