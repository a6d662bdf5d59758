import Mathlib.Data.List.Induction
import Mathlib.Data.List.Infix
import NodePilot.Laws.CreateOnce.Single

/-!
# One VM for each key

Of the calls of one user under one key, one at most makes a VM. The others do not get that VM: whoever comes
after the commit fails. A call that is not overtaken by another one's commit sees the database as it would by
itself, and ends as it would.
-/

namespace NodePilot.Creation

open Lib

/-! ## A call by itself -/

section Alone

variable {hidden : Nat → Bool} {s s' t : Db} {i : Nat}

/-- The second database is without what the hidden calls have inserted so far. -/
structure Hides (hidden : Nat → Bool) (s t : Db) : Prop where
  rows : t.rows = s.rows
  pending : ∀ j, t.pending j = if hidden j then {} else s.pending j
  drawn : t.drawn ⊆ s.drawn
  calls : t.calls = s.calls

/-- With fewer rows of others in the way, there is no more to wait for. -/
theorem brokenBy_mono {ρ : Type} {row : ρ} {seen others others' : List ρ} {us : List (Unique ρ)}
    {b : Option String} (fewer : others' ⊆ others) (h : brokenBy row seen others us = some b) :
    brokenBy row seen others' us = some b := by
  induction us with
  | nil => exact h
  | cons u us ih =>
    rw [brokenBy] at h ⊢
    split at h
    · next clash =>
      rw [if_pos clash]
      exact h
    · next unseen =>
      rw [if_neg unseen]
      split at h
      · cases h
      · next apart =>
        rw [if_neg, ih h]
        intro clash
        obtain ⟨x, hx, clash⟩ := List.any_eq_true.mp clash
        exact apart (List.any_eq_true.mpr ⟨x, fewer hx, clash⟩)

theorem Hides.seen (h : Hides hidden s t) (shown : hidden i = false) : t.seen i = s.seen i := by
  rw [Db.seen, Db.seen, h.rows, h.pending i, shown]
  rfl

theorem Hides.elsewhere {ρ : Type} {b : Table ρ} (h : Hides hidden s t) :
    t.elsewhere i b ⊆ s.elsewhere i b := by
  intro row mem
  obtain ⟨j, called, other, mem⟩ := mem_elsewhere.mp mem
  rw [h.pending j] at mem
  split at mem
  · rw [b.rows_empty] at mem
    cases mem
  · exact mem_elsewhere.mpr ⟨j, by rwa [← h.calls], other, mem⟩

theorem Hides.setPending {rows : Rows} (h : Hides hidden s t) (shown : hidden i = false) :
    Hides hidden (s.setPending i rows) (t.setPending i rows) := by
  refine ⟨h.rows, fun j => ?_, h.drawn, h.calls⟩
  by_cases same : j = i
  · subst same
    simp [shown]
  · rw [Db.setPending_ne same, Db.setPending_ne same, h.pending j]

/-- A quiet step of a hidden call changes nothing that is shown. -/
theorem Hides.skip (h : Hides hidden s t) (hid : hidden i) (quiet : s.Quiet i s') :
    Hides hidden s' t := by
  refine ⟨h.rows.trans quiet.rows.symm, fun j => ?_, fun x hx => quiet.drawn (h.drawn hx),
    h.calls.trans quiet.calls.symm⟩
  rw [h.pending j]
  by_cases same : j = i
  · rw [same, if_pos hid, if_pos hid]
  · rw [quiet.pending j same]

theorem Hides.insert {ρ : Type} {c : Choice} {b : Table ρ} {row : ρ} {r : Except Exn ρ}
    (h : Hides hidden s t) (shown : hidden i = false) (act : s.insert c i b row = some (r, s')) :
    ∃ t', t.insert c i b row = some (r, t') ∧ Hides hidden s' t' := by
  unfold Db.insert at act ⊢
  split at act
  · cases act
    exact ⟨t, rfl, h⟩
  · split at act
    · cases act
    · next fresh =>
      rw [if_neg fun used => fresh (h.drawn used)]
      have hides : Hides hidden { s with drawn := (b.name, c.pk) :: s.drawn }
          { t with drawn := (b.name, c.pk) :: t.drawn } :=
        ⟨h.rows, h.pending, List.cons_subset_cons _ h.drawn, h.calls⟩
      have agree {x : Option String} (found : brokenBy row
          (b.rows (Db.seen { s with drawn := (b.name, c.pk) :: s.drawn } i))
          (Db.elsewhere { s with drawn := (b.name, c.pk) :: s.drawn } i b) b.constraints = some x) :
          brokenBy row (b.rows (Db.seen { t with drawn := (b.name, c.pk) :: t.drawn } i))
            (Db.elsewhere { t with drawn := (b.name, c.pk) :: t.drawn } i b) b.constraints = some x := by
        rw [hides.seen shown]
        exact brokenBy_mono hides.elsewhere found
      simp only at act ⊢
      split at act
      · cases act
      · next broken =>
        cases act
        rw [agree broken]
        exact ⟨_, rfl, hides⟩
      · next fits =>
        cases act
        rw [agree fits]
        refine ⟨_, rfl, ?_⟩
        have pending : t.pending i = s.pending i := by rw [h.pending i, shown]; rfl
        simp only [pending]
        exact hides.setPending shown

/-- A call that is shown gets the same answers. -/
theorem Hides.act {c : Choice} {o : Op} {a : Ans o} (h : Hides hidden s t) (shown : hidden i = false)
    (act : Db.act c i o s = some (a, s')) :
    ∃ t', Db.act c i o t = some (a, t') ∧ Hides hidden s' t' := by
  have pending : t.pending i = s.pending i := by
    rw [h.pending i, shown]
    rfl
  cases o with
  | enter | rollback =>
    cases act
    exact ⟨_, rfl, h.setPending shown⟩
  | leave =>
    simp only [Db.act] at act ⊢
    split at act
    · cases act
      exact ⟨_, rfl, h.setPending shown⟩
    · cases act
      refine ⟨_, rfl, ?_⟩
      have left : Hides hidden (s.setPending i {}) (t.setPending i {}) := h.setPending shown
      exact ⟨h.seen shown, left.pending, left.drawn, left.calls⟩
  | read | selectNode =>
    cases act
    refine ⟨t, ?_, h⟩
    simp only [Db.act, h.seen shown]
  | generateMacAddress =>
    cases act
    exact ⟨t, rfl, h⟩
  | reserve =>
    simp only [Db.act, h.seen shown] at act ⊢
    split at act <;> cases act <;> exact ⟨t, rfl, h⟩
  | insertVm | insertDisk | insertNic | insertJob => exact h.insert shown act
  | delay job vm =>
    simp only [Db.act] at act ⊢
    split at act
    · cases act
      exact ⟨t, rfl, h⟩
    · cases act
      exact ⟨_, rfl, h.rows, h.pending, h.drawn, h.calls⟩

/-! ### Runs -/

/-- The second pool has the same calls, of which the hidden ones have done nothing. -/
structure Shadow (hidden : Nat → Bool) (p q : Calls) : Prop where
  length : q.threads.length = p.threads.length
  threads : ∀ j, hidden j = false → q.threads[j]? = p.threads[j]?
  shared : Hides hidden p.shared q.shared

variable {p p' q : Calls} {c : Choice}

theorem Shadow.act (h : Shadow hidden p q) (shown : hidden i = false)
    (step : system.step (.act i c) p = some p') :
    ∃ q', system.step (.act i c) q = some q' ∧ Shadow hidden p' q' := by
  obtain ⟨tag, o, k, a, s, hi, hact, rfl⟩ := System.step_act step
  obtain ⟨t, taken, hides⟩ := h.shared.act shown hact
  refine ⟨⟨q.threads.set i ⟨tag, k a⟩, t⟩, ?_, ?_, fun j hj => ?_, hides⟩
  · rw [← h.threads i shown] at hi
    have taken : system.act c i o q.shared = some (a, t) := taken
    simp only [System.step, hi, taken, Option.map_some]
  · simp [h.length]
  · simp only [List.getElem?_set, h.length, h.threads j hj]

theorem Shadow.env {e : Event} (h : Shadow hidden p q) (step : system.step (.env e) p = some p') :
    ∃ q', system.step (.env e) q = some q' ∧ Shadow hidden p' q' := by
  obtain ⟨ts, s, hs, rfl⟩ := System.step_env step
  have appended (new : List Call) : ∀ j, hidden j = false →
      (q.threads ++ new)[j]? = (p.threads ++ new)[j]? := by
    intro j hj
    simp only [List.getElem?_append, h.length, h.threads j hj]
  cases e with
  | call spec =>
    cases hs
    refine ⟨_, rfl, by simp [h.length], appended _, h.shared.rows, h.shared.pending, h.shared.drawn, ?_⟩
    exact congrArg (· ++ [spec]) h.shared.calls
  | elsewhere e =>
    cases hs
    refine ⟨_, rfl, by simp [h.length], appended _, ?_, h.shared.pending, h.shared.drawn,
      h.shared.calls⟩
    exact congrArg e.change h.shared.rows

/-- What a step adds to the log is of the call that takes it. -/
theorem act_log (step : system.step (.act i c) p = some p') :
    p.shared.log ⊆ p'.shared.log ∧ ∀ x ∈ p'.shared.log, x ∈ p.shared.log ∨ x.1 = i := by
  obtain ⟨tag, o, k, a, s, -, hact, rfl⟩ := System.step_act step
  have added (e : Entry) : ∀ x ∈ p.shared.log ++ [(i, e)], x ∈ p.shared.log ∨ x.1 = i := by
    intro x hx
    rcases List.mem_append.mp hx with old | new
    · exact .inl old
    · exact .inr (by rw [List.mem_singleton.mp new])
  rcases Db.act_cases hact with quiet | ⟨-, rfl⟩ | ⟨job, vm, rfl⟩
  · exact ⟨fun x hx => by rwa [quiet.log], fun x hx => .inl (by rwa [quiet.log] at hx)⟩
  · exact ⟨List.subset_append_left _ _, added _⟩
  · exact ⟨List.subset_append_left _ _, added _⟩

/-- A hidden call that has done nothing yet. -/
theorem Shadow.skip (h : Shadow hidden p q) (hid : hidden i) (step : system.step (.act i c) p = some p')
    (nothing : ∀ x ∈ p'.shared.log, hidden x.1 = false) : Shadow hidden p' q := by
  obtain ⟨tag, o, k, a, s, -, hact, rfl⟩ := System.step_act step
  have quiet : p.shared.Quiet i s := by
    rcases Db.act_cases hact with quiet | ⟨-, rfl⟩ | ⟨job, vm, rfl⟩
    · exact quiet
    · have := nothing (i, _) (List.mem_append_right _ (List.mem_singleton_self _))
      rw [hid] at this
      cases this
    · have := nothing (i, _) (List.mem_append_right _ (List.mem_singleton_self _))
      rw [hid] at this
      cases this
  refine ⟨by simp [h.length], fun j hj => ?_, h.shared.skip hid quiet⟩
  have other : i ≠ j := by
    rintro rfl
    rw [hid] at hj
    cases hj
  rw [h.threads j hj]
  exact (List.getElem?_set_ne other).symm

/-- The steps that are not of a hidden call. -/
def shownSteps (hidden : Nat → Bool) (ls : List (Label Choice Event)) : List (Label Choice Event) :=
  ls.filter fun
    | .act i _ => !hidden i
    | .env _ => true

/-- A call keeps its arguments. -/
theorem calls_step {l : Label Choice Event} (step : system.step l p = some p') {j : Nat} {spec : NewVm}
    (h : p.shared.calls[j]? = some spec) : p'.shared.calls[j]? = some spec := by
  cases l with
  | act i c =>
    obtain ⟨tag, o, k, a, s, -, hact, rfl⟩ := System.step_act step
    show s.calls[j]? = some spec
    rwa [act_calls hact]
  | env event =>
    obtain ⟨ts, s, hs, rfl⟩ := System.step_env step
    cases event with
    | call new =>
      cases hs
      exact (List.getElem?_append_left (List.getElem?_eq_some_iff.mp h).1).trans h
    | elsewhere e =>
      cases hs
      exact h

/-- The steps of the others do not make a call raise. -/
theorem raised_act {e : Exn} (h : Raised p' i e) {j : Nat} (other : j ≠ i)
    (step : system.step (.act j c) p = some p') : Raised p i e := by
  obtain ⟨spec, l, thread⟩ := h
  obtain ⟨tag, o, k, a, s, -, -, rfl⟩ := System.step_act step
  exact ⟨spec, l, (List.getElem?_set_ne other).symm.trans thread⟩

theorem raised_env {e : Exn} {event : Event} (h : Raised p' i e)
    (step : system.step (.env event) p = some p') : Raised p i e := by
  obtain ⟨spec, l, thread⟩ := h
  obtain ⟨ts, s, hs, rfl⟩ := System.step_env step
  by_cases old : i < p.threads.length
  · exact ⟨spec, l, (List.getElem?_append_left old).symm.trans thread⟩
  · have new : ts[i - p.threads.length]? = some ⟨spec, .ret (.error e, l)⟩ :=
      (List.getElem?_append_right (Nat.not_lt.mp old)).symm.trans thread
    cases event with
    | call spec' =>
      cases hs
      -- a new call has all its statements to come
      have mem := List.mem_of_getElem? new
      rw [List.mem_singleton] at mem
      cases mem
    | elsewhere e =>
      cases hs
      cases new

variable {user : Nat} {key : String} {ls : List (Label Choice Event)}

/-- What is known of a call after a run, where the calls of `hidden` are the others under its key. Either
none of those has done anything, and the run goes without their steps; or the call has raised before, in
a part of the run that goes without them. -/
def Apart (hidden : Nat → Bool) (i : Nat) (ls : List (Label Choice Event)) (p : Calls) : Prop :=
  (∀ x ∈ p.shared.log, hidden x.1 = false) ∧
    (∃ q, runFrom system.step (shownSteps hidden ls) start = some q ∧ Shadow hidden p q) ∨
  (∃ x ∈ p.shared.log, hidden x.1) ∧ ∀ e, Raised p i e → ∃ before, before <+: ls ∧
    ∃ q, runFrom system.step (shownSteps hidden before) start = some q ∧ Raised q i e

theorem Apart.raised (h : Apart hidden i ls p) (shown : hidden i = false) {e : Exn}
    (raised : Raised p i e) : ∃ before, before <+: ls ∧
      ∃ q, runFrom system.step (shownSteps hidden before) start = some q ∧ Raised q i e := by
  rcases h with ⟨-, q, run, shadow⟩ | ⟨-, before⟩
  · obtain ⟨spec, l, thread⟩ := raised
    exact ⟨ls, List.prefix_refl ls, q, run, spec, l, (shadow.threads i shown).trans thread⟩
  · exact before e raised

theorem apart_step {l : Label Choice Event} (h : Apart hidden i ls p) (shown : hidden i = false)
    (sound : Sound p) (step : system.step l p = some p') (only : Unovertaken user key l p)
    (ours : ∀ j spec, p.shared.calls[j]? = some spec → hidden j ∨ j = i → spec.under user key) :
    Apart hidden i (ls ++ [l]) p' := by
  have longer {before : List (Label Choice Event)} (h : before <+: ls) : before <+: ls ++ [l] :=
    h.trans (List.prefix_append ls [l])
  cases l with
  | act j c =>
    obtain ⟨grown, added⟩ := act_log step
    by_cases hid : hidden j
    · have dropped : shownSteps hidden (ls ++ [.act j c]) = shownSteps hidden ls := by
        simp [shownSteps, hid]
      have other : j ≠ i := by
        rintro rfl
        rw [shown] at hid
        cases hid
      by_cases nothing : ∀ x ∈ p'.shared.log, hidden x.1 = false
      · rcases h with ⟨-, q, run, shadow⟩ | ⟨⟨x, hx, late⟩, -⟩
        · exact .inl ⟨nothing, q, by rwa [dropped], shadow.skip hid step nothing⟩
        · rw [nothing x (grown hx)] at late
          cases late
      · refine .inr ⟨by simpa using nothing, fun e raised => ?_⟩
        obtain ⟨before, sub, alone⟩ := h.raised shown (raised_act raised other step)
        exact ⟨before, longer sub, alone⟩
    · have kept : shownSteps hidden (ls ++ [.act j c]) = shownSteps hidden ls ++ [.act j c] := by
        simp [shownSteps, hid]
      rcases h with ⟨nothing, q, run, shadow⟩ | ⟨⟨x, hx, late⟩, before⟩
      · obtain ⟨q', taken, shadow'⟩ := shadow.act (by simpa using hid) step
        refine .inl ⟨fun x hx => ?_, q', ?_, shadow'⟩
        · rcases added x hx with old | rfl
          · exact nothing x old
          · simpa using hid
        · rw [kept, runFrom_append, run]
          simp [runFrom, taken]
      · refine .inr ⟨⟨x, grown hx, late⟩, fun e raised => ?_⟩
        by_cases same : j = i
        · -- the call would have gone on after another one's commit
          subst same
          obtain ⟨tag, o, k, a, s, running, -, -⟩ := System.step_act step
          have called : j < p.shared.calls.length := by
            rw [← sound.calls]
            exact (List.getElem?_eq_some_iff.mp running).1
          have mine : p.shared.under user key j :=
            under_iff.mpr ⟨_, List.getElem?_eq_getElem called,
              ours j _ (List.getElem?_eq_getElem called) (.inr rfl)⟩
          obtain ⟨spec, calledX, -⟩ := sound.ending.inv.entry hx
          have theirs : p.shared.under user key x.1 :=
            under_iff.mpr ⟨spec, calledX, ours x.1 spec calledX (.inl late)⟩
          rw [only mine x hx theirs] at late
          exact absurd late hid
        · obtain ⟨before', sub, alone⟩ := before e (raised_act raised same step)
          exact ⟨before', longer sub, alone⟩
  | env event =>
    have log : p'.shared.log = p.shared.log := by
      obtain ⟨ts, s, hs, rfl⟩ := System.step_env step
      cases event <;> cases hs <;> rfl
    have kept : shownSteps hidden (ls ++ [.env event]) = shownSteps hidden ls ++ [.env event] := by
      simp [shownSteps]
    rcases h with ⟨nothing, q, run, shadow⟩ | ⟨late, before⟩
    · obtain ⟨q', taken, shadow'⟩ := shadow.env step
      refine .inl ⟨by rwa [log], q', ?_, shadow'⟩
      rw [kept, runFrom_append, run]
      simp [runFrom, taken]
    · refine .inr ⟨by rwa [log], fun e raised => ?_⟩
      obtain ⟨before', sub, alone⟩ := before e (raised_env raised step)
      exact ⟨before', longer sub, alone⟩

/-- The induction is on the run, from its end: the calls of the whole run tell which ones are hidden. -/
theorem apart_run (shown : hidden i = false) (run : runFrom system.step ls start = some p)
    (along : Along system.step (Unovertaken user key) ls start)
    (ours : ∀ j spec, p.shared.calls[j]? = some spec → hidden j ∨ j = i → spec.under user key) :
    Apart hidden i ls p := by
  induction ls using List.reverseRecOn generalizing p with
  | nil =>
    cases run
    refine .inl ⟨fun x hx => ?_, start, rfl, rfl, fun _ _ => rfl, rfl, fun j => ?_,
      List.Subset.refl _, rfl⟩
    · cases hx
    · exact (ite_self _).symm
  | append_singleton ls l ih =>
    obtain ⟨before, last⟩ := Along.append.mp along
    rw [runFrom_append] at run
    obtain ⟨p₀, run₀, step⟩ := Option.bind_eq_some_iff.mp run
    have step : system.step l p₀ = some p := by simpa [runFrom] using step
    have ours₀ : ∀ j spec, p₀.shared.calls[j]? = some spec → hidden j ∨ j = i → spec.under user key :=
      fun j spec called => ours j spec (calls_step step called)
    exact apart_step (ih run₀ before ours₀) shown (sound run₀) step (last p₀ run₀).1 ours₀

end Alone

/-! ## `create_vm` under one key -/

/-- The other calls of the user under the key. -/
def others (user : Nat) (key : String) (p : Calls) (i j : Nat) : Bool :=
  j ≠ i ∧ p.shared.under user key j

/-- Whatever a call of the user under the key has raised, it raises by itself: in the run up to there, less
the steps of the others. -/
def OwnErrors (user : Nat) (key : String) (ls : List (Label Choice Event)) (p : Calls) : Prop :=
  ∀ i e, p.shared.under user key i → Raised p i e → ∃ before, before <+: ls ∧
    ∃ q, runFrom system.step (shownSteps (others user key p i) before) start = some q ∧ Raised q i e

/-- **Calls under one key that are not overtaken**: one VM, one job, one task, and no error but their own.
The first three hold in every run in which the rest of the program leaves the job. -/
theorem createVm_once {user : Nat} {key : String} (nonempty : key ≠ "")
    {ls : List (Label Choice Event)} {p : Calls} (run : runFrom system.step ls start = some p) :
    (Along system.step (Unovertaken user key) ls start →
      Idempotent user key p ∧ OwnErrors user key ls p) ∧
    (Along system.step (JobsKept user key) ls start → Idempotent user key p) ∧
    ((∀ e, .env (.elsewhere e) ∉ ls) → p.shared.rows = p.shared.made) := by
  have idempotent (single : p.shared.Single user key) : Idempotent user key p :=
    idempotent_of_single (sound run) (tabled nonempty run) single
  refine ⟨fun along => ⟨idempotent (single_unovertaken run along), fun i e under raised => ?_⟩,
    fun along => idempotent (single_jobsKept nonempty run along), rows_made run⟩
  have shown : others user key p i i = false := by simp [others]
  refine (apart_run shown run along fun j spec called which => ?_).raised shown raised
  have under : p.shared.under user key j := by
    rcases which with hid | rfl
    · simp only [others, decide_eq_true_eq] at hid
      exact hid.2
    · exact under
  obtain ⟨spec', called', here⟩ := under_iff.mp under
  rw [called] at called'
  cases called'
  exact here

/-! ### Two calls -/

instance (user : Nat) (key : String) : (l : Label Choice Event) → (p : Calls) →
    Decidable (Unovertaken user key l p)
  | .act i _, p => inferInstanceAs (Decidable (p.shared.under user key i →
      ∀ x ∈ p.shared.log, p.shared.under user key x.1 → x.1 = i))
  | .env _, _ => isTrue trivial

/-- A VM with one disk, on a node that was asked for. -/
def small : NewVm where
  organization := 1
  project := 1
  name := "web"
  createdBy := 1
  node := some 1
  disks := [{ storage := some 1, sizeBytes := 1024 ^ 3 }]
  idempotencyKey := "1"

/-- The statements of such a call up to its commit, with keys from `pk` on. -/
def statements (i pk : Nat) : List (Label Choice Event) :=
  [.act i {}, .act i {}, .act i {}, .act i { pk := pk }, .act i { pk := pk }, .act i { pk := pk }]

/-- The second call begins before the first one, whose commit fails. -/
def retried : List (Label Choice Event) :=
  [.env (.call small), .env (.call small), .act 1 {}, .act 1 {}] ++ statements 0 1 ++
    [.act 0 { fails := some .databaseError }] ++ (statements 1 2).drop 2 ++ [.act 1 {}, .act 1 {}]

theorem createVm_once_retried : ∃ p, runFrom system.step retried start = some p ∧
    Idempotent 1 "1" p ∧ OwnErrors 1 "1" retried p := by
  obtain ⟨p, run⟩ : ∃ p, runFrom system.step retried start = some p :=
    Option.isSome_iff_exists.mp (by decide +kernel)
  exact ⟨p, run, (createVm_once (by decide) run).1 (by decide +kernel)⟩

/-- One call after the other. -/
def replayed : List (Label Choice Event) :=
  [.env (.call small)] ++ statements 0 1 ++ [.act 0 {}, .act 0 {}] ++
    [.env (.call small), .act 1 {}, .act 1 {}, .act 1 {}]

/-- What the second call has raised. -/
def raisedBy (p : Calls) (i : Nat) : Option Exn :=
  match p.threads[i]? with
  | some ⟨_, .ret (.error e, _)⟩ => some e
  | _ => none

theorem raised_iff {p : Calls} {i : Nat} {e : Exn} : Raised p i e ↔ raisedBy p i = some e := by
  unfold raisedBy
  constructor
  · rintro ⟨spec, l, thread⟩
    rw [thread]
  · intro h
    split at h
    · next spec e' l thread =>
      cases h
      exact ⟨spec, l, thread⟩
    · cases h

/-- The second call finds the VM, and fails with `AttributeError`. By itself it does not. -/
theorem replay_raises : ¬ ∀ (user : Nat) (key : String), key ≠ "" → ∀ (ls : List (Label Choice Event))
    (p : Calls), runFrom system.step ls start = some p →
      Idempotent user key p ∧ OwnErrors user key ls p := by
  intro once
  obtain ⟨p, run⟩ : ∃ p, runFrom system.step replayed start = some p :=
    Option.isSome_iff_exists.mp (by decide +kernel)
  have raised : (runFrom system.step replayed start).bind (raisedBy · 1) = some .attributeError := by
    decide +kernel
  have calls : (runFrom system.step replayed start).map (fun p =>
      (p.shared.calls.length, p.shared.under 1 "1" 0, p.shared.under 1 "1" 1)) = some (2, true, true) := by
    decide +kernel
  rw [run] at raised calls
  obtain ⟨length, first, second⟩ : p.shared.calls.length = 2 ∧ p.shared.under 1 "1" 0 ∧
      p.shared.under 1 "1" 1 := by simpa using calls
  obtain ⟨before, sub, q, alone, raises⟩ :=
    (once 1 "1" (by decide) replayed p run).2 1 .attributeError second (raised_iff.mpr raised)
  have hidden : others 1 "1" p 1 = (· == 0) := by
    funext j
    match j with
    | 0 => simpa [others] using first
    | 1 => simp [others]
    | j + 2 => simp [others, Db.under, length]
  have never : ∀ before ∈ replayed.inits,
      (runFrom system.step (shownSteps (· == 0) before) start).bind (raisedBy · 1) = none := by
    decide +kernel
  have none := never before ((List.mem_inits before replayed).mpr sub)
  rw [hidden] at alone
  rw [alone, Option.bind_some, raised_iff.mp raises] at none
  cases none

end NodePilot.Creation
