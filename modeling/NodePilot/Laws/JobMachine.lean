import NodePilot.Laws.Footprints
import NodePilot.Workers

/-!
# The status machine of a job

Workers with stale objects write the same row: `transition` rewrites all of it under its lock, and
`set_progress`, `append_log` and `before_start` each name the columns they write. None of the
columns that `transition` decides about is among them, and what `transition` decides, it decides
from the row it has locked. So the object a worker holds does not matter.
-/

namespace NodePilot

open Lib Lib.Script

/-! ## One row -/

/-- `finished_at` is set exactly when the status is terminal, and the progress is a percentage. -/
structure JobRow.Sound (r : JobRow) : Prop where
  finished : r.finishedAt.isSome ↔ r.status.isTerminal
  percent : r.progress ≤ 100

/-- What may become of a row: its status stays or goes on as `VALID_TRANSITIONS` says, a terminal
status stays, and `started_at` stays once it is set. -/
structure JobRow.Follows (r r' : JobRow) : Prop where
  status : r'.status = r.status ∨ r'.status ∈ validTransitions r.status
  terminal : r.status.isTerminal → r'.status = r.status
  started : ∀ time, r.startedAt = some time → r'.startedAt = some time

theorem JobRow.Follows.refl (r : JobRow) : r.Follows r := ⟨.inl rfl, fun _ => rfl, fun _ h => h⟩

theorem validTransitions_terminal {status : JobStatus} (h : status.isTerminal) :
    validTransitions status = [] := by
  cases status <;> first | rfl | cases h

section Row

variable {r : JobRow} {new : JobStatus} {message error : Option String} {now : Nat}

theorem JobRow.Follows.transitioned (h : new ∈ validTransitions r.status ∨ new = r.status) :
    r.Follows (r.transitioned new message error now) where
  status := h.symm
  terminal terminal := by
    rcases h with allowed | same
    · rw [validTransitions_terminal terminal] at allowed
      cases allowed
    · exact same
  started time set := by simp [JobRow.transitioned, set]

theorem JobRow.Sound.transitioned (sound : r.Sound)
    (h : new ∈ validTransitions r.status ∨ new = r.status) :
    (r.transitioned new message error now).Sound where
  finished := by
    simp only [JobRow.transitioned]
    by_cases terminal : new.isTerminal
    · simp [terminal]
    · -- a status that is not terminal is reached only from one that is not
      have before : ¬ r.status.isTerminal := by
        intro left
        rcases h with allowed | same
        · rw [validTransitions_terminal left] at allowed
          cases allowed
        · exact terminal (same ▸ left)
      rw [if_neg terminal, sound.finished]
      exact ⟨fun h => absurd h before, fun h => absurd h terminal⟩
  percent := by
    have percent := sound.percent
    simp only [JobRow.transitioned]
    split <;> omega

end Row

/-! ## One write -/

/-- A write of the progress stays within the percentages. -/
def Op.clamped : Op → Prop
  | .write (.jobProgress _ progress _) => progress ≤ 100
  | _ => True

/-- The rows of the jobs go on soundly, and none comes or goes. -/
def Tables.JobsGoOn (t t' : Tables) : Prop :=
  ∀ job, Option.Rel (fun r r' : JobRow => r.Follows r' ∧ (r.Sound → r'.Sound))
    (Table.get t.jobs job) (Table.get t'.jobs job)

theorem Tables.JobsGoOn.refl {t t' : Tables} (h : t'.jobs = t.jobs) : t.JobsGoOn t' := by
  intro job
  rw [h]
  cases Table.get t.jobs job with
  | none => exact .none
  | some r => exact .some ⟨.refl r, id⟩

theorem Tables.JobsGoOn.modify {t t' : Tables} {job : Nat} {f : JobRow → JobRow}
    (hjobs : t'.jobs = Table.modify t.jobs job f) (hpk : ∀ r : JobRow, (f r).pk = r.pk)
    (hf : ∀ r, Table.get t.jobs job = some r → r.Follows (f r) ∧ (r.Sound → (f r).Sound)) :
    t.JobsGoOn t' := by
  intro k
  rw [hjobs, Table.get_modify hpk]
  cases hr : Table.get t.jobs k with
  | none =>
    split <;> exact .none
  | some r =>
    by_cases same : k = job
    · rw [if_pos same]
      exact .some (hf r (same ▸ hr))
    · rw [if_neg same]
      exact .some ⟨.refl r, id⟩

theorem Tables.write_goesOn {now : Nat} {uuid : Uuid} {t t' : Tables} {x : Write}
    (clamped : (Op.write x).clamped) (h : t.write now uuid x = .ok t') : t.JobsGoOn t' := by
  rcases Tables.write_jobs h with same | ⟨job, f, hf, hjobs⟩
  · exact .refl same
  refine .modify hjobs (Write.ofJob_pk hf) fun r hr => ?_
  cases x with
  | jobTransition job' new message error =>
    cases hf
    simp only [Tables.write, hr] at h
    split at h
    · next allowed => exact ⟨.transitioned allowed, fun sound => sound.transitioned allowed⟩
    · cases h
  | jobProgress =>
    cases hf
    exact ⟨⟨.inl rfl, fun _ => rfl, fun _ h => h⟩, fun sound => ⟨sound.finished, clamped⟩⟩
  | jobLogs | jobCeleryTaskId | jobResourceId =>
    cases hf
    exact ⟨⟨.inl rfl, fun _ => rfl, fun _ h => h⟩, fun sound => ⟨sound.finished, sound.percent⟩⟩
  | _ => cases hf

theorem World.answer_goesOn {c : Choice} {o : Op} {w : World} (clamped : o.clamped) :
    w.db.JobsGoOn (World.answer c o w).2.db := by
  rcases World.answer_db c o w with same | ⟨x, rfl, hx⟩ | ⟨row, row', rfl, hrow⟩
  · exact .refl (by rw [same])
  · exact Tables.write_goesOn clamped hx
  · exact .refl (Tables.createVm_jobs hrow)

/-! ## What the workers may write -/

section Clamps

variable {α : Type}

/-- Every progress that the script writes is a percentage. -/
abbrev Clamps (x : TaskM Unit α) : Prop := Obeys (fun _ _ => True) Op.clamped (fun _ => True) x

theorem routine_clamped : Routine Op.clamped where
  read := trivial
  acquire _ _ := trivial
  release _ := trivial
  emit _ := trivial
  mac := trivial
  job x hx := by cases x <;> first | exact hx | trivial

theorem clamps_script (work : Work) : Clamps work.script := by
  induction work with
  | transition job new message error => exact routine_clamped.transition
  | setProgress job progress message => exact routine_clamped.setProgress
  | appendLog job line => exact routine_clamped.appendLog
  | requestCancel job => exact Obeys.ite (fun _ => routine_clamped.transition) fun _ => Obeys.throw
  | jobRun job step body ih => exact routine_clamped.jobRun ih
  | onFailure job exc => exact routine_clamped.onFailure
  | pass => exact Obeys.pure trivial
  | raise exc => exact Obeys.throw
  | andThen first second ih₁ ih₂ => exact Obeys.bind ih₁ fun _ _ => ih₂
  | orElse body handler ih₁ ih₂ => exact Obeys.tryCatch ih₁ fun _ => ih₂

end Clamps

/-! ## All the workers -/

namespace Workers

/-- The pools of a run. -/
abbrev State : Type := Pool Work Op Ans (Except Exn Unit × Unit) World

/-- **The invariant**: every row is sound, and so is what the workers have left to write. -/
structure Orderly (p : State) : Prop where
  rows : ∀ job r, row job p = some r → r.Sound
  threads : ∀ thread ∈ p.threads,
    thread.rest.Obeys (fun _ _ => True) Op.clamped fun _ => True

variable {p p' : State}

theorem Orderly.goesOn (h : Orderly p) (goesOn : p.shared.db.JobsGoOn p'.shared.db)
    (threads : ∀ thread ∈ p'.threads,
      thread.rest.Obeys (fun _ _ => True) Op.clamped fun _ => True) :
    Orderly p' ∧ ∀ job r, row job p = some r → ∃ r', row job p' = some r' ∧ r.Follows r' := by
  refine ⟨⟨?_, threads⟩, ?_⟩
  · intro job r' hr'
    have rel := goesOn job
    rw [show Table.get p'.shared.db.jobs job = some r' from hr'] at rel
    generalize hr : Table.get p.shared.db.jobs job = old at rel
    cases rel with
    | some both => exact both.2 (h.rows job _ hr)
  · intro job r hr
    have rel := goesOn job
    rw [show Table.get p.shared.db.jobs job = some r from hr] at rel
    generalize hr' : Table.get p'.shared.db.jobs job = new at rel
    cases rel with
    | some both => exact ⟨_, hr', both.1⟩

theorem Orderly.step {l : Label Choice Event} (h : Orderly p) (hstep : system.step l p = some p') :
    Orderly p' ∧ ∀ job r, row job p = some r → ∃ r', row job p' = some r' ∧ r.Follows r' := by
  cases l with
  | act i c =>
    obtain ⟨tag, o, k, a, w, hi, hact, rfl⟩ := System.step_act hstep
    obtain ⟨clamped, rest⟩ := h.threads _ (List.mem_of_getElem? hi)
    obtain rfl : (World.answer c o p.shared).2 = w := congrArg Prod.snd (Option.some.inj hact)
    refine h.goesOn (World.answer_goesOn clamped) ?_
    intro thread hthread
    rcases List.mem_or_eq_of_mem_set hthread with old | rfl
    · exact h.threads thread old
    · exact rest _ trivial
  | env e =>
    obtain ⟨ts, w, henv, rfl⟩ := System.step_env hstep
    cases e with
    | call work =>
      cases henv
      refine h.goesOn (.refl rfl) ?_
      intro thread hthread
      rcases List.mem_append.mp hthread with old | new
      · exact h.threads thread old
      · rw [List.mem_singleton.mp new]
        exact (clamps_script work ()).mono (fun _ h => h) fun _ _ => trivial
    | createJob type resourceId createdBy uuid =>
      cases henv
      refine ⟨⟨?_, by simpa using h.threads⟩, ?_⟩
      · intro job r hr
        rcases Table.get_append_cases hr with old | rfl
        · exact h.rows job r old
        · exact ⟨by simp [JobStatus.isTerminal], by simp⟩
      · -- the key of the new row is not the one of a row that is there
        intro job r hr
        exact ⟨r, (Table.get_append_ne (Table.nextPk_ne hr)).trans hr, .refl r⟩

/-- The thread's next operation is a `transition` that raises. -/
def Raises (i : Nat) (c : Choice) (p : State) : Prop :=
  ∃ tag job new message error k e,
    p.threads[i]? = some ⟨tag, .vis (.write (.jobTransition job new message error)) k⟩ ∧
      (World.answer c (.write (.jobTransition job new message error)) p.shared).1 = .error e

/-- A `transition` that raises leaves the database as it was. -/
theorem db_of_raises {i : Nat} {c : Choice} (hstep : system.step (.act i c) p = some p')
    (raises : Raises i c p) : p'.shared.db = p.shared.db := by
  obtain ⟨tag, job, new, message, error, k, e, hi, raised⟩ := raises
  obtain ⟨tag', o, k', a, w, hi', hact, rfl⟩ := System.step_act hstep
  rw [hi] at hi'
  cases hi'
  obtain rfl : (World.answer c _ p.shared).2 = w := congrArg Prod.snd (Option.some.inj hact)
  simp only [World.answer, World.statement] at raised ⊢
  split at raised
  · cases raised
  · rfl

/-- **The status machine of a job.** Whatever any number of workers call, in any order and with
objects however stale: the rows that a job has had, one after the other, go on as
`VALID_TRANSITIONS` says and keep a terminal status and a `started_at`; each of them has a
`finished_at` exactly when its status is terminal, and a progress between 0 and 100; and a
`transition` that raises changes no row. -/
theorem job_status_machine (w : World) (empty : w.db.jobs = []) (ls : List (Label Choice Event)) :
    (∀ job, ((visited system.step ls ⟨[], w⟩).filterMap (row job)).IsChain JobRow.Follows) ∧
    ∀ p ∈ visited system.step ls ⟨[], w⟩,
      (∀ job r, row job p = some r → r.Sound) ∧
      ∀ i c p', system.step (.act i c) p = some p' → Raises i c p →
        p'.shared.db = p.shared.db := by
  have first : Orderly ⟨[], w⟩ := by
    refine ⟨?_, nofun⟩
    intro job r hr
    simp [row, empty, Table.get] at hr
  refine ⟨fun job => ?_, fun p hp => ⟨?_, fun i c p' => db_of_raises⟩⟩
  · refine visited_chain (I := Orderly) ?_ first
    intro l p p' h hstep
    obtain ⟨kept, follows⟩ := h.step hstep
    exact ⟨kept, follows job⟩
  · refine (visited_keeps (C := fun _ _ => True) ?_ first (Along.of_forall (fun _ _ _ => trivial) _)
      hp).rows
    intro l p p' h _ hstep
    exact (h.step hstep).1

/-- A database without jobs. -/
def noJobs : World := { db := {}, script := fun _ => {} }

/-- The object that every worker has loaded while the job was queued. -/
def loaded : JobRow := { pk := 1, uuid := ⟨7⟩, type := .vmStart }

/-- One worker runs the job to its end and another one fails it, after a third has asked for its
cancellation; the last one calls `transition` on a row that is terminal. -/
def staleWorkers : List (Label Choice Event) :=
  [.env (.createJob .vmStart "" none ⟨7⟩), .env (.call (.transition loaded .running none none)),
    .env (.call (.requestCancel loaded)), .env (.call (.transition loaded .success none none)),
    .env (.call (.onFailure 1 .databaseError)), .act 0 { now := 3 }, .act 1 { now := 4 },
    .act 3 {}, .act 2 { now := 5 }, .act 3 { now := 6 }]

theorem job_status_machine_stale : noJobs.db.jobs = [] ∧
    ((visited system.step staleWorkers ⟨[], noJobs⟩).filterMap (row 1)).map JobRow.status =
      [.queued, .queued, .queued, .queued, .queued, .running, .canceling, .canceling, .success,
        .success] ∧
    ∀ p ∈ visited system.step staleWorkers ⟨[], noJobs⟩, ∀ r, row 1 p = some r → r.Sound :=
  ⟨rfl, rfl, fun p hp => ((job_status_machine noJobs rfl staleWorkers).2 p hp).1 1⟩

end Workers

end NodePilot
