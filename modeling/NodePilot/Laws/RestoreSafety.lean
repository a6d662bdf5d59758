import NodePilot.Laws.Lifecycle
import NodePilot.Restores

/-!
# Restoring onto a stopped VM

`restore_backup` looks once whether the VM is stopped. Its task holds the storage lock only, so
nothing keeps a start, which holds the lifecycle lock, from running beside it. A restore is safe
beside requests that are gentle: whatever they are answered, they give the VM no status but STOPPED
and send no START_VM. `Apart` asks that a restore and a request that is not gentle are never admitted
while the other may still act.
-/

namespace NodePilot

open Lib Lib.Script

/-! ## Gentle footprints -/

/-- The operation gives the VM no status but STOPPED, and is no START_VM. -/
def Op.gentle (vm : Nat) : Op → Prop
  | .write x => ∀ st, x.vmStatus vm = some st → st = some .stopped
  | .send _ r _ => r.operation ≠ .startVm
  | _ => True

def ServiceOp.gentle (vm : Nat) : ServiceOp → Prop
  | .task o => o.gentle vm
  | _ => True

section Footprints

variable {vm : Nat}

theorem routine_gentle : Routine (Op.gentle vm) where
  read := trivial
  acquire _ _ := trivial
  release _ := trivial
  emit _ := trivial
  mac := trivial
  job x hx st h := by
    rw [hx.vmStatus vm] at h
    cases h

theorem routine_gentleService : ServiceRoutine (ServiceOp.gentle vm) where
  task := routine_gentle
  createJob _ := trivial
  checkAndReserve _ := trivial

/-- A save of a VM is gentle if STOPPED is the only status it can give. -/
theorem gentle_save {pk : Nat} {fields : VmFields}
    (h : fields.status = none ∨ fields.status = some .stopped) :
    Op.gentle vm (.write (.vmSave pk fields)) := by
  intro st hst
  simp only [Write.vmStatus] at hst
  split at hst
  · rcases h with none | stopped
    · rw [none] at hst
      cases hst
    · rw [stopped] at hst
      exact (Option.some.inj hst).symm
  · cases hst

/-- A stop gives the status STOPPED and sends no START_VM. -/
theorem gentle_stop {jobId pk : Nat} :
    Obeys (fun _ _ => True) (Op.gentle vm) (fun _ => True)
      (stopVmTask jobId pk : TaskM Unit Unit) := by
  refine routine_gentle.stopVmTask ?_ (fun _ => gentle_save (.inr rfl))
    fun _ _ => gentle_save (.inl rfl)
  rintro node r timeout (ho | ho) start
  all_goals
    rw [ho] at start
    cases start

/-- A clone gives the status STOPPED, to whichever VM it has created. -/
theorem gentle_clone {jobId pk : Nat} {newName : String} {linked : Bool} :
    Obeys (fun _ _ => True) (Op.gentle vm) (fun _ => True)
      (cloneVmTask jobId pk newName linked : TaskM Unit Unit) := by
  refine routine_gentle.cloneVmTask (C := fun _ => True) (fun _ _ _ _ => trivial)
    (fun _ _ _ => trivial) (fun _ _ _ _ _ _ _ _ start => ?_) (fun _ r ho start => ?_)
    (fun _ _ _ _ st h => ?_) (fun _ st h => ?_) fun _ _ _ h => gentle_save h
  · cases start
  · rw [ho] at start
    cases start
  · cases h
  · cases h

theorem gentle_restore {jobId backup : Nat} :
    Obeys (fun _ _ => True) (Op.gentle vm) (fun _ => True)
      (restoreBackupTask jobId backup : TaskM Unit Unit) := by
  refine routine_gentle.restoreBackupTask (fun _ _ _ _ _ _ _ _ _ _ start => ?_)
    fun fields st h => ?_
  · cases start
  · cases h

end Footprints

namespace Restores

/-! ## Requests beside each other -/

/-- The task of the request gives the VM no status but STOPPED. -/
def Request.gentle : Request → Prop
  | .lifecycle r => ∀ st ∈ r.leaves, st = some .stopped
  | .restore _ => True

def Request.isRestore : Request → Prop
  | .lifecycle _ => False
  | .restore _ => True

instance : DecidablePred Request.gentle
  | .lifecycle r => inferInstanceAs (Decidable (∀ st ∈ r.leaves, st = some .stopped))
  | .restore _ => isTrue trivial

/-- One is a restore and the other one is not gentle. -/
def Request.clashes (a b : Request) : Prop :=
  a.isRestore ∧ ¬ b.gentle ∨ b.isRestore ∧ ¬ a.gentle

variable {vm : Nat}

section Threads

variable {row : VmRow} {taskId : String} {requestedBy : Option Nat}

/-- The thread of a gentle lifecycle request is gentle. -/
theorem gentle_script {r : LifecycleRequest} (h : Request.gentle (.lifecycle r)) :
    Obeys (fun _ _ => True) (ServiceOp.gentle vm) (fun _ => True)
      (r.script taskId requestedBy row) := by
  refine Obeys.bind routine_gentleService.service fun job _ =>
    obeys_ofTask (routine_gentle.jobBound ?_)
  cases r with
  | stop force => exact gentle_stop
  | clone newName linked => exact gentle_clone
  | start | reboot | pause | resume | delete =>
    exact absurd h (by simp [Request.gentle, LifecycleRequest.leaves])

theorem gentle_restoreScript {backup : BackupRow} :
    Obeys (fun _ _ => True) (ServiceOp.gentle vm) (fun _ => True)
      (restoreScript taskId requestedBy backup row) := by
  have h : ServiceRoutine (ServiceOp.gentle vm) := routine_gentleService
  refine Obeys.bind (Q := fun _ => True) ?_ fun job _ =>
    obeys_ofTask (routine_gentle.jobBound gentle_restore)
  refine Obeys.ite (fun _ => Obeys.throw) fun _ => Obeys.ite (fun _ => Obeys.throw) fun _ => ?_
  exact Obeys.bind h.precheck fun _ _ => h.newJob

/-- A restore that is not admitted raises at once. -/
theorem idle_restoreScript {backup : BackupRow}
    (h : ¬ (backup.status = .completed ∧ row.status = .stopped)) :
    Idle vm ((restoreScript taskId requestedBy backup row).prog ()) := by
  obtain ⟨e, raised⟩ : ∃ e, restoreBackup backup row requestedBy = throw e := by
    unfold restoreBackup
    by_cases completed : backup.status = .completed
    · have running : row.status ≠ .stopped := fun stopped => h ⟨completed, stopped⟩
      exact ⟨_, (if_neg (not_not.mpr completed)).trans (if_pos running)⟩
    · exact ⟨_, if_pos completed⟩
  unfold restoreScript
  rw [raised]
  exact trivial

end Threads

/-- The threads about a VM. -/
abbrev Threads : Type := Pool Request ServiceOp ServiceAns (Except Exn Unit × Unit) Site

/-- The services admit the request as the rows stand. -/
def Admitted (vm : Nat) (s : Site) : Request → Prop
  | .lifecycle r => ∃ status ∈ r.allowed, Site.rowStatus vm s.world = some status
  | .restore backup => Site.rowStatus vm s.world = some .stopped ∧
      ∃ b, Table.get s.world.db.backups backup = some b ∧ b.status = .completed

/-- A request that is admitted clashes with no thread that is not idle. -/
def Apart (vm : Nat) : Label ServiceChoice Event → Threads → Prop
  | .env (.request r _ _), p => Admitted vm p.shared r →
      ∀ t ∈ p.threads, ¬ Idle vm t.rest → ¬ r.clashes t.tag
  | _, _ => True

/-- Whenever `restore_backup_task` waits for the answer to its RESTORE_BACKUP, the VM's status is
STOPPED and no START_VM is under way. -/
def Undisturbed (vm : Nat) (p : Threads) : Prop :=
  ∀ (i : Nat) backup node request timeout k,
    p.threads[i]? = some ⟨.restore backup, .vis (.task (.send node request timeout)) k⟩ →
    request.operation = .restoreBackup →
    Site.rowStatus vm p.shared.world = some .stopped ∧
      ∀ (j : Nat) tag node' request' timeout' k',
        p.threads[j]? = some ⟨tag, .vis (.task (.send node' request' timeout')) k'⟩ →
        request'.operation ≠ .startVm

/-! ## The invariant -/

/-- **The invariant.** Gentle threads stay gentle, and while a restore is not idle the VM is stopped
and every thread that is not gentle is idle. -/
structure Sheltered (vm : Nat) (p : Threads) : Prop where
  gentle : ∀ t ∈ p.threads, t.tag.gentle →
    t.rest.Obeys (fun _ _ => True) (ServiceOp.gentle vm) fun _ => True
  apart : ∀ t ∈ p.threads, ∀ u ∈ p.threads, t.tag.isRestore → ¬ Idle vm t.rest →
    ¬ u.tag.gentle → Idle vm u.rest
  stopped : ∀ t ∈ p.threads, t.tag.isRestore → ¬ Idle vm t.rest →
    Site.rowStatus vm p.shared.world = some .stopped

theorem Sheltered.undisturbed {p : Threads} (h : Sheltered vm p) : Undisturbed vm p := by
  intro i backup node request timeout k hi _
  have restore := List.mem_of_getElem? hi
  have awake : ¬ Idle vm (.vis (.task (.send node request timeout)) k) := Site.not_idle trivial
  refine ⟨h.stopped _ restore trivial awake, ?_⟩
  intro j tag node' request' timeout' k' hj start
  have sender := List.mem_of_getElem? hj
  by_cases gentle : tag.gentle
  · exact (h.gentle _ sender gentle).1 start
  · have moving : ¬ Idle vm (.vis (.task (.send node' request' timeout')) k') := Site.not_idle trivial
    exact moving (h.apart _ restore _ sender trivial awake gentle)

/-- One operation, while the VM has a row, leaves its status or is a write that gives it one. -/
theorem rowStatus_act {c : ServiceChoice} {i : Nat} {o : ServiceOp} {s s' : Site} {a : ServiceAns o}
    {status : VMStatus} (hact : Site.act vm c i o s = some (a, s'))
    (row : Site.rowStatus vm s.world = some status) :
    Site.rowStatus vm s'.world = some status ∨
      ∃ x st, o = .task (.write x) ∧ x.vmStatus vm = some st ∧ Site.rowStatus vm s'.world = st := by
  cases o with
  | task o =>
    cases hact
    have fresh : freshRow vm o (World.answer c.toChoice o s.world).1 := freshRow_of_row row _
    rcases rowStatus_answer i fresh with ⟨-, same⟩ | ⟨x, st, rfl, hx, -, h⟩
    · exact .inl (same.trans row)
    · exact .inr ⟨x, st, rfl, hx, h⟩
  | createJob job =>
    simp only [Site.act] at hact
    split at hact <;> cases hact <;> exact .inl row
  | checkAndReserve vm =>
    simp only [Site.act] at hact
    split at hact <;> cases hact <;> exact .inl row

section Steps

variable {p p' : Threads}

theorem Sheltered.act {i : Nat} {c : ServiceChoice} (h : Sheltered vm p)
    (hstep : (system vm).step (.act i c) p = some p') : Sheltered vm p' := by
  obtain ⟨tag, o, k, a, s, hi, hact, rfl⟩ := System.step_act hstep
  have actor := List.mem_of_getElem? hi
  have before : ∀ t ∈ p.threads.set i ⟨tag, k a⟩, ∃ t' ∈ p.threads, t'.tag = t.tag ∧
      (Idle vm t'.rest → Idle vm t.rest) := by
    intro t ht
    rcases List.mem_or_eq_of_mem_set ht with old | rfl
    · exact ⟨t, old, rfl, id⟩
    · exact ⟨_, actor, rfl, fun idle => idle.2 a trivial⟩
  refine ⟨?_, ?_, ?_⟩
  · intro t ht gentle
    rcases List.mem_or_eq_of_mem_set ht with old | rfl
    · exact h.gentle t old gentle
    · exact (h.gentle _ actor gentle).2 a trivial
  · intro t ht u hu restore awake rough
    obtain ⟨t', ht', tagt, idlet⟩ := before t ht
    obtain ⟨u', hu', tagu, idleu⟩ := before u hu
    exact idleu (h.apart t' ht' u' hu' (tagt ▸ restore) (fun idle => awake (idlet idle))
      (tagu ▸ rough))
  · intro t ht restore awake
    obtain ⟨t', ht', tagt, idlet⟩ := before t ht
    have restore' : t'.tag.isRestore := tagt ▸ restore
    have awake' : ¬ Idle vm t'.rest := fun idle => awake (idlet idle)
    rcases rowStatus_act hact (h.stopped t' ht' restore' awake') with same | ⟨x, st, rfl, hx, row⟩
    · exact same
    · -- the status is written by a thread that is gentle, for the others are idle
      by_cases gentle : tag.gentle
      · exact row.trans ((h.gentle _ actor gentle).1 st hx)
      · have idle := h.apart t' ht' _ actor restore' awake' gentle
        refine absurd idle (Site.not_idle ?_)
        simp [ServiceOp.touches, hx]

/-- A request that arrives. -/
theorem Sheltered.request {r : Request} {rest : Prog ServiceOp ServiceAns (Except Exn Unit × Unit)}
    (h : Sheltered vm p) (apart : Admitted vm p.shared r →
      ∀ t ∈ p.threads, ¬ Idle vm t.rest → ¬ r.clashes t.tag)
    (admitted : ¬ Idle vm rest → Admitted vm p.shared r)
    (gentle : r.gentle → rest.Obeys (fun _ _ => True) (ServiceOp.gentle vm) fun _ => True) :
    Sheltered vm ⟨p.threads ++ [⟨r, rest⟩], p.shared⟩ := by
  have new {t : Worker} (ht : t ∈ p.threads ++ [⟨r, rest⟩]) : t ∈ p.threads ∨ t = ⟨r, rest⟩ := by
    simpa using ht
  refine ⟨?_, ?_, ?_⟩
  · intro t ht soft
    rcases new ht with old | rfl
    · exact h.gentle t old soft
    · exact gentle soft
  · intro t ht u hu restore awake rough
    by_contra moving
    rcases new ht with oldt | rfl
    · rcases new hu with oldu | rfl
      · exact moving (h.apart t oldt u oldu restore awake rough)
      · exact apart (admitted moving) t oldt awake (.inr ⟨restore, rough⟩)
    · rcases new hu with oldu | rfl
      · exact apart (admitted awake) u oldu moving (.inl ⟨restore, rough⟩)
      · cases r with
        | lifecycle r => exact restore
        | restore backup => exact rough trivial
  · intro t ht restore awake
    rcases new ht with old | rfl
    · exact h.stopped t old restore awake
    · cases r with
      | lifecycle r => exact absurd restore id
      | restore backup => exact (admitted awake).1

theorem Sheltered.step {l : Label ServiceChoice Event} (h : Sheltered vm p) (apart : Apart vm l p)
    (hstep : (system vm).step l p = some p') : Sheltered vm p' := by
  cases l with
  | act thread c => exact h.act hstep
  | env event =>
    obtain ⟨ts, s, henv, rfl⟩ := System.step_env hstep
    cases event with
    | request r requestedBy taskId =>
      cases r with
      | lifecycle r =>
        obtain ⟨row, hrow, same⟩ := Option.map_eq_some_iff.mp henv
        cases same
        refine h.request apart ?_ fun gentle =>
          (gentle_script gentle ()).mono (fun _ => id) fun _ _ => trivial
        intro awake
        by_contra rejected
        refine awake (idle_rejected fun allowed => rejected ⟨row.status, allowed, ?_⟩)
        simp [Site.rowStatus, hrow]
      | restore backup =>
        simp only [system, env] at henv
        split at henv
        · next b row target loaded =>
          split at henv
          · next same =>
            cases henv
            obtain ⟨b', hb, rest⟩ := Option.bind_eq_some_iff.mp loaded
            obtain ⟨row', hrow, rest⟩ := Option.bind_eq_some_iff.mp rest
            obtain ⟨target', -, rest⟩ := Option.bind_eq_some_iff.mp rest
            cases rest
            refine h.request apart ?_ fun _ =>
              (gentle_restoreScript ()).mono (fun _ => id) fun _ _ => trivial
            intro awake
            by_contra rejected
            refine awake (idle_restoreScript fun both => rejected ⟨?_, b, hb, both.1⟩)
            simp [Site.rowStatus, ← same, hrow, both.2]
          · cases henv
        · cases henv
    | cancel job now =>
      cases henv
      refine ⟨by simpa using h.gentle, by simpa using h.apart, ?_⟩
      intro t ht restore awake
      have row := h.stopped t (by simpa using ht) restore awake
      show (Table.get (p.shared.world.db.requestCancel now (some job)).vms vm).map _ = _
      rw [requestCancel_vms]
      exact row

end Steps

/-- **Restores beside gentle requests.** In every run of lifecycle requests, restores and their tasks
about a VM, however they interleave and whatever they are answered: if no restore and no request that
may give the VM another status than STOPPED are admitted beside each other, then from the moment a
RESTORE_BACKUP is sent until it is answered the VM's status is STOPPED and no START_VM is sent. -/
theorem apart_undisturbed (vm : Nat) (w : World) (ls : List (Label ServiceChoice Event))
    (apart : Along (system vm).step (Apart vm) ls ⟨[], Site.start vm w⟩) :
    ∀ p ∈ visited (system vm).step ls ⟨[], Site.start vm w⟩, Undisturbed vm p := by
  intro p hp
  have first : Sheltered vm ⟨[], Site.start vm w⟩ := by
    refine ⟨?_, ?_, ?_⟩
    all_goals
      intro t ht
      cases ht
  exact (visited_keeps (I := Sheltered vm) (fun _ _ _ h hc hs => h.step hc hs) first apart
    hp).undisturbed

/-- A VM in a status, with a disk and a backup that is completed. -/
def backedUp (status : VMStatus) : World where
  db :=
    { vms := [{ pk := 1, uuid := ⟨1⟩, domainUuid := ⟨2⟩, organization := 1, project := 1,
                node := some 1, name := "web", status := status }]
      nodes := [{ pk := 1, name := "n1" }]
      pools := [{ pk := 1, uuid := ⟨3⟩, node := 1, name := "p", type := .directory, path := "/srv" }]
      disks := [{ pk := 1, uuid := ⟨4⟩, vm := 1, storage := 1, name := "root", volumeId := "v"
                  sizeBytes := 1 }]
      targets := [{ pk := 1, type := .local }]
      backups := [{ pk := 1, uuid := ⟨5⟩, vm := 1, target := 1, status := .completed }] }
  script := fun _ => {}

/-- The next `n` operations of a thread. -/
def acts (thread n : Nat) : List (Label ServiceChoice Event) := List.replicate n (.act thread {})

/-- A restore arrives and then another request, and the restore comes to its RESTORE_BACKUP. -/
def restoreBeside (r : Request) : List (Label ServiceChoice Event) :=
  [.env (.request (.restore 1) none "a"), .env (.request r none "b")] ++ acts 0 14

/-- A clone that is requested beside a restore does not disturb it. -/
theorem apart_undisturbed_clone :
    ∃ p, runFrom (system 1).step (restoreBeside (.lifecycle (.clone "copy" true)) ++ acts 1 9)
      ⟨[], Site.start 1 (backedUp .stopped)⟩ = some p ∧
      (∃ node request timeout k, request.operation = .restoreBackup ∧
        p.threads[0]? = some ⟨.restore 1, .vis (.task (.send node request timeout)) k⟩) ∧
      ∀ q ∈ visited (system 1).step (restoreBeside (.lifecycle (.clone "copy" true)) ++ acts 1 9)
        ⟨[], Site.start 1 (backedUp .stopped)⟩, Undisturbed 1 q := by
  have operations : ∀ l ∈ acts 0 14 ++ acts 1 9, ∀ p, Apart 1 l p := by
    intro l hl p
    simp only [acts, List.mem_append, List.mem_replicate] at hl
    rcases hl with ⟨-, rfl⟩ | ⟨-, rfl⟩ <;> trivial
  refine ⟨_, rfl, ⟨_, _, _, _, rfl, rfl⟩, apart_undisturbed 1 (backedUp .stopped) _
    ⟨?_, ?_, Along.of_forall operations _⟩⟩
  · intro _ t ht
    cases ht
  · intro _ t ht _
    rw [List.mem_singleton.mp ht]
    rintro (⟨restore, -⟩ | ⟨-, rough⟩)
    · exact restore
    · exact rough (by decide)

/-- A restore and a start are both accepted on a stopped VM. While RESTORE_BACKUP is under way,
START_VM is sent, and the VM's status becomes RUNNING. -/
theorem restore_disturbed :
    ∃ p p', runFrom (system 1).step (restoreBeside (.lifecycle .start))
        ⟨[], Site.start 1 (backedUp .stopped)⟩ = some p ∧
      runFrom (system 1).step (acts 1 14) p = some p' ∧
      (∃ node request timeout k, request.operation = .restoreBackup ∧
        p.threads[0]? = some ⟨.restore 1, .vis (.task (.send node request timeout)) k⟩ ∧
        p'.threads[0]? = some ⟨.restore 1, .vis (.task (.send node request timeout)) k⟩) ∧
      p.shared.world.calls = [] ∧
      p'.shared.world.calls.map AgentRequest.operation = [.startVm] ∧
      Site.rowStatus 1 p'.shared.world = some .running ∧ ¬ Undisturbed 1 p' := by
  refine ⟨_, _, rfl, rfl, ⟨_, _, _, _, rfl, rfl, rfl⟩, rfl, rfl, rfl, ?_⟩
  intro undisturbed
  have stopped := (undisturbed 0 _ _ _ _ _ rfl rfl).1
  cases stopped

end Restores

end NodePilot
