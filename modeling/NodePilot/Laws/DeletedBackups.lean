import NodePilot.Laws.Footprints
import NodePilot.Retention

/-!
# A deleted backup stays deleted

Whoever makes or restores a backup saves its status again and again, from an object that was loaded
long ago. `deleted_forever` says when DELETED is not overwritten: no such thread may be in flight when
a backup is deleted, and none may be started for it later.
-/

namespace NodePilot

open Lib Lib.Script

/-! ## Quiet threads -/

/-- The write gives the backup no status but DELETED, and takes no VM away with its backups. -/
def Write.quiet (backup : Nat) : Write → Prop
  | .backupSave pk fields => pk = backup → fields.status = .deleted
  | .vmDelete _ => False
  | _ => True

def ServiceOp.quiet (backup : Nat) : ServiceOp → Prop
  | .task (.write x) => Write.quiet backup x
  | _ => True

/-- The write takes no VM away with its backups. -/
def ServiceOp.keepsRows : ServiceOp → Prop
  | .task (.write (.vmDelete _)) => False
  | _ => True

namespace Retention

/-- The backup that a thread makes or restores. -/
def Request.about : Request → Option Nat
  | .restore backup | .createTask backup | .restoreTask backup => some backup
  | .delete _ | .retention _ => none

/-- Whatever the thread is answered, it gives the backup no status but DELETED. -/
def Quiet {ρ : Type} (backup : Nat) (p : Prog ServiceOp ServiceAns ρ) : Prop :=
  p.Obeys (fun _ _ => True) (ServiceOp.quiet backup) fun _ => True

section Threads

variable {φ : ServiceOp → Prop}

theorem routine_quiet {backup : Nat} : ServiceRoutine (ServiceOp.quiet backup) where
  task := {
    read := trivial
    acquire _ _ := trivial
    release _ := trivial
    emit _ := trivial
    mac := trivial
    job x hx := by cases x <;> trivial }
  createJob _ := trivial
  checkAndReserve _ := trivial

theorem routine_keepsRows : ServiceRoutine ServiceOp.keepsRows where
  task := {
    read := trivial
    acquire _ _ := trivial
    release _ := trivial
    emit _ := trivial
    mac := trivial
    job x hx := by cases x <;> trivial }
  createJob _ := trivial
  checkAndReserve _ := trivial

/-- **What a thread performs.** It saves the backup that it is about, and otherwise gives backups the
status DELETED only. -/
theorem obeys_script (h : ServiceRoutine φ) (now : φ (.task .now))
    (sends : ∀ node r timeout, φ (.task (.send node r timeout))) {r : Request} {w : World}
    {taskId : String} {jobId : Nat} {requestedBy : Option Nat} {x : ServiceM Unit}
    (saves : ∀ pk fields, r.about = some pk → φ (.task (.write (.backupSave pk fields))))
    (deletes : ∀ pk, φ (.task (.write (.backupSave pk { status := .deleted }))))
    (started : r.script w taskId jobId requestedBy = some x) :
    Obeys (fun _ _ => True) φ (fun _ => True) x := by
  have restored (jobId backup : Nat) (about : r.about = some backup) :
      Obeys (fun _ _ => True) φ (fun _ => True)
        (ofTask ((Task.restoreBackup backup).run taskId jobId)) :=
    obeys_ofTask (h.task.jobBound (h.task.restoreBackupTask
      (fun _ _ _ _ _ _ _ _ _ _ => sends _ _ _) fun fields => saves backup fields about))
  cases r with
  | restore backup =>
    obtain ⟨⟨b, vm, target⟩, loaded, rfl⟩ := Option.map_eq_some_iff.mp started
    have key : b.pk = backup := Table.pk_of_get (loadBackup_some loaded).1
    refine Obeys.bind (Q := fun _ => True) ?_ fun job _ => restored job.pk b.pk (congrArg some key.symm)
    refine Obeys.ite (fun _ => Obeys.throw) fun _ => Obeys.ite (fun _ => Obeys.throw) fun _ => ?_
    exact Obeys.bind h.precheck fun _ _ => h.newJob
  | createTask backup =>
    cases started
    exact obeys_ofTask (h.task.jobBound (h.task.createBackupTask now
      (fun _ _ _ _ _ _ _ _ _ _ => sends _ _ _) fun fields => saves backup fields rfl))
  | restoreTask backup =>
    cases started
    exact restored jobId backup rfl
  | delete backup =>
    obtain ⟨b, -, rfl⟩ := Option.map_eq_some_iff.mp started
    exact obeys_ofTask (obeys_save (deletes _))
  | retention target =>
    cases started
    refine obeys_ofTask (Obeys.bind (Q := fun _ => True) ?_ fun _ _ => Obeys.pure trivial)
    have clock : Obeys (fun _ _ => True) (fun o => φ (.task o)) (fun _ => True)
        (NodePilot.now : TaskM Unit Nat) :=
      Obeys.perform (φ := fun o => φ (.task o)) now fun _ _ => trivial
    refine Obeys.bind clock fun _ _ => Obeys.bind h.task.query fun _ _ =>
      Obeys.bind h.task.query fun _ _ => ?_
    exact Obeys.bind (Obeys.forM (R := fun _ => True) trivial fun _ _ => obeys_save (deletes _))
      fun _ _ => Obeys.pure trivial

/-- A request to restore a backup that is deleted is refused. -/
theorem quiet_restore {backup : BackupRow} {vm : VmRow} {taskId : String} {requestedBy : Option Nat}
    {k : Nat} (gone : backup.status = .deleted) :
    Quiet k ((restoreScript taskId requestedBy backup vm).prog ()) := by
  have refused : restoreBackup backup vm requestedBy =
      throw (.invalidStateTransition ("Cannot restore a backup in status " ++ backup.status.value)) :=
    if_pos (by rw [gone]; decide)
  unfold restoreScript
  rw [refused]
  exact trivial

end Threads

/-! ## When it stays deleted -/

/-- The threads about backups. -/
abbrev Threads : Type := Pool Request ServiceOp ServiceAns (Except Exn Unit × Unit) World

/-- The thread is about to delete the backup. -/
def Deletes (p : Threads) (thread backup : Nat) : Prop :=
  ∃ tag fields k, p.threads[thread]? = some ⟨tag, .vis (.task (.write (.backupSave backup fields))) k⟩ ∧
    fields.status = .deleted

/-- The condition on a step. -/
def careful : Label ServiceChoice Event → Threads → Prop
  -- when a backup is deleted, no thread that makes or restores it has anything to save any more
  | .act thread _, p => ∀ backup, Deletes p thread backup → ∀ t ∈ p.threads,
      t.tag.about = some backup → Quiet backup t.rest
  -- no task of a deleted backup is delivered
  | .env (.request (.createTask backup) _ _ _), p
  | .env (.request (.restoreTask backup) _ _ _), p => statusOf p.shared backup ≠ some .deleted
  | _, _ => True

/-- **The invariant.** A thread saves no backup but its own, and nobody saves a deleted one. -/
structure Sealed (p : Threads) : Prop where
  rows : ∀ t ∈ p.threads, t.rest.Obeys (fun _ _ => True) ServiceOp.keepsRows fun _ => True
  others : ∀ t ∈ p.threads, ∀ backup, t.tag.about ≠ some backup → Quiet backup t.rest
  gone : ∀ backup, statusOf p.shared backup = some .deleted → ∀ t ∈ p.threads, Quiet backup t.rest

section Steps

variable {p p' : Threads} {backup : Nat}

/-- A write changes the rows of backups only as a save of one does. -/
theorem write_backups {x : Write} {now : Nat} {uuid : Uuid} {t t' : Tables}
    (keeps : ServiceOp.keepsRows (.task (.write x))) (written : t.write now uuid x = .ok t') :
    t'.backups = t.backups ∨ ∃ pk fields row, x = .backupSave pk fields ∧
      Table.get t.backups pk = some row ∧ t'.backups = Table.modify t.backups pk fields.apply := by
  cases x with
  | backupSave pk fields =>
    obtain ⟨rows, hrows, rfl⟩ := except_bind_ok written
    refine .inr ⟨pk, fields, ?_⟩
    unfold saveRow at hrows
    split at hrows
    · cases hrows
    · next row found =>
      cases hrows
      exact ⟨row, rfl, found, rfl⟩
  | vmDelete => exact keeps.elim
  | jobTransition =>
    simp only [Tables.write] at written
    split at written
    · cases written
    · split at written
      · cases written
        exact .inl rfl
      · cases written
  | networkDelete =>
    simp only [Tables.write] at written
    split at written
    · cases written
    · cases written
      exact .inl rfl
  | diskCreate =>
    obtain ⟨-, rfl⟩ := Tables.write_diskCreate written
    exact .inl rfl
  | nicCreate =>
    obtain ⟨-, rfl⟩ := Tables.write_nicCreate written
    exact .inl rfl
  | jobProgress | jobResourceId | vmSave | diskSave | diskSize | snapshotSave | networkStatus | poolStatus
  | poolInfo =>
    obtain ⟨rows, -, rfl⟩ := except_bind_ok written
    exact .inl rfl
  | jobLogs | jobCeleryTaskId | diskDelete | nicDelete | snapshotDelete =>
    cases written
    exact .inl rfl

theorem statusOf_write (backup : Nat) {x : Write} {now : Nat} {uuid : Uuid} {w w' : World}
    (keeps : ServiceOp.keepsRows (.task (.write x))) (written : w.db.write now uuid x = .ok w'.db) :
    statusOf w' backup = statusOf w backup ∨
      ∃ fields, x = .backupSave backup fields ∧ statusOf w' backup = some fields.status := by
  unfold statusOf
  rcases write_backups keeps written with same | ⟨pk, fields, row, rfl, found, saved⟩
  · exact .inl (by rw [same])
  · have kept : ∀ b : BackupRow, Row.pk (fields.apply b) = Row.pk b := fun _ => rfl
    rw [saved, Table.get_modify kept]
    by_cases own : backup = pk
    · subst own
      refine .inr ⟨fields, rfl, ?_⟩
      rw [if_pos rfl, found]
      rfl
    · exact .inl (by rw [if_neg own])

/-- One operation leaves a backup's status or gives it the one that it saves. -/
theorem statusOf_act (backup : Nat) {c : ServiceChoice} {i : Nat} {o : ServiceOp} {w w' : World} {a : ServiceAns o}
    (keeps : o.keepsRows) (hact : act c i o w = some (a, w')) :
    statusOf w' backup = statusOf w backup ∨
      ∃ fields, o = .task (.write (.backupSave backup fields)) ∧
        statusOf w' backup = some fields.status := by
  obtain ⟨⟨a', s⟩, acted, same⟩ := Option.map_eq_some_iff.mp hact
  cases same
  cases o with
  | task o =>
    cases acted
    rcases World.answer_db c.toChoice o w with same | ⟨x, rfl, written⟩ | ⟨row, row', rfl, created⟩
    · exact .inl (by unfold statusOf; rw [same])
    · rcases statusOf_write backup keeps written with same | ⟨fields, rfl, given⟩
      · exact .inl same
      · exact .inr ⟨fields, rfl, given⟩
    · exact .inl (by unfold statusOf; rw [(Tables.createVm_ok created).1])
  | createJob row =>
    simp only [Site.act] at acted
    split at acted <;> cases acted <;> exact .inl rfl
  | checkAndReserve vm =>
    simp only [Site.act] at acted
    split at acted <;> cases acted <;> exact .inl rfl

theorem Sealed.act {i : Nat} {c : ServiceChoice} (h : Sealed p) (ok : careful (.act i c) p)
    (next : system.step (.act i c) p = some p') : Sealed p' ∧
      ∀ backup, statusOf p.shared backup = some .deleted → statusOf p'.shared backup = some .deleted := by
  obtain ⟨tag, o, k, a, w, hi, hact, rfl⟩ := System.step_act next
  have actor := List.mem_of_getElem? hi
  have keeps : o.keepsRows := (h.rows _ actor).1
  have quiet (backup : Nat) (gone : statusOf w backup = some .deleted) :
      ∀ t ∈ p.threads, Quiet backup t.rest := by
    rcases statusOf_act backup keeps hact with same | ⟨fields, rfl, given⟩
    · exact h.gone backup (same.symm.trans gone)
    · intro t ht
      by_cases about : t.tag.about = some backup
      · exact ok backup ⟨tag, fields, k, hi, Option.some.inj (given.symm.trans gone)⟩ t ht about
      · exact h.others t ht backup about
  refine ⟨⟨?_, ?_, ?_⟩, ?_⟩
  · intro t ht
    rcases List.mem_or_eq_of_mem_set ht with old | rfl
    · exact h.rows t old
    · exact (h.rows _ actor).2 a trivial
  · intro t ht backup other
    rcases List.mem_or_eq_of_mem_set ht with old | rfl
    · exact h.others t old backup other
    · exact (h.others _ actor backup other).2 a trivial
  · intro backup gone t ht
    rcases List.mem_or_eq_of_mem_set ht with old | rfl
    · exact quiet backup gone t old
    · exact (quiet backup gone _ actor).2 a trivial
  · intro backup gone
    rcases statusOf_act backup keeps hact with same | ⟨fields, rfl, given⟩
    · exact same.trans gone
    · have deleted : fields.status = .deleted := (h.gone backup gone _ actor).1 rfl
      exact given.trans (congrArg some deleted)

/-- A request that arrives. -/
theorem Sealed.request {r : Request} {taskId : String} {jobId : Nat} {requestedBy : Option Nat}
    {x : ServiceM Unit} (h : Sealed p)
    (ok : careful (.env (.request r taskId jobId requestedBy)) p)
    (started : r.script p.shared taskId jobId requestedBy = some x) :
    Sealed ⟨p.threads ++ [⟨r, x.prog ()⟩], p.shared⟩ := by
  have rows : (x.prog ()).Obeys (fun _ _ => True) ServiceOp.keepsRows fun _ => True :=
    (obeys_script routine_keepsRows trivial (fun _ _ _ => trivial) (fun _ _ _ => trivial)
      (fun _ => trivial) started ()).mono (fun _ => id) fun _ _ => trivial
  have others (backup : Nat) (other : r.about ≠ some backup) : Quiet backup (x.prog ()) :=
    (obeys_script routine_quiet trivial (fun _ _ _ => trivial)
      (fun _ _ about same => absurd (same ▸ about) other) (fun _ _ => rfl) started ()).mono
      (fun _ => id) fun _ _ => trivial
  have gone (backup : Nat) (deleted : statusOf p.shared backup = some .deleted) :
      Quiet backup (x.prog ()) := by
    by_cases about : r.about = some backup
    · cases r with
      | restore k =>
        cases about
        obtain ⟨⟨b, vm, target⟩, loaded, rfl⟩ := Option.map_eq_some_iff.mp started
        unfold statusOf at deleted
        rw [(loadBackup_some loaded).1] at deleted
        exact quiet_restore (Option.some.inj deleted)
      | createTask k | restoreTask k =>
        cases about
        exact absurd deleted ok
      | delete | retention => cases about
    · exact others backup about
  have new {t : Worker} (ht : t ∈ p.threads ++ [⟨r, x.prog ()⟩]) :
      t ∈ p.threads ∨ t = ⟨r, x.prog ()⟩ := by simpa using ht
  refine ⟨?_, ?_, ?_⟩
  · intro t ht
    rcases new ht with old | rfl
    · exact h.rows t old
    · exact rows
  · intro t ht backup other
    rcases new ht with old | rfl
    · exact h.others t old backup other
    · exact others backup other
  · intro backup deleted t ht
    rcases new ht with old | rfl
    · exact h.gone backup deleted t old
    · exact gone backup deleted

/-- The surroundings delete no backup, and bring none back. -/
theorem statusOf_env (backup : Nat) {e : Event} {w w' : World} {ts : List Worker} (henv : env e w = some (ts, w')) :
    statusOf w' backup = some .deleted ↔ statusOf w backup = some .deleted := by
  cases e with
  | request r taskId jobId requestedBy =>
    obtain ⟨x, -, same⟩ := Option.map_eq_some_iff.mp henv
    cases same
    exact Iff.rfl
  | create uuid vm target type =>
    cases henv
    unfold statusOf Table.get
    rw [List.find?_append]
    cases found : w.db.backups.find? fun r => Row.pk r == backup with
    | some b => exact Iff.rfl
    | none =>
      refine iff_of_false (fun created => ?_) (fun none => by cases none)
      rw [Option.none_or] at created
      obtain ⟨row, hrow, status⟩ := Option.map_eq_some_iff.mp created
      have new := List.mem_singleton.mp (List.mem_of_find?_eq_some hrow)
      rw [new] at status
      cases status
  | schedule uuid expires =>
    cases henv
    have kept := Table.get_map (t := w.db.backups) (k := backup) (fun b : BackupRow =>
      if b.uuid = uuid then { b with retentionExpiresAt := some expires } else b)
      (fun b => by split <;> rfl)
    unfold statusOf
    simp only [kept, Option.map_map]
    refine iff_of_eq (congrArg (· = _) (congrArg (Option.map · _) (funext fun b => ?_)))
    simp only [Function.comp]
    split <;> rfl
  | elsewhere db busy =>
    cases henv
    exact Iff.rfl

/-- **One step.** -/
theorem Sealed.step {l : Label ServiceChoice Event} (h : Sealed p) (ok : careful l p)
    (next : system.step l p = some p') : Sealed p' ∧
      ∀ backup, statusOf p.shared backup = some .deleted → statusOf p'.shared backup = some .deleted := by
  cases l with
  | act thread c => exact h.act ok next
  | env e =>
    obtain ⟨ts, w, henv, rfl⟩ := System.step_env next
    have henv : env e p.shared = some (ts, w) := henv
    refine ⟨?_, fun backup => (statusOf_env backup henv).mpr⟩
    cases e with
    | request r taskId jobId requestedBy =>
      obtain ⟨x, started, same⟩ := Option.map_eq_some_iff.mp henv
      cases same
      exact h.request ok started
    | create | schedule | elsewhere =>
      have kept (backup : Nat) := (statusOf_env backup henv).mp
      cases henv
      exact ⟨by simpa using h.rows, by simpa using h.others, fun backup gone => by
        simpa using h.gone backup (kept backup gone)⟩

end Steps

theorem Sealed.start (w : World) : Sealed ⟨[], w⟩ := by
  refine ⟨?_, ?_, ?_⟩
  · intro t ht
    cases ht
  · intro t ht
    cases ht
  · intro backup _ t ht
    cases ht

/-- **In a run in which no backup is deleted while it is made or restored, and no task of a deleted one
is delivered, DELETED is for ever.** -/
theorem deleted_forever (w : World) (before after : List (Label ServiceChoice Event))
    (ok : Along system.step careful (before ++ after) ⟨[], w⟩) (p p' : Threads)
    (first : runFrom system.step before ⟨[], w⟩ = some p)
    (rest : runFrom system.step after p = some p') (backup : Nat)
    (gone : statusOf p.shared backup = some .deleted) : statusOf p'.shared backup = some .deleted := by
  obtain ⟨here, later⟩ := Along.append.mp ok
  have reached : Sealed p := runFrom_keeps (fun _ _ _ h ok next => (Sealed.step h ok next).1)
    (Sealed.start w) here first
  refine (runFrom_keeps (I := fun q => Sealed q ∧ statusOf q.shared backup = some .deleted)
    (fun _ _ _ h ok next => ?_) ⟨reached, gone⟩ (later p first) rest).2
  exact (h.1.step ok next).imp id fun keeps => keeps backup h.2

/-! ## Two runs -/

/-- A stopped VM with two backups that are completed. -/
def archived : World where
  db :=
    { vms := [{ pk := 1, uuid := ⟨1⟩, domainUuid := ⟨2⟩, organization := 1, project := 1,
                node := some 1, name := "web", status := .stopped }]
      nodes := [{ pk := 1, name := "n1" }]
      pools := [{ pk := 1, uuid := ⟨3⟩, node := 1, name := "p", type := .directory, path := "/srv" }]
      disks := [{ pk := 1, uuid := ⟨4⟩, vm := 1, storage := 1, name := "root", volumeId := "v"
                  sizeBytes := 1 }]
      targets := [{ pk := 1, type := .local }]
      backups := [{ pk := 1, uuid := ⟨5⟩, vm := 1, target := 1, status := .completed },
        { pk := 2, uuid := ⟨6⟩, vm := 1, target := 1, status := .completed }] }
  script := fun _ => {}

/-- A restore arrives and performs `n` operations, and the first backup is deleted. -/
def deleteBeside (backup n : Nat) : List (Label ServiceChoice Event) :=
  .env (.request (.restore backup) "a" 0 none) :: List.replicate n (.act 0 {}) ++
    [.env (.request (.delete 1) "" 0 none), .act 1 {}]

/-- The first backup is deleted while the second is restored. -/
theorem deleted_forever_other :
    ∃ p p', runFrom system.step (deleteBeside 2 0) ⟨[], archived⟩ = some p ∧
      runFrom system.step [.env (.request (.restore 1) "b" 0 none), .act 0 {}] p = some p' ∧
      statusOf p.shared 1 = some .deleted ∧ statusOf p'.shared 1 = some .deleted := by
  have ok : Along system.step careful
      (deleteBeside 2 0 ++ [.env (.request (.restore 1) "b" 0 none), .act 0 {}]) ⟨[], archived⟩ := by
    refine ⟨trivial, trivial, ?_, trivial, ?_, trivial⟩
    · rintro backup ⟨tag, fields, k, same, -⟩ t ht about
      cases same
      rcases List.mem_cons.mp ht with rfl | ht
      · cases about
      · rw [List.mem_singleton.mp ht] at about
        cases about
    · rintro backup ⟨tag, fields, k, same, -⟩
      cases same
  exact ⟨_, _, rfl, rfl, rfl, deleted_forever archived _ _ ok _ _ rfl rfl 1 rfl⟩

/-- A backup is deleted while its RESTORE_BACKUP is under way, and is COMPLETED again. -/
theorem deletion_undone :
    ¬ ∀ (w : World) (before after : List (Label ServiceChoice Event)) (p p' : Threads),
      runFrom system.step before ⟨[], w⟩ = some p → runFrom system.step after p = some p' →
      ∀ backup, statusOf p.shared backup = some .deleted → statusOf p'.shared backup = some .deleted := by
  intro always
  have kept := always archived (deleteBeside 1 14) (List.replicate 2 (.act 0 {})) _ _ rfl rfl 1 rfl
  exact absurd kept (by decide)

end Retention

end NodePilot
