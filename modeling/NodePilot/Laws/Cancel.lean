import NodePilot.Laws.Rules

/-!
# Cancellation of a job

`job_run` looks for a requested cancellation before its own `try`, so the `JobCancelled` it raises
never meets the branch that records CANCELED. It leaves the step and ends in the task's catch-all
branch, which records FAILED. No execution of any task moves a job to CANCELED.

The proof is an invariant: every operation other than a transition to CANCELED leaves the job
not CANCELED, and the block under a `job_run` raises no `JobCancelled`.
-/

namespace NodePilot

open Lib Lib.Script

/-! ## A job that is not canceled -/

/-- The job's row, if there is one, is not CANCELED. -/
def Uncanceled (job : Nat) (t : Tables) : Prop :=
  ∀ row, Table.get t.jobs job = some row → row.status ≠ .canceled

/-- A change of jobs that cancels none leaves the job uncanceled. -/
theorem uncanceled_modify {job k : Nat} {t t' : Tables} {f : JobRow → JobRow}
    (h : Uncanceled job t) (ht : t'.jobs = Table.modify t.jobs k f)
    (hpk : ∀ r : JobRow, (f r).pk = r.pk)
    (hf : ∀ r : JobRow, r.status ≠ .canceled → (f r).status ≠ .canceled) :
    Uncanceled job t' := by
  intro row hrow
  rw [ht, Table.get_modify hpk] at hrow
  split at hrow
  · obtain ⟨r, hr, rfl⟩ := Option.map_eq_some_iff.mp hrow
    exact hf r (h r hr)
  · exact h row hrow

/-- A request to cancel sets a mark and no status. -/
theorem uncanceled_requestCancel {job : Nat} {now : Nat} {t : Tables} {k : Option Nat}
    (h : Uncanceled job t) : Uncanceled job (t.requestCancel now k) := by
  rcases t.requestCancel_cases now k with same | ⟨k, row, -, -, turned⟩
  · rw [same]
    exact h
  · refine uncanceled_modify h (congrArg Tables.jobs turned) (fun _ => rfl) fun r _ => ?_
    simp [JobRow.transitioned]

/-- The operations other than a transition to CANCELED. -/
def Op.keepsJobs : Op → Prop
  | .write x => x.jobStatus ≠ some .canceled
  | _ => True

/-- No operation of a task cancels a job. -/
theorem handle_uncanceled {job : Nat} {o : Op} {w : World} (ho : o.keepsJobs)
    (h : Uncanceled job w.db) : Uncanceled job (World.handle o w).2.db := by
  have turn : Uncanceled job w.next.db := uncanceled_requestCancel h
  rcases World.handle_db o w with same | ⟨x, rfl, hx⟩ | ⟨row, row', rfl, hrow⟩
  · rw [same]; exact turn
  · rcases Tables.write_jobs hx with same | ⟨k, f, hf, hjobs⟩
    · exact fun row hrow => turn row (same ▸ hrow)
    · refine uncanceled_modify turn hjobs (Write.ofJob_pk hf) fun r hr => ?_
      rcases Write.ofJob_status hf r with eq | eq
      · rw [eq]; exact hr
      · exact fun hc => ho (by rw [← eq, hc])
  · exact fun r hr => turn r (Tables.createVm_jobs hrow ▸ hr)

/-! ## The statements of a task -/

section Statements

variable {L α : Type} {job : Nat} {E : Exn → Prop}

/-- The invariant of a run: the job is not canceled. -/
def StaysUncanceled (job : Nat) : L → World → Prop := fun _ w => Uncanceled job w.db

/-- Every exception but `JobCancelled`. -/
def Exn.Plain (e : Exn) : Prop := ∀ job, e ≠ .jobCancelled job

/-- What an operation raises is no cancellation. -/
theorem Exn.plain_of_operation {e : Exn} (h : e.ofOperation) : e.Plain := by
  intro job he
  rw [he] at h
  cases h

/-- The job stays uncanceled through every operation that keeps jobs. -/
theorem opKeeps_uncanceled {o : Op} (ho : o.keepsJobs) :
    OpKeeps (L := L) (StaysUncanceled job) o := fun _ _ => handle_uncanceled ho

/-- The statements that keep the job uncanceled and raise only plain exceptions. -/
abbrev Steady (job : Nat) (x : TaskM L α) : Prop :=
  Keeps World.handle (StaysUncanceled job) Exn.Plain x

/-- The tasks, which may raise anything. -/
abbrev SteadyTask (job : Nat) (x : TaskM L α) : Prop :=
  Keeps World.handle (StaysUncanceled job) (fun _ => True) x

/-- What is steady at every step is steady as a task. -/
theorem Steady.task {x : TaskM L α} (hx : Steady job x) : SteadyTask job x :=
  hx.imp fun _ _ => trivial

/-- A write to anything but a job's status is steady. -/
theorem steady_save {x : Write} (hx : x.jobStatus = none) : Steady (L := L) job (save x) :=
  Keeps.save (fun _ => Exn.plain_of_operation) (opKeeps_uncanceled (by simp [Op.keepsJobs, hx]))

/-- A call to the agent is steady. -/
theorem steady_send {node : Option Nat} {r : AgentRequest} {timeout : Option Nat} :
    Steady (L := L) job (sendOperation node r timeout) :=
  Keeps.sendOperation (fun _ => Exn.plain_of_operation) (opKeeps_uncanceled trivial)

theorem steady_emit {event : Event} : Steady (L := L) job (emitEvent event) :=
  Keeps.emitEvent (fun _ => Exn.plain_of_operation) (opKeeps_uncanceled trivial)

theorem steady_query : Steady (L := L) job query := Keeps.query (opKeeps_uncanceled trivial)

theorem steady_getRow {model : String} {row : Tables → Option α} :
    Steady (L := L) job (getRow model row) :=
  Keeps.getRow (fun _ => Exn.plain_of_operation) (opKeeps_uncanceled trivial)

/-- A transition to another status than CANCELED is steady. -/
theorem steady_transition {j : JobRow} {new : JobStatus} {message error : Option String}
    (h : new ≠ .canceled) : Steady (L := L) job (transition j new message error) :=
  Keeps.save (fun _ => Exn.plain_of_operation)
    (opKeeps_uncanceled fun he => h (Option.some.inj he))

/-- Failing the job is steady. -/
theorem steady_failUnlessTerminal {j : JobRow} {exc : Exn} :
    Steady (L := L) job (failUnlessTerminal j exc) :=
  Keeps.bind steady_getRow fun _ => Keeps.onlyIf fun _ => steady_transition (by decide)

/-- A step raises `JobCancelled` itself, but only before its `try`: what it catches is plain. -/
theorem steady_jobRun {j : JobRow} {step : String} {body : TaskM L α} (hb : Steady job body) :
    SteadyTask job (jobRun j step body) := by
  refine Keeps.bind (Keeps.onlyIf fun _ => (steady_transition (by decide)).task) fun _ => ?_
  refine Keeps.bind (Keeps.bind steady_query.task fun _ => Keeps.pure _) fun _ => ?_
  refine Keeps.bind (Keeps.onlyIf fun _ => Keeps.throw trivial) fun _ => ?_
  refine Keeps.bind (Keeps.onlyIf fun _ => ?_) fun _ => ?_
  · refine Keeps.bind (steady_save rfl).task fun _ => ?_
    exact Keeps.bind steady_getRow.task fun _ => (steady_save rfl).task
  · refine Keeps.tryCatch hb fun exc hexc => Keeps.bind ?_ fun _ => Keeps.throw trivial
    cases exc with
    | jobCancelled k => exact absurd rfl (hexc k)
    | _ => exact (steady_transition (by decide)).task

/-- A lock adds nothing to its body. -/
theorem steady_withLock {key : LockKey} {ttl : Nat} {body : TaskM L α}
    (hb : SteadyTask job body) : SteadyTask job (withLock key ttl body) :=
  Keeps.withLock trivial (opKeeps_uncanceled trivial) (opKeeps_uncanceled trivial) hb

/-- The last two lines of every `except` branch. -/
theorem steady_failAndRaise {j : JobRow} {exc : Exn} :
    SteadyTask (L := L) job (do failUnlessTerminal j exc; throw exc : TaskM L α) :=
  Keeps.bind steady_failUnlessTerminal.task fun _ => Keeps.throw trivial

/-! ## Virtual machine tasks -/

theorem steady_swallow_emit {event : Event} : Steady (L := L) job (swallow (emitEvent event)) :=
  Keeps.swallow steady_emit

theorem steady_buildDomainRequest {vm : VmRow} : Steady (L := L) job (buildDomainRequest vm) :=
  Keeps.bind steady_query fun _ => Keeps.bind steady_query fun _ => Keeps.pure _

/-- An attempt is as steady as what it attempts. -/
theorem steady_attempt {what : String} {x : TaskM L Dict} (hx : Steady job x) :
    Steady job (attempt what x) :=
  Keeps.tryCatch (Keeps.bind hx fun _ => Keeps.pure _) fun _ _ => Keeps.pure _

/-- The cleanup of the volumes is steady. -/
theorem steady_cleanupVolumes {vm : VmRow} {volumes : List (DiskRow × PoolRow)} :
    Steady (L := L) job (cleanupVolumes vm volumes) := by
  induction volumes with
  | nil => exact Keeps.pure _
  | cons volume rest ih =>
    exact Keeps.bind (steady_attempt steady_send) fun _ => Keeps.bind ih fun _ => Keeps.pure _

theorem steady_volumesOf {vm : VmRow} : Steady (L := L) job (volumesOf vm) :=
  Keeps.bind steady_query fun _ => Keeps.pure _

/-- The whole cleanup is steady. -/
theorem steady_cleanupPartialVm {vm : VmRow} : Steady (L := L) job (cleanupPartialVm vm) := by
  refine Keeps.bind (Keeps.ite (fun _ => steady_attempt steady_send) fun _ => Keeps.pure _)
    fun _ => ?_
  refine Keeps.bind steady_volumesOf fun _ => Keeps.bind steady_cleanupVolumes fun _ => ?_
  exact Keeps.onlyIf fun _ => steady_swallow_emit

theorem steady_modify {f : L → L} : Steady job (modify f : TaskM L PUnit) :=
  Keeps.modify fun _ _ h => h

theorem steady_enter {state : ProvisioningState} : Steady job (enter state) :=
  Keeps.bind steady_modify fun _ => Keeps.bind Keeps.get fun _ => steady_save rfl

theorem steady_saveStatusAndState : Steady job saveStatusAndState :=
  Keeps.bind Keeps.get fun _ => steady_save rfl

/-- So are the disks of a new VM. -/
theorem steady_createDisks {vm : VmRow} : Steady (L := L) job (createDisks vm) :=
  Keeps.bind steady_query fun _ => Keeps.forM fun _ _ =>
    Keeps.bind steady_send fun _ => steady_save rfl

/-- So is its domain. -/
theorem steady_createDomain : Steady job createDomain :=
  Keeps.bind Keeps.get fun _ => Keeps.bind steady_buildDomainRequest fun _ =>
    Keeps.bind steady_send fun _ => steady_enter

theorem steady_startDomain : Steady job startDomain :=
  Keeps.bind Keeps.get fun _ => Keeps.bind steady_send fun _ =>
    Keeps.bind steady_modify fun _ => steady_saveStatusAndState

/-- So are all steps under the lock. -/
theorem steady_provisionSteps {j : JobRow} : SteadyTask job (provisionSteps j) := by
  refine Keeps.bind Keeps.get fun vm => ?_
  refine Keeps.bind (steady_jobRun steady_enter) fun _ => ?_
  refine Keeps.bind (steady_jobRun (Keeps.bind steady_createDisks fun _ => steady_enter))
    fun _ => ?_
  refine Keeps.bind (steady_jobRun steady_enter) fun _ => ?_
  refine Keeps.bind (steady_jobRun steady_createDomain) fun _ => ?_
  refine Keeps.bind (Keeps.onlyIf fun _ => steady_jobRun (Keeps.bind steady_send fun _ =>
    Keeps.pure _)) fun _ => ?_
  refine Keeps.bind steady_enter.task fun _ => ?_
  refine Keeps.bind (Keeps.ite (fun _ => steady_jobRun steady_startDomain)
    fun _ => steady_modify.task) fun _ => ?_
  exact Keeps.bind steady_modify.task fun _ => steady_saveStatusAndState.task

/-- So is the except branch. -/
theorem steady_provisionExcept {j : JobRow} {exc : Exn} :
    SteadyTask job (provisionExcept j exc) := by
  unfold provisionExcept
  split
  · exact Keeps.onlyIf fun _ => (steady_transition (by decide)).task
  · refine Keeps.bind Keeps.get fun _ => Keeps.bind steady_cleanupPartialVm.task fun _ => ?_
    exact Keeps.bind (steady_save rfl).task fun _ => steady_failUnlessTerminal.task

/-- `provision_vm` cancels no job. -/
theorem steady_provisionVm {jobId vmId : Nat} :
    SteadyTask (L := L) job (provisionVm jobId vmId) := by
  refine Keeps.bind steady_getRow.task fun j => Keeps.bind steady_getRow.task fun vm => ?_
  refine Keeps.scope (I := fun w : World => Uncanceled job w.db) ?_
  refine Keeps.tryCatch (E := fun _ => True) ?_ fun exc _ =>
    Keeps.bind steady_provisionExcept fun _ => Keeps.throw trivial
  refine Keeps.bind Keeps.get fun _ => Keeps.bind (steady_withLock steady_provisionSteps)
    fun _ => ?_
  refine Keeps.bind (steady_transition (by decide)).task fun _ => ?_
  exact Keeps.bind Keeps.get fun _ => steady_swallow_emit.task

/-- No lifecycle task cancels a job. -/
theorem steady_simpleLifecycleTask {jobId vmId : Nat} {operation : OperationType}
    {status : VMStatus} {step event : String} :
    SteadyTask (L := L) job (simpleLifecycleTask jobId vmId operation status step event) := by
  refine Keeps.bind steady_getRow.task fun j => Keeps.bind steady_getRow.task fun vm => ?_
  refine Keeps.tryCatch (E := fun _ => True) ?_ fun exc _ =>
    Keeps.bind (steady_save rfl).task fun _ => steady_failAndRaise
  refine Keeps.bind (steady_withLock (steady_jobRun (Keeps.bind steady_send fun _ =>
    steady_save rfl))) fun _ => ?_
  exact Keeps.bind (steady_transition (by decide)).task fun _ => steady_swallow_emit.task

theorem steady_deleteVmStep {vm : VmRow} : Steady (L := L) job (deleteVmStep vm) := by
  refine Keeps.bind (steady_save rfl) fun _ => Keeps.bind steady_send fun _ => ?_
  exact Keeps.bind steady_volumesOf fun _ => Keeps.forM fun _ _ =>
    Keeps.bind steady_send fun _ => Keeps.pure _

/-- `delete_vm_task` cancels no job. -/
theorem steady_deleteVmTask {jobId vmId : Nat} :
    SteadyTask (L := L) job (deleteVmTask jobId vmId) := by
  refine Keeps.bind steady_getRow.task fun j => Keeps.bind steady_getRow.task fun vm => ?_
  refine Keeps.tryCatch (E := fun _ => True) ?_ fun exc _ =>
    Keeps.bind (steady_save rfl).task fun _ => steady_failAndRaise
  refine Keeps.bind (steady_withLock (steady_withLock (steady_jobRun steady_deleteVmStep)))
    fun _ => ?_
  refine Keeps.bind (steady_save rfl).task fun _ => ?_
  exact Keeps.bind (steady_transition (by decide)).task fun _ => steady_swallow_emit.task

theorem steady_prepareClone {j : JobRow} {source : VmRow} {name : String} :
    Steady (L := L) job (prepareClone j source name) :=
  Keeps.bind (Keeps.insertVm (fun _ => Exn.plain_of_operation) (opKeeps_uncanceled trivial))
    fun _ => Keeps.bind (steady_save rfl) fun _ => Keeps.pure _

theorem steady_cloneSteps {j : JobRow} {source : VmRow} {name : String} {linked : Bool} :
    SteadyTask (L := L) job (cloneSteps j source name linked) := by
  refine Keeps.bind (steady_jobRun steady_prepareClone) fun clone => ?_
  refine Keeps.bind (steady_jobRun ?disks) fun _ => Keeps.bind (steady_jobRun ?nics) fun _ =>
    Keeps.bind (steady_jobRun ?domain) fun _ => Keeps.pure _
  case disks =>
    refine Keeps.bind steady_query fun _ => Keeps.bind (Keeps.forM fun _ _ => ?_) fun _ =>
      steady_save rfl
    exact Keeps.bind steady_send fun _ => steady_save rfl
  case nics =>
    refine Keeps.bind steady_query fun _ => Keeps.bind (Keeps.forM fun _ _ => ?_) fun _ =>
      steady_save rfl
    exact Keeps.bind (Keeps.perform (opKeeps_uncanceled trivial)) fun _ => steady_save rfl
  case domain =>
    exact Keeps.bind steady_buildDomainRequest fun _ => Keeps.bind steady_send fun _ =>
      steady_save rfl

/-- `clone_vm_task` cancels no job. -/
theorem steady_cloneVmTask {jobId vmId : Nat} {name : String} {linked : Bool} :
    SteadyTask (L := L) job (cloneVmTask jobId vmId name linked) := by
  refine Keeps.bind steady_getRow.task fun j => Keeps.bind steady_getRow.task fun source => ?_
  refine Keeps.tryCatch (E := fun _ => True) ?_ fun exc _ => steady_failAndRaise
  refine Keeps.bind (steady_withLock (steady_withLock steady_cloneSteps)) fun _ => ?_
  exact Keeps.bind (steady_transition (by decide)).task fun _ => steady_swallow_emit.task

/-- No disk or NIC task cancels a job. -/
theorem steady_diskOrNicTask {jobId : Nat} {vm : VmRow} {step : String} {runOp : TaskM L Unit}
    (hop : Steady job runOp) : SteadyTask job (diskOrNicTask jobId vm step runOp) := by
  refine Keeps.bind steady_getRow.task fun j => ?_
  refine Keeps.tryCatch (E := fun _ => True) ?_ fun exc _ => steady_failAndRaise
  exact Keeps.bind (steady_withLock (steady_jobRun hop)) fun _ =>
    (steady_transition (by decide)).task

theorem steady_attachDisk {vm : VmRow} {disk : DiskRow} {pool : PoolRow} :
    Steady (L := L) job (attachDisk vm disk pool) :=
  Keeps.bind steady_send fun _ => Keeps.bind (steady_save rfl) fun _ =>
    Keeps.bind steady_send fun _ => Keeps.pure _

theorem steady_detachDisk {vm : VmRow} {disk : DiskRow} {pool : PoolRow} :
    Steady (L := L) job (detachDisk vm disk pool) :=
  Keeps.bind steady_send fun _ =>
    Keeps.bind (Keeps.onlyIf fun _ => Keeps.bind steady_send fun _ => Keeps.pure _) fun _ =>
      steady_save rfl

/-- A call and then one write, the shape of the remaining steps. -/
theorem steady_sendThenSave {node : Option Nat} {r : AgentRequest} {timeout : Option Nat}
    {x : Dict → Write} (hx : ∀ data, (x data).jobStatus = none) :
    Steady (L := L) job (do let data ← sendOperation node r timeout; save (x data)) :=
  Keeps.bind steady_send fun _ => steady_save (hx _)

/-! ## Snapshots and backups -/

/-- No snapshot task cancels a job. -/
theorem steady_createSnapshotTask {jobId snapshotId : Nat} :
    SteadyTask (L := L) job (createSnapshotTask jobId snapshotId) := by
  refine Keeps.bind steady_getRow.task fun j => Keeps.bind steady_getRow.task fun s => ?_
  refine Keeps.tryCatch (E := fun _ => True) ?_ fun exc _ =>
    Keeps.bind (steady_save rfl).task fun _ => steady_failAndRaise
  refine Keeps.bind (steady_withLock (steady_jobRun (steady_sendThenSave fun _ => rfl)))
    fun _ => ?_
  exact Keeps.bind (steady_transition (by decide)).task fun _ => steady_emit.task

theorem steady_deleteSnapshotTask {jobId snapshotId : Nat} :
    SteadyTask (L := L) job (deleteSnapshotTask jobId snapshotId) := by
  refine Keeps.bind steady_getRow.task fun j => Keeps.bind steady_getRow.task fun s => ?_
  refine Keeps.tryCatch (E := fun _ => True) ?_ fun exc _ =>
    Keeps.bind (steady_save rfl).task fun _ => steady_failAndRaise
  refine Keeps.bind (steady_withLock (steady_jobRun (Keeps.bind (steady_save rfl) fun _ =>
    Keeps.bind steady_send fun _ => Keeps.pure _))) fun _ => ?_
  exact Keeps.bind (steady_save rfl).task fun _ => (steady_transition (by decide)).task

theorem steady_rollbackSnapshotTask {jobId snapshotId : Nat} :
    SteadyTask (L := L) job (rollbackSnapshotTask jobId snapshotId) := by
  refine Keeps.bind steady_getRow.task fun j => Keeps.bind steady_getRow.task fun s => ?_
  refine Keeps.tryCatch (E := fun _ => True) ?_ fun exc _ =>
    Keeps.bind (steady_save rfl).task fun _ => steady_failAndRaise
  refine Keeps.bind (steady_withLock (steady_withLock (steady_jobRun
    (Keeps.bind (steady_save rfl) fun _ => steady_sendThenSave fun _ => rfl)))) fun _ => ?_
  exact Keeps.bind (steady_transition (by decide)).task fun _ => steady_emit.task

theorem steady_requirePrimaryDisk {vm : VmRow} {missing : String} :
    Steady (L := L) job (requirePrimaryDisk vm missing) := by
  refine Keeps.bind steady_query fun t => ?_
  split
  · exact Keeps.pure _
  · exact Keeps.throw nofun

theorem steady_now : Steady (L := L) job now := Keeps.perform (opKeeps_uncanceled trivial)

theorem steady_createBackupStep {vm : VmRow} {b : BackupRow} {target : TargetRow} :
    Steady (L := L) job (createBackupStep vm b target) := by
  refine Keeps.bind steady_now fun _ => Keeps.bind (steady_save rfl) fun _ => ?_
  refine Keeps.bind steady_requirePrimaryDisk fun _ => Keeps.bind steady_send fun _ => ?_
  exact Keeps.bind steady_now fun _ => steady_save rfl

/-- `create_backup_task` cancels no job. -/
theorem steady_createBackupTask {jobId backupId : Nat} :
    SteadyTask (L := L) job (createBackupTask jobId backupId) := by
  refine Keeps.bind steady_getRow.task fun j => Keeps.bind steady_getRow.task fun b => ?_
  refine Keeps.tryCatch (E := fun _ => True) ?_ fun exc _ =>
    Keeps.bind steady_now.task fun _ => Keeps.bind (steady_save rfl).task fun _ =>
      Keeps.bind steady_failUnlessTerminal.task fun _ => Keeps.bind steady_emit.task fun _ =>
        Keeps.throw trivial
  refine Keeps.bind (steady_withLock (steady_jobRun steady_createBackupStep)) fun _ => ?_
  exact Keeps.bind (steady_transition (by decide)).task fun _ => steady_emit.task

/-- `restore_backup_task` cancels no job. -/
theorem steady_restoreBackupTask {jobId backupId : Nat} :
    SteadyTask (L := L) job (restoreBackupTask jobId backupId) := by
  refine Keeps.bind steady_getRow.task fun j => Keeps.bind steady_getRow.task fun b => ?_
  refine Keeps.tryCatch (E := fun _ => True) ?_ fun exc _ =>
    Keeps.bind (steady_save rfl).task fun _ => steady_failAndRaise
  refine Keeps.bind (steady_withLock (steady_jobRun ?step)) fun _ =>
    (steady_transition (by decide)).task
  exact Keeps.bind (steady_save rfl) fun _ => Keeps.bind steady_requirePrimaryDisk fun _ =>
    steady_sendThenSave fun _ => rfl

/-! ## Networks and storage pools -/

/-- No network task cancels a job. -/
theorem steady_createNetworkTask {jobId networkId : Nat} :
    SteadyTask (L := L) job (createNetworkTask jobId networkId) := by
  refine Keeps.bind steady_getRow.task fun j => Keeps.bind steady_getRow.task fun net => ?_
  refine Keeps.tryCatch (E := fun _ => True) ?_ fun exc _ =>
    Keeps.bind (steady_save rfl).task fun _ => Keeps.bind steady_failUnlessTerminal.task fun _ =>
      Keeps.bind steady_swallow_emit.task fun _ => Keeps.throw trivial
  refine Keeps.bind (steady_jobRun (steady_sendThenSave fun _ => rfl)) fun _ => ?_
  exact Keeps.bind (steady_transition (by decide)).task fun _ => steady_swallow_emit.task

theorem steady_deleteNetworkTask {jobId networkId : Nat} :
    SteadyTask (L := L) job (deleteNetworkTask jobId networkId) := by
  refine Keeps.bind steady_getRow.task fun j => Keeps.bind steady_getRow.task fun net => ?_
  refine Keeps.tryCatch (E := fun _ => True) ?_ fun exc _ =>
    Keeps.bind (steady_save rfl).task fun _ => steady_failAndRaise
  refine Keeps.bind (steady_jobRun (Keeps.bind steady_send fun _ => Keeps.pure _)) fun _ => ?_
  refine Keeps.bind (steady_save rfl).task fun _ => ?_
  exact Keeps.bind (steady_transition (by decide)).task fun _ => steady_swallow_emit.task

theorem steady_requireInt {data : Dict} {key : String} :
    Steady (L := L) job (requireInt data key) := by
  unfold requireInt
  split
  · exact Keeps.pure _
  · exact Keeps.throw nofun

theorem steady_createStoragePoolStep {pool : PoolRow} :
    Steady (L := L) job (createStoragePoolStep pool) := by
  refine Keeps.bind (Keeps.onlyIf fun _ => Keeps.bind steady_send fun _ => Keeps.pure _)
    fun _ => ?_
  refine Keeps.bind steady_send fun _ => Keeps.bind steady_requireInt fun _ => ?_
  exact Keeps.bind steady_requireInt fun _ => Keeps.bind steady_requireInt fun _ => steady_save rfl

/-- `create_storage_pool_task` cancels no job. -/
theorem steady_createStoragePoolTask {jobId poolId : Nat} :
    SteadyTask (L := L) job (createStoragePoolTask jobId poolId) := by
  refine Keeps.bind steady_getRow.task fun j => Keeps.bind steady_getRow.task fun pool => ?_
  refine Keeps.tryCatch (E := fun _ => True) ?_ fun exc _ =>
    Keeps.bind (steady_save rfl).task fun _ => Keeps.bind steady_failUnlessTerminal.task fun _ =>
      Keeps.bind steady_swallow_emit.task fun _ => Keeps.throw trivial
  refine Keeps.bind (steady_jobRun steady_createStoragePoolStep) fun _ => ?_
  exact Keeps.bind (steady_transition (by decide)).task fun _ => steady_swallow_emit.task

/-! ## Every task -/

/-- No task cancels a job. -/
theorem steady_body (jobId : Nat) (task : Task) : SteadyTask job (task.body jobId) := by
  cases task with
  | provisionVm => exact steady_provisionVm
  | startVm | pauseVm | resumeVm => exact steady_simpleLifecycleTask
  | stopVm | rebootVm =>
    refine Keeps.bind steady_getRow.task fun j => ?_
    exact Keeps.ite (fun _ => steady_simpleLifecycleTask) fun _ => steady_simpleLifecycleTask
  | deleteVm => exact steady_deleteVmTask
  | cloneVm => exact steady_cloneVmTask
  | attachDisk =>
    exact Keeps.bind steady_getRow.task fun _ => steady_diskOrNicTask steady_attachDisk
  | detachDisk =>
    exact Keeps.bind steady_getRow.task fun _ => steady_diskOrNicTask steady_detachDisk
  | resizeDisk | detachNic =>
    exact Keeps.bind steady_getRow.task fun _ =>
      steady_diskOrNicTask (steady_sendThenSave fun _ => rfl)
  | attachNic =>
    exact Keeps.bind steady_getRow.task fun _ =>
      steady_diskOrNicTask (Keeps.bind steady_send fun _ => Keeps.pure _)
  | createSnapshot => exact steady_createSnapshotTask
  | deleteSnapshot => exact steady_deleteSnapshotTask
  | rollbackSnapshot => exact steady_rollbackSnapshotTask
  | createBackup => exact steady_createBackupTask
  | restoreBackup => exact steady_restoreBackupTask
  | createNetwork => exact steady_createNetworkTask
  | deleteNetwork => exact steady_deleteNetworkTask
  | createStoragePool => exact steady_createStoragePoolTask

/-- Nor does what Celery runs around it. -/
theorem steady_run (taskId : String) (jobId : Nat) (task : Task) :
    SteadyTask job (task.run taskId jobId) := by
  refine Keeps.tryCatch (E := fun _ => True)
    (Keeps.bind (steady_save rfl).task fun _ => steady_body jobId task) fun exc _ => ?_
  refine Keeps.bind (Keeps.bind steady_query.task fun t => ?_) fun _ => Keeps.throw trivial
  split
  · exact Keeps.onlyIf fun _ => (steady_transition (by decide)).task
  · exact Keeps.pure _

end Statements

/-- **No execution cancels its job.** Whatever the task, the surroundings and the moments at which
a cancellation is requested: a job that is not CANCELED before is not CANCELED after. -/
theorem execute_never_canceled (taskId : String) (job : Nat) (task : Task) (w : World)
    (before : w.jobStatus job ≠ some .canceled) :
    (task.execute taskId job w).jobStatus job ≠ some .canceled := by
  have start : Uncanceled job w.db := by
    intro row hrow hcanceled
    exact before (by simp [World.jobStatus, hrow, hcanceled])
  have steady : SteadyTask job (task.run taskId job) := steady_run taskId job task
  have ends := steady () w start
  have final : Uncanceled job (task.execute taskId job w).db := by
    unfold Task.execute
    generalize exec World.handle (task.run taskId job) () w = r at ends ⊢
    rcases r with ⟨e | a, l, w'⟩
    · exact ends.1
    · exact ends
  intro hcanceled
  obtain ⟨row, hrow, hstatus⟩ := Option.map_eq_some_iff.mp hcanceled
  exact final row hrow hstatus

/-- A VM to start, and a cancellation requested while the worker is on its way to the step. -/
def canceledStart : World where
  db :=
    { jobs := [{ pk := 1, uuid := ⟨1⟩, type := .vmStart }]
      vms := [{ pk := 1, uuid := ⟨2⟩, domainUuid := ⟨3⟩, organization := 1, project := 1,
                node := some 1, name := "web", status := .stopped }]
      nodes := [{ pk := 1, name := "n1" }] }
  script := fun pos => { cancel := if pos = 5 then some 1 else none }

theorem execute_never_canceled_canceledStart :
    canceledStart.jobStatus 1 ≠ some .canceled ∧
      ((Task.startVm 1).execute "t" 1 canceledStart).jobStatus 1 ≠ some .canceled :=
  ⟨by decide, execute_never_canceled "t" 1 (.startVm 1) canceledStart (by decide)⟩

/-- The cancellation turns the job to CANCELING before its only step begins, nothing is sent, and
the job ends FAILED. -/
theorem canceledStart_ends_failed :
    ((Task.startVm 1).execute "t" 1 canceledStart).calls.map AgentRequest.operation = [] ∧
      ((Task.startVm 1).execute "t" 1 canceledStart).jobStatus 1 = some .failed ∧
      ((Task.startVm 1).execute "t" 1 canceledStart).jobStatus 1 ≠ some .canceled := by
  decide

end NodePilot
