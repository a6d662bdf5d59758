import NodePilot.Laws.Cancel

/-!
# A task message delivered again

Celery acknowledges a message after its task has run, so a worker may execute a message whose job
is terminal already. No task looks at the status of its job before it acts. What is left to keep
such an execution quiet is that the database rejects its first write, that a row the task loads is
gone, that the name a clone asks for is taken, that another worker holds its lock while its `except`
branch has nothing new to write, or that the agent is out of reach of a task that does nothing
before it calls.
-/

namespace NodePilot

open Lib Lib.Script

/-! ## Quiet executions -/

/-- Between two worlds nothing was sent, and the job's status, every VM's status and provisioning
state, and every disk, NIC, snapshot and backup row are as they were. -/
structure Quiet (job : Nat) (w w' : World) : Prop where
  calls : w'.calls = w.calls
  job : w'.jobStatus job = w.jobStatus job
  vms : ∀ pk, (Table.get w'.db.vms pk).map (fun v => (v.status, v.provisioningState)) =
    (Table.get w.db.vms pk).map fun v => (v.status, v.provisioningState)
  disks : ∀ pk, Table.get w'.db.disks pk = Table.get w.db.disks pk
  nics : ∀ pk, Table.get w'.db.nics pk = Table.get w.db.nics pk
  snapshots : ∀ pk, Table.get w'.db.snapshots pk = Table.get w.db.snapshots pk
  backups : ∀ pk, Table.get w'.db.backups pk = Table.get w.db.backups pk

/-- Nothing happened. -/
theorem Quiet.refl (job : Nat) (w : World) : Quiet job w w :=
  ⟨rfl, rfl, fun _ => rfl, fun _ => rfl, fun _ => rfl, fun _ => rfl, fun _ => rfl⟩

/-- Two quiet executions are quiet together. -/
theorem Quiet.trans {job : Nat} {w w' w'' : World} (h : Quiet job w w') (h' : Quiet job w' w'') :
    Quiet job w w'' where
  calls := h'.calls.trans h.calls
  job := h'.job.trans h.job
  vms pk := (h'.vms pk).trans (h.vms pk)
  disks pk := (h'.disks pk).trans (h.disks pk)
  nics pk := (h'.nics pk).trans (h.nics pk)
  snapshots pk := (h'.snapshots pk).trans (h.snapshots pk)
  backups pk := (h'.backups pk).trans (h.backups pk)

/-- The job's row is there, in a terminal status. -/
def World.jobTerminal (w : World) (job : Nat) : Prop := ∃ s, w.jobStatus job = some s ∧ s.isTerminal

/-! ## What keeps an execution quiet -/

/-- A row that the task loads before anything else is gone. -/
def Task.unloaded (t : Tables) : Task → Prop
  | .provisionVm vm | .startVm vm | .stopVm vm | .rebootVm vm | .pauseVm vm | .resumeVm vm
  | .deleteVm vm | .cloneVm vm _ _ => Table.get t.vms vm = none
  | .attachDisk disk | .detachDisk disk | .resizeDisk disk _ => t.loadDisk disk = none
  | .attachNic nic | .detachNic nic => t.loadNic nic = none
  | .createSnapshot s | .deleteSnapshot s | .rollbackSnapshot s => t.loadSnapshot s = none
  | .createBackup b | .restoreBackup b => t.loadBackup b = none
  | .createNetwork network | .deleteNetwork network => Table.get t.networks network = none
  | .createStoragePool pool => Table.get t.pools pool = none

/-- Another worker holds a lock the task takes, and the `except` branch of the task writes nothing
that the rows do not already say. A failed backup is stamped with the time again, so
`create_backup_task` is not among these. -/
def Task.lockedOut (w : World) : Task → Prop
  | .provisionVm vm | .startVm vm | .stopVm vm | .rebootVm vm | .pauseVm vm | .resumeVm vm =>
    ∃ v, Table.get w.db.vms vm = some v ∧ .lifecycle v.uuid ∈ w.busy
  | .deleteVm vm =>
    ∃ v, Table.get w.db.vms vm = some v ∧
      (.lifecycle v.uuid ∈ w.busy ∨ .storage v.uuid ∈ w.busy) ∧ v.status = .error
  | .cloneVm vm _ _ =>
    ∃ v, Table.get w.db.vms vm = some v ∧
      (.lifecycle v.uuid ∈ w.busy ∨ .storage v.uuid ∈ w.busy)
  | .attachDisk disk | .detachDisk disk | .resizeDisk disk _ =>
    ∃ d v p, w.db.loadDisk disk = some (d, v, p) ∧ .storage v.uuid ∈ w.busy
  | .attachNic nic | .detachNic nic =>
    ∃ n v net, w.db.loadNic nic = some (n, v, net) ∧ .storage v.uuid ∈ w.busy
  | .createSnapshot snapshot =>
    ∃ s v, w.db.loadSnapshot snapshot = some (s, v) ∧ .storage v.uuid ∈ w.busy ∧
      s.status = .error
  | .deleteSnapshot snapshot =>
    ∃ s v, w.db.loadSnapshot snapshot = some (s, v) ∧ .storage v.uuid ∈ w.busy
  | .rollbackSnapshot snapshot =>
    ∃ s v, w.db.loadSnapshot snapshot = some (s, v) ∧
      (.lifecycle v.uuid ∈ w.busy ∨ .storage v.uuid ∈ w.busy) ∧ s.status = .ready
  | .restoreBackup backup =>
    ∃ b v target, w.db.loadBackup backup = some (b, v, target) ∧ .storage v.uuid ∈ w.busy ∧
      b.status = .completed
  | .createBackup _ | .createNetwork _ | .deleteNetwork _ | .createStoragePool _ => False

/-- The name a clone asks for is taken in its project. -/
def Task.nameTaken (t : Tables) : Task → Prop
  | .cloneVm vm newName _ =>
    ∃ v, Table.get t.vms vm = some v ∧ ∃ pk u, Table.get t.vms pk = some u ∧
      u.project = v.project ∧ u.name = newName
  | _ => False

/-- A call to the agent of the node cannot be sent: there is no node, or its agent is out of reach as
long as the execution lasts. -/
def World.outOfReach (w : World) (node : Option Nat) : Prop :=
  node = none ∨ ∀ n, (w.script n).agent.sent = false

/-- The task does nothing before its call to the agent, which cannot be sent, and its `except` branch
writes nothing that the rows do not already say; the status of a network or a pool aside, which it
sets to ERROR. -/
def Task.unreached (w : World) : Task → Prop
  | .startVm vm | .stopVm vm | .rebootVm vm | .pauseVm vm | .resumeVm vm =>
    ∃ v, Table.get w.db.vms vm = some v ∧ w.outOfReach v.node
  | .attachDisk disk | .detachDisk disk | .resizeDisk disk _ =>
    ∃ d v p, w.db.loadDisk disk = some (d, v, p) ∧ w.outOfReach v.node
  | .attachNic nic | .detachNic nic =>
    ∃ n v net, w.db.loadNic nic = some (n, v, net) ∧ w.outOfReach v.node
  | .createSnapshot snapshot =>
    ∃ s v, w.db.loadSnapshot snapshot = some (s, v) ∧ w.outOfReach v.node ∧ s.status = .error
  | .createNetwork network | .deleteNetwork network =>
    ∃ net, Table.get w.db.networks network = some net ∧ w.outOfReach (some net.node)
  | .createStoragePool pool =>
    ∃ p, Table.get w.db.pools pool = some p ∧ w.outOfReach (some p.node)
  | .provisionVm _ | .deleteVm _ | .cloneVm _ _ _ | .deleteSnapshot _ | .rollbackSnapshot _
  | .createBackup _ | .restoreBackup _ => False

/-- The conditions under which the body of a further execution does nothing. -/
def Task.blocked (w : World) (task : Task) : Prop :=
  task.unloaded w.db ∨ task.lockedOut w ∨ task.nameTaken w.db ∨ task.unreached w

/-- An execution that does nothing: the database rejects the write of `before_start`, so that the
body is not run at all, or the body is blocked. -/
def Task.stopped (w : World) (task : Task) : Prop :=
  (w.script w.pos).dbFails ∨ task.blocked w

/-! ## The invariant of a quiet execution -/

/-- A VM row without the error text, which an execution may rewrite. -/
def VmRow.core (v : VmRow) : VmRow := { v with lastError := "" }

/-- A network row without the status. -/
def NetworkRow.core (n : NetworkRow) : NetworkRow := { n with status := .error }

/-- A pool row without the status. -/
def PoolRow.core (p : PoolRow) : PoolRow := { p with status := .error }

/-- Two databases that differ at most in the error texts of VMs, in the statuses of networks and
pools, and in jobs, where the status of `job` is the same. -/
structure SameRows (job : Nat) (t t' : Tables) : Prop where
  job : (Table.get t'.jobs job).map JobRow.status = (Table.get t.jobs job).map JobRow.status
  vms : ∀ pk, (Table.get t'.vms pk).map VmRow.core = (Table.get t.vms pk).map VmRow.core
  disks : ∀ pk, Table.get t'.disks pk = Table.get t.disks pk
  nics : ∀ pk, Table.get t'.nics pk = Table.get t.nics pk
  snapshots : ∀ pk, Table.get t'.snapshots pk = Table.get t.snapshots pk
  backups : ∀ pk, Table.get t'.backups pk = Table.get t.backups pk
  pools : ∀ pk, (Table.get t'.pools pk).map PoolRow.core = (Table.get t.pools pk).map PoolRow.core
  networks : ∀ pk, (Table.get t'.networks pk).map NetworkRow.core =
    (Table.get t.networks pk).map NetworkRow.core
  targets : t'.targets = t.targets

/-- Tables have the same rows as themselves. -/
theorem SameRows.refl (job : Nat) (t : Tables) : SameRows job t t :=
  ⟨rfl, fun _ => rfl, fun _ => rfl, fun _ => rfl, fun _ => rfl, fun _ => rfl, fun _ => rfl,
    fun _ => rfl, rfl⟩

/-- Having the same rows is transitive. -/
theorem SameRows.trans {job : Nat} {t t' t'' : Tables} (h : SameRows job t t')
    (h' : SameRows job t' t'') : SameRows job t t'' where
  job := h'.job.trans h.job
  vms pk := (h'.vms pk).trans (h.vms pk)
  disks pk := (h'.disks pk).trans (h.disks pk)
  nics pk := (h'.nics pk).trans (h.nics pk)
  snapshots pk := (h'.snapshots pk).trans (h.snapshots pk)
  backups pk := (h'.backups pk).trans (h.backups pk)
  pools pk := (h'.pools pk).trans (h.pools pk)
  networks pk := (h'.networks pk).trans (h.networks pk)
  targets := h'.targets.trans h.targets

/-- A view of the rows is unchanged by an update that does not change it on the row updated. -/
theorem get_modify_view {ρ ν : Type} [Row ρ] {rows : List ρ} {k : Nat} {f : ρ → ρ} (view : ρ → ν)
    (hpk : ∀ r, Row.pk (f r) = Row.pk r)
    (hf : ∀ r, Table.get rows k = some r → view (f r) = view r) (pk : Nat) :
    (Table.get (Table.modify rows k f) pk).map view = (Table.get rows pk).map view := by
  rw [Table.get_modify hpk]
  split
  · next h =>
    subst h
    cases hr : Table.get rows pk with
    | none => rfl
    | some r => simpa using hf r hr
  · rfl

/-- An update that does not change the row updated changes nothing. -/
theorem get_modify_same {ρ : Type} [Row ρ] {rows : List ρ} {k : Nat} {f : ρ → ρ}
    (hpk : ∀ r, Row.pk (f r) = Row.pk r) (hf : ∀ r, Table.get rows k = some r → f r = r)
    (pk : Nat) : Table.get (Table.modify rows k f) pk = Table.get rows pk := by
  have same := get_modify_view id hpk hf pk
  simpa using same

/-- The job's status is terminal. -/
def Tables.jobTerminal (t : Tables) (job : Nat) : Prop :=
  ∃ row, Table.get t.jobs job = some row ∧ row.isTerminal

/-- A job that is over stays over. -/
theorem SameRows.terminal {job : Nat} {t t' : Tables} (h : SameRows job t t')
    (terminal : t.jobTerminal job) : t'.jobTerminal job := by
  obtain ⟨row, hrow, hterminal⟩ := terminal
  have same := h.job
  rw [hrow] at same
  obtain ⟨row', hrow', hstatus⟩ := Option.map_eq_some_iff.mp same
  refine ⟨row', hrow', ?_⟩
  unfold JobRow.isTerminal at hterminal ⊢
  rw [hstatus]
  exact hterminal

/-- A change of another job, or one that keeps this job's core, leaves the same rows. -/
theorem sameRows_jobs {job k : Nat} {t : Tables} {f : JobRow → JobRow}
    (hpk : ∀ r : JobRow, (f r).pk = r.pk)
    (hf : ∀ r, Table.get t.jobs k = some r → k = job → (f r).status = r.status) :
    SameRows job t { t with jobs := Table.modify t.jobs k f } := by
  refine ⟨?_, fun _ => rfl, fun _ => rfl, fun _ => rfl, fun _ => rfl, fun _ => rfl, fun _ => rfl,
    fun _ => rfl, rfl⟩
  by_cases hk : k = job
  · exact get_modify_view JobRow.status hpk (fun r hr => hf r hr hk) job
  · simp only [Table.get_modify_ne hpk (fun h => hk h.symm)]

/-- A request to cancel leaves a job that is over as it is. -/
theorem sameRows_requestCancel {job now : Nat} {k : Option Nat} {t : Tables}
    (terminal : t.jobTerminal job) : SameRows job t (t.requestCancel now k) := by
  rcases t.requestCancel_cases now k with same | ⟨k, row, hrow, active, turned⟩
  · rw [same]
    exact SameRows.refl job t
  · rw [turned]
    refine sameRows_jobs (fun _ => rfl) fun r hr hk => ?_
    obtain ⟨row', hrow', hterminal⟩ := terminal
    rw [hk, hrow'] at hrow
    cases hrow
    rcases active with h | h <;> simp [JobRow.isTerminal, h, JobStatus.isTerminal] at hterminal

/-- The writes that change nothing of what `SameRows` compares. -/
def QuietWrite (job : Nat) (t : Tables) (x : Write) : Prop :=
  ∀ now uuid t', t.write now uuid x = .ok t' → SameRows job t t'

/-- The operations that change nothing of what `SameRows` compares. -/
def Op.quietOn (job : Nat) (t : Tables) : Op → Prop
  | .write x => QuietWrite job t x
  | .createVm _ => False
  | _ => True

section Writes

variable {job : Nat} {t : Tables}

/-- The task's identifier is no part of what is compared. -/
theorem quietWrite_jobCeleryTaskId {k : Nat} {id : String} :
    QuietWrite job t (.jobCeleryTaskId k id) := by
  rintro now uuid t' h
  cases h
  exact sameRows_jobs (fun _ => rfl) fun _ _ _ => rfl

/-- Neither is the log. -/
theorem quietWrite_jobLogs {k : Nat} {logs : List String} :
    QuietWrite job t (.jobLogs k logs) := by
  rintro now uuid t' h
  cases h
  exact sameRows_jobs (fun _ => rfl) fun _ _ _ => rfl

/-- Neither is the progress. -/
theorem quietWrite_jobProgress {k progress : Nat} {message : String} :
    QuietWrite job t (.jobProgress k progress message) := by
  rintro now uuid t' h
  obtain ⟨rows, hrows, rfl⟩ := except_bind_ok h
  rw [saveRow_ok hrows]
  exact sameRows_jobs (fun _ => rfl) fun _ _ _ => rfl

/-- A terminal job has no transition but the one to its own status. -/
theorem quietWrite_jobTransition {new : JobStatus} {message error : Option String}
    (terminal : t.jobTerminal job) : QuietWrite job t (.jobTransition job new message error) := by
  rintro now uuid t' h
  obtain ⟨row, hrow, hterminal⟩ := terminal
  simp only [Tables.write, hrow] at h
  split at h
  · next allowed =>
    cases h
    refine sameRows_jobs (fun _ => rfl) fun r hr _ => ?_
    rw [hrow] at hr
    cases hr
    have none : validTransitions row.status = [] := by
      unfold JobRow.isTerminal at hterminal
      cases hs : row.status <;> simp_all [JobStatus.isTerminal, validTransitions]
    rw [none] at allowed
    simpa [JobRow.transitioned] using allowed
  · cases h

/-- Saving a VM's fields is quiet where they are what they were. -/
theorem quietWrite_vmSave {vm : Nat} {fields : VmFields}
    (same : ∀ v, Table.get t.vms vm = some v → (fields.apply v).core = v.core) :
    QuietWrite job t (.vmSave vm fields) := by
  rintro now uuid t' h
  obtain ⟨rows, hrows, rfl⟩ := except_bind_ok h
  rw [saveRow_ok hrows]
  exact ⟨rfl, get_modify_view VmRow.core (fun _ => rfl) same, fun _ => rfl, fun _ => rfl,
    fun _ => rfl, fun _ => rfl, fun _ => rfl, fun _ => rfl, rfl⟩

/-- Saving a snapshot's fields is quiet where they are what they were. -/
theorem quietWrite_snapshotSave {snapshot : Nat} {fields : SnapshotFields}
    (same : ∀ s, Table.get t.snapshots snapshot = some s → fields.apply s = s) :
    QuietWrite job t (.snapshotSave snapshot fields) := by
  rintro now uuid t' h
  obtain ⟨rows, hrows, rfl⟩ := except_bind_ok h
  rw [saveRow_ok hrows]
  exact ⟨rfl, fun _ => rfl, fun _ => rfl, fun _ => rfl, get_modify_same (fun _ => rfl) same,
    fun _ => rfl, fun _ => rfl, fun _ => rfl, rfl⟩

/-- Saving a backup's fields is quiet where they are what they were. -/
theorem quietWrite_backupSave {backup : Nat} {fields : BackupFields}
    (same : ∀ b, Table.get t.backups backup = some b → fields.apply b = b) :
    QuietWrite job t (.backupSave backup fields) := by
  rintro now uuid t' h
  obtain ⟨rows, hrows, rfl⟩ := except_bind_ok h
  rw [saveRow_ok hrows]
  exact ⟨rfl, fun _ => rfl, fun _ => rfl, fun _ => rfl, fun _ => rfl,
    get_modify_same (fun _ => rfl) same, fun _ => rfl, fun _ => rfl, rfl⟩

/-- The status of a network is no part of what is compared. -/
theorem quietWrite_networkStatus {network : Nat} {status : NetworkStatus} :
    QuietWrite job t (.networkStatus network status) := by
  rintro now uuid t' h
  obtain ⟨rows, hrows, rfl⟩ := except_bind_ok h
  rw [saveRow_ok hrows]
  exact ⟨rfl, fun _ => rfl, fun _ => rfl, fun _ => rfl, fun _ => rfl, fun _ => rfl, fun _ => rfl,
    get_modify_view NetworkRow.core (fun _ => rfl) fun _ _ => rfl, rfl⟩

/-- Neither is that of a pool. -/
theorem quietWrite_poolStatus {pool : Nat} {status : StoragePoolStatus} :
    QuietWrite job t (.poolStatus pool status) := by
  rintro now uuid t' h
  obtain ⟨rows, hrows, rfl⟩ := except_bind_ok h
  rw [saveRow_ok hrows]
  exact ⟨rfl, fun _ => rfl, fun _ => rfl, fun _ => rfl, fun _ => rfl, fun _ => rfl,
    get_modify_view PoolRow.core (fun _ => rfl) fun _ _ => rfl, fun _ => rfl, rfl⟩

end Writes

/-- Where an execution that `w₀` blocks stands: nothing was sent, the rows are those of `w₀`, the
locks `keys` are still held by others, and what will happen is what was to happen at `w₀`. -/
structure Waiting (job : Nat) (w₀ : World) (keys : List LockKey) (w : World) : Prop where
  calls : w.calls = w₀.calls
  rows : SameRows job w₀.db w.db
  busy : ∀ key ∈ keys, key ∈ w.busy
  script : w.script = w₀.script

section Waiting

variable {L α β : Type} {job : Nat} {w₀ w : World} {keys : List LockKey}

/-- Which locks are held by others may be forgotten. -/
theorem Waiting.forget (h : Waiting job w₀ keys w) : Waiting job w₀ [] w :=
  ⟨h.calls, h.rows, List.forall_mem_nil _, h.script⟩

/-- The turn of the surroundings: a terminal job is not theirs to cancel. -/
theorem Waiting.next (h : Waiting job w₀ keys w) (terminal : w₀.db.jobTerminal job) :
    Waiting job w₀ keys w.next :=
  ⟨h.calls, h.rows.trans (sameRows_requestCancel (h.rows.terminal terminal)), h.busy, h.script⟩

/-- An operation that sends nothing, takes no lock and releases none. -/
theorem Waiting.handle {o : Op} (h : Waiting job w₀ keys w) (terminal : w₀.db.jobTerminal job)
    (silent : o.silent) (lockFree : o.lockFree)
    (rows : ∀ t, SameRows job w₀.db t → o.quietOn job t) :
    Waiting job w₀ keys (World.handle o w).2 := by
  have turn := h.next terminal
  refine ⟨(World.handle_calls silent).trans h.calls, ?_, fun key hkey => ?_,
    (World.handle_script o w).trans h.script⟩
  · rcases World.handle_db o w with same | ⟨x, rfl, hx⟩ | ⟨row, row', rfl, hrow⟩
    · rw [same]; exact turn.rows
    · exact turn.rows.trans (rows _ turn.rows _ _ _ hx)
    · exact (rows _ turn.rows).elim
  · rw [World.handle_busy lockFree]
    exact h.busy key hkey

variable (terminal : w₀.db.jobTerminal job)

include terminal in
/-- A silent operation whose writes are quiet keeps the execution waiting. -/
theorem opKeeps_waiting {o : Op} (silent : o.silent) (lockFree : o.lockFree)
    (rows : ∀ t, SameRows job w₀.db t → o.quietOn job t) :
    OpKeeps (L := L) (fun _ => Waiting job w₀ keys) o :=
  fun _ _ h => h.handle terminal silent lockFree rows

/-- An execution that starts blocked and ends with everything as it was. -/
abbrev Harmless (job : Nat) (w₀ : World) (keys : List LockKey) (x : TaskM L α) : Prop :=
  Triple World.handle (fun _ => Waiting job w₀ keys) x (fun _ _ => Waiting job w₀ [])
    fun _ _ => Waiting job w₀ []

/-- A part of a task that never returns: it raises an exception of `E`, with everything as it
was. -/
abbrev Stops (job : Nat) (w₀ : World) (keys : List LockKey) (E : Exn → Prop)
    (x : TaskM L α) : Prop :=
  Triple World.handle (fun _ => Waiting job w₀ keys) x (fun _ _ _ => False)
    fun e _ w => Waiting job w₀ [] w ∧ E e

/-- What keeps the execution waiting is harmless. -/
theorem Keeps.harmless {E : Exn → Prop} {x : TaskM L α}
    (hx : Keeps World.handle (fun _ => Waiting job w₀ []) E x) : Harmless job w₀ keys x :=
  hx.conseq (fun _ _ => Waiting.forget) (fun _ _ _ => id) fun _ _ _ h => h.1

include terminal in
/-- A row is loaded and the rest is harmless. -/
theorem harmless_getRow {model : String} {row : Tables → Option α} {f : α → TaskM L β}
    (hf : ∀ a, (∃ w, Waiting job w₀ keys w ∧ row w.db = some a) → Harmless job w₀ keys (f a)) :
    Harmless job w₀ keys (getRow model row >>= f) := by
  refine Triple.getRow_bind (opKeeps_waiting terminal trivial trivial fun _ _ => trivial)
    (fun _ _ _ => Waiting.forget) fun a ⟨_, w, hw, hrow⟩ => hf a ⟨w, hw, hrow⟩

include terminal in
/-- A lock that is held stops the execution. -/
theorem stops_busy {key : LockKey} {ttl : Nat} {body : TaskM L α} (hkey : key ∈ keys) :
    Stops job w₀ keys Exn.isLock (withLock key ttl body) := by
  intro l w h
  rw [exec_withLock_busy (h.busy key hkey)]
  exact ⟨(h.next terminal).forget, key, rfl⟩

include terminal in
/-- So does one inside a lock that is free. -/
theorem stops_nested {E : Exn → Prop} {key : LockKey} {ttl : Nat} {body : TaskM L α}
    (hE : E (.lockAcquisition key)) (hbody : Stops job w₀ keys E body) :
    Stops job w₀ keys E (withLock key ttl body) := by
  intro l w h
  have turn := h.next terminal
  by_cases busy : key ∈ w.busy
  · rw [exec_withLock_busy busy]
    exact ⟨turn.forget, hE⟩
  · have inner := hbody l { w.next with busy := key :: w.busy }
      ⟨turn.calls, turn.rows, fun k hk => List.mem_cons_of_mem key (turn.busy k hk), turn.script⟩
    rw [exec_withLock_free busy]
    generalize exec World.handle body l _ = r at inner ⊢
    rcases r with ⟨e | a, l', w'⟩
    · have after := inner.1.next terminal
      exact ⟨⟨after.calls, after.rows, List.forall_mem_nil _, after.script⟩, inner.2⟩
    · exact inner.elim

include terminal in
/-- So does a call that cannot be sent. -/
theorem stops_sendOperation {node : Option Nat} {r : AgentRequest} {timeout : Option Nat}
    (away : w₀.outOfReach node) :
    Stops (L := L) job w₀ keys (fun _ => True) (sendOperation node r timeout) := by
  intro l w h
  have turn := h.next terminal
  unfold sendOperation
  rw [exec_bind]
  simp only [exec_perform, World.handle]
  cases node with
  | none => exact ⟨turn.forget, trivial⟩
  | some node =>
    have unsent : (w.script w.pos).agent.sent = false := by
      rw [h.script]
      exact away.resolve_left (Option.some_ne_none node) w.pos
    simp only [World.answer]
    cases outcome : (w.script w.pos).agent with
    | noAgent | notConnected =>
      exact ⟨⟨turn.calls, turn.rows, List.forall_mem_nil _, turn.script⟩, trivial⟩
    | timedOut | failed | ok =>
      rw [outcome] at unsent
      cases unsent

/-- A part that stops raises into the `except` branch, whatever stands after it. -/
theorem harmless_stops {E : Exn → Prop} {x : TaskM L α} {rest : α → TaskM L β}
    {branch : Exn → TaskM L β} (hx : Stops job w₀ keys E x)
    (hb : ∀ e, E e → Keeps World.handle (fun _ => Waiting job w₀ []) (fun _ => True) (branch e)) :
    Harmless job w₀ keys (tryCatch (x >>= rest) branch) := by
  refine Triple.tryCatch (Triple.bind hx fun a l w h => h.elim) fun e => ?_
  rintro l w ⟨hw, he⟩
  have recovers : Harmless job w₀ [] (branch e) := Keeps.harmless (hb e he)
  exact recovers l w hw

include terminal in
/-- A quiet write keeps the execution waiting. -/
theorem keeps_save {x : Write} (hx : ∀ t, SameRows job w₀.db t → QuietWrite job t x) :
    Keeps (L := L) World.handle (fun _ => Waiting job w₀ []) (fun _ => True) (save x) :=
  Keeps.save (fun _ _ => trivial) (opKeeps_waiting terminal trivial trivial hx)

/-- The job is terminal, so its row stays. -/
theorem keeps_failUnlessTerminal {j : JobRow} {exc : Exn} (hj : j.pk = job)
    (terminal : w₀.db.jobTerminal job) :
    Keeps (L := L) World.handle (fun _ => Waiting job w₀ []) (fun _ => True)
      (failUnlessTerminal j exc) := by
  refine Triple.getRow_bind (opKeeps_waiting terminal trivial trivial fun _ _ => trivial)
    (fun _ _ _ h => ⟨h, trivial⟩) fun row ⟨_, w, hw, hrow⟩ => ?_
  obtain ⟨row', hrow', hterminal⟩ := hw.rows.terminal terminal
  rw [hj, hrow'] at hrow
  cases hrow
  simp only [onlyIf, hterminal, not_true_eq_false, if_false]
  exact Keeps.pure _

/-- The end of every `except` branch. -/
theorem keeps_failAndRaise {j : JobRow} {exc : Exn} (hj : j.pk = job)
    (terminal : w₀.db.jobTerminal job) :
    Keeps (L := L) World.handle (fun _ => Waiting job w₀ []) (fun _ => True)
      (do failUnlessTerminal j exc; throw exc : TaskM L α) :=
  Keeps.bind (keeps_failUnlessTerminal hj terminal) fun _ => Keeps.throw trivial

/-! ### What a blocked task loads -/

/-- The job a task loads is its own, and terminal. -/
theorem Waiting.job_of_get {j : JobRow} (h : Waiting job w₀ keys w)
    (terminal : w₀.db.jobTerminal job) (hj : Table.get w.db.jobs job = some j) :
    j.pk = job ∧ j.isTerminal := by
  obtain ⟨row, hrow, hterminal⟩ := h.rows.terminal terminal
  rw [hrow] at hj
  cases hj
  exact ⟨Table.pk_of_get hrow, hterminal⟩

/-- What is there after a change that keeps a view of it was there before. -/
theorem some_of_view {ρ ν : Type} {view : ρ → ν} {before after : Option ρ} {r : ρ}
    (same : after.map view = before.map view) (found : after = some r) :
    ∃ r₀, before = some r₀ ∧ view r = view r₀ := by
  rw [found] at same
  obtain ⟨r₀, found₀, heq⟩ := Option.map_eq_some_iff.mp same.symm
  exact ⟨r₀, found₀, heq.symm⟩

/-- A VM it loads is the one that blocks it, but for the error text. -/
theorem SameRows.vm_of_get {t t' : Tables} {pk : Nat} {v : VmRow} (h : SameRows job t t')
    (hv : Table.get t'.vms pk = some v) :
    ∃ v₀, Table.get t.vms pk = some v₀ ∧ v.core = v₀.core :=
  some_of_view (h.vms pk) hv

end Waiting

/-! ### Rows with what they hang off -/

section Loads

variable {job : Nat} {t t' : Tables} {w₀ w : World} {keys : List LockKey} {k : Nat}

/-- The core of a VM has its node. -/
theorem VmRow.node_of_core {v v₀ : VmRow} (h : v.core = v₀.core) : v.node = v₀.node :=
  show v.core.node = v₀.core.node from congrArg VmRow.node h

/-- The core of a network has its node. -/
theorem NetworkRow.node_of_core {n n₀ : NetworkRow} (h : n.core = n₀.core) : n.node = n₀.node :=
  show n.core.node = n₀.core.node from congrArg NetworkRow.node h

/-- The core of a pool has its node. -/
theorem PoolRow.node_of_core {p p₀ : PoolRow} (h : p.core = p₀.core) : p.node = p₀.node :=
  show p.core.node = p₀.core.node from congrArg PoolRow.node h

/-- The core of a VM has its identifier. -/
theorem VmRow.uuid_of_core {v v₀ : VmRow} (h : v.core = v₀.core) : v.uuid = v₀.uuid :=
  show v.core.uuid = v₀.core.uuid from congrArg VmRow.uuid h

/-- The core of a VM has its status. -/
theorem VmRow.status_of_core {v v₀ : VmRow} (h : v.core = v₀.core) : v.status = v₀.status :=
  show v.core.status = v₀.core.status from congrArg VmRow.status h

/-- A disk that is loaded hangs off the VM it hung off at the start. -/
theorem Waiting.disk_of_load {d : DiskRow} {v : VmRow} {p : PoolRow}
    (h : Waiting job w₀ keys w) (hd : w.db.loadDisk k = some (d, v, p)) :
    ∃ v₀ p₀, w₀.db.loadDisk k = some (d, v₀, p₀) ∧ v.core = v₀.core := by
  simp only [Tables.loadDisk, Option.bind_eq_bind, Option.pure_def, Option.bind_eq_some_iff,
    Option.some.injEq, Prod.mk.injEq] at hd ⊢
  obtain ⟨_, hdisk, _, hvm, _, hpool, rfl, rfl, rfl⟩ := hd
  obtain ⟨v₀, hv₀, core⟩ := h.rows.vm_of_get hvm
  obtain ⟨p₀, hp₀, -⟩ := some_of_view (h.rows.pools _) hpool
  rw [h.rows.disks] at hdisk
  exact ⟨v₀, p₀, ⟨_, hdisk, _, hv₀, _, hp₀, rfl, rfl, rfl⟩, core⟩

/-- A NIC that is loaded hangs off the VM it hung off at the start. -/
theorem Waiting.nic_of_load {n : NicRow} {v : VmRow} {net : NetworkRow}
    (h : Waiting job w₀ keys w) (hn : w.db.loadNic k = some (n, v, net)) :
    ∃ v₀ net₀, w₀.db.loadNic k = some (n, v₀, net₀) ∧ v.core = v₀.core := by
  simp only [Tables.loadNic, Option.bind_eq_bind, Option.pure_def, Option.bind_eq_some_iff,
    Option.some.injEq, Prod.mk.injEq] at hn ⊢
  obtain ⟨_, hnic, _, hvm, _, hnet, rfl, rfl, rfl⟩ := hn
  obtain ⟨v₀, hv₀, core⟩ := h.rows.vm_of_get hvm
  obtain ⟨net₀, hnet₀, -⟩ := some_of_view (h.rows.networks _) hnet
  rw [h.rows.nics] at hnic
  exact ⟨v₀, net₀, ⟨_, hnic, _, hv₀, _, hnet₀, rfl, rfl, rfl⟩, core⟩

/-- A snapshot that is loaded is the one of the start. -/
theorem Waiting.snapshot_of_load {s : SnapshotRow} {v : VmRow}
    (h : Waiting job w₀ keys w) (hs : w.db.loadSnapshot k = some (s, v)) :
    ∃ v₀, w₀.db.loadSnapshot k = some (s, v₀) ∧ v.core = v₀.core := by
  simp only [Tables.loadSnapshot, Option.bind_eq_bind, Option.pure_def, Option.bind_eq_some_iff,
    Option.some.injEq, Prod.mk.injEq] at hs ⊢
  obtain ⟨_, hsnap, _, hvm, rfl, rfl⟩ := hs
  obtain ⟨v₀, hv₀, core⟩ := h.rows.vm_of_get hvm
  rw [h.rows.snapshots] at hsnap
  exact ⟨v₀, ⟨_, hsnap, _, hv₀, rfl, rfl⟩, core⟩

/-- A backup that is loaded is the one of the start. -/
theorem Waiting.backup_of_load {b : BackupRow} {v : VmRow} {target : TargetRow}
    (h : Waiting job w₀ keys w) (hb : w.db.loadBackup k = some (b, v, target)) :
    ∃ v₀, w₀.db.loadBackup k = some (b, v₀, target) ∧ v.core = v₀.core := by
  simp only [Tables.loadBackup, Option.bind_eq_bind, Option.pure_def, Option.bind_eq_some_iff,
    Option.some.injEq, Prod.mk.injEq] at hb ⊢
  obtain ⟨_, hbackup, _, hvm, _, htarget, rfl, rfl, rfl⟩ := hb
  obtain ⟨v₀, hv₀, core⟩ := h.rows.vm_of_get hvm
  rw [h.rows.backups] at hbackup
  rw [h.rows.targets] at htarget
  exact ⟨v₀, ⟨_, hbackup, _, hv₀, _, htarget, rfl, rfl, rfl⟩, core⟩

end Loads

/-! ## The tasks -/

section Tasks

variable {L : Type} {job : Nat} {w₀ : World} (terminal : w₀.db.jobTerminal job)

include terminal in
/-- Both locks of a VM, one of them held. -/
theorem stops_bothLocks {α : Type} {v : VmRow} {body : TaskM L α}
    (busy : .lifecycle v.uuid ∈ w₀.busy ∨ .storage v.uuid ∈ w₀.busy) :
    Stops job w₀ w₀.busy Exn.isLock (lifecycleLock v (storageLock v body)) := by
  rcases busy with busy | busy
  · exact stops_busy terminal busy
  · exact stops_nested terminal ⟨_, rfl⟩ (stops_busy terminal busy)

include terminal in
/-- A job that is over makes no transition. -/
theorem keeps_transition {j : JobRow} {new : JobStatus} {message error : Option String}
    (hpk : j.pk = job) :
    Keeps (L := L) World.handle (fun _ => Waiting job w₀ []) (fun _ => True)
      (transition j new message error) := by
  subst hpk
  exact keeps_save terminal fun _ ht => quietWrite_jobTransition (ht.terminal terminal)

include terminal in
/-- A step of a terminal job writes its progress, and stops where its block stops. -/
theorem stops_jobRun {α : Type} {j : JobRow} {step : String} {body : TaskM L α}
    (hpk : j.pk = job) (hbody : Stops job w₀ [] (fun _ => True) body) :
    Stops job w₀ [] (fun _ => True) (jobRun j step body) := by
  have read : OpKeeps (L := L) (fun _ => Waiting job w₀ []) .read :=
    opKeeps_waiting terminal trivial trivial fun _ _ => trivial
  refine Triple.bind (Keeps.onlyIf fun _ => keeps_transition terminal hpk) fun _ => ?_
  refine Triple.bind (Keeps.bind (Keeps.query read) fun _ => Keeps.pure _) fun _ => ?_
  refine Triple.bind (Keeps.onlyIf fun _ => Keeps.throw trivial) fun _ => ?_
  refine Triple.bind (Keeps.onlyIf fun _ => ?_) fun _ => ?_
  · refine Keeps.bind (keeps_save terminal fun _ _ => quietWrite_jobProgress) fun _ => ?_
    exact Keeps.bind (Keeps.getRow (fun _ _ => trivial) read) fun _ =>
      keeps_save terminal fun _ _ => quietWrite_jobLogs
  · refine Triple.tryCatch hbody fun exc => ?_
    rintro l w ⟨hw, -⟩
    have record : Keeps (L := L) World.handle (fun _ => Waiting job w₀ []) (fun _ => True)
        (jobRunExcept j exc) := by
      cases exc <;> exact keeps_transition terminal hpk
    exact Triple.bind record (fun _ => Triple.throw fun _ _ h => ⟨h, trivial⟩) l w hw

include terminal in
/-- A step that begins with a call that cannot be sent stops. -/
theorem stops_call {α : Type} {j : JobRow} {step : String} {node : Option Nat} {r : AgentRequest}
    {timeout : Option Nat} {rest : Dict → TaskM L α} (hpk : j.pk = job) (away : w₀.outOfReach node) :
    Stops job w₀ [] (fun _ => True) (jobRun j step (sendOperation node r timeout >>= rest)) :=
  stops_jobRun terminal hpk
    (Triple.bind (stops_sendOperation terminal away) fun _ _ _ h => h.elim)

include terminal in
/-- So it does under a lock. -/
theorem stops_lockedCall {α : Type} {key : LockKey} {ttl : Nat} {j : JobRow} {step : String}
    {node : Option Nat} {r : AgentRequest} {timeout : Option Nat} {rest : Dict → TaskM L α}
    (hpk : j.pk = job) (away : w₀.outOfReach node) :
    Stops job w₀ w₀.busy (fun _ => True)
      (withLock key ttl (jobRun j step (sendOperation node r timeout >>= rest))) :=
  Triple.conseq (stops_nested terminal trivial (stops_call terminal hpk away))
    (fun _ _ => Waiting.forget) (fun _ _ _ => id) fun _ _ _ => id

include terminal in
/-- A blocked `provision_vm` is harmless. -/
theorem harmless_provisionVm {vm : Nat} (hb : (Task.provisionVm vm).blocked w₀) :
    Harmless (L := L) job w₀ w₀.busy (provisionVm job vm) := by
  refine harmless_getRow terminal fun j ⟨w, hw, hj⟩ => ?_
  obtain ⟨-, jterminal⟩ := hw.job_of_get terminal hj
  refine harmless_getRow terminal fun v ⟨w, hw, hv⟩ => ?_
  obtain ⟨v₀, hv₀, core⟩ := hw.rows.vm_of_get hv
  rcases hb with gone | ⟨v', hv', busy⟩ | taken
  · exact absurd (hv₀.symm.trans gone) (by simp)
  · rw [hv₀] at hv'
    cases hv'
    rw [← VmRow.uuid_of_core core] at busy
    refine Triple.scope (Triple.tryCatch
      (R := fun e _ w => Waiting job w₀ [] w ∧ e.isLock) (Triple.bind
      (Q := fun a _ w => a = v ∧ Waiting job w₀ w₀.busy w) (Triple.get fun _ _ h => h) ?_) ?_)
    · rintro a l w ⟨rfl, h⟩
      exact Triple.bind (stops_busy terminal busy) (fun _ _ _ h => h.elim) l w h
    · rintro e l w ⟨hw, key, rfl⟩
      simpa [provisionExcept, onlyIf, jterminal] using hw
  · exact taken.elim False.elim False.elim

include terminal in
/-- A blocked lifecycle task is harmless. -/
theorem harmless_simpleLifecycleTask {vm : Nat} {operation : OperationType} {status : VMStatus}
    {step event : String} (hb : (Task.startVm vm).blocked w₀) :
    Harmless (L := L) job w₀ w₀.busy
      (simpleLifecycleTask job vm operation status step event) := by
  refine harmless_getRow terminal fun j ⟨w, hw, hj⟩ => ?_
  obtain ⟨hpk, -⟩ := hw.job_of_get terminal hj
  refine harmless_getRow terminal fun v ⟨w, hw, hv⟩ => ?_
  obtain ⟨v₀, hv₀, core⟩ := hw.rows.vm_of_get hv
  have saves : ∀ error, Keeps (L := L) World.handle (fun _ => Waiting job w₀ []) (fun _ => True)
      (save (.vmSave v.pk { lastError := error })) :=
    fun _ => keeps_save terminal fun t ht => quietWrite_vmSave fun v _ => rfl
  rcases hb with gone | ⟨v', hv', busy⟩ | taken | ⟨v', hv', away⟩
  · exact absurd (hv₀.symm.trans gone) (by simp)
  · rw [hv₀] at hv'
    cases hv'
    rw [← VmRow.uuid_of_core core] at busy
    exact harmless_stops (stops_busy terminal busy) fun _ _ =>
      Keeps.bind (saves _) fun _ => keeps_failAndRaise hpk terminal
  · exact taken.elim
  · rw [hv₀] at hv'
    cases hv'
    rw [← VmRow.node_of_core core] at away
    exact harmless_stops (stops_lockedCall terminal hpk away) fun _ _ =>
      Keeps.bind (saves _) fun _ => keeps_failAndRaise hpk terminal

include terminal in
/-- A blocked `delete_vm_task` is harmless: it marks ERROR what is ERROR. -/
theorem harmless_deleteVmTask {vm : Nat} (hb : (Task.deleteVm vm).blocked w₀) :
    Harmless (L := L) job w₀ w₀.busy (deleteVmTask job vm) := by
  refine harmless_getRow terminal fun j ⟨w, hw, hj⟩ => ?_
  obtain ⟨hpk, -⟩ := hw.job_of_get terminal hj
  refine harmless_getRow terminal fun v ⟨w, hw, hv⟩ => ?_
  obtain ⟨v₀, hv₀, core⟩ := hw.rows.vm_of_get hv
  rcases hb with gone | ⟨v', hv', busy, error⟩ | taken
  · exact absurd (hv₀.symm.trans gone) (by simp)
  · rw [hv₀] at hv'
    cases hv'
    rw [← VmRow.uuid_of_core core] at busy
    refine harmless_stops (stops_bothLocks terminal busy) fun exc _ => ?_
    refine Keeps.bind (keeps_save terminal fun t ht => quietWrite_vmSave fun u hu => ?_) fun _ =>
      keeps_failAndRaise hpk terminal
    -- the row is in ERROR already, so writing ERROR changes its text alone
    rw [show v.pk = vm from Table.pk_of_get hv] at hu
    obtain ⟨u₀, hu₀, ucore⟩ := ht.vm_of_get hu
    rw [hv₀] at hu₀
    cases hu₀
    simp [VmFields.apply, VmRow.core, VmRow.status_of_core ucore, error]
  · exact taken.elim False.elim False.elim

/-- The operation of a disk or NIC task begins with a call to the agent of the node. -/
def Calls (node : Option Nat) (runOp : TaskM L Unit) : Prop :=
  ∃ (r : AgentRequest) (rest : Dict → TaskM L Unit), runOp = sendOperation node r >>= rest

include terminal in
/-- A disk or NIC task is harmless that finds the storage lock held, or cannot send its call. -/
theorem harmless_diskOrNicTask {v : VmRow} {step : String} {runOp : TaskM L Unit}
    (calls : Calls v.node runOp) (stopped : .storage v.uuid ∈ w₀.busy ∨ w₀.outOfReach v.node) :
    Harmless job w₀ w₀.busy (diskOrNicTask job v step runOp) := by
  refine harmless_getRow terminal fun j ⟨w, hw, hj⟩ => ?_
  obtain ⟨hpk, -⟩ := hw.job_of_get terminal hj
  rcases stopped with busy | away
  · exact harmless_stops (stops_busy terminal busy) fun exc _ => keeps_failAndRaise hpk terminal
  · obtain ⟨r, rest, rfl⟩ := calls
    exact harmless_stops (stops_lockedCall terminal hpk away) fun exc _ =>
      keeps_failAndRaise hpk terminal

include terminal in
/-- The three disk tasks load the same rows and take the same lock. -/
theorem harmless_diskTask {disk : Nat} {step : DiskRow × VmRow × PoolRow → String}
    {runOp : DiskRow × VmRow × PoolRow → TaskM L Unit} (calls : ∀ r, Calls r.2.1.node (runOp r))
    (hb : (Task.attachDisk disk).blocked w₀) :
    Harmless job w₀ w₀.busy
      (getDisk disk >>= fun r => diskOrNicTask job r.2.1 (step r) (runOp r)) := by
  refine harmless_getRow terminal fun ⟨d, v, p⟩ ⟨w, hw, hd⟩ => ?_
  obtain ⟨v₀, p₀, hd₀, core⟩ := hw.disk_of_load hd
  refine harmless_diskOrNicTask terminal (calls (d, v, p)) ?_
  rw [VmRow.uuid_of_core core, VmRow.node_of_core core]
  rcases hb with gone | ⟨d', v', p', hd', busy⟩ | taken | ⟨d', v', p', hd', away⟩
  · exact absurd (hd₀.symm.trans gone) (by simp)
  · rw [hd₀] at hd'
    cases hd'
    exact .inl busy
  · exact taken.elim
  · rw [hd₀] at hd'
    cases hd'
    exact .inr away

include terminal in
/-- The two NIC tasks load the same rows and take the same lock. -/
theorem harmless_nicTask {nic : Nat} {step : NicRow × VmRow × NetworkRow → String}
    {runOp : NicRow × VmRow × NetworkRow → TaskM L Unit} (calls : ∀ r, Calls r.2.1.node (runOp r))
    (hb : (Task.attachNic nic).blocked w₀) :
    Harmless job w₀ w₀.busy
      (getNic nic >>= fun r => diskOrNicTask job r.2.1 (step r) (runOp r)) := by
  refine harmless_getRow terminal fun ⟨n, v, net⟩ ⟨w, hw, hn⟩ => ?_
  obtain ⟨v₀, net₀, hn₀, core⟩ := hw.nic_of_load hn
  refine harmless_diskOrNicTask terminal (calls (n, v, net)) ?_
  rw [VmRow.uuid_of_core core, VmRow.node_of_core core]
  rcases hb with gone | ⟨n', v', net', hn', busy⟩ | taken | ⟨n', v', net', hn', away⟩
  · exact absurd (hn₀.symm.trans gone) (by simp)
  · rw [hn₀] at hn'
    cases hn'
    exact .inl busy
  · exact taken.elim
  · rw [hn₀] at hn'
    cases hn'
    exact .inr away

include terminal in
/-- Writing back the status a snapshot has changes nothing. -/
theorem keeps_snapshotStatus {snapshot : Nat} {s : SnapshotRow} {v₀ : VmRow}
    (hs : w₀.db.loadSnapshot snapshot = some (s, v₀)) :
    Keeps (L := L) World.handle (fun _ => Waiting job w₀ []) (fun _ => True)
      (save (.snapshotSave s.pk { status := s.status })) := by
  simp only [Tables.loadSnapshot, Option.bind_eq_bind, Option.pure_def, Option.bind_eq_some_iff,
    Option.some.injEq, Prod.mk.injEq] at hs
  obtain ⟨s', hs', -, -, rfl, -⟩ := hs
  refine keeps_save terminal fun t ht => quietWrite_snapshotSave fun r hr => ?_
  rw [show s'.pk = snapshot from Table.pk_of_get hs', ht.snapshots, hs'] at hr
  cases hr
  rfl

include terminal in
/-- A blocked `create_snapshot_task` is harmless: it marks ERROR what is ERROR. -/
theorem harmless_createSnapshotTask {snapshot : Nat}
    (hb : (Task.createSnapshot snapshot).blocked w₀) :
    Harmless (L := L) job w₀ w₀.busy (createSnapshotTask job snapshot) := by
  refine harmless_getRow terminal fun j ⟨w, hw, hj⟩ => ?_
  obtain ⟨hpk, -⟩ := hw.job_of_get terminal hj
  refine harmless_getRow terminal fun ⟨s, v⟩ ⟨w, hw, hs⟩ => ?_
  obtain ⟨v₀, hs₀, core⟩ := hw.snapshot_of_load hs
  have saves : s.status = .error → Keeps (L := L) World.handle (fun _ => Waiting job w₀ [])
      (fun _ => True) (save (.snapshotSave s.pk { status := .error })) :=
    fun error => error ▸ keeps_snapshotStatus terminal hs₀
  rcases hb with gone | ⟨s', v', hs', busy, error⟩ | taken | ⟨s', v', hs', away, error⟩
  · exact absurd (hs₀.symm.trans gone) (by simp)
  · rw [hs₀] at hs'
    cases hs'
    rw [← VmRow.uuid_of_core core] at busy
    exact harmless_stops (stops_busy terminal busy) fun _ _ =>
      Keeps.bind (saves error) fun _ => keeps_failAndRaise hpk terminal
  · exact taken.elim
  · rw [hs₀] at hs'
    cases hs'
    rw [← VmRow.node_of_core core] at away
    exact harmless_stops (stops_lockedCall terminal hpk away) fun _ _ =>
      Keeps.bind (saves error) fun _ => keeps_failAndRaise hpk terminal

include terminal in
/-- A blocked `delete_snapshot_task` is harmless. -/
theorem harmless_deleteSnapshotTask {snapshot : Nat}
    (hb : (Task.deleteSnapshot snapshot).blocked w₀) :
    Harmless (L := L) job w₀ w₀.busy (deleteSnapshotTask job snapshot) := by
  refine harmless_getRow terminal fun j ⟨w, hw, hj⟩ => ?_
  obtain ⟨hpk, -⟩ := hw.job_of_get terminal hj
  refine harmless_getRow terminal fun ⟨s, v⟩ ⟨w, hw, hs⟩ => ?_
  obtain ⟨v₀, hs₀, core⟩ := hw.snapshot_of_load hs
  rcases hb with gone | ⟨s', v', hs', busy⟩ | taken
  · exact absurd (hs₀.symm.trans gone) (by simp)
  · rw [hs₀] at hs'
    cases hs'
    rw [← VmRow.uuid_of_core core] at busy
    refine harmless_stops (stops_busy terminal busy) fun exc _ => ?_
    exact Keeps.bind (keeps_snapshotStatus terminal hs₀) fun _ => keeps_failAndRaise hpk terminal
  · exact taken.elim False.elim False.elim

include terminal in
/-- A blocked `rollback_snapshot_task` is harmless: it marks READY what is READY. -/
theorem harmless_rollbackSnapshotTask {snapshot : Nat}
    (hb : (Task.rollbackSnapshot snapshot).blocked w₀) :
    Harmless (L := L) job w₀ w₀.busy (rollbackSnapshotTask job snapshot) := by
  refine harmless_getRow terminal fun j ⟨w, hw, hj⟩ => ?_
  obtain ⟨hpk, -⟩ := hw.job_of_get terminal hj
  refine harmless_getRow terminal fun ⟨s, v⟩ ⟨w, hw, hs⟩ => ?_
  obtain ⟨v₀, hs₀, core⟩ := hw.snapshot_of_load hs
  rcases hb with gone | ⟨s', v', hs', busy, ready⟩ | taken
  · exact absurd (hs₀.symm.trans gone) (by simp)
  · rw [hs₀] at hs'
    cases hs'
    rw [← VmRow.uuid_of_core core] at busy
    refine harmless_stops (stops_bothLocks terminal busy) fun exc _ => ?_
    exact Keeps.bind (ready ▸ keeps_snapshotStatus terminal hs₀) fun _ =>
      keeps_failAndRaise hpk terminal
  · exact taken.elim False.elim False.elim

include terminal in
/-- A blocked `restore_backup_task` is harmless: it marks COMPLETED what is COMPLETED. -/
theorem harmless_restoreBackupTask {backup : Nat} (hb : (Task.restoreBackup backup).blocked w₀) :
    Harmless (L := L) job w₀ w₀.busy (restoreBackupTask job backup) := by
  refine harmless_getRow terminal fun j ⟨w, hw, hj⟩ => ?_
  obtain ⟨hpk, -⟩ := hw.job_of_get terminal hj
  refine harmless_getRow terminal fun ⟨b, v, target⟩ ⟨w, hw, hload⟩ => ?_
  obtain ⟨v₀, hload₀, core⟩ := hw.backup_of_load hload
  rcases hb with gone | ⟨b', v', target', hload', busy, completed⟩ | taken
  · exact absurd (hload₀.symm.trans gone) (by simp)
  · rw [hload₀] at hload'
    cases hload'
    rw [← VmRow.uuid_of_core core] at busy
    refine harmless_stops (stops_busy terminal busy) fun exc _ => ?_
    refine Keeps.bind (keeps_save terminal fun t ht => quietWrite_backupSave fun r hr => ?_)
      fun _ => keeps_failAndRaise hpk terminal
    simp only [Tables.loadBackup, Option.bind_eq_bind, Option.pure_def, Option.bind_eq_some_iff,
      Option.some.injEq, Prod.mk.injEq] at hload₀
    obtain ⟨b₀, hb₀, -, -, -, -, rfl, -, -⟩ := hload₀
    rw [show b₀.pk = backup from Table.pk_of_get hb₀, ht.backups, hb₀] at hr
    cases hr
    simp [BackupFields.apply, ← completed]
  · exact taken.elim False.elim False.elim

include terminal in
/-- The tasks without a way out but the missing row. -/
theorem harmless_unloaded {α : Type} {model : String} {row : Tables → Option α}
    {f : JobRow → α → TaskM L Unit}
    (gone : ∀ w, Waiting job w₀ w₀.busy w → row w.db = none) :
    Harmless job w₀ w₀.busy (getJob job >>= fun j => getRow model row >>= f j) := by
  refine harmless_getRow terminal fun j _ => harmless_getRow terminal fun a ⟨w, hw, ha⟩ => ?_
  exact absurd (ha.symm.trans (gone w hw)) (by simp)

/-- Names are unique in a project, so a clone under a name that is taken is not created. -/
theorem createVm_nameTaken (uuid domainUuid : Uuid) {t : Tables} {row : VmRow} {pk : Nat}
    {u : VmRow} (hu : Table.get t.vms pk = some u) (project : u.project = row.project)
    (name : u.name = row.name) :
    t.createVm uuid domainUuid row = .error (.integrityError "unique_vm_name_per_project") := by
  unfold Tables.createVm
  refine if_pos (List.any_eq_true.mpr ⟨u, Table.mem_of_get hu, ?_⟩)
  simp [project, name]

include terminal in
/-- A name that is taken stops the clone. -/
theorem stops_prepareClone {j : JobRow} {source : VmRow} {newName : String}
    (taken : ∃ pk u, Table.get w₀.db.vms pk = some u ∧ u.project = source.project ∧
      u.name = newName) :
    Stops (L := L) job w₀ [] (fun _ => True) (prepareClone j source newName) := by
  refine Triple.bind (Q := fun _ _ _ => False) ?_ fun _ _ _ h => h.elim
  intro l w h
  obtain ⟨pk, u, hu, project, name⟩ := taken
  have turn := h.next terminal
  have same := turn.rows.vms pk
  rw [hu] at same
  obtain ⟨u', hu', core⟩ := Option.map_eq_some_iff.mp same
  have refused : w.next.db.createVm _ _ (cloneRow j source newName) = .error _ :=
    createVm_nameTaken (w.script w.pos).uuid (w.script w.pos).domainUuid hu'
    ((show u'.core.project = u.core.project from congrArg VmRow.project core).trans project)
    ((show u'.core.name = u.core.name from congrArg VmRow.name core).trans name)
  obtain ⟨e, answer⟩ : ∃ e, World.handle (.createVm (cloneRow j source newName)) w = (.error e,
      { w.next with trace := .createVm (cloneRow j source newName) false :: w.next.trace }) := by
    simp only [World.handle, World.answer, refused]
    cases (w.script w.pos).dbFails
    · exact ⟨_, rfl⟩
    · exact ⟨_, rfl⟩
  unfold insertVm
  rw [exec_bind]
  simp only [exec_perform, answer]
  exact ⟨⟨turn.calls, turn.rows, List.forall_mem_nil _, turn.script⟩, trivial⟩

include terminal in
/-- A blocked `clone_vm_task` is harmless. -/
theorem harmless_cloneVmTask {vm : Nat} {newName : String} {linked : Bool}
    (hb : (Task.cloneVm vm newName linked).blocked w₀) :
    Harmless (L := L) job w₀ w₀.busy (cloneVmTask job vm newName linked) := by
  refine harmless_getRow terminal fun j ⟨w, hw, hj⟩ => ?_
  obtain ⟨hpk, -⟩ := hw.job_of_get terminal hj
  refine harmless_getRow terminal fun v ⟨w, hw, hv⟩ => ?_
  obtain ⟨v₀, hv₀, core⟩ := hw.rows.vm_of_get hv
  rcases hb with gone | ⟨v', hv', busy⟩ | ⟨v', hv', taken⟩ | never
  · exact absurd (hv₀.symm.trans gone) (by simp)
  · rw [hv₀] at hv'
    cases hv'
    rw [← VmRow.uuid_of_core core] at busy
    exact harmless_stops (stops_bothLocks terminal busy) fun exc _ =>
      keeps_failAndRaise hpk terminal
  · rw [hv₀] at hv'
    cases hv'
    rw [← show v.project = v₀.project from
      (show v.core.project = v₀.core.project from congrArg VmRow.project core)] at taken
    refine harmless_stops (E := fun _ => True) ?_ fun exc _ => keeps_failAndRaise hpk terminal
    refine Triple.conseq (stops_nested terminal trivial (stops_nested terminal trivial ?_))
      (fun _ _ => Waiting.forget) (fun _ _ _ => id) fun _ _ _ => id
    exact Triple.bind (stops_jobRun terminal hpk (stops_prepareClone terminal taken))
      fun _ _ _ h => h.elim
  · exact never.elim

/-! ### Networks and pools -/

include terminal in
/-- An event of a network or a pool is written or not, and that is all. -/
theorem keeps_swallowEvent {event : Event} :
    Keeps (L := L) World.handle (fun _ => Waiting job w₀ []) (fun _ => True)
      (swallow (emitEvent event)) :=
  Keeps.swallow (Keeps.emitEvent (E := fun _ => True) (fun _ _ => trivial)
    (opKeeps_waiting terminal trivial trivial fun _ _ => trivial))

/-- A network that a blocked task loads is that of the start, and its agent is out of reach. -/
theorem Waiting.network_away {network : Nat} {net : NetworkRow} {w : World}
    (hb : (Task.createNetwork network).blocked w₀) (hw : Waiting job w₀ w₀.busy w)
    (hnet : Table.get w.db.networks network = some net) : w₀.outOfReach (some net.node) := by
  obtain ⟨net₀, hnet₀, core⟩ := some_of_view (hw.rows.networks network) hnet
  rcases hb with gone | never | never | ⟨net', hnet', away⟩
  · exact absurd (hnet₀.symm.trans gone) (by simp)
  · exact never.elim
  · exact never.elim
  · rw [hnet₀] at hnet'
    cases hnet'
    rw [NetworkRow.node_of_core core]
    exact away

include terminal in
/-- A blocked `create_network_task` is harmless. -/
theorem harmless_createNetworkTask {network : Nat} (hb : (Task.createNetwork network).blocked w₀) :
    Harmless (L := L) job w₀ w₀.busy (createNetworkTask job network) := by
  refine harmless_getRow terminal fun j ⟨w, hw, hj⟩ => ?_
  obtain ⟨hpk, -⟩ := hw.job_of_get terminal hj
  refine harmless_getRow terminal fun net ⟨w, hw, hnet⟩ => ?_
  have away := Waiting.network_away hb hw hnet
  refine harmless_stops (E := fun _ => True) ?_ fun exc _ => ?_
  · exact Triple.conseq (stops_call terminal hpk away) (fun _ _ => Waiting.forget)
      (fun _ _ _ => id) fun _ _ _ => id
  · refine Keeps.bind (keeps_save terminal fun _ _ => quietWrite_networkStatus) fun _ => ?_
    refine Keeps.bind (keeps_failUnlessTerminal hpk terminal) fun _ => ?_
    exact Keeps.bind (keeps_swallowEvent terminal) fun _ => Keeps.throw trivial

include terminal in
/-- A blocked `delete_network_task` is harmless. -/
theorem harmless_deleteNetworkTask {network : Nat} (hb : (Task.deleteNetwork network).blocked w₀) :
    Harmless (L := L) job w₀ w₀.busy (deleteNetworkTask job network) := by
  refine harmless_getRow terminal fun j ⟨w, hw, hj⟩ => ?_
  obtain ⟨hpk, -⟩ := hw.job_of_get terminal hj
  refine harmless_getRow terminal fun net ⟨w, hw, hnet⟩ => ?_
  have away := Waiting.network_away hb hw hnet
  refine harmless_stops (E := fun _ => True) ?_ fun exc _ => ?_
  · exact Triple.conseq (stops_call terminal hpk away) (fun _ _ => Waiting.forget)
      (fun _ _ _ => id) fun _ _ _ => id
  · refine Keeps.bind (keeps_save terminal fun _ _ => quietWrite_networkStatus) fun _ => ?_
    exact keeps_failAndRaise hpk terminal

include terminal in
/-- Whatever the kind of the pool, a call comes first. -/
theorem stops_createStoragePoolStep {pool : PoolRow} (away : w₀.outOfReach (some pool.node)) :
    Stops (L := L) job w₀ [] (fun _ => True) (createStoragePoolStep pool) := by
  have asks : Stops (L := L) job w₀ [] (fun _ => True) (refreshStoragePoolInfo pool) :=
    Triple.bind (stops_sendOperation terminal away) fun _ _ _ h => h.elim
  unfold createStoragePoolStep onlyIf
  by_cases directory : pool.type = .directory
  · rw [if_pos directory]
    refine Triple.bind (Q := fun _ _ _ => False) ?_ fun _ _ _ h => h.elim
    exact Triple.bind (stops_sendOperation terminal away) fun _ _ _ h => h.elim
  · rw [if_neg directory]
    exact asks

include terminal in
/-- A blocked `create_storage_pool_task` is harmless. -/
theorem harmless_createStoragePoolTask {pool : Nat} (hb : (Task.createStoragePool pool).blocked w₀) :
    Harmless (L := L) job w₀ w₀.busy (createStoragePoolTask job pool) := by
  refine harmless_getRow terminal fun j ⟨w, hw, hj⟩ => ?_
  obtain ⟨hpk, -⟩ := hw.job_of_get terminal hj
  refine harmless_getRow terminal fun p ⟨w, hw, hp⟩ => ?_
  obtain ⟨p₀, hp₀, core⟩ := some_of_view (hw.rows.pools pool) hp
  rcases hb with gone | never | never | ⟨p', hp', away⟩
  · exact absurd (hp₀.symm.trans gone) (by simp)
  · exact never.elim
  · exact never.elim
  · rw [hp₀] at hp'
    cases hp'
    rw [← PoolRow.node_of_core core] at away
    refine harmless_stops (E := fun _ => True) ?_ fun exc _ => ?_
    · exact Triple.conseq (stops_jobRun terminal hpk (stops_createStoragePoolStep terminal away))
        (fun _ _ => Waiting.forget) (fun _ _ _ => id) fun _ _ _ => id
    · refine Keeps.bind (keeps_save terminal fun _ _ => quietWrite_poolStatus) fun _ => ?_
      refine Keeps.bind (keeps_failUnlessTerminal hpk terminal) fun _ => ?_
      exact Keeps.bind (keeps_swallowEvent terminal) fun _ => Keeps.throw trivial

/-! ## Every task, and any number of executions -/

include terminal in
/-- Every blocked task is harmless. -/
theorem harmless_body {task : Task} (hb : task.blocked w₀) :
    Harmless job w₀ w₀.busy (task.body job) := by
  cases task with
  | provisionVm => exact harmless_provisionVm terminal hb
  | startVm | pauseVm | resumeVm => exact harmless_simpleLifecycleTask terminal hb
  | stopVm | rebootVm =>
    refine harmless_getRow terminal fun j _ => ?_
    exact Triple.ite (fun _ => harmless_simpleLifecycleTask terminal hb)
      fun _ => harmless_simpleLifecycleTask terminal hb
  | deleteVm => exact harmless_deleteVmTask terminal hb
  | cloneVm => exact harmless_cloneVmTask terminal hb
  | attachDisk | detachDisk | resizeDisk =>
    exact harmless_diskTask terminal (fun _ => ⟨_, _, rfl⟩) hb
  | attachNic | detachNic => exact harmless_nicTask terminal (fun _ => ⟨_, _, rfl⟩) hb
  | createSnapshot => exact harmless_createSnapshotTask terminal hb
  | deleteSnapshot => exact harmless_deleteSnapshotTask terminal hb
  | rollbackSnapshot => exact harmless_rollbackSnapshotTask terminal hb
  | restoreBackup => exact harmless_restoreBackupTask terminal hb
  | createNetwork => exact harmless_createNetworkTask terminal hb
  | deleteNetwork => exact harmless_deleteNetworkTask terminal hb
  | createStoragePool => exact harmless_createStoragePoolTask terminal hb
  | createBackup backup =>
    rcases hb with gone | never | never | never
    · refine harmless_unloaded terminal fun w hw => ?_
      cases hload : w.db.loadBackup backup with
      | none => rfl
      | some r =>
        obtain ⟨v₀, hload₀, -⟩ := hw.backup_of_load hload
        exact absurd (hload₀.symm.trans gone) (by simp)
    · exact never.elim
    · exact never.elim
    · exact never.elim

include terminal in
/-- `on_failure` finds the job terminal. -/
theorem harmless_onFailure {exc : Exn} :
    Harmless (L := Unit) (α := Unit) job w₀ [] (do onFailure job exc; throw exc) := by
  have read : OpKeeps (L := Unit) (fun _ => Waiting job w₀ []) .read :=
    opKeeps_waiting terminal trivial trivial fun _ _ => trivial
  refine Keeps.harmless (E := fun _ => True) (Keeps.bind ?_ fun _ => Keeps.throw trivial)
  refine Triple.query_bind read fun t ⟨_, w, hw, ht⟩ => ?_
  split
  · next row hrow =>
    obtain ⟨hpk, -⟩ := hw.job_of_get terminal (ht ▸ hrow)
    exact Keeps.onlyIf fun _ => keeps_transition terminal hpk
  · exact Keeps.pure _

include terminal in
/-- So is what Celery runs around it. -/
theorem harmless_run (taskId : String) {task : Task} (hb : task.blocked w₀) :
    Harmless job w₀ w₀.busy (task.run taskId job) := by
  refine Triple.tryCatch (R := fun _ _ => Waiting job w₀ []) (Triple.bind
    (Q := fun _ _ => Waiting job w₀ w₀.busy) ?_ fun _ => harmless_body terminal hb) fun exc =>
      harmless_onFailure terminal
  exact Triple.conseq (Keeps.save (E := fun _ => True) (fun _ _ => trivial)
    (opKeeps_waiting terminal trivial trivial fun _ _ => quietWrite_jobCeleryTaskId))
    (fun _ _ => id) (fun _ _ _ => id) fun _ _ _ h => h.1.forget

include terminal in
/-- When `before_start` fails there is nothing of the task but `on_failure`. -/
theorem harmless_run_rejected (taskId : String) {task : Task}
    (fails : (w₀.script w₀.pos).dbFails) :
    Triple World.handle (fun _ w => w = w₀) (task.run taskId job) (fun _ _ => Waiting job w₀ [])
      fun _ _ => Waiting job w₀ [] := by
  have start : Waiting job w₀ [] w₀ := ⟨rfl, SameRows.refl job w₀.db, List.forall_mem_nil _, rfl⟩
  refine Triple.tryCatch (R := fun _ _ => Waiting job w₀ []) (Triple.bind
    (Q := fun _ _ _ => False) ?_ fun _ _ _ h => h.elim) fun exc => harmless_onFailure terminal
  rintro l w rfl
  have turn := start.next terminal
  unfold beforeStart save
  rw [exec_bind]
  simp only [exec_perform, World.handle, World.answer, World.statement, fails, if_true]
  exact ⟨turn.calls, turn.rows, List.forall_mem_nil _, turn.script⟩

end Tasks

/-- What the surroundings are when a message is delivered: the locks other workers hold, and what
will be decided while it executes. -/
structure Delivery where
  busy : List LockKey
  script : Nat → Choice

/-- The world in which a message is delivered again. -/
def World.deliver (w : World) (d : Delivery) : World :=
  { w with busy := d.busy, script := d.script, pos := 0 }

/-- The world after the same message was executed once for every delivery. -/
def Task.redeliver (taskId : String) (job : Nat) (task : Task) (w : World) :
    List Delivery → World
  | [] => w
  | d :: ds => task.redeliver taskId job (task.execute taskId job (w.deliver d)) ds

/-- Every execution is stopped. -/
def Task.allStopped (taskId : String) (job : Nat) (task : Task) (w : World) :
    List Delivery → Prop
  | [] => True
  | d :: ds => task.stopped (w.deliver d) ∧
      task.allStopped taskId job (task.execute taskId job (w.deliver d)) ds

/-- The job is over in the world when it is in the tables. -/
theorem World.jobTerminal_iff {w : World} {job : Nat} :
    w.jobTerminal job ↔ w.db.jobTerminal job := by
  simp [World.jobTerminal, World.jobStatus, Tables.jobTerminal, JobRow.isTerminal]

/-- One stopped execution of a message whose job is terminal. -/
theorem execute_quiet {taskId : String} {job : Nat} {task : Task} {w : World}
    (terminal : w.jobTerminal job) (stopped : task.stopped w) :
    Quiet job w (task.execute taskId job w) := by
  have keyed := World.jobTerminal_iff.mp terminal
  have ends : Triple World.handle (fun _ w' => w' = w) (task.run taskId job)
      (fun _ _ => Waiting job w []) fun _ _ => Waiting job w [] := by
    rcases stopped with rejected | blocked
    · exact harmless_run_rejected keyed taskId rejected
    · refine Triple.conseq (harmless_run keyed taskId blocked) ?_ (fun _ _ _ => id) fun _ _ _ => id
      rintro l w' rfl
      exact ⟨rfl, SameRows.refl job w'.db, fun _ => id, rfl⟩
  have final : Waiting job w [] (task.execute taskId job w) := by
    have after := ends () w rfl
    unfold Task.execute
    generalize exec World.handle (task.run taskId job) () w = r at after ⊢
    rcases r with ⟨e | a, l, w'⟩
    · exact after
    · exact after
  refine ⟨final.calls, final.rows.job, fun pk => ?_, final.rows.disks, final.rows.nics,
    final.rows.snapshots, final.rows.backups⟩
  have core := congrArg (Option.map fun v : VmRow => (v.status, v.provisioningState))
    (final.rows.vms pk)
  simpa [Option.map_map, Function.comp_def, VmRow.core] using core

/-- **Stopped executions of a finished job change nothing.** However often the message of a
terminal job is executed, if every execution is stopped then nothing is sent and the job, the VMs,
the disks, the NICs, the snapshots and the backups stay as they were. -/
theorem redeliver_quiet (taskId : String) (job : Nat) (task : Task) (w : World)
    (ds : List Delivery) (terminal : w.jobTerminal job)
    (stopped : task.allStopped taskId job w ds) :
    Quiet job w (task.redeliver taskId job w ds) := by
  induction ds generalizing w with
  | nil => exact Quiet.refl job w
  | cons d ds ih =>
    have delivered : Quiet job w (w.deliver d) :=
      ⟨rfl, rfl, fun _ => rfl, fun _ => rfl, fun _ => rfl, fun _ => rfl, fun _ => rfl⟩
    have first : Quiet job w (task.execute taskId job (w.deliver d)) :=
      delivered.trans (execute_quiet terminal stopped.1)
    have still : (task.execute taskId job (w.deliver d)).jobTerminal job := by
      obtain ⟨s, hs, hterminal⟩ := terminal
      exact ⟨s, first.job.trans hs, hterminal⟩
    exact first.trans (ih _ still stopped.2)

/-- A VM that was provisioned, and whose job is SUCCESS. -/
def provisioned : World where
  db :=
    { jobs := [{ pk := 1, uuid := ⟨1⟩, type := .vmCreate, status := .success, progress := 100 }]
      vms := [{ pk := 1, uuid := ⟨2⟩, domainUuid := ⟨3⟩, organization := 1, project := 1,
                node := some 1, name := "web", status := .running, provisioningState := .ready }]
      disks := [{ pk := 1, uuid := ⟨4⟩, vm := 1, storage := 1, name := "root",
                  volumeId := "/pool/root.qcow2", sizeBytes := 1073741824 }]
      pools := [{ pk := 1, uuid := ⟨5⟩, node := 1, name := "default", type := .directory,
                  path := "/pool" }]
      nodes := [{ pk := 1, name := "n1" }] }
  script := fun _ => {}

/-- Another worker holds the lock of the VM. -/
def lockedDelivery : Delivery := ⟨[.lifecycle ⟨2⟩], fun _ => {}⟩

theorem redeliver_quiet_provisioned :
    Quiet 1 provisioned ((Task.provisionVm 1).redeliver "t" 1 provisioned [lockedDelivery]) :=
  redeliver_quiet "t" 1 (.provisionVm 1) provisioned [lockedDelivery] ⟨.success, rfl, rfl⟩
    ⟨.inr (.inr (.inl ⟨_, rfl, by decide⟩)), trivial⟩

/-- The lock is free, and the agent finds the volume of CREATE_DISK there already. -/
def freeDelivery : Delivery := ⟨[], fun _ => { agent := .failed (some "volume exists") }⟩

/-- The message of a VM that was provisioned is executed again: CREATE_DISK and DELETE_DISK are
sent for the volume of the VM, and the VM ends in ERROR. -/
theorem provisioned_redelivered :
    provisioned.jobTerminal 1 ∧
    ((Task.provisionVm 1).redeliver "t" 1 provisioned [freeDelivery]).calls.map
      AgentRequest.operation = [.deleteDisk, .createDisk] ∧
    (Table.get ((Task.provisionVm 1).redeliver "t" 1 provisioned [freeDelivery]).db.vms 1).map
      VmRow.status = some .error ∧
    ¬ Quiet 1 provisioned ((Task.provisionVm 1).redeliver "t" 1 provisioned [freeDelivery]) := by
  have calls : ((Task.provisionVm 1).redeliver "t" 1 provisioned [freeDelivery]).calls.map
      AgentRequest.operation = [.deleteDisk, .createDisk] := by decide
  refine ⟨⟨.success, rfl, rfl⟩, calls, by decide, fun quiet => ?_⟩
  rw [quiet.calls] at calls
  cases calls

end NodePilot
