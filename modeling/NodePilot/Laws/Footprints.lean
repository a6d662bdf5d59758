import NodePilot.Laws.Outcomes
import NodePilot.Services

/-!
# The footprint of a statement

What `Obeys` asks of the statements that requests and tasks are made of, one rule a statement. A
footprint `φ` that is `Routine` admits what every task does around its work: it reads, takes locks,
emits events and keeps the row of its job. The work itself, what is sent and which other rows are
written, is left to whoever uses the rule.

A footprint also says what an execution can have done (`execute_within`): of the tables, what the
writes it admits keep; of the requests, that it admits each of them.
-/

namespace NodePilot

open Lib Lib.Script

/-- The writes by which a task keeps the row of its job. -/
def Write.routine : Write → Prop
  | .jobTransition _ _ _ _ | .jobLogs _ _ | .jobCeleryTaskId _ _ | .jobResourceId _ _ => True
  | .jobProgress _ progress _ => progress ≤ 100
  | _ => False

/-- A routine write sets no VM's status. -/
theorem Write.routine.vmStatus {x : Write} (h : x.routine) (vm : Nat) : x.vmStatus vm = none := by
  cases x <;> first | rfl | cases h

/-- The footprint admits what every task does around its work. -/
structure Routine (φ : Op → Prop) : Prop where
  read : φ .read
  acquire : ∀ key ttl, φ (.acquire key ttl)
  release : ∀ key, φ (.release key)
  emit : ∀ event, φ (.emit event)
  mac : φ .mac
  job : ∀ x : Write, x.routine → φ (.write x)

/-! ## Statements of a task -/

/-- A disk that was loaded is a row, with the VM and the pool it names. -/
theorem loadDisk_some {t : Tables} {disk : Nat} {d : DiskRow} {vm : VmRow} {p : PoolRow}
    (h : t.loadDisk disk = some (d, vm, p)) :
    d ∈ t.disks ∧ d.pk = disk ∧ Table.get t.pools d.storage = some p := by
  obtain ⟨d', found, rest⟩ := Option.bind_eq_some_iff.mp h
  obtain ⟨vm', -, rest⟩ := Option.bind_eq_some_iff.mp rest
  obtain ⟨p', pool, done⟩ := Option.bind_eq_some_iff.mp rest
  cases done
  exact ⟨Table.mem_of_get found, Table.pk_of_get found, pool⟩

/-- A backup that was loaded is a row, with the VM and the target it names. -/
theorem loadBackup_some {t : Tables} {backup : Nat} {b : BackupRow} {v : VmRow} {target : TargetRow}
    (h : t.loadBackup backup = some (b, v, target)) :
    Table.get t.backups backup = some b ∧ v ∈ t.vms ∧ v.pk = b.vm := by
  obtain ⟨b', found, rest⟩ := Option.bind_eq_some_iff.mp h
  obtain ⟨v', vm, rest⟩ := Option.bind_eq_some_iff.mp rest
  obtain ⟨target', -, same⟩ := Option.bind_eq_some_iff.mp rest
  cases same
  exact ⟨found, Table.mem_of_get vm, Table.pk_of_get vm⟩

section Statements

variable {L α : Type} {ok : (o : Op) → Ans o → Prop} {φ : Op → Prop} {Q : α → Prop}

/-- What is returned is what was computed. -/
theorem obeys_orRaise {r : Except Exn α} (h : ∀ a, r = .ok a → Q a) :
    Obeys ok φ Q (orRaise r : TaskM L α) := by
  cases r with
  | ok a => exact Obeys.pure (h a rfl)
  | error e => exact Obeys.throw

/-- A save is one write. -/
theorem obeys_save {x : Write} (hx : φ (.write x)) :
    Obeys ok φ (fun _ => True) (save x : TaskM L Unit) :=
  Obeys.bind (Obeys.perform (Q := fun _ => True) hx fun _ _ => trivial) fun _ _ =>
    obeys_orRaise fun _ _ => trivial

/-- A call is one message to an agent. -/
theorem obeys_send {node : Option Nat} {r : AgentRequest} {timeout : Option Nat}
    (hr : φ (.send node r timeout)) :
    Obeys ok φ (fun _ => True) (sendOperation node r timeout : TaskM L Dict) :=
  Obeys.bind (Obeys.perform (Q := fun _ => True) hr fun _ _ => trivial) fun _ _ =>
    obeys_orRaise fun _ _ => trivial

theorem obeys_onlyIf {c : Prop} [Decidable c] {x : TaskM L Unit}
    (hx : Obeys ok φ (fun _ => True) x) : Obeys ok φ (fun _ => True) (onlyIf c x) :=
  Obeys.ite (fun _ => hx) fun _ => Obeys.pure trivial

/-- Swallowing a failure sends and writes nothing more. -/
theorem obeys_swallow {x : TaskM L Unit} (hx : Obeys ok φ (fun _ => True) x) :
    Obeys ok φ (fun _ => True) (swallow x) :=
  Obeys.tryCatch hx fun _ => Obeys.pure trivial

namespace Routine

/-- An event is routine. -/
theorem emitEvent (h : Routine φ) {event : Event} :
    Obeys ok φ (fun _ => True) (emitEvent event : TaskM L Unit) :=
  Obeys.bind (Obeys.perform (Q := fun _ => True) (h.emit event) fun _ _ => trivial) fun _ _ =>
    obeys_orRaise fun _ _ => trivial

/-- What is read is a state of the tables. -/
theorem query (h : Routine φ) : Obeys ok φ (ok .read) (query : TaskM L Tables) :=
  Obeys.perform h.read fun _ ht => ht

/-- What is loaded is in the tables that were read. -/
theorem getRow (h : Routine φ) {model : String} {row : Tables → Option α} :
    Obeys ok φ (fun a => ∃ t, ok .read t ∧ row t = some a) (getRow model row : TaskM L α) := by
  refine Obeys.bind h.query fun t ht => ?_
  split
  · next r hr => exact Obeys.pure ⟨t, ht, hr⟩
  · exact Obeys.throw

/-- Taking and releasing a lock is routine. -/
theorem withLock (h : Routine φ) {key : LockKey} {ttl : Nat} {body : TaskM L α}
    (hb : Obeys ok φ Q body) : Obeys ok φ Q (withLock key ttl body) := by
  have released : Obeys ok φ (fun _ => True)
      (Script.perform (Op.release key) : TaskM L Unit) :=
    Obeys.perform (h.release key) fun _ _ => trivial
  refine Obeys.bind (Obeys.perform (Q := fun _ => True) (h.acquire key ttl) fun _ _ => trivial)
    fun got _ => Obeys.ite (fun _ => ?_) fun _ => Obeys.throw
  refine Obeys.bind (Obeys.tryCatch hb fun e => ?_) fun a ha => ?_
  · exact Obeys.bind released fun _ _ => Obeys.throw
  · exact Obeys.bind released fun _ _ => Obeys.pure ha

/-- A job's transition is routine. -/
theorem transition (h : Routine φ) {job : JobRow} {new : JobStatus} {message error : Option String} :
    Obeys ok φ (fun _ => True) (transition job new message error : TaskM L Unit) :=
  obeys_save (h.job _ trivial)

/-- A job's progress is routine. -/
theorem setProgress (h : Routine φ) {job : JobRow} {progress : Int} {message : Option String} :
    Obeys ok φ (fun _ => True) (setProgress job progress message : TaskM L Unit) :=
  obeys_save (h.job _ (show (max 0 (min 100 progress)).toNat ≤ 100 by omega))

/-- A job's log is routine. -/
theorem appendLog (h : Routine φ) {job : JobRow} {line : String} :
    Obeys ok φ (fun _ => True) (appendLog job line : TaskM L Unit) :=
  Obeys.bind h.getRow fun _ _ => obeys_save (h.job _ trivial)

/-- A job step adds routine only. -/
theorem jobRun (h : Routine φ) {job : JobRow} {step : String} {body : TaskM L α}
    (hb : Obeys ok φ Q body) : Obeys ok φ Q (jobRun job step body) := by
  refine Obeys.bind (obeys_onlyIf h.transition) fun _ _ => ?_
  refine Obeys.bind (Q := fun _ => True) (Obeys.bind h.query fun _ _ => Obeys.pure trivial)
    fun canceling _ => ?_
  refine Obeys.bind (obeys_onlyIf Obeys.throw) fun _ _ => ?_
  refine Obeys.bind (obeys_onlyIf (Obeys.bind h.setProgress fun _ _ => h.appendLog)) fun _ _ => ?_
  refine Obeys.tryCatch hb fun exc => Obeys.bind (Q := fun _ => True) ?_ fun _ _ => Obeys.throw
  cases exc <;> exact h.transition

/-- The end of a task's `except` branch. -/
theorem failAndRaise (h : Routine φ) {job : JobRow} {exc : Exn} :
    Obeys ok φ Q (do failUnlessTerminal job exc; throw exc : TaskM L α) :=
  Obeys.bind (Q := fun _ => True)
    (Obeys.bind h.getRow fun _ _ => obeys_onlyIf h.transition) fun _ _ => Obeys.throw

/-- `on_failure` is routine. -/
theorem onFailure (h : Routine φ) {job : Nat} {exc : Exn} :
    Obeys ok φ (fun _ => True) (onFailure job exc : TaskM L Unit) := by
  refine Obeys.bind h.query fun t _ => ?_
  split
  · exact obeys_onlyIf h.transition
  · exact Obeys.pure trivial

/-- What Celery runs around a task is routine. -/
theorem jobBound (h : Routine φ) {taskId : String} {job : Nat} {body : TaskM L Unit}
    (hb : Obeys ok φ (fun _ => True) body) :
    Obeys ok φ (fun _ => True) (jobBound taskId job body) :=
  Obeys.tryCatch (Obeys.bind (obeys_save (h.job _ trivial)) fun _ _ => hb) fun _ =>
    Obeys.bind h.onFailure fun _ _ => Obeys.throw

/-! ## Tasks -/

/-- A lifecycle task sends its one operation. -/
theorem simpleLifecycleTask (h : Routine φ) {jobId vm : Nat} {operation : OperationType}
    {status : VMStatus} {step event : String}
    (sends : ∀ t row, ok .read t → Table.get t.vms vm = some row →
      φ (.send row.node (vmRequest row operation) none))
    (gives : ∀ pk, φ (.write (.vmSave pk { status := some status })))
    (notes : ∀ pk error, φ (.write (.vmSave pk { lastError := some error }))) :
    Obeys ok φ (fun _ => True)
      (simpleLifecycleTask jobId vm operation status step event : TaskM L Unit) := by
  refine Obeys.bind h.getRow fun job _ => Obeys.bind h.getRow fun row loaded => Obeys.tryCatch ?_ ?_
  · obtain ⟨t, ht, found⟩ := loaded
    refine Obeys.bind (h.withLock (h.jobRun (Obeys.bind (obeys_send (sends t row ht found))
      fun _ _ => obeys_save (gives _)))) fun _ _ => ?_
    exact Obeys.bind h.transition fun _ _ => obeys_swallow h.emitEvent
  · exact fun exc => Obeys.bind (obeys_save (notes _ _)) fun _ _ => h.failAndRaise

/-- `stop_vm` sends STOP_VM or SHUTDOWN_VM. -/
theorem stopVmTask (h : Routine φ) {jobId vm : Nat}
    (sends : ∀ node r timeout, r.operation = .stopVm ∨ r.operation = .shutdownVm →
      φ (.send node r timeout))
    (gives : ∀ pk, φ (.write (.vmSave pk { status := some .stopped })))
    (notes : ∀ pk error, φ (.write (.vmSave pk { lastError := some error }))) :
    Obeys ok φ (fun _ => True) (stopVmTask jobId vm : TaskM L Unit) :=
  Obeys.bind h.getRow fun _ _ => Obeys.ite
    (fun _ => h.simpleLifecycleTask (fun _ _ _ _ => sends _ _ _ (.inl rfl)) gives notes)
    fun _ => h.simpleLifecycleTask (fun _ _ _ _ => sends _ _ _ (.inr rfl)) gives notes

/-- `reboot_vm` sends RESET_VM or REBOOT_VM. -/
theorem rebootVmTask (h : Routine φ) {jobId vm : Nat}
    (sends : ∀ node r timeout, r.operation = .resetVm ∨ r.operation = .rebootVm →
      φ (.send node r timeout))
    (gives : ∀ pk, φ (.write (.vmSave pk { status := some .running })))
    (notes : ∀ pk error, φ (.write (.vmSave pk { lastError := some error }))) :
    Obeys ok φ (fun _ => True) (rebootVmTask jobId vm : TaskM L Unit) :=
  Obeys.bind h.getRow fun _ _ => Obeys.ite
    (fun _ => h.simpleLifecycleTask (fun _ _ _ _ => sends _ _ _ (.inl rfl)) gives notes)
    fun _ => h.simpleLifecycleTask (fun _ _ _ _ => sends _ _ _ (.inr rfl)) gives notes

/-- `delete_vm_task` deletes the domain, and the volumes of the disks it has read. -/
theorem deleteVmTask (h : Routine φ) {jobId vm : Nat}
    (sends : ∀ row, φ (.send row.node (deleteVmRequest row true) none))
    (removes : ∀ t row d p, ok .read t → (d, p) ∈ t.disksWithStorage vm → d.volumeId ≠ "" →
      φ (.send row.node (deleteDiskRequest row d p) none))
    (gives : ∀ pk, φ (.write (.vmSave pk { status := some .deleting })))
    (notes : ∀ pk error, φ (.write (.vmSave pk { status := some .error, lastError := some error })))
    (deletes : ∀ pk, φ (.write (.vmDelete pk))) :
    Obeys ok φ (fun _ => True) (deleteVmTask jobId vm : TaskM L Unit) := by
  refine Obeys.bind h.getRow fun job _ => Obeys.bind h.getRow fun row loaded => Obeys.tryCatch ?_
    fun exc => Obeys.bind (obeys_save (notes _ _)) fun _ _ => h.failAndRaise
  have key : row.pk = vm := by
    obtain ⟨t, -, found⟩ := loaded
    exact Table.pk_of_get found
  have volumes : Obeys ok φ
      (fun ds => ∃ t, ok .read t ∧ ∀ d ∈ ds, d ∈ t.disksWithStorage vm ∧ d.1.volumeId ≠ "")
      (volumesOf row : TaskM L (List (DiskRow × PoolRow))) := by
    refine Obeys.bind h.query fun t ht => Obeys.pure ⟨t, ht, fun d hd => ?_⟩
    simpa [key] using hd
  refine Obeys.bind (Q := fun _ => True) (h.withLock (h.withLock (h.jobRun ?_))) fun _ _ =>
    Obeys.bind (obeys_save (deletes _)) fun _ _ => Obeys.bind h.transition fun _ _ =>
      obeys_swallow h.emitEvent
  refine Obeys.bind (obeys_save (gives _)) fun _ _ => Obeys.bind (obeys_send (sends _)) fun _ _ =>
    Obeys.bind volumes fun ds hds => Obeys.forM trivial fun d hd => ?_
  obtain ⟨t, ht, all⟩ := hds
  exact Obeys.bind (obeys_send (removes t row d.1 d.2 ht (all d hd).1 (all d hd).2)) fun _ _ =>
    Obeys.pure trivial

/-- What follows once the clone's row is there. -/
theorem cloneOnto (h : Routine φ) {job : JobRow} {source clone : VmRow} {linked : Bool}
    (clones : ∀ t d p, ok .read t → (d, p) ∈ t.disksWithStorage source.pk →
      φ (.send source.node (cloneDiskRequest source clone d p linked) none))
    (builds : ∀ node r, r.operation = .createVm → φ (.send node r none))
    (disks : ∀ row, row.vm = clone.pk → φ (.write (.diskCreate row)))
    (nics : ∀ row, φ (.write (.nicCreate row)))
    (saves : ∀ fields, fields.status = none ∨ fields.status = some .stopped →
      φ (.write (.vmSave clone.pk fields))) :
    Obeys ok φ (fun _ => True) (do
      NodePilot.jobRun job "Cloning disks" do
        ((← NodePilot.query).disksWithStorage source.pk).forM fun d => cloneDisk source clone d.1 d.2 linked
        save (.vmSave clone.pk { provisioningState := some .diskCreated })
      NodePilot.jobRun job "Assigning new network identity" do
        ((← NodePilot.query).nicsWithNetwork source.pk).forM fun n => cloneNic clone n.1
        save (.vmSave clone.pk { provisioningState := some .networkCreated })
      NodePilot.jobRun job "Creating cloned domain" do
        let request ← buildDomainRequest clone
        let _ ← sendOperation clone.node request
        save (.vmSave clone.pk { provisioningState := some .ready, status := some .stopped })
      return clone : TaskM L VmRow) := by
  have cloned (t : Tables) (ht : ok .read t) (d : DiskRow × PoolRow) (hd : d ∈ t.disksWithStorage source.pk) :
      Obeys ok φ (fun _ => True) (cloneDisk source clone d.1 d.2 linked : TaskM L Unit) :=
    Obeys.bind (obeys_send (clones t d.1 d.2 ht hd)) fun _ _ => obeys_save (disks _ rfl)
  have identified (n : NicRow × NetworkRow) :
      Obeys ok φ (fun _ => True) (cloneNic clone n.1 : TaskM L Unit) :=
    Obeys.bind (Obeys.perform (Q := fun _ => True) h.mac fun _ _ => trivial) fun _ _ =>
      obeys_save (nics _)
  have built : Obeys ok φ (fun r => r.operation = .createVm)
      (buildDomainRequest clone : TaskM L AgentRequest) :=
    Obeys.bind h.query fun _ _ => Obeys.bind h.query fun _ _ => Obeys.pure rfl
  refine Obeys.bind (h.jobRun (Obeys.bind h.query fun t ht => Obeys.bind
    (Obeys.forM (R := fun _ => True) trivial fun d hd => cloned t ht d hd) fun _ _ =>
      obeys_save (saves _ (.inl rfl)))) fun _ _ => ?_
  refine Obeys.bind (h.jobRun (Obeys.bind h.query fun t _ => Obeys.bind
    (Obeys.forM (R := fun _ => True) trivial fun n _ => identified n) fun _ _ =>
      obeys_save (saves _ (.inl rfl)))) fun _ _ => ?_
  exact Obeys.bind (h.jobRun (Obeys.bind built fun r hr => Obeys.bind
    (obeys_send (builds _ r hr)) fun _ _ => obeys_save (saves _ (.inr rfl))))
    fun _ _ => Obeys.pure trivial

/-- A clone touches no VM but the one it has created; `C` is what its answer says of that one. -/
theorem cloneVmTask (h : Routine φ) {jobId vm : Nat} {newName : String} {linked : Bool}
    {C : VmRow → Prop} (creates : ∀ t row, ok .read t → (Table.get t.vms vm).isSome →
      φ (.createVm row))
    (created : ∀ row row', ok (.createVm row) (.ok row') → C row')
    (clones : ∀ t source clone d p, ok .read t → C clone → (d, p) ∈ t.disksWithStorage vm →
      φ (.send source.node (cloneDiskRequest source clone d p linked) none))
    (builds : ∀ node r, r.operation = .createVm → φ (.send node r none))
    (disks : ∀ clone row, C clone → row.vm = clone.pk → φ (.write (.diskCreate row)))
    (nics : ∀ row, φ (.write (.nicCreate row)))
    (saves : ∀ clone fields, C clone → fields.status = none ∨ fields.status = some .stopped →
      φ (.write (.vmSave clone.pk fields))) :
    Obeys ok φ (fun _ => True) (cloneVmTask jobId vm newName linked : TaskM L Unit) := by
  refine Obeys.bind h.getRow fun job _ => Obeys.bind h.getRow fun source loaded => ?_
  obtain ⟨t₀, ht₀, found⟩ := loaded
  have key : source.pk = vm := Table.pk_of_get found
  refine Obeys.tryCatch (Obeys.bind (Q := fun _ => True) (h.withLock (h.withLock ?_)) fun _ _ =>
    Obeys.bind h.transition fun _ _ => obeys_swallow h.emitEvent) fun exc => h.failAndRaise
  refine Obeys.bind (Q := C) (h.jobRun ?_) fun clone hclone => ?_
  · refine Obeys.bind (Q := C) ?_ fun clone hclone =>
      Obeys.bind (obeys_save (h.job _ trivial)) fun _ _ => Obeys.pure hclone
    refine Obeys.bind (Obeys.perform (Q := fun r => ∀ row, r = .ok row → C row)
      (creates t₀ _ ht₀ (by rw [found]; rfl)) ?_) fun _ hr => obeys_orRaise hr
    intro r hr row same
    subst same
    exact created _ row hr
  · exact h.cloneOnto (fun t d p ht hd => clones t source clone d p ht hclone (key ▸ hd)) builds
      (fun row => disks clone row hclone) nics fun fields => saves clone fields hclone

/-- A disk or NIC task does what its operation does. -/
theorem diskOrNicTask (h : Routine φ) {jobId : Nat} {vm : VmRow} {step : String}
    {runOp : TaskM L Unit} (hrun : Obeys ok φ (fun _ => True) runOp) :
    Obeys ok φ (fun _ => True) (diskOrNicTask jobId vm step runOp) :=
  Obeys.bind h.getRow fun _ _ => Obeys.tryCatch
    (Obeys.bind (h.withLock (h.jobRun hrun)) fun _ _ => h.transition) fun _ => h.failAndRaise

/-- `detach_disk_task` detaches the disk, deletes its volume and its row. -/
theorem detachDiskTask (h : Routine φ) {jobId disk : Nat}
    (detaches : ∀ vm d p, φ (.send vm.node (detachDiskRequest vm d p) none))
    (removes : ∀ t vm d p, ok .read t → t.loadDisk disk = some (d, vm, p) → d.volumeId ≠ "" →
      φ (.send vm.node (deleteDiskRequest vm d p) none))
    (deletes : φ (.write (.diskDelete disk))) :
    Obeys ok φ (fun _ => True) (detachDiskTask jobId disk : TaskM L Unit) := by
  refine Obeys.bind h.getRow fun ⟨d, vm, p⟩ loaded => h.diskOrNicTask ?_
  obtain ⟨t, ht, found⟩ := loaded
  refine Obeys.bind (obeys_send (detaches vm d p)) fun _ _ =>
    Obeys.bind (Q := fun _ => True) (Obeys.ite (fun named => ?_) fun _ => Obeys.pure trivial)
      fun _ _ => obeys_save ((loadDisk_some found).2.1 ▸ deletes)
  exact Obeys.bind (obeys_send (removes t vm d p ht found named)) fun _ _ => Obeys.pure trivial

/-- `resize_disk_task` resizes the disk it has read. -/
theorem resizeDiskTask (h : Routine φ) {jobId disk newSizeBytes : Nat}
    (resizes : ∀ t vm d p, ok .read t → t.loadDisk disk = some (d, vm, p) →
      φ (.send vm.node (resizeDiskRequest vm d p newSizeBytes) none))
    (sizes : φ (.write (.diskSize disk newSizeBytes))) :
    Obeys ok φ (fun _ => True) (resizeDiskTask jobId disk newSizeBytes : TaskM L Unit) := by
  refine Obeys.bind h.getRow fun ⟨d, vm, p⟩ loaded => h.diskOrNicTask ?_
  obtain ⟨t, ht, found⟩ := loaded
  exact Obeys.bind (obeys_send (resizes t vm d p ht found)) fun _ _ =>
    obeys_save ((loadDisk_some found).2.1 ▸ sizes)

/-- `attach_disk_task` makes a volume, saves it and attaches it. -/
theorem attachDiskTask (h : Routine φ) {jobId disk : Nat}
    (creates : ∀ vm d p, φ (.send vm.node (createBlankDiskRequest vm d p) none))
    (saves : ∀ volumeId device format, φ (.write (.diskSave disk volumeId device format)))
    (attaches : ∀ vm d p, φ (.send vm.node (attachDiskRequest vm d p) none)) :
    Obeys ok φ (fun _ => True) (attachDiskTask jobId disk : TaskM L Unit) := by
  refine Obeys.bind h.getRow fun ⟨d, vm, p⟩ loaded => h.diskOrNicTask ?_
  obtain ⟨t, -, found⟩ := loaded
  have key : d.pk = disk := (loadDisk_some found).2.1
  refine Obeys.bind (obeys_send (creates vm d p)) fun data _ => Obeys.bind (obeys_save ?_) fun _ _ =>
    Obeys.bind (obeys_send (attaches vm _ p)) fun _ _ => Obeys.pure trivial
  exact key ▸ saves _ _ _

/-- `attach_nic_task` attaches the NIC it has read. -/
theorem attachNicTask (h : Routine φ) {jobId nic : Nat}
    (attaches : ∀ vm n net, φ (.send vm.node (attachNicRequest vm n net) none)) :
    Obeys ok φ (fun _ => True) (attachNicTask jobId nic : TaskM L Unit) := by
  refine Obeys.bind h.getRow fun ⟨n, vm, net⟩ _ => h.diskOrNicTask ?_
  exact Obeys.bind (obeys_send (attaches vm n net)) fun _ _ => Obeys.pure trivial

/-- The disk that a backup task works on. -/
theorem requirePrimaryDisk (h : Routine φ) {vm : VmRow} {missing : String} :
    Obeys ok φ (fun d => ∃ t, ok .read t ∧ t.primaryDisk vm.pk = some d)
      (requirePrimaryDisk vm missing : TaskM L DiskRow) := by
  refine Obeys.bind h.query fun t ht => ?_
  split
  · next d hd => exact Obeys.pure ⟨t, ht, hd⟩
  · exact Obeys.throw

/-- `create_backup_task` copies the first disk it has read. -/
theorem createBackupTask (h : Routine φ) {jobId backup : Nat} (now : φ .now)
    (sends : ∀ t b vm target t' d, ok .read t → t.loadBackup backup = some (b, vm, target) →
      ok .read t' → t'.primaryDisk vm.pk = some d →
      φ (.send vm.node (createBackupRequest vm b target d) (some 3600)))
    (saves : ∀ fields, φ (.write (.backupSave backup fields))) :
    Obeys ok φ (fun _ => True) (createBackupTask jobId backup : TaskM L Unit) := by
  have clock : Obeys ok φ (fun _ => True) (NodePilot.now : TaskM L Nat) :=
    Obeys.perform now fun _ _ => trivial
  refine Obeys.bind h.getRow fun job _ => Obeys.bind h.getRow fun ⟨b, vm, target⟩ found => ?_
  obtain ⟨t, ht, loaded⟩ := found
  have key : b.pk = backup := Table.pk_of_get (loadBackup_some loaded).1
  have saved (fields : BackupFields) : φ (.write (.backupSave b.pk fields)) := key ▸ saves fields
  refine Obeys.tryCatch ?_ ?_
  · refine Obeys.bind (Q := fun _ => True) (h.withLock (h.jobRun ?_)) fun _ _ =>
      Obeys.bind h.transition fun _ _ => h.emitEvent
    refine Obeys.bind clock fun _ _ => Obeys.bind (obeys_save (saved _)) fun _ _ =>
      Obeys.bind h.requirePrimaryDisk fun d hd => ?_
    obtain ⟨t', ht', primary⟩ := hd
    exact Obeys.bind (obeys_send (sends t b vm target t' d ht loaded ht' primary)) fun _ _ =>
      Obeys.bind clock fun _ _ => obeys_save (saved _)
  · refine fun exc => Obeys.bind clock fun _ _ => Obeys.bind (obeys_save (saved _)) fun _ _ => ?_
    exact Obeys.bind (Q := fun _ => True) (Obeys.bind h.getRow fun _ _ => obeys_onlyIf h.transition)
      fun _ _ => Obeys.bind h.emitEvent fun _ _ => Obeys.throw

/-- `restore_backup_task` writes to the first disk it has read. -/
theorem restoreBackupTask (h : Routine φ) {jobId backup : Nat}
    (sends : ∀ t b vm target t' d, ok .read t → t.loadBackup backup = some (b, vm, target) →
      ok .read t' → t'.primaryDisk vm.pk = some d →
      φ (.send vm.node (restoreBackupRequest vm b target d) (some 3600)))
    (saves : ∀ fields, φ (.write (.backupSave backup fields))) :
    Obeys ok φ (fun _ => True) (restoreBackupTask jobId backup : TaskM L Unit) := by
  refine Obeys.bind h.getRow fun job _ => Obeys.bind h.getRow fun ⟨b, vm, target⟩ found => ?_
  obtain ⟨t, ht, loaded⟩ := found
  have key : b.pk = backup := Table.pk_of_get (loadBackup_some loaded).1
  have saved (fields : BackupFields) : φ (.write (.backupSave b.pk fields)) := key ▸ saves fields
  refine Obeys.tryCatch ?_ ?_
  · refine Obeys.bind (Q := fun _ => True) (h.withLock (h.jobRun ?_)) fun _ _ => h.transition
    refine Obeys.bind (obeys_save (saved _)) fun _ _ =>
      Obeys.bind h.requirePrimaryDisk fun d hd => ?_
    obtain ⟨t', ht', primary⟩ := hd
    exact Obeys.bind (obeys_send (sends t b vm target t' d ht loaded ht' primary)) fun _ _ =>
      obeys_save (saved _)
  · exact fun exc => Obeys.bind (obeys_save (saved _)) fun _ _ => h.failAndRaise

theorem emitNetworkEvent (h : Routine φ) {network : NetworkRow} {type severity : String}
    {metadata : Dict} : Obeys ok φ (fun _ => True)
      (emitNetworkEvent network type severity metadata : TaskM L Unit) := obeys_swallow h.emitEvent

/-- `create_network_task` asks for the network and saves what it became. -/
theorem createNetworkTask (h : Routine φ) {jobId network : Nat}
    (sends : ∀ net, φ (.send (some net.node) (networkRequest .createNetwork net) none))
    (saves : ∀ pk status, φ (.write (.networkStatus pk status))) :
    Obeys ok φ (fun _ => True) (createNetworkTask jobId network : TaskM L Unit) := by
  refine Obeys.bind h.getRow fun job _ => Obeys.bind h.getRow fun net _ => Obeys.tryCatch ?_ ?_
  · refine Obeys.bind (Q := fun _ => True) (h.jobRun ?_) fun _ _ =>
      Obeys.bind h.transition fun _ _ => h.emitNetworkEvent
    exact Obeys.bind (obeys_send (sends net)) fun _ _ => obeys_save (saves _ _)
  · intro exc
    refine Obeys.bind (obeys_save (saves _ _)) fun _ _ => ?_
    exact Obeys.bind (Q := fun _ => True) (Obeys.bind h.getRow fun _ _ => obeys_onlyIf h.transition)
      fun _ _ => Obeys.bind h.emitNetworkEvent fun _ _ => Obeys.throw

/-- `delete_network_task` asks for the removal and deletes the row. -/
theorem deleteNetworkTask (h : Routine φ) {jobId network : Nat}
    (sends : ∀ net, φ (.send (some net.node) (networkRequest .deleteNetwork net) none))
    (saves : ∀ pk status, φ (.write (.networkStatus pk status)))
    (deletes : ∀ pk, φ (.write (.networkDelete pk))) :
    Obeys ok φ (fun _ => True) (deleteNetworkTask jobId network : TaskM L Unit) := by
  refine Obeys.bind h.getRow fun job _ => Obeys.bind h.getRow fun net _ => Obeys.tryCatch ?_ ?_
  · refine Obeys.bind (Q := fun _ => True) (h.jobRun ?_) fun _ _ =>
      Obeys.bind (obeys_save (deletes _)) fun _ _ =>
        Obeys.bind h.transition fun _ _ => h.emitNetworkEvent
    exact Obeys.bind (obeys_send (sends net)) fun _ _ => Obeys.pure trivial
  · exact fun exc => Obeys.bind (obeys_save (saves _ _)) fun _ _ => h.failAndRaise

end Routine

end Statements

/-! ## Executions -/

/-- The task sends no request but those of `A`, and writes no rows but its job's and those of `W`. -/
def Op.within (A : AgentRequest → Prop) (W : Write → Prop) (N : Prop) : Op → Prop
  | .send _ r _ => A r
  | .write x => x.onJobs ∨ W x
  | .createVm _ => N
  | _ => True

/-- Whatever is read satisfies `K` when the jobs are left out, and a new VM satisfies `C`. -/
def answersIn (K : Tables → Prop) (C : VmRow → Prop) : (o : Op) → Ans o → Prop
  | .read, t => K t.settled
  | .createVm _, .ok row => C row
  | _, _ => True

/-- A routine write is one to a job. -/
theorem Write.routine.onJobs {x : Write} (h : x.routine) : x.onJobs := by
  cases x <;> first | rfl | cases h

section Within

variable {A : AgentRequest → Prop} {W : Write → Prop} {N : Prop} {K : Tables → Prop}
variable {C : VmRow → Prop} {script : Nat → Choice}

/-- Routine is within any footprint. -/
theorem routine_within : Routine (Op.within A W N) where
  read := trivial
  acquire _ _ := trivial
  release _ := trivial
  emit _ := trivial
  mac := trivial
  job _ hx := .inl hx.onJobs

/-- Along an execution: the tables satisfy `K`, and every request that was made satisfies `A`. -/
structure Within (K : Tables → Prop) (A : AgentRequest → Prop) (script : Nat → Choice) (w : World) :
    Prop where
  tables : K w.db.settled
  requests : ∀ r timeout o, Entry.call r timeout o ∈ w.trace → A r
  script : w.script = script

/-- Every call that was made is within the footprint. -/
theorem Within.exchanges {w : World} (h : Within K A script w) : ∀ c ∈ w.exchanges, A c.1 := by
  intro c hc
  rw [World.exchanges, List.mem_reverse, List.mem_filterMap] at hc
  obtain ⟨e, he, same⟩ := hc
  split at same
  · cases same
    exact h.requests _ _ _ he
  · cases same

/-- What an operation adds to the requests. -/
theorem World.handle_call {o : Op} {w : World} {r : AgentRequest} {timeout : Option Nat}
    {out : AgentOutcome} (h : Entry.call r timeout out ∈ (World.handle o w).2.trace) :
    (∃ node, o = .send node r timeout) ∨ Entry.call r timeout out ∈ w.trace := by
  rcases World.handle_trace o w with same | ⟨e, recorded, added⟩
  · rw [same] at h
    exact .inr h
  · rw [added] at h
    rcases List.mem_cons.mp h with rfl | old
    · exact .inl recorded
    · exact .inr old

variable (writes : ∀ x now uuid t t', W x → K t → t.write now uuid x = .ok t' → K t')
variable (creates : ∀ i row row' t t', N → K t →
  t.createVm (script i).uuid (script i).domainUuid row = .ok (row', t') → C row' ∧ K t')

include writes creates in
/-- An operation within the footprint keeps the execution within it. -/
theorem within_handle {o : Op} {w : World} (ho : o.within A W N) (h : Within K A script w) :
    answersIn K C o (World.handle o w).1 ∧ Within K A script (World.handle o w).2 := by
  have turn : K w.next.db.settled := by
    rw [show w.next.db.settled = w.db.settled from settled_requestCancel]
    exact h.tables
  have made (row row' : VmRow) (t' : Tables) (hN : N) (ht' : w.next.db.createVm
      (w.script w.pos).uuid (w.script w.pos).domainUuid row = .ok (row', t')) :
      C row' ∧ K t'.settled :=
    creates w.pos row row' _ _ hN turn (h.script ▸ settled_createVm ht')
  refine ⟨?_, ?_, fun r timeout out hr => ?_, (World.handle_script o w).trans h.script⟩
  · cases o with
    | read => exact turn
    | createVm row =>
      simp only [World.handle, World.answer]
      split
      · next row' db created =>
        split at created
        · cases created
        · exact (made row row' db ho created).1
      · trivial
    | write | send | acquire | release | emit | now | mac => exact trivial
  · rcases World.handle_db o w with same | ⟨x, rfl, hx⟩ | ⟨row, row', rfl, created⟩
    · rw [same]
      exact turn
    · cases hj : x.onJobs with
      | true =>
        rw [settled_writeJobs hj hx]
        exact turn
      | false =>
        have admitted : W x := ho.resolve_left (by rw [hj]; exact Bool.false_ne_true)
        exact writes x _ _ _ _ admitted turn (settled_write hj hx)
    · exact (made row row' _ ho created).2
  · rcases World.handle_call hr with ⟨node, rfl⟩ | old
    · exact ho
    · exact h.requests r timeout out old

include writes creates in
/-- A task that keeps to its footprint does so in every execution, however that ends. -/
theorem execute_within (taskId : String) {task : Task} {jobId : Nat} {w : World}
    (keeps : Obeys (answersIn K C) (Op.within A W N) (fun _ => True) (task.body jobId))
    (start : Within K A script w) : Within K A script (task.execute taskId jobId w) :=
  (routine_within.jobBound keeps).exec
    (fun _ _ ho h => within_handle writes creates ho h) start

end Within

/-! ### Backups -/

/-- The disks and the pools are those of `t₀`, and every backup is of the same VM. -/
structure Unmoved (t₀ t : Tables) : Prop where
  disks : t.disks = t₀.disks
  pools : t.pools = t₀.pools
  backups : ∀ k, (Table.get t.backups k).map BackupRow.vm = (Table.get t₀.backups k).map BackupRow.vm

section Backups

variable {t₀ t t' : Tables} {now : Nat} {uuid : Uuid} {x : Write}

/-- Saving a backup moves no disk. -/
theorem unmoved_write (hx : ∃ pk fields, x = .backupSave pk fields) (h : Unmoved t₀ t)
    (hw : t.write now uuid x = .ok t') : Unmoved t₀ t' := by
  obtain ⟨pk, fields, rfl⟩ := hx
  obtain ⟨rows, hrows, rfl⟩ := except_bind_ok hw
  refine ⟨h.disks, h.pools, fun k => ?_⟩
  rw [← h.backups k, saveRow_ok hrows]
  show (Table.get (Table.modify t.backups pk fields.apply) k).map BackupRow.vm = _
  rw [Table.get_modify (f := fields.apply) fun _ => rfl]
  split
  · rw [Option.map_map]
    rfl
  · rfl

/-- Where no disk moved, the first disk of a VM is the same. -/
theorem Unmoved.primaryDisk (h : Unmoved t₀ t) (vm : Nat) :
    t.primaryDisk vm = t₀.primaryDisk vm := by
  simp only [Tables.primaryDisk, Tables.disksWithStorage, Tables.disksOf, h.disks, h.pools]

/-- The disk that a task works on for a backup is the one that it finds at first. -/
theorem Unmoved.primary {t₁ t₂ : Tables} {backup : Nat} {b : BackupRow} {vm : VmRow}
    {target : TargetRow} {d : DiskRow} (first : Unmoved t₀ t₁.settled) (second : Unmoved t₀ t₂.settled)
    (loaded : t₁.loadBackup backup = some (b, vm, target)) (primary : t₂.primaryDisk vm.pk = some d) :
    ∃ b₀, Table.get t₀.backups backup = some b₀ ∧ vm.pk = b₀.vm ∧ t₀.primaryDisk b₀.vm = some d := by
  obtain ⟨found, -, owner⟩ := loadBackup_some loaded
  have same := first.backups backup
  rw [show Table.get t₁.settled.backups backup = some b from found] at same
  obtain ⟨b₀, found₀, owner₀⟩ := Option.map_eq_some_iff.mp same.symm
  refine ⟨b₀, found₀, owner.trans owner₀.symm, ?_⟩
  rw [owner₀, ← owner, ← second.primaryDisk]
  exact primary

end Backups

/-! ## Statements of a request -/

/-- The footprint admits what every request and every task does around its work. -/
structure ServiceRoutine (φ : ServiceOp → Prop) : Prop where
  task : Routine fun o => φ (.task o)
  createJob : ∀ row, φ (.createJob row)
  checkAndReserve : ∀ vm, φ (.checkAndReserve vm)

section Requests

variable {ok : (o : ServiceOp) → ServiceAns o → Prop} {φ : ServiceOp → Prop}

/-- A call that may raise does what it calls. -/
theorem obeys_call {α : Type} {x : ServiceM (Except Exn α)}
    (hx : Obeys ok φ (fun _ => True) x) : Obeys ok φ (fun _ => True) (call x) := by
  refine Obeys.bind hx fun r _ => ?_
  cases r with
  | ok a => exact Obeys.pure trivial
  | error e => exact Obeys.throw

/-- A task keeps its footprint among the operations of requests. -/
theorem obeys_ofTask {α : Type} {Q : α → Prop} {x : TaskM Unit α}
    (hx : Obeys (fun o a => ok (.task o) a) (fun o => φ (.task o)) Q x) :
    Obeys ok φ Q (ofTask x) := by
  refine Obeys.translate fun l => (hx l).weaken ?_
  rintro o a ⟨a', rfl, h⟩
  exact h

namespace ServiceRoutine

variable {vm : VmRow} {requestedBy : Option Nat}

/-- Making a job is routine for a request. -/
theorem newJob (h : ServiceRoutine φ) {type : JobType} {resourceId : String} :
    Obeys ok φ (fun _ => True) (NodePilot.createJob type resourceId requestedBy) :=
  obeys_call (Obeys.perform (h.createJob _) fun _ _ => trivial)

/-- A look at a lock. -/
theorem precheck (h : ServiceRoutine φ) {key : LockKey} {ttl : Nat} {busy : Exn} :
    Obeys ok φ (fun _ => True) (do
      let acquired : Bool ← Script.perform (ServiceOp.task (.acquire key ttl))
      if acquired then Script.perform (ServiceOp.task (.release key)) else throw busy : ServiceM Unit) :=
  Obeys.bind (Obeys.perform (Q := fun _ => True) (h.task.acquire key ttl) fun _ _ => trivial)
    fun _ _ => Obeys.ite (fun _ => Obeys.perform (h.task.release key) fun _ _ => trivial)
      fun _ => Obeys.throw

/-- So is starting a lifecycle job. -/
theorem startLifecycleJob (h : ServiceRoutine φ) {type : JobType} :
    Obeys ok φ (fun _ => True) (startLifecycleJob vm type requestedBy) :=
  Obeys.ite (fun _ => Obeys.throw) fun _ => Obeys.bind h.precheck fun _ _ => h.newJob

/-- So is a clone. -/
theorem cloneVm (h : ServiceRoutine φ) : Obeys ok φ (fun _ => True) (cloneVm vm requestedBy) :=
  Obeys.ite (fun _ => Obeys.throw) fun _ =>
    Obeys.bind (obeys_call (Obeys.perform (h.checkAndReserve vm) fun _ _ => trivial)) fun _ _ =>
      h.newJob

/-- So is every lifecycle request. -/
theorem service (h : ServiceRoutine φ) {r : LifecycleRequest} :
    Obeys ok φ (fun _ => True) (r.service vm requestedBy) := by
  cases r with
  | clone newName linked => exact h.cloneVm
  | start | stop | reboot | pause | resume | delete => exact h.startLifecycleJob

end ServiceRoutine

end Requests

end NodePilot
