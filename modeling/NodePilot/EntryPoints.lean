import NodePilot.Creation
import NodePilot.Devices
import NodePilot.Quotas
import NodePilot.Restores
import NodePilot.Uploads

/-!
# What the services refuse

The entry points of the services with their checks. A check refuses by a `raise` of `NodePilotAPIException` or one of
its subclasses, which is written here as the call of its constructor, with the keywords that it is given: what is
raised is what that call makes of them (`apps/common/exceptions.py`). Every other exception comes from what the
entry point uses: the database, the broker, the files.

The rows of a transaction are set aside until it is committed. What quotas and scheduler answer is left open.
-/

namespace NodePilot.EntryPoints

open Lib

/-! ## Exceptions -/

/-- `NodePilotAPIException` and the subclasses that the entry points raise. -/
inductive ErrorClass
  | nodePilotAPIException
  | resourceLocked
  | quotaExceeded
  | invalidStateTransition
  | storageCapabilityUnsupported
  | noSchedulableNode
  | uploadOutOfOrder
  | uploadSizeMismatch
  | checksumMismatch
deriving DecidableEq

namespace ErrorClass

/-- `code_name` -/
def codeName : ErrorClass → String
  | nodePilotAPIException => "ERROR"
  | resourceLocked => "RESOURCE_LOCKED"
  | quotaExceeded => "QUOTA_EXCEEDED"
  | invalidStateTransition => "INVALID_STATE_TRANSITION"
  | storageCapabilityUnsupported => "STORAGE_CAPABILITY_UNSUPPORTED"
  | noSchedulableNode => "NO_SCHEDULABLE_NODE"
  | uploadOutOfOrder => "UPLOAD_CHUNK_OUT_OF_ORDER"
  | uploadSizeMismatch => "UPLOAD_SIZE_MISMATCH"
  | checksumMismatch => "CHECKSUM_MISMATCH"

/-- `status_code` -/
def statusCode : ErrorClass → Nat
  | nodePilotAPIException | uploadSizeMismatch | checksumMismatch => 400
  | quotaExceeded => 402
  | resourceLocked | invalidStateTransition | storageCapabilityUnsupported | noSchedulableNode
  | uploadOutOfOrder => 409

/-- `default_detail` -/
def defaultDetail : ErrorClass → String
  | nodePilotAPIException => "A server error occurred."
  | resourceLocked => "The resource is currently locked by another operation."
  | quotaExceeded => "This operation would exceed the organization's resource quota."
  | invalidStateTransition => "The requested operation is not valid for the resource's current state."
  | storageCapabilityUnsupported => "The storage backend does not support this operation."
  | noSchedulableNode => "No online node has enough free capacity for this VM."
  | uploadOutOfOrder =>
    "Chunk index does not match the next expected chunk for this upload session."
  | uploadSizeMismatch => "The uploaded bytes do not match the declared total size."
  | checksumMismatch => "The computed checksum does not match the expected checksum."

end ErrorClass

/-- The call of a constructor, as a `raise` writes it. -/
structure Construction where
  cls : ErrorClass
  message : Option String := none
  details : Dict := []
  codeName : Option String := none
  /-- `status_code=...`, which no constructor takes. -/
  statusCode : Option Nat := none

/-- What a `raise` has raised. -/
inductive Raised
  | api (statusCode : Nat) (code message : String) (details : Dict)
  | typeError (message : String)
  | other (e : Exn)
  | file (e : Uploads.Exn)

/-- The code that the `raise` names: its own, or else that of the class. -/
def Construction.code (c : Construction) : String :=
  match c.codeName with
  | some name => if name = "" then c.cls.codeName else name
  | none => c.cls.codeName

/-- `message or self.default_detail` -/
def Construction.detail (c : Construction) : String :=
  match c.message with
  | some message => if message = "" then c.cls.defaultDetail else message
  | none => c.cls.defaultDetail

/-- `NodePilotAPIException.__init__(self, message=None, details=None, code_name=None)` -/
def Construction.raised (c : Construction) : Raised :=
  match c.statusCode with
  | some _ =>
    .typeError "NodePilotAPIException.__init__() got an unexpected keyword argument 'status_code'"
  | none => .api c.cls.statusCode c.code c.detail c.details

/-- Why an entry point ends: one of its checks, or something that it uses. -/
inductive Failure
  | check (c : Construction)
  | other (e : Exn)
  | file (e : Uploads.Exn)

def Failure.raised : Failure → Raised
  | check c => c.raised
  | other e => .other e
  | file e => .file e

/-! ## Operations -/

inductive Op
  | read
  /-- `transaction.atomic` -/
  | enter
  | leave
  | rollback
  | acquire (key : LockKey) (ttlSeconds : Nat)
  | release (key : LockKey)
  /-- The look of `check_and_reserve` at the quota: the first limit that is exceeded. -/
  | reserve (organization project : Nat) (a : Quotas.Additional)
  /-- The node that the scheduler scores best, if one has room. -/
  | selectNode (organization cpuCount memoryMb diskGb : Nat)
  /-- `VirtualMachine.objects.filter(created_by=created_by, idempotency_key=idempotency_key).first()` -/
  | findExisting (createdBy : Nat) (idempotencyKey : String)
  /-- The pools of the VM's disks that do not support snapshots. -/
  | unsupported (vm : Nat)
  | generateMacAddress
  | insertVm (row : VmRow)
  | insertDisk (row : DiskRow)
  | insertNic (row : NicRow)
  | insertSnapshot (row : SnapshotRow)
  | insertBackup (row : BackupRow)
  | insertJob (row : JobRow)
  /-- `task_callable.delay(job.pk, ...)` -/
  | delay (job : Nat) (task : Task)

@[reducible]
def Ans : Op → Type
  | .read => Tables
  | .enter | .rollback | .release _ => Unit
  | .leave | .delay _ _ => Except Exn Unit
  | .acquire _ _ => Bool
  | .reserve _ _ _ => Option Quotas.Exceeded
  | .selectNode _ _ _ _ => Option Nat
  | .findExisting _ _ => Bool
  | .unsupported _ => List String
  | .generateMacAddress => String
  | .insertVm _ => Except Exn VmRow
  | .insertDisk _ => Except Exn DiskRow
  | .insertNic _ => Except Exn NicRow
  | .insertSnapshot _ => Except Exn SnapshotRow
  | .insertBackup _ => Except Exn BackupRow
  | .insertJob _ => Except Exn JobRow

abbrev EntryM (α : Type) : Type := Script Op Ans Failure Unit α

/-- A fallible operation. -/
def statement {α : Type} (x : EntryM (Except Exn α)) : EntryM α := do
  match ← x with
  | .ok a => return a
  | .error e => throw (.other e)

/-- `raise` -/
def refuse {α : Type} (c : Construction) : EntryM α := throw (.check c)

/-- `transaction.atomic` -/
def atomic {α : Type} (body : EntryM α) : EntryM α := do
  Script.perform Op.enter
  let a ← tryCatch body fun e => do
    Script.perform Op.rollback
    throw e
  statement (Script.perform Op.leave)
  return a

def query : EntryM Tables := Script.perform Op.read

/-- The look at a lock: taken without waiting, and released at once. -/
def precheck (key : LockKey) (ttlSeconds : Nat) (message : String) : EntryM Unit := do
  let acquired : Bool ← Script.perform (Op.acquire key ttlSeconds)
  if acquired then Script.perform (Op.release key)
  else refuse { cls := .resourceLocked, message := some message }

/-- `assert_quota_available` raises for the first limit that is exceeded. -/
def checkAndReserve (organization project : Nat) (a : Quotas.Additional) : EntryM Unit := do
  let exceeded : Option Quotas.Exceeded ← Script.perform (Op.reserve organization project a)
  match exceeded with
  | none => return ()
  | some e => refuse {
      cls := .quotaExceeded, message := some e.message
      details := [("field", .str e.field), ("limit", .int e.limit), ("projected", .int e.projected)] }

/-- `create_job` -/
def createJob (type : JobType) (resourceId : String) (createdBy : Option Nat) : EntryM JobRow :=
  statement (Script.perform (Op.insertJob
    { pk := 0, uuid := ⟨0⟩, type := type, resourceId := resourceId, createdBy := createdBy }))

/-- `transaction.on_commit(lambda: task_callable.delay(job.pk, ...))`, once there is nothing left to commit. -/
def delay (job : JobRow) (task : Task) : EntryM Unit := statement (Script.perform (Op.delay job.pk task))

/-! ## VMs -/

/-- `_start_lifecycle_job` -/
def startLifecycleJob (vm : VmRow) (type : JobType) (task : Task) (requestedBy : Option Nat) : EntryM JobRow :=
  if forbidden type vm.status then
    refuse {
      cls := .invalidStateTransition
      message := some ("Cannot " ++ type.value ++ " a VM in status " ++ vm.status.value) }
  else do
    precheck (.lifecycle vm.uuid) 120 ("VM " ++ vm.name ++ " has another lifecycle operation in progress.")
    let job ← createJob type vm.uuid.str requestedBy
    delay job task
    return job

/-- `clone_vm` -/
def cloneVm (vm : VmRow) (newName : String) (linked : Bool) (requestedBy : Option Nat) : EntryM JobRow :=
  if forbidden .vmClone vm.status then
    refuse { cls := .invalidStateTransition, message := some "VM must be stopped before cloning." }
  else do
    let disks := (← query).disks.filter (·.vm = vm.pk)
    let totalDiskGb := (disks.map DiskRow.sizeBytes).sum / 1024 ^ 3
    checkAndReserve vm.organization vm.project
      { vms := 1, vcpu := vm.cpuCount, memoryMb := vm.memoryMb, storageGb := totalDiskGb }
    let job ← createJob .vmClone vm.uuid.str requestedBy
    delay job (.cloneVm vm.pk newName linked)
    return job

/-- The node that was asked for, or else the scheduler's. -/
def placeVm (spec : Creation.NewVm) : EntryM Nat := do
  match spec.node with
  | some node => return node
  | none =>
    let selected : Option Nat ← Script.perform
      (Op.selectNode spec.organization spec.cpuCount spec.memoryMb spec.totalDiskGb)
    match selected with
    | some node => return node
    | none => refuse { cls := .noSchedulableNode }

/-- A disk without a storage pool is not taken by its table. -/
def createDisk (vm : Nat) (spec : Creation.DiskSpec) (index : Nat) : EntryM Unit :=
  match spec.storage with
  | none => throw (.other (.integrityError "vm_disks_storage_id"))
  | some storage => do
    let _ ← statement (Script.perform (Op.insertDisk (spec.row vm storage index)))

/-- `nic_spec.get("mac_address") or generate_mac_address()` -/
def macAddressOf (spec : Creation.NicSpec) : EntryM String :=
  match spec.macAddress.filter (· ≠ "") with
  | some macAddress => return macAddress
  | none => Script.perform Op.generateMacAddress

def createNic (vm : Nat) (spec : Creation.NicSpec) (index : Nat) : EntryM Unit := do
  let macAddress ← macAddressOf spec
  let _ ← statement (Script.perform (Op.insertNic (spec.row vm macAddress index)))

/-- The rows of a new VM. -/
def insertRows (spec : Creation.NewVm) (node : Nat) : EntryM (VmRow × JobRow) := do
  let vm ← statement (Script.perform (Op.insertVm (spec.vmRow node).toVmRow))
  spec.diskSpecs.zipIdx.forM fun d => createDisk vm.pk d.1 d.2
  spec.nics.zipIdx.forM fun n => createNic vm.pk n.1 n.2
  let job ← createJob .vmCreate vm.uuid.str (some spec.createdBy)
  return (vm, job)

/-- The VM that was created under the key before is to be returned with its job, but it has no `jobs`. -/
def returnExisting (spec : Creation.NewVm) : EntryM Unit :=
  if spec.idempotencyKey = "" then return ()
  else do
    let existing : Bool ← Script.perform (Op.findExisting spec.createdBy spec.idempotencyKey)
    if existing then throw (.other .attributeError) else return ()

/-- The transaction of `create_vm`. -/
def insertVm (spec : Creation.NewVm) : EntryM (VmRow × JobRow) :=
  atomic do
    returnExisting spec
    checkAndReserve spec.organization spec.project
      { vms := 1, vcpu := spec.cpuCount, memoryMb := spec.memoryMb, storageGb := spec.totalDiskGb }
    let node ← placeVm spec
    insertRows spec node

/-- `create_vm` -/
def createVm (spec : Creation.NewVm) : EntryM (VmRow × JobRow) := do
  let (vm, job) ← insertVm spec
  delay job (.provisionVm vm.pk)
  return (vm, job)

/-! ## Disks and NICs -/

/-- `_start_storage_job`, up to the task. -/
def startStorageJob (vm : VmRow) (type : JobType) (requestedBy : Option Nat) : EntryM JobRow := do
  precheck (.storage vm.uuid) 300 ("VM " ++ vm.name ++ " has another storage operation in progress.")
  createJob type vm.uuid.str requestedBy

/-- The transaction of `attach_disk`. -/
def insertAttachedDisk (vm : VmRow) (storage sizeGb : Nat) (bus : DiskBus) (requestedBy : Option Nat) :
    EntryM (DiskRow × JobRow) :=
  atomic do
    checkAndReserve vm.organization vm.project { storageGb := sizeGb }
    let named := ((← query).disks.filter (·.vm = vm.pk)).length
    let index := ((← query).disks.filter (·.vm = vm.pk)).length
    let disk ← statement (Script.perform (Op.insertDisk (Devices.diskRow vm storage sizeGb bus named index)))
    let job ← startStorageJob vm .diskAttach requestedBy
    return (disk, job)

/-- `attach_disk` -/
def attachDisk (vm : VmRow) (storage sizeGb : Nat) (bus : DiskBus) (requestedBy : Option Nat) :
    EntryM (DiskRow × JobRow) := do
  let (disk, job) ← insertAttachedDisk vm storage sizeGb bus requestedBy
  delay job (.attachDisk disk.pk)
  return (disk, job)

/-- `detach_disk` -/
def detachDisk (vm : VmRow) (disk : DiskRow) (requestedBy : Option Nat) : EntryM JobRow :=
  if disk.bootable then
    refuse { cls := .invalidStateTransition, message := some "Cannot detach a VM's boot disk." }
  else do
    let job ← startStorageJob vm .diskDetach requestedBy
    delay job (.detachDisk disk.pk)
    return job

/-- `resize_disk` -/
def resizeDisk (vm : VmRow) (disk : DiskRow) (newSizeGb : Int) (requestedBy : Option Nat) : EntryM JobRow :=
  let newSizeBytes : Int := newSizeGb * 1024 ^ 3
  if newSizeBytes ≤ disk.sizeBytes then
    refuse {
      cls := .invalidStateTransition
      message := some "A disk can only be grown, not shrunk, while attached." }
  else do
    checkAndReserve vm.organization vm.project
      { storageGb := ((newSizeBytes - disk.sizeBytes) / 1024 ^ 3).toNat }
    let job ← startStorageJob vm .diskResize requestedBy
    delay job (.resizeDisk disk.pk newSizeBytes.toNat)
    return job

/-- The transaction of `attach_nic`. -/
def insertAttachedNic (vm : VmRow) (network : Nat) (model : NicModel) (vlan rateLimitMbps requestedBy : Option Nat) :
    EntryM (NicRow × JobRow) :=
  atomic do
    let macAddress : String ← Script.perform Op.generateMacAddress
    let index := ((← query).nics.filter (·.vm = vm.pk)).length
    let nic ← statement (Script.perform (Op.insertNic
      (Devices.nicRow vm network model vlan rateLimitMbps macAddress index)))
    let job ← startStorageJob vm .nicAttach requestedBy
    return (nic, job)

/-- `attach_nic` -/
def attachNic (vm : VmRow) (network : Nat) (model : NicModel) (vlan rateLimitMbps requestedBy : Option Nat) :
    EntryM (NicRow × JobRow) := do
  let (nic, job) ← insertAttachedNic vm network model vlan rateLimitMbps requestedBy
  delay job (.attachNic nic.pk)
  return (nic, job)

/-! ## Snapshots and backups -/

/-- The stored value of a `SnapshotStatus`. -/
def snapshotStatusValue : SnapshotStatus → String
  | .creating => "CREATING"
  | .ready => "READY"
  | .deleting => "DELETING"
  | .rollingBack => "ROLLING_BACK"
  | .error => "ERROR"

/-- `_assert_snapshot_capable` -/
def assertSnapshotCapable (vm : VmRow) : EntryM Unit := do
  let unsupported : List String ← Script.perform (Op.unsupported vm.pk)
  if unsupported ≠ [] then
    refuse {
      cls := .storageCapabilityUnsupported
      message := some ("The following disks live on storage that does not support snapshots: " ++
        ", ".intercalate unsupported)
      details := [("disks", .arr (unsupported.map .str))] }
  else return ()

/-- The transaction of `create_snapshot`. -/
def insertSnapshot (vm : VmRow) (name : String) (requestedBy : Option Nat) : EntryM (SnapshotRow × JobRow) :=
  atomic do
    assertSnapshotCapable vm
    checkAndReserve vm.organization vm.project { snapshots := 1 }
    precheck (.storage vm.uuid) 300 ("VM " ++ vm.name ++ " has a storage operation in progress.")
    let snapshot ← statement (Script.perform (Op.insertSnapshot
      { pk := 0, uuid := ⟨0⟩, vm := vm.pk, name := name, status := .creating }))
    let job ← createJob .snapshotCreate snapshot.uuid.str requestedBy
    return (snapshot, job)

/-- `create_snapshot` -/
def createSnapshot (vm : VmRow) (name : String) (requestedBy : Option Nat) : EntryM JobRow := do
  let (snapshot, job) ← insertSnapshot vm name requestedBy
  delay job (.createSnapshot snapshot.pk)
  return job

/-- `delete_snapshot` -/
def deleteSnapshot (snapshot : SnapshotRow) (requestedBy : Option Nat) : EntryM JobRow :=
  if snapshot.status ≠ .ready ∧ snapshot.status ≠ .error then
    refuse {
      cls := .invalidStateTransition
      message := some ("Cannot delete a snapshot in status " ++ snapshotStatusValue snapshot.status) }
  else do
    let job ← createJob .snapshotDelete snapshot.uuid.str requestedBy
    delay job (.deleteSnapshot snapshot.pk)
    return job

/-- `rollback_snapshot` -/
def rollbackSnapshot (snapshot : SnapshotRow) (requestedBy : Option Nat) : EntryM JobRow :=
  if snapshot.status ≠ .ready then
    refuse {
      cls := .invalidStateTransition
      message := some ("Cannot roll back to a snapshot in status " ++ snapshotStatusValue snapshot.status) }
  else do
    let job ← createJob .snapshotRollback snapshot.uuid.str requestedBy
    delay job (.rollbackSnapshot snapshot.pk)
    return job

/-- `create_backup` -/
def createBackup (vm : VmRow) (target : Nat) (type : BackupType) (requestedBy : Option Nat) : EntryM JobRow := do
  precheck (.storage vm.uuid) 300 ("VM " ++ vm.name ++ " has a storage operation in progress.")
  let backup ← statement (Script.perform (Op.insertBackup
    { pk := 0, uuid := ⟨0⟩, vm := vm.pk, target := target, type := type, status := .pending }))
  let job ← createJob .backupCreate backup.uuid.str requestedBy
  delay job (.createBackup backup.pk)
  return job

/-- `restore_backup` -/
def restoreBackup (backup : BackupRow) (vm : VmRow) (requestedBy : Option Nat) : EntryM JobRow :=
  if backup.status ≠ .completed then
    refuse {
      cls := .invalidStateTransition
      message := some ("Cannot restore a backup in status " ++ backup.status.value) }
  else if vm.status ≠ .stopped then
    refuse {
      cls := .nodePilotAPIException
      message := some "The VM must be stopped before restoring a backup onto it."
      codeName := some "VM_NOT_STOPPED", statusCode := some 409 }
  else do
    precheck (.storage vm.uuid) 300 ("VM " ++ vm.name ++ " has a storage operation in progress.")
    let job ← createJob .backupRestore backup.uuid.str requestedBy
    delay job (.restoreBackup backup.pk)
    return job

/-! ## Uploads -/

/-- Why `write_chunk` or `finalize_upload` ends. -/
def uploadFailure : Uploads.Exn → Failure
  | .outOfOrder expected got => .check
      { cls := .uploadOutOfOrder
        message := some ("Expected chunk " ++ toString expected ++ ", got " ++ toString got ++ ".") }
  | .uploadEmpty => .check
      { cls := .nodePilotAPIException, message := some "No chunks were uploaded for this session."
        codeName := some "UPLOAD_EMPTY", statusCode := some 400 }
  | .sizeMismatch expected actual => .check
      { cls := .uploadSizeMismatch, details := [("expected", .int expected), ("actual", .int actual)] }
  | .checksumMismatch expected actual => .check
      { cls := .checksumMismatch, details := [("expected", .str expected), ("actual", .str actual)] }
  | e => .file e

/-! ## The database and the broker -/

/-- What the surroundings decide at one operation. -/
structure Choice where
  /-- A job that another process asks to cancel just before the operation. -/
  cancel : Option Nat := none
  now : Nat := 0
  /-- The database refuses the statement. -/
  refused : Option Exn := none
  /-- The broker takes no message. -/
  undelivered : Option Exn := none
  exceeded : Option Quotas.Exceeded := none
  node : Option Nat := none
  existing : Bool := false
  unsupported : List String := []
  uuid : Uuid := ⟨0⟩
  domainUuid : Uuid := ⟨0⟩
  mac : String := ""

/-- The tables with those of another one behind them. -/
def appendTables (t more : Tables) : Tables :=
  { t with
    jobs := t.jobs ++ more.jobs
    vms := t.vms ++ more.vms
    disks := t.disks ++ more.disks
    nics := t.nics ++ more.nics
    snapshots := t.snapshots ++ more.snapshots
    backups := t.backups ++ more.backups }

structure Office where
  /-- What is committed. -/
  db : Tables
  /-- What the open transaction has inserted. -/
  pending : Option Tables := none
  /-- The locks that are held. -/
  busy : List LockKey := []
  /-- The messages that the broker has taken, each with its job. -/
  queue : List (Nat × Task) := []
  /-- How many operations have been performed. -/
  pos : Nat := 0

namespace Office

/-- What a statement sees. -/
def rows (s : Office) : Tables := appendTables s.db (s.pending.getD {})

/-- One `INSERT`: at once, or when the transaction is committed. -/
def insert {ρ : Type} (s : Office) (c : Choice) (row : ρ) (put : Tables) : Except Exn ρ × Office :=
  match c.refused with
  | some e => (.error e, s)
  | none =>
    match s.pending with
    | some pending => (.ok row, { s with pending := some (appendTables pending put) })
    | none => (.ok row, { s with db := appendTables s.db put })

/-- What one operation answers and does. -/
def answer (c : Choice) : (o : Op) → Office → Ans o × Office
  | .read, s => (s.rows, s)
  | .enter, s => ((), { s with pending := some {} })
  | .leave, s =>
    match c.refused with
    | some e => (.error e, { s with pending := none })
    | none => (.ok (), { s with db := s.rows, pending := none })
  | .rollback, s => ((), { s with pending := none })
  | .acquire key _, s =>
    if key ∈ s.busy then (false, s) else (true, { s with busy := key :: s.busy })
  | .release key, s => ((), { s with busy := s.busy.erase key })
  | .reserve _ _ _, s => (c.exceeded, s)
  | .selectNode _ _ _ _, s => (c.node, s)
  | .findExisting _ _, s => (c.existing, s)
  | .unsupported _, s => (c.unsupported, s)
  | .generateMacAddress, s => (c.mac, s)
  | .insertVm row, s =>
    let row := { row with pk := Table.nextPk s.rows.vms, uuid := c.uuid, domainUuid := c.domainUuid }
    s.insert c row { vms := [row] }
  | .insertDisk row, s =>
    let row := { row with pk := Table.nextPk s.rows.disks, uuid := c.uuid }
    s.insert c row { disks := [row] }
  | .insertNic row, s =>
    let row := { row with pk := Table.nextPk s.rows.nics, uuid := c.uuid }
    s.insert c row { nics := [row] }
  | .insertSnapshot row, s =>
    let row := { row with pk := Table.nextPk s.rows.snapshots, uuid := c.uuid }
    s.insert c row { snapshots := [row] }
  | .insertBackup row, s =>
    let row := { row with pk := Table.nextPk s.rows.backups, uuid := c.uuid }
    s.insert c row { backups := [row] }
  | .insertJob row, s =>
    let row := { row with pk := Table.nextPk s.rows.jobs, uuid := c.uuid }
    s.insert c row { jobs := [row] }
  | .delay job task, s =>
    match c.undelivered with
    | some e => (.error e, s)
    | none => (.ok (), { s with queue := s.queue ++ [(job, task)] })

/-- A call alone in its surroundings, which have their turn before every operation. -/
def handle (script : Nat → Choice) : Handler Op Ans Office := fun o s =>
  let c := script s.pos
  answer c o { s with db := s.db.requestCancel c.now c.cancel, pos := s.pos + 1 }

end Office

/-! ## Calls -/

/-- A call of an entry point, with the objects that the view has loaded. -/
inductive Call
  | createVm (spec : Creation.NewVm)
  | lifecycle (vm : VmRow) (r : LifecycleRequest)
  | attachDisk (vm : VmRow) (storage sizeGb : Nat) (bus : DiskBus)
  | detachDisk (vm : VmRow) (disk : DiskRow)
  | resizeDisk (vm : VmRow) (disk : DiskRow) (newSizeGb : Int)
  | attachNic (vm : VmRow) (network : Nat) (model : NicModel) (vlan rateLimitMbps : Option Nat)
  | createSnapshot (vm : VmRow) (name : String)
  | deleteSnapshot (snapshot : SnapshotRow)
  | rollbackSnapshot (snapshot : SnapshotRow)
  | createBackup (vm : VmRow) (target : Nat) (type : BackupType)
  | restoreBackup (backup : BackupRow) (vm : VmRow)
  | writeChunk (session : Uploads.Session) (index : Int) (blocks : List Uploads.Bytes)
  | finalizeUpload (session : Uploads.Session)

/-- What the calls work on. -/
structure Site where
  office : Office
  store : Uploads.Store

/-- What surrounds a call. -/
structure Surroundings where
  sha256 : Uploads.Bytes → String
  script : Nat → Choice
  files : Nat → Uploads.Choice

/-- How a call has ended, and what it leaves. -/
abbrev End : Type := Option Failure × Site

/-- A call to a service that creates a job. It begins outside of a transaction. -/
def runService {α : Type} (u : Surroundings) (x : EntryM α) (s : Site) : End :=
  match Script.exec (Office.handle u.script) x () { s.office with pending := none, pos := 0 } with
  | (.ok _, _, office) => (none, { s with office := office })
  | (.error e, _, office) => (some e, { s with office := office })

theorem fileAct_isSome (c : Uploads.Choice) (o : Uploads.UploadOp) (s : Uploads.Store) :
    (Uploads.Store.act c 0 o s).isSome := by
  cases o <;> simp only [Uploads.Store.act] <;> repeat' split
  all_goals rfl

/-- The files of one upload session, for one call. -/
def fileHandle (files : Nat → Uploads.Choice) :
    Handler Uploads.UploadOp Uploads.UploadAns (Uploads.Store × Nat) := fun o s =>
  let r := (Uploads.Store.act (files s.2) 0 o s.1).get (fileAct_isSome (files s.2) o s.1)
  (r.1, r.2, s.2 + 1)

/-- A call to the storage of uploads. -/
def runUpload {α : Type} (u : Surroundings) (x : Uploads.UploadM α) (s : Site) : End :=
  match Script.exec (fileHandle u.files) x () (s.store, 0) with
  | (.ok _, _, store, _) => (none, { s with store := store })
  | (.error e, _, store, _) => (some (uploadFailure e), { s with store := store })

/-- The function of a lifecycle request. -/
def lifecycle (vm : VmRow) (requestedBy : Option Nat) : LifecycleRequest → EntryM JobRow
  | .clone newName linked => cloneVm vm newName linked requestedBy
  | r => startLifecycleJob vm r.jobType (r.task vm.pk) requestedBy

def Call.run (u : Surroundings) (requestedBy : Option Nat) (s : Site) : Call → End
  | .createVm spec => runService u (EntryPoints.createVm spec) s
  | .lifecycle vm r => runService u (EntryPoints.lifecycle vm requestedBy r) s
  | .attachDisk vm storage sizeGb bus => runService u (EntryPoints.attachDisk vm storage sizeGb bus requestedBy) s
  | .detachDisk vm disk => runService u (EntryPoints.detachDisk vm disk requestedBy) s
  | .resizeDisk vm disk newSizeGb => runService u (EntryPoints.resizeDisk vm disk newSizeGb requestedBy) s
  | .attachNic vm network model vlan rateLimitMbps =>
    runService u (EntryPoints.attachNic vm network model vlan rateLimitMbps requestedBy) s
  | .createSnapshot vm name => runService u (EntryPoints.createSnapshot vm name requestedBy) s
  | .deleteSnapshot snapshot => runService u (EntryPoints.deleteSnapshot snapshot requestedBy) s
  | .rollbackSnapshot snapshot => runService u (EntryPoints.rollbackSnapshot snapshot requestedBy) s
  | .createBackup vm target type => runService u (EntryPoints.createBackup vm target type requestedBy) s
  | .restoreBackup backup vm => runService u (EntryPoints.restoreBackup backup vm requestedBy) s
  | .writeChunk session index blocks => runUpload u (Uploads.writeChunk session index blocks) s
  | .finalizeUpload session => runUpload u (Uploads.finalizeUpload u.sha256 session) s

end NodePilot.EntryPoints
