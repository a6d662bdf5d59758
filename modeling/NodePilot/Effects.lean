import NodePilot.Lib.Prog
import NodePilot.Models

/-!
# What a task does to the world

A task body reads and writes rows, takes Redis locks, talks to an agent and emits events. Each
of these is one operation (`Op`), and between two of them any other process may run. `World.answer`
says what one operation does, given what the surroundings decide at that moment (`Choice`): the
outcome of an agent call, a database error, the clock, the identifiers drawn, and whether another
process asks for the cancellation of a job just before.

A lock is held by whoever took it until that holder releases it; how long a holder may keep it
is the subject of the lock modules. A world remembers in its trace every agent call, row write and
event, newest first.
-/

namespace NodePilot

open Lib

/-! ## Exceptions -/

/-- The two Redis locks of a VM. -/
inductive LockKey
  | lifecycle (vm : Uuid)
  | storage (vm : Uuid)
deriving DecidableEq

/-- `RedisLock.key` -/
def LockKey.str : LockKey → String
  | .lifecycle vm => "nodepilot:lock:vm:" ++ vm.str ++ ":lifecycle"
  | .storage vm => "nodepilot:lock:vm:" ++ vm.str ++ ":storage"

/-- The exceptions a task or a service can meet. -/
inductive Exn
  | lockAcquisition (key : LockKey)
  | resourceLocked (message : String)
  | jobCancelled (job : Uuid)
  | invalidStateTransition (message : String)
  | agentUnavailable (message : String)
  | agentOperationFailed (message : String)
  | api (code message : String)
  | doesNotExist (model : String)
  | integrityError (constraint : String)
  | protectedError (model : String)
  | databaseError
  | keyError (key : String)
  | attributeError
  | typeError (message : String)
deriving DecidableEq

/-- `str(exc)` -/
def Exn.str : Exn → String
  | .lockAcquisition key => "Could not acquire lock for '" ++ key.str ++ "': resource is busy"
  | .jobCancelled job => "Job " ++ job.str ++ " was canceled"
  | .doesNotExist model => model ++ " matching query does not exist."
  | .resourceLocked m | .invalidStateTransition m | .agentUnavailable m
  | .agentOperationFailed m | .api _ m | .typeError m => m
  | .integrityError c => "duplicate key value violates unique constraint \"" ++ c ++ "\""
  | .protectedError m => "Cannot delete some instances of model '" ++ m ++
      "' because they are referenced through protected foreign keys"
  | .databaseError => "database error"
  | .keyError k => "'" ++ k ++ "'"
  | .attributeError => "'NoneType' object has no attribute 'name'"

/-! ## Row writes -/

/-- `vm.save(update_fields=...)`: the named fields with the values of the object in memory. -/
structure VmFields where
  status : Option VMStatus := none
  provisioningState : Option ProvisioningState := none
  lastError : Option String := none

/-- `snapshot.save(update_fields=...)` -/
structure SnapshotFields where
  status : SnapshotStatus
  agentSnapshotId : Option String := none
  sizeBytes : Option Int := none

/-- `backup.save(update_fields=...)` -/
structure BackupFields where
  status : BackupStatus
  startedAt : Option Nat := none
  finishedAt : Option Nat := none
  agentBackupRef : Option String := none
  sizeBytes : Option Int := none
  checksum : Option String := none

/-- A statement that changes rows. -/
inductive Write
  /-- `transition`: one transaction over the locked job row. -/
  | jobTransition (job : Nat) (new : JobStatus) (message error : Option String)
  /-- `job.save(update_fields=["progress", "message", "updated_at"])` -/
  | jobProgress (job : Nat) (progress : Nat) (message : String)
  /-- `Job.objects.filter(pk=...).update(logs=...)` -/
  | jobLogs (job : Nat) (logs : List String)
  /-- `Job.objects.filter(pk=...).update(celery_task_id=...)` -/
  | jobCeleryTaskId (job : Nat) (id : String)
  | jobResourceId (job : Nat) (resourceId : String)
  | vmSave (vm : Nat) (fields : VmFields)
  | vmDelete (vm : Nat)
  | diskCreate (row : DiskRow)
  | diskSave (disk : Nat) (volumeId device format : String)
  | diskSize (disk : Nat) (sizeBytes : Nat)
  | diskDelete (disk : Nat)
  | nicCreate (row : NicRow)
  | nicDelete (nic : Nat)
  | snapshotSave (snapshot : Nat) (fields : SnapshotFields)
  | snapshotDelete (snapshot : Nat)
  | backupSave (backup : Nat) (fields : BackupFields)
  | networkStatus (network : Nat) (status : NetworkStatus)
  | networkDelete (network : Nat)
  | poolStatus (pool : Nat) (status : StoragePoolStatus)
  | poolInfo (pool : Nat) (capacity used available : Int)

def VmFields.apply (f : VmFields) (v : VmRow) : VmRow :=
  { v with
    status := f.status.getD v.status
    provisioningState := f.provisioningState.getD v.provisioningState
    lastError := f.lastError.getD v.lastError }

def SnapshotFields.apply (f : SnapshotFields) (s : SnapshotRow) : SnapshotRow :=
  { s with
    status := f.status
    agentSnapshotId := f.agentSnapshotId.getD s.agentSnapshotId
    sizeBytes := f.sizeBytes.getD s.sizeBytes }

def BackupFields.apply (f : BackupFields) (b : BackupRow) : BackupRow :=
  { b with
    status := f.status
    startedAt := f.startedAt.or b.startedAt
    finishedAt := f.finishedAt.or b.finishedAt
    agentBackupRef := f.agentBackupRef.getD b.agentBackupRef
    sizeBytes := f.sizeBytes.getD b.sizeBytes
    checksum := f.checksum.getD b.checksum }

/-- The row `transition` saves, given the row it locked. -/
def JobRow.transitioned (row : JobRow) (new : JobStatus) (message error : Option String)
    (now : Nat) : JobRow :=
  { row with
    status := new
    message := message.getD row.message
    error := error.getD row.error
    startedAt := if new = .running ∧ row.startedAt = none then some now else row.startedAt
    finishedAt := if new.isTerminal then some now else row.finishedAt
    progress := if new = .success then 100 else row.progress }

/-- `save(update_fields=...)`: Django raises when no row was updated. -/
def saveRow {ρ : Type} [Row ρ] (rows : List ρ) (pk : Nat) (f : ρ → ρ) : Except Exn (List ρ) :=
  match Table.get rows pk with
  | none => .error .databaseError
  | some _ => .ok (Table.modify rows pk f)

namespace Tables

/-- What a write does to the tables. `now` is the clock, `uuid` the identifier drawn for a new
row. -/
def write (now : Nat) (uuid : Uuid) (t : Tables) : Write → Except Exn Tables
  | .jobTransition job new message error =>
    match Table.get t.jobs job with
    | none => .error (.doesNotExist "Job")
    | some row =>
      if new ∈ validTransitions row.status ∨ new = row.status then
        .ok { t with jobs := Table.modify t.jobs job fun r => r.transitioned new message error now }
      else
        .error (.invalidStateTransition
          ("Cannot transition job from " ++ row.status.value ++ " to " ++ new.value))
  | .jobProgress job progress message => do
    let jobs ← saveRow t.jobs job fun r => { r with progress := progress, message := message }
    return { t with jobs := jobs }
  | .jobLogs job logs =>
    .ok { t with jobs := Table.modify t.jobs job fun r => { r with logs := logs } }
  | .jobCeleryTaskId job id =>
    .ok { t with jobs := Table.modify t.jobs job fun r => { r with celeryTaskId := id } }
  | .jobResourceId job resourceId => do
    let jobs ← saveRow t.jobs job fun r => { r with resourceId := resourceId }
    return { t with jobs := jobs }
  | .vmSave vm fields => do
    let vms ← saveRow t.vms vm fields.apply
    return { t with vms := vms }
  -- the deletion cascades to everything that hangs off the VM
  | .vmDelete vm =>
    .ok { t with
      vms := Table.remove t.vms vm
      disks := t.disks.filter (·.vm ≠ vm)
      nics := t.nics.filter (·.vm ≠ vm)
      snapshots := t.snapshots.filter (·.vm ≠ vm)
      backups := t.backups.filter (·.vm ≠ vm) }
  | .diskCreate row =>
    if t.disks.any (·.uuid = uuid) then .error (.integrityError "vm_disks_uuid_key")
    else .ok { t with disks := t.disks ++ [{ row with pk := Table.nextPk t.disks, uuid := uuid }] }
  | .diskSave disk volumeId device format => do
    let disks ← saveRow t.disks disk fun r =>
      { r with volumeId := volumeId, device := device, format := format }
    return { t with disks := disks }
  | .diskSize disk sizeBytes => do
    let disks ← saveRow t.disks disk fun r => { r with sizeBytes := sizeBytes }
    return { t with disks := disks }
  | .diskDelete disk => .ok { t with disks := Table.remove t.disks disk }
  | .nicCreate row =>
    if t.nics.any (·.macAddress = row.macAddress) then
      .error (.integrityError "vm_nics_mac_address_key")
    else if t.nics.any (·.uuid = uuid) then
      .error (.integrityError "vm_nics_uuid_key")
    else
      .ok { t with nics := t.nics ++ [{ row with pk := Table.nextPk t.nics, uuid := uuid }] }
  | .nicDelete nic => .ok { t with nics := Table.remove t.nics nic }
  | .snapshotSave snapshot fields => do
    let snapshots ← saveRow t.snapshots snapshot fields.apply
    return { t with snapshots := snapshots }
  | .snapshotDelete snapshot => .ok { t with snapshots := Table.remove t.snapshots snapshot }
  | .backupSave backup fields => do
    let backups ← saveRow t.backups backup fields.apply
    return { t with backups := backups }
  | .networkStatus network status => do
    let networks ← saveRow t.networks network fun r => { r with status := status }
    return { t with networks := networks }
  -- `VMNic.network` is PROTECT
  | .networkDelete network =>
    if t.nics.any (·.network = network) then .error (.protectedError "Network")
    else .ok { t with networks := Table.remove t.networks network }
  | .poolStatus pool status => do
    let pools ← saveRow t.pools pool fun r => { r with status := status }
    return { t with pools := pools }
  | .poolInfo pool capacity used available => do
    let pools ← saveRow t.pools pool fun r =>
      { r with capacityBytes := capacity, usedBytes := used, availableBytes := available,
               status := .online }
    return { t with pools := pools }

/-- `VirtualMachine.objects.create(...)`: the row with its new key and identifiers, under the
unique constraints of the table. -/
def createVm (uuid domainUuid : Uuid) (t : Tables) (row : VmRow) : Except Exn (VmRow × Tables) :=
  if t.vms.any fun v => v.project = row.project ∧ v.name = row.name then
    .error (.integrityError "unique_vm_name_per_project")
  else if t.vms.any fun v => v.uuid = uuid ∨ v.domainUuid = domainUuid then
    .error (.integrityError "virtual_machines_uuid_key")
  else
    let row := { row with pk := Table.nextPk t.vms, uuid := uuid, domainUuid := domainUuid }
    .ok (row, { t with vms := t.vms ++ [row] })

end Tables

/-! ## Operations -/

/-- `Event`, as `emit_event` stores it. -/
structure Event where
  type : String
  severity : String
  resourceType : String
  resourceId : String
  metadata : Dict

/-- One operation of a task body or a service. -/
inductive Op
  /-- One query: the tables as they are at that moment. -/
  | read
  | write (w : Write)
  | createVm (row : VmRow)
  /-- `agent_client.send_operation(node, ..., timeout=...)` -/
  | send (node : Option Nat) (request : AgentRequest) (timeout : Option Nat)
  /-- `RedisLock(...).acquire()` with the lock's TTL in seconds. -/
  | acquire (key : LockKey) (ttlSeconds : Nat)
  | release (key : LockKey)
  | emit (event : Event)
  /-- `timezone.now()` -/
  | now
  /-- `generate_mac_address()` -/
  | mac

/-- The answer to each operation. -/
@[reducible]
def Ans : Op → Type
  | .read => Tables
  | .write _ => Except Exn Unit
  | .createVm _ => Except Exn VmRow
  | .send _ _ _ => Except Exn Dict
  | .acquire _ _ => Bool
  | .release _ => Unit
  | .emit _ => Except Exn Unit
  | .now => Nat
  | .mac => String

/-- The body of a task, with the objects `L` that its exception handlers still see. -/
abbrev TaskM (L : Type) (α : Type) : Type := Script Op Ans Exn L α

/-! ## The world -/

/-- What the surroundings decide at one operation. -/
structure Choice where
  /-- A job that another process asks to cancel just before the operation. -/
  cancel : Option Nat := none
  /-- The database rejects the statement. -/
  dbFails : Bool := false
  agent : AgentOutcome := .ok []
  now : Nat := 0
  uuid : Uuid := ⟨0⟩
  domainUuid : Uuid := ⟨0⟩
  mac : String := ""

/-- What a world remembers of an operation. -/
inductive Entry
  | call (request : AgentRequest) (timeout : Option Nat) (outcome : AgentOutcome)
  | write (w : Write) (done : Bool)
  | createVm (row : VmRow) (done : Bool)
  | event (event : Event) (done : Bool)

/-- The state of the surroundings of a task. -/
structure World where
  db : Tables
  /-- The locks that are held. -/
  busy : List LockKey := []
  /-- What was done, newest first. -/
  trace : List Entry := []
  /-- What the surroundings will decide, operation by operation. -/
  script : Nat → Choice
  /-- How many operations have been performed. -/
  pos : Nat := 0

/-- `request_cancel` by another process: a job that is queued or running turns to CANCELING. -/
def Tables.requestCancel (now : Nat) (t : Tables) (job : Option Nat) : Tables :=
  match job with
  | none => t
  | some job =>
    match Table.get t.jobs job with
    | none => t
    | some row =>
      if row.status = .queued ∨ row.status = .running then
        { t with jobs := Table.modify t.jobs job fun r =>
            r.transitioned .canceling (some "Cancellation requested") none now }
      else t

/-- The name `send_operation` puts into its messages. -/
def Tables.nodeName (t : Tables) (node : Nat) : String :=
  ((Table.get t.nodes node).map NodeRow.name).getD ""

/-- What `send_operation` returns or raises. -/
def AgentOutcome.result (t : Tables) (node : Nat) (r : AgentRequest) : AgentOutcome → Except Exn Dict
  | .noAgent => .error (.agentUnavailable ("Node " ++ t.nodeName node ++ " has no active agent."))
  | .notConnected => .error (.agentUnavailable
      ("Node " ++ t.nodeName node ++ "'s agent is not currently connected."))
  | .timedOut _ => .error (.agentUnavailable ("Timed out waiting for node " ++ t.nodeName node ++
      "'s agent to respond to " ++ r.operation.value ++ "."))
  | .failed none => .error (.agentOperationFailed "The agent reported an unspecified error.")
  | .failed (some e) => .error (.agentOperationFailed
      (if e = "" then "The agent reported an unspecified error." else e))
  | .ok data => .ok data

namespace World

/-- One statement that the database may reject. -/
def statement (w : World) (c : Choice) (x : Except Exn Tables) (entry : Bool → Entry) :
    Except Exn Unit × World :=
  match if c.dbFails then .error .databaseError else x with
  | .ok db => (.ok (), { w with db := db, trace := entry true :: w.trace })
  | .error e => (.error e, { w with trace := entry false :: w.trace })

/-- What one operation answers and does, under the choice `c`. -/
def answer (c : Choice) : (o : Op) → World → Ans o × World
  | .read, w => (w.db, w)
  | .write x, w => w.statement c (w.db.write c.now c.uuid x) (.write x)
  | .createVm row, w =>
    match if c.dbFails then .error .databaseError else w.db.createVm c.uuid c.domainUuid row with
    | .ok (row', db) => (.ok row', { w with db := db, trace := .createVm row true :: w.trace })
    | .error e => (.error e, { w with trace := .createVm row false :: w.trace })
  -- without a node nothing is sent: `node.name` raises inside the first check
  | .send none _ _, w => (.error .attributeError, w)
  | .send (some node) r timeout, w =>
    (c.agent.result w.db node r, { w with trace := .call r timeout c.agent :: w.trace })
  | .acquire key _, w =>
    if key ∈ w.busy then (false, w) else (true, { w with busy := key :: w.busy })
  | .release key, w => ((), { w with busy := w.busy.erase key })
  | .emit event, w =>
    w.statement c (.ok w.db) (.event event)
  | .now, w => (c.now, w)
  | .mac, w => (c.mac, w)

/-- The world after the surroundings had their turn. -/
def next (w : World) : World :=
  { w with
    pos := w.pos + 1
    db := w.db.requestCancel (w.script w.pos).now (w.script w.pos).cancel }

/-- A task alone in its surroundings: they have their turn before every operation. -/
def handle : Handler Op Ans World := fun o w => answer (w.script w.pos) o w.next

end World

end NodePilot
