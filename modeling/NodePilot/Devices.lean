import Mathlib.Algebra.Group.Int.Defs
import NodePilot.Services

/-!
# Disks and NICs of a VM that exists

`attach_disk`, `detach_disk`, `resize_disk`, `attach_nic` and `detach_nic` of `apps/virtual_machines/services.py`.
The two that attach create the row of the device in the transaction that creates the job. All of them leave the
work to a task, which the broker is given once the job is committed.
-/

namespace NodePilot.Devices

open Lib

/-! ## Operations of a request -/

inductive Op
  | service (o : ServiceOp)
  /-- `transaction.atomic` -/
  | enter
  | leave
  | rollback
  /-- `check_and_reserve(vm.organization, vm.project, additional_storage_gb=...)` -/
  | reserve (vm : VmRow) (storageGb : Nat)
  | insertDisk (row : DiskRow)
  | insertNic (row : NicRow)
  /-- `task_callable.delay(job.pk, *task_args)` -/
  | delay (job : Nat) (task : Task)

@[reducible]
def Ans : Op → Type
  | .service o => ServiceAns o
  | .enter | .rollback => Unit
  | .leave | .reserve _ _ | .delay _ _ => Except Exn Unit
  | .insertDisk _ => Except Exn DiskRow
  | .insertNic _ => Except Exn NicRow

abbrev DeviceM (α : Type) : Type := Script Op Ans Exn Unit α

def ofService {α : Type} (x : ServiceM α) : DeviceM α := x.translate .service fun _ a => a

/-- A fallible operation. -/
def statement {α : Type} (x : DeviceM (Except Exn α)) : DeviceM α := do
  match ← x with
  | .ok a => return a
  | .error e => throw e

/-- `transaction.atomic` -/
def atomic {α : Type} (body : DeviceM α) : DeviceM α := do
  Script.perform Op.enter
  let a ← tryCatch body fun e => do
    Script.perform Op.rollback
    throw e
  statement (Script.perform Op.leave)
  return a

def query : DeviceM Tables := Script.perform (Op.service (.task .read))

/-- `vm.disks.count()` -/
def diskCount (vm : Nat) : DeviceM Nat := do
  return ((← query).disks.filter (·.vm = vm)).length

/-- `vm.nics.count()` -/
def nicCount (vm : Nat) : DeviceM Nat := do
  return ((← query).nics.filter (·.vm = vm)).length

/-! ## Entry points -/

/-- The look of `_start_storage_job` at the storage lock. -/
def precheckStorage (vm : VmRow) : ServiceM Unit := do
  let acquired : Bool ← Script.perform (ServiceOp.task (.acquire (.storage vm.uuid) 300))
  if acquired then
    Script.perform (ServiceOp.task (.release (.storage vm.uuid)))
  else
    throw (.resourceLocked ("VM " ++ vm.name ++ " has another storage operation in progress."))

/-- `_start_storage_job`. What it leaves to `on_commit` is left to the caller. -/
def startStorageJob (vm : VmRow) (type : JobType) (requestedBy : Option Nat) : DeviceM JobRow :=
  ofService do
    precheckStorage vm
    createJob type vm.uuid.str requestedBy

/-- The row of `attach_disk`. -/
def diskRow (vm : VmRow) (storage sizeGb : Nat) (bus : DiskBus) (named index : Nat) : DiskRow where
  pk := 0
  uuid := ⟨0⟩
  vm := vm.pk
  storage := storage
  name := "disk-" ++ toString (named + 1)
  bus := bus
  sizeBytes := sizeGb * 1024 ^ 3
  bootIndex := index

/-- The transaction of `attach_disk`. -/
def insertAttachedDisk (vm : VmRow) (storage sizeGb : Nat) (bus : DiskBus) (requestedBy : Option Nat) :
    DeviceM (DiskRow × JobRow) :=
  atomic do
    statement (Script.perform (Op.reserve vm sizeGb))
    let named ← diskCount vm.pk
    let index ← diskCount vm.pk
    let disk ← statement (Script.perform (Op.insertDisk (diskRow vm storage sizeGb bus named index)))
    let job ← startStorageJob vm .diskAttach requestedBy
    return (disk, job)

/-- `attach_disk` -/
def attachDisk (vm : VmRow) (storage sizeGb : Nat) (bus : DiskBus) (requestedBy : Option Nat) :
    DeviceM (DiskRow × JobRow) := do
  let (disk, job) ← insertAttachedDisk vm storage sizeGb bus requestedBy
  statement (Script.perform (Op.delay job.pk (.attachDisk disk.pk)))
  return (disk, job)

/-- `detach_disk` -/
def detachDisk (vm : VmRow) (disk : DiskRow) (requestedBy : Option Nat) : DeviceM JobRow :=
  if disk.bootable then
    throw (.invalidStateTransition "Cannot detach a VM's boot disk.")
  else do
    let job ← startStorageJob vm .diskDetach requestedBy
    statement (Script.perform (Op.delay job.pk (.detachDisk disk.pk)))
    return job

/-- `resize_disk` -/
def resizeDisk (vm : VmRow) (disk : DiskRow) (newSizeGb : Int) (requestedBy : Option Nat) : DeviceM JobRow :=
  let newSizeBytes : Int := newSizeGb * 1024 ^ 3
  if newSizeBytes ≤ disk.sizeBytes then
    throw (.invalidStateTransition "A disk can only be grown, not shrunk, while attached.")
  else do
    statement (Script.perform (Op.reserve vm ((newSizeBytes - disk.sizeBytes) / 1024 ^ 3).toNat))
    let job ← startStorageJob vm .diskResize requestedBy
    statement (Script.perform (Op.delay job.pk (.resizeDisk disk.pk newSizeBytes.toNat)))
    return job

/-- The row of `attach_nic`. -/
def nicRow (vm : VmRow) (network : Nat) (model : NicModel) (vlan rateLimitMbps : Option Nat) (macAddress : String)
    (index : Nat) : NicRow where
  pk := 0
  uuid := ⟨0⟩
  vm := vm.pk
  network := network
  macAddress := macAddress
  model := model
  vlan := vlan
  rateLimitMbps := rateLimitMbps
  bootIndex := index

/-- The transaction of `attach_nic`. -/
def insertAttachedNic (vm : VmRow) (network : Nat) (model : NicModel) (vlan rateLimitMbps requestedBy : Option Nat) :
    DeviceM (NicRow × JobRow) :=
  atomic do
    let macAddress : String ← Script.perform (Op.service (.task .mac))
    let index ← nicCount vm.pk
    let nic ← statement (Script.perform (Op.insertNic
      (nicRow vm network model vlan rateLimitMbps macAddress index)))
    let job ← startStorageJob vm .nicAttach requestedBy
    return (nic, job)

/-- `attach_nic` -/
def attachNic (vm : VmRow) (network : Nat) (model : NicModel) (vlan rateLimitMbps requestedBy : Option Nat) :
    DeviceM (NicRow × JobRow) := do
  let (nic, job) ← insertAttachedNic vm network model vlan rateLimitMbps requestedBy
  statement (Script.perform (Op.delay job.pk (.attachNic nic.pk)))
  return (nic, job)

/-- `detach_nic` -/
def detachNic (vm : VmRow) (nic : NicRow) (requestedBy : Option Nat) : DeviceM JobRow := do
  let job ← startStorageJob vm .nicDetach requestedBy
  statement (Script.perform (Op.delay job.pk (.detachNic nic.pk)))
  return job

/-! ## The database and the broker -/

/-- What the surroundings decide at one operation. -/
structure Choice extends ServiceChoice where
  /-- The broker takes no message. -/
  undelivered : Option Exn := none

/-- A row that a transaction has inserted. -/
inductive Inserted
  | disk (pk : Nat)
  | nic (pk : Nat)
  | job (pk : Nat)

def Inserted.remove (t : Tables) : Inserted → Tables
  | disk pk => { t with disks := Table.remove t.disks pk }
  | nic pk => { t with nics := Table.remove t.nics pk }
  | job pk => { t with jobs := Table.remove t.jobs pk }

structure Desk where
  world : World
  /-- What has been inserted since the transaction began. -/
  inserted : List Inserted := []
  /-- The messages that the broker has taken, each with its job. -/
  queue : List (Nat × Task) := []
  /-- How many operations have been performed. -/
  pos : Nat := 0

namespace Desk

def setDb (d : Desk) (db : Tables) : Desk := { d with world := { d.world with db := db } }

/-- The tables without what the transaction has inserted. -/
def undo (d : Desk) : Desk :=
  { d.setDb (d.inserted.foldl Inserted.remove d.world.db) with inserted := [] }

/-- `INSERT` of a device. -/
def insert {ρ : Type} (d : Desk) (c : Choice) (x : Write) (row : ρ) (inserted : Inserted) :
    Except Exn ρ × Desk :=
  match if c.dbFails then .error .databaseError else d.world.db.write c.now c.uuid x with
  | .ok db => (.ok row, { d.setDb db with inserted := inserted :: d.inserted })
  | .error e => (.error e, d)

/-- What one operation answers and does. -/
def answer (c : Choice) : (o : Op) → Desk → Ans o × Desk
  | .service (.task o), d =>
    let r := World.answer c.toChoice o d.world
    (r.1, { d with world := r.2 })
  | .service (.createJob row), d =>
    if c.dbFails then (.error .databaseError, d)
    else
      let db := d.world.db
      let row := { row with pk := Table.nextPk db.jobs, uuid := c.uuid }
      (.ok row, { d.setDb { db with jobs := db.jobs ++ [row] } with inserted := .job row.pk :: d.inserted })
  | .service (.checkAndReserve _), d | .reserve _ _, d =>
    match c.overQuota with
    | some message => (.error (.api "QUOTA_EXCEEDED" message), d)
    | none => (.ok (), d)
  | .enter, d => ((), { d with inserted := [] })
  | .leave, d =>
    if c.dbFails then (.error .databaseError, d.undo) else (.ok (), { d with inserted := [] })
  | .rollback, d => ((), d.undo)
  | .insertDisk row, d =>
    let pk := Table.nextPk d.world.db.disks
    d.insert c (.diskCreate row) { row with pk := pk, uuid := c.uuid } (.disk pk)
  | .insertNic row, d =>
    let pk := Table.nextPk d.world.db.nics
    d.insert c (.nicCreate row) { row with pk := pk, uuid := c.uuid } (.nic pk)
  | .delay job task, d =>
    match c.undelivered with
    | some e => (.error e, d)
    | none => (.ok (), { d with queue := d.queue ++ [(job, task)] })

/-- A request alone in its surroundings. -/
def handle (script : Nat → Choice) : Handler Op Ans Desk := fun o d =>
  let c := script d.pos
  answer c o { d.setDb (d.world.db.requestCancel c.now c.cancel) with pos := d.pos + 1 }

/-- What a request leaves, if it is accepted. -/
def accept {α : Type} (script : Nat → Choice) (x : DeviceM α) (d : Desk) : Option (α × Desk) :=
  match Script.exec (handle script) x () d with
  | (.ok a, _, d') => some (a, d')
  | (.error _, _, _) => none

end Desk

end NodePilot.Devices
