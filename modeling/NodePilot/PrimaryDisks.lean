import NodePilot.Lib.Pool
import NodePilot.Tasks

/-!
# The disks of a VM and the backups read from them

The requests that give a VM its disks and its backups, the tasks they leave to the workers, and runs
of both. A backup is read from the disk that is primary at that time, and restored to the disk that is
primary then; its row does not say which disk that was, so a run remembers it (`Read`).

A task runs as a whole, as often as its message is delivered, and ends as it will. The services also
look at the quota and the locks, which can only refuse a request; a request that is refused leaves no
trace here.
-/

namespace NodePilot.PrimaryDisks

open Lib

/-! ## Creating a VM -/

/-- One of the `disks` that `create_vm` is given. -/
structure DiskSpec where
  storage : Option Nat
  sourceImage : Option Nat := none
  name : String
  bus : DiskBus := .virtio
  sizeBytes : Nat
  format : String := "qcow2"
  bootable : Option Bool := none
  readonly : Bool := false
  discard : Bool := true
  iothread : Bool := false

/-- `VMDiskCreateSerializer` -/
structure DiskData where
  storage : Nat
  name : String := ""
  sizeGb : Nat
  bus : DiskBus := .virtio
  bootable : Bool := false
  format : String := "qcow2"
  readonly : Bool := false
  discard : Bool := true
  iothread : Bool := false

/-- `1024**3` -/
def gib : Nat := 1024 ^ 3

/-- What the view makes of a disk of the request. -/
def DiskData.spec (d : DiskData) : DiskSpec :=
  { storage := some d.storage, name := d.name, bus := d.bus, sizeBytes := d.sizeGb * gib
    format := d.format, bootable := some d.bootable, readonly := d.readonly, discard := d.discard
    iothread := d.iothread }

/-- The disk of `create_vm_from_template`. -/
def templateDisks (storage image sizeGb : Nat) : List DiskSpec :=
  [{ storage := some storage, sourceImage := some image, name := "root", sizeBytes := sizeGb * gib
     bootable := some true }]

/-- `disks or [...]` -/
def orDefault : List DiskSpec → List DiskSpec
  | [] => [{ storage := none, name := "root", sizeBytes := 20 * gib, bootable := some true }]
  | disks => disks

/-- The rows of the disks, the first with the key `pk` and the index `index`. A disk needs a pool. -/
def diskRows (vm : Nat) (uuid : Nat → Uuid) : Nat → Nat → List DiskSpec → Option (List DiskRow)
  | _, _, [] => some []
  | pk, index, spec :: rest => do
    let storage ← spec.storage
    let rows ← diskRows vm uuid (pk + 1) (index + 1) rest
    let row : DiskRow :=
      { pk := pk, uuid := uuid index, vm := vm, storage := storage, sourceImage := spec.sourceImage
        name := spec.name, bus := spec.bus, sizeBytes := spec.sizeBytes, format := spec.format
        bootable := spec.bootable.getD (index = 0), readonly := spec.readonly
        discard := spec.discard, iothread := spec.iothread, bootIndex := index }
    return row :: rows

/-- `create_vm`: the VM and its disks, in one transaction. -/
def createVm (uuid domainUuid : Uuid) (diskUuid : Nat → Uuid) (vm : VmRow) (disks : List DiskSpec)
    (t : Tables) : Option (VmRow × Tables) := do
  let vm := { vm with status := .creating, provisioningState := .requested }
  let (vm, t) ← (t.createVm uuid domainUuid vm).toOption
  let rows ← diskRows vm.pk diskUuid (Table.nextPk t.disks) 0 (orDefault disks)
  return (vm, { t with disks := t.disks ++ rows })

/-! ## Other requests -/

/-- `vm.disks.count()` -/
def diskCount (t : Tables) (vm : Nat) : Nat := (t.disks.filter (·.vm = vm)).length

/-- The row that `attach_disk` creates. -/
def attachedRow (t : Tables) (uuid : Uuid) (vm storage sizeGb : Nat) (bus : DiskBus) : DiskRow :=
  { pk := Table.nextPk t.disks, uuid := uuid, vm := vm, storage := storage
    name := "disk-" ++ toString (diskCount t vm + 1), bus := bus, sizeBytes := sizeGb * gib
    bootIndex := diskCount t vm }

inductive Request
  | createVm (uuid domainUuid : Uuid) (diskUuid : Nat → Uuid) (vm : VmRow) (disks : List DiskData)
  | createFromTemplate (uuid domainUuid : Uuid) (diskUuid : Nat → Uuid) (vm : VmRow)
      (storage image sizeGb : Nat)
  | attachDisk (uuid : Uuid) (vm storage sizeGb : Nat) (bus : DiskBus)
  | detachDisk (disk : Nat)
  | resizeDisk (disk newSizeGb : Nat)
  | createBackup (uuid : Uuid) (vm target : Nat) (type : BackupType)
  | restoreBackup (backup : Nat)

/-- The tables after a request that is accepted, and the message it sends. The one that `create_vm`
sends is not kept: what its task leaves of the disks is an event of its own. -/
def Request.accept (t : Tables) : Request → Option (Tables × Option Task)
  | createVm uuid domainUuid diskUuid vm disks => do
    let (_, t) ← PrimaryDisks.createVm uuid domainUuid diskUuid vm (disks.map DiskData.spec) t
    return (t, none)
  | createFromTemplate uuid domainUuid diskUuid vm storage image sizeGb => do
    let (_, t) ← PrimaryDisks.createVm uuid domainUuid diskUuid vm
      (templateDisks storage image sizeGb) t
    return (t, none)
  | attachDisk uuid vm storage sizeGb bus => do
    let _ ← Table.get t.vms vm
    let row := attachedRow t uuid vm storage sizeGb bus
    return ({ t with disks := t.disks ++ [row] }, some (.attachDisk row.pk))
  | detachDisk disk => do
    let row ← Table.get t.disks disk
    -- `Cannot detach a VM's boot disk.`
    if row.bootable then none else some (t, some (.detachDisk disk))
  | resizeDisk disk newSizeGb => do
    let row ← Table.get t.disks disk
    -- `A disk can only be grown, not shrunk, while attached.`
    if newSizeGb * gib ≤ row.sizeBytes then none else some (t, some (.resizeDisk disk (newSizeGb * gib)))
  | createBackup uuid vm target type => do
    let _ ← Table.get t.vms vm
    let row : BackupRow :=
      { pk := Table.nextPk t.backups, uuid := uuid, vm := vm, target := target, type := type }
    return ({ t with backups := t.backups ++ [row] }, some (.createBackup row.pk))
  | restoreBackup backup => do
    let row ← Table.get t.backups backup
    let vm ← Table.get t.vms row.vm
    if row.status = .completed ∧ vm.status = .stopped then some (t, some (.restoreBackup backup))
    else none

/-! ## Runs -/

/-- CREATE_BACKUP of the backup has read this volume of the VM. -/
structure Read where
  backup : Nat
  vm : Nat
  volumeId : String
deriving DecidableEq

/-- One execution of a task, with what its surroundings decide. -/
structure Execution where
  taskId : String := ""
  jobId : Nat
  task : Task
  /-- The locks that others hold. -/
  busy : List LockKey := []
  script : Nat → Choice := fun _ => {}

inductive Event
  | request (r : Request)
  /-- `provision_vm` has saved `volume_id`, `device` and `format` of disks of the VM. -/
  | provision (vm : Nat) (saved : DiskRow → String × String × String)
  | run (x : Execution)
  /-- Others write the statuses of VMs, and rows that are no VMs, disks, pools or backups. -/
  | elsewhere (db : Tables) (status : VmRow → VMStatus)
  /-- Without an order, a query finds the rows as the database has them. -/
  | reorder (position : DiskRow → Nat)

structure State where
  db : Tables
  /-- The messages that were sent. -/
  queue : List Task := []
  reads : List Read := []

/-- The end of a task's execution. -/
def Execution.run (x : Execution) (s : State) : Except Exn Unit × World :=
  let r := Script.exec World.handle (x.task.run x.taskId x.jobId) ()
    { db := s.db, busy := x.busy, script := x.script }
  (r.1, r.2.2)

/-- What the backup was read from in the course of the execution. -/
def Execution.reads (x : Execution) (s : State) : List Read :=
  match x.task with
  | .createBackup backup =>
    match s.db.loadBackup backup with
    | some (_, vm, _) => (x.run s).2.exchanges.filterMap fun
      | (r, .ok _) =>
        if r.operation = .createBackup then some ⟨backup, vm.pk, r.payload.getStr "volume_id" ""⟩
        else none
      | _ => none
    | none => []
  | _ => []

/-- The disks of the VM have got volumes. -/
def provisioned (vm : Nat) (saved : DiskRow → String × String × String) (d : DiskRow) : DiskRow :=
  if d.vm = vm then
    { d with volumeId := (saved d).1, device := (saved d).2.1, format := (saved d).2.2 }
  else d

def step : Event → State → Option State
  | .request r, s =>
    match r.accept s.db with
    | some (db, task) => some { s with db := db, queue := s.queue ++ task.toList }
    | none => some s
  | .provision vm saved, s => some { s with db := { s.db with
      disks := s.db.disks.map (provisioned vm saved) } }
  | .run x, s =>
    if x.task ∈ s.queue then
      some { s with db := (x.run s).2.db, reads := s.reads ++ x.reads s }
    else none
  | .elsewhere db status, s => some { s with db := { db with
      vms := s.db.vms.map fun v => { v with status := status v }
      disks := s.db.disks, pools := s.db.pools, backups := s.db.backups } }
  | .reorder position, s => some { s with db := { s.db with
      disks := s.db.disks.insertionSort fun a b => position a ≤ position b } }

end NodePilot.PrimaryDisks
