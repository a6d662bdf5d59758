import NodePilot.Creation
import NodePilot.Volumes

/-!
# The names of disks

Where the name of a `VMDisk` comes from: the body of a create request, `create_vm_from_template`, `attach_disk`,
and the disk that `clone_vm_task` copies. No constraint of the table is about names. `clone_vm_task` joins them to
the clone's uuid to name the new volumes.

`attach_disk` counts the disks of the VM twice before its row is in the table, and `clone_vm_task` lists the disks of
the source before it copies them. In between, others may write to the table.
-/

namespace NodePilot.DiskNames

open Lib
open Creation (NewVm DiskSpec)

/-- Counts are looked up by their equality. -/
local instance lawfulCounts : LawfulBEq (Nat × Nat) := inferInstance

/-! ## Requests -/

/-- An entry of `disks`, as `VMDiskCreateSerializer` leaves it. -/
structure DiskData where
  storage : Nat
  name : Option String := none
  sizeGb : Nat
  bus : DiskBus := .virtio
  bootable : Bool := false
  format : String := "qcow2"
  readonly : Bool := false
  discard : Bool := true
  iothread : Bool := false

/-- What `VirtualMachineViewSet.create` makes of it. -/
def DiskData.spec (d : DiskData) : DiskSpec where
  storage := some d.storage
  name := some (d.name.getD "")
  sizeBytes := d.sizeGb * 1024 ^ 3
  bus := d.bus
  bootable := some d.bootable
  format := d.format
  readonly := d.readonly
  discard := d.discard
  iothread := d.iothread

/-- The `disks` that `create_vm` is called with. -/
inductive Request
  | create (disks : List DiskData)
  /-- `create_vm_from_template` -/
  | deploy (storage image diskGb : Nat)

def Request.disks : Request → List DiskSpec
  | create disks => disks.map DiskData.spec
  | deploy storage image diskGb =>
    [{ storage := some storage, sourceImage := some image, name := some "root", sizeBytes := diskGb * 1024 ^ 3
       bootable := some true }]

/-- `attach_disk` -/
structure Attach where
  vm : Nat
  storage : Nat
  sizeGb : Nat
  bus : DiskBus := .virtio
  /-- What `vm.disks.count()` gave for the name, and then for `boot_index`. -/
  named : Nat
  indexed : Nat

def Attach.row (a : Attach) : DiskRow where
  pk := 0
  uuid := ⟨0⟩
  vm := a.vm
  storage := a.storage
  name := "disk-" ++ toString (a.named + 1)
  bus := a.bus
  sizeBytes := a.sizeGb * 1024 ^ 3
  bootIndex := a.indexed

/-- The row that `clone_vm_task` makes of a disk of the source. -/
def copyRow (clone : Nat) (volumeId : String) (disk : DiskRow) : DiskRow :=
  { disk with pk := 0, uuid := ⟨0⟩, vm := clone, volumeId := volumeId, sourceImage := none }

/-! ## The table -/

/-- The two foreign keys of a row. -/
def refers (t : Tables) (row : DiskRow) : Bool :=
  (Table.get t.vms row.vm).isSome ∧ (Table.get t.pools row.storage).isSome

/-- What the table asks of a row: `max_length`, the range of `boot_index`, and the foreign keys. -/
def fits (t : Tables) (row : DiskRow) : Bool :=
  row.name.length ≤ 255 ∧ row.bootIndex ≤ 32767 ∧ refers t row

/-- What only the insertion of a row decides about it. -/
def label (row : DiskRow) : Nat × Nat × String × Bool := (row.pk, row.vm, row.name, row.bootable)

/-- `VMDisk.objects.create(...)`, `none` if it is refused. -/
def insertDisk (uuid : Uuid) (row : DiskRow) (t : Tables) : Option Tables :=
  if fits t row then (t.write 0 uuid (.diskCreate row)).toOption else none

/-- One row after the other. -/
def insertDisks : List (Uuid × DiskRow) → Tables → Option Tables
  | [], t => some t
  | (uuid, row) :: rest, t => (insertDisk uuid row t).bind (insertDisks rest)

/-- The rows of a new VM's disks. A disk without a storage pool is not taken. -/
def diskRows (vm : Nat) (specs : List DiskSpec) : Option (List DiskRow) :=
  specs.zipIdx.mapM fun d => d.1.storage.map fun storage => d.1.row vm storage d.2

/-- The rows of `create_vm`: all of them or none. -/
def createVm (spec : NewVm) (node : Nat) (uuid domainUuid : Uuid) (uuids : List Uuid) (t : Tables) :
    Option Tables := do
  let (vm, t) ← (t.createVm uuid domainUuid (spec.vmRow node).toVmRow).toOption
  let rows ← diskRows vm.pk spec.diskSpecs
  insertDisks (uuids.zip rows) t

/-! ## Runs -/

structure State where
  db : Tables
  /-- What has been counted, VM by VM. -/
  counted : List (Nat × Nat) := []
  /-- The disks that have been listed to be cloned. -/
  listed : List DiskRow := []

inductive Event
  /-- `create_vm`. Each row draws its uuid. -/
  | create (spec : NewVm) (request : Request) (node : Nat) (uuid domainUuid : Uuid) (uuids : List Uuid)
  /-- `vm.disks.count()` -/
  | count (vm : Nat)
  /-- `attach_disk`, which has counted. -/
  | attach (a : Attach) (uuid : Uuid)
  /-- The end of `detach_disk_task`. Its request does not take a bootable disk. -/
  | detach (disk : Nat)
  /-- `source.disks.select_related("storage").all()` -/
  | list (vm : Nat)
  /-- One round of "Cloning disks". -/
  | copy (listed : Nat) (clone : Nat) (volumeId : String) (uuid : Uuid)
  | deleteVm (vm : Nat)
  /-- Others write. They name no disk, and what a disk refers to stays. -/
  | elsewhere (db : Tables)

/-- `vm.disks.count()` -/
def diskCount (t : Tables) (vm : Nat) : Nat := (t.disks.filter (·.vm = vm)).length

def step : Event → State → Option State
  | .create spec request node uuid domainUuid uuids, s =>
    let spec := { spec with disks := request.disks }
    if uuids.length = spec.diskSpecs.length then
      (createVm spec node uuid domainUuid uuids s.db).map fun db => { s with db := db }
    else none
  | .count vm, s => some { s with counted := (vm, diskCount s.db vm) :: s.counted }
  | .attach a uuid, s =>
    if (a.vm, a.named) ∈ s.counted ∧ (a.vm, a.indexed) ∈ s.counted then
      (insertDisk uuid a.row s.db).map fun db => { s with db := db }
    else none
  | .detach disk, s =>
    match Table.get s.db.disks disk with
    | some d => if d.bootable then none else some { s with db := { s.db with disks := Table.remove s.db.disks disk } }
    | none => none
  | .list vm, s => some { s with listed := s.db.disksOf vm ++ s.listed }
  | .copy i clone volumeId uuid, s => do
    let disk ← s.listed[i]?
    let db ← insertDisk uuid (copyRow clone volumeId disk) s.db
    return { s with db := db }
  | .deleteVm vm, s =>
    (s.db.write 0 ⟨0⟩ (.vmDelete vm)).toOption.map fun db => { s with db := db }
  | .elsewhere db, s =>
    if db.disks.map label = s.db.disks.map label ∧ db.disks.all (refers db) then some { s with db := db } else none

/-! ## Names of clones -/

/-- The `new_name`s of the CLONE_DISK operations that `clone_vm_task` sends. -/
def newNames (t : Tables) (source clone : VmRow) (linked : Bool) : List String :=
  (t.disksWithStorage source.pk).map fun d =>
    (cloneDiskRequest source clone d.1 d.2 linked).payload.getStr "new_name" ""

/-- What the backends take in a name that comes after a uuid and a hyphen. -/
def plain (name : String) : Bool :=
  let chars := if name.toList.getLast? = some '\n' then name.toList.dropLast else name.toList
  chars.length ≤ 91 ∧ chars.all fun c => c.isAlphanum || ['.', '_', '-'].contains c

end NodePilot.DiskNames
