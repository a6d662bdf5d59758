import NodePilot.Devices

/-!
# Resizes of one disk

Requests to resize a disk, and the runs of `resize_disk_task` that come of them, side by side. A view loads the disk
before the service compares sizes, and the task loads it before it takes the lock. The broker may give a message to
workers more than once, and in any order.

A volume on the host is as large as the largest size it was resized to. A smaller one is refused or truncates it,
as the storage backend has it.
-/

namespace NodePilot.Resizes

open Lib Devices

structure State where
  desk : Desk
  /-- The size of the volume on the host. -/
  host : Nat
  /-- The sizes that were sent, newest first, each with the size on the host at that time. -/
  sent : List (Nat × Nat) := []
  /-- The sizes that the row has had, newest first. -/
  sizes : List Nat

/-- The row's size. -/
def rowSize (disk : Nat) (t : Tables) : Option Nat := (Table.get t.disks disk).map DiskRow.sizeBytes

/-- A disk that is as large on the host as in its row. -/
def start (world : World) (size : Nat) : State := { desk := { world := world }, host := size, sizes := [size] }

/-- RESIZE_DISK is sent. -/
def State.send (s : State) (outcome : AgentOutcome) (newSizeBytes : Nat) : State :=
  if outcome.sent then
    { s with
      sent := (newSizeBytes, s.host) :: s.sent
      host := if outcome.performed then max s.host newSizeBytes else s.host }
  else s

/-- What an operation does to the disk. -/
def State.note (disk : Nat) (outcome : AgentOutcome) : (o : Devices.Op) → Devices.Ans o → State → State
  | .service (.task (.send (some _) r _)), _, s =>
    if r.operation = .resizeDisk then s.send outcome (r.payload.getInt "new_size_bytes" 0).toNat else s
  | .service (.task (.write (.diskSize pk sizeBytes))), .ok (), s =>
    if pk = disk then { s with sizes := sizeBytes :: s.sizes } else s
  | _, _, s => s

/-- One operation of a request or a task. -/
def act (disk : Nat) (c : Devices.Choice) (_ : Nat) (o : Devices.Op) (s : State) : Option (Devices.Ans o × State) :=
  let r := Desk.answer c o s.desk
  some (r.1, { s.note disk c.agent o r.1 with desk := r.2 })

inductive Event
  /-- `VirtualMachineViewSet.resize_disk` loads the VM and the disk, and calls the service. -/
  | request (newSizeGb : Int) (requestedBy : Option Nat)
  /-- A worker is given the message. -/
  | deliver (message : Nat) (taskId : String)
  /-- Others write. They may delete the disk, and do not resize it. -/
  | elsewhere (db : Tables)

inductive Part
  | request
  | run
deriving DecidableEq

abbrev Worker : Type := Thread Part Devices.Op Devices.Ans (Except Exn Unit × Unit)

def requestScript (vm : VmRow) (disk : DiskRow) (newSizeGb : Int) (requestedBy : Option Nat) : DeviceM Unit := do
  let _ ← Devices.resizeDisk vm disk newSizeGb requestedBy

def runScript (taskId : String) (job : Nat) (task : Task) : DeviceM Unit := ofService (ofTask (task.run taskId job))

def env (disk : Nat) : Event → State → Option (List Worker × State)
  | .request newSizeGb requestedBy, s => do
    let d ← Table.get s.desk.world.db.disks disk
    let vm ← Table.get s.desk.world.db.vms d.vm
    return ([⟨.request, (requestScript vm d newSizeGb requestedBy).prog ()⟩], s)
  | .deliver message taskId, s => do
    let (job, task) ← s.desk.queue[message]?
    return ([⟨.run, (runScript taskId job task).prog ()⟩], s)
  | .elsewhere db, s =>
    if rowSize disk db = none ∨ rowSize disk db = rowSize disk s.desk.world.db then
      some ([], { s with desk := s.desk.setDb db })
    else none

def system (disk : Nat) : System Part Devices.Op Devices.Ans (Except Exn Unit × Unit) State Devices.Choice Event :=
  ⟨act disk, env disk⟩

end NodePilot.Resizes
