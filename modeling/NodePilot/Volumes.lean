import NodePilot.Agent.DomainXml
import NodePilot.Agent.Dispatcher
import NodePilot.Lib.Pool
import NodePilot.Tasks
import Mathlib.Logic.Function.Basic

/-!
# The volumes of a node

`operations/disk_ops.py`, `operations/backup_ops.py` and `storage/directory.py`, as far as the files
of DIRECTORY and NFS pools are concerned. A linked clone of a qcow2 volume is an overlay: it names
the volume it was made from as its backing file. The controller has no record of that.

A task may end as it will; what the agent has carried out of it has happened to the files. A domain
that is started may write to the disks of its VM that are not read-only, and restoring or resizing a
volume writes to it. `spoilt` collects the volumes of disks whose backing file was removed or written.
-/

namespace NodePilot.Volumes

open Lib Agent

/-! ## Files -/

inductive VolumeFormat
  | qcow2 | raw
deriving DecidableEq

structure VolumeFile where
  format : VolumeFormat := .qcow2
  /-- `qemu-img create -b` -/
  backing : Option String := none

/-- The volumes of a node by their path. -/
abbrev Files : Type := String → Option VolumeFile

/-- The backing file of the volume. -/
def Files.backing (f : Files) (volume : String) : Option String :=
  (f volume).bind VolumeFile.backing

/-- `_SAFE_NAME`. Its `$` also matches before a line feed at the end. -/
def safeName (name : String) : Bool :=
  let chars := if name.toList.getLast? = some '\n' then name.toList.dropLast else name.toList
  match chars with
  | [] => false
  | c :: cs => c.isAlphanum ∧ cs.length ≤ 127 ∧ cs.all fun c => c.isAlphanum || ['.', '_', '-'].contains c

/-- `DirectoryBackend._path_for`, of a name that it accepts. -/
def pathFor (poolPath name : String) : String :=
  String.ofList (joinPath poolPath.toList name.toList)

/-- The volume that `clone_vm_task` asks for. -/
def cloneName (clone : Uuid) (disk : String) : String := clone.str ++ "-" ++ disk

/-! ## Operations -/

/-- The pool's backend keeps its volumes in files. -/
def inFiles (r : AgentRequest) : Prop :=
  r.payload.getStr "storage_type" "" = "DIRECTORY" ∨ r.payload.getStr "storage_type" "" = "NFS"

instance (r : AgentRequest) : Decidable (inFiles r) := inferInstanceAs (Decidable (_ ∨ _))

/-- `delete_volume` -/
def deleteVolume (f : Files) (volume : String) : List String × Files :=
  if (f volume).isSome then ([volume], Function.update f volume none) else ([], f)

/-- `clone_volume`, which a confirmation names the path of. -/
def cloneVolume (f : Files) (r : AgentRequest) (reply : Option Dict) :
    Option (List String × Files) := do
  let source := r.payload.getStr "source_volume_id" ""
  let name := r.payload.getStr "new_name" ""
  let file ← f source
  let dest := pathFor (r.payload.getStr "storage_path" "") name
  if safeName name ∧ ∀ data ∈ reply, data.getStr "volume_id" "" = dest then
    let new : VolumeFile :=
      if flag r.payload "linked" ∧ file.format = .qcow2 then ⟨.qcow2, some source⟩
      else ⟨file.format, none⟩
    return ([dest], Function.update f dest (some new))
  else none

/-- `restore_backup`: `qemu-img convert` makes the volume anew. -/
def restoreVolume (f : Files) (r : AgentRequest) : Option (List String × Files) :=
  let volume := r.payload.getStr "volume_id" ""
  let format := if r.payload.getStr "format" "qcow2" = "qcow2" then .qcow2 else .raw
  if volume = "" then none
  else some ([volume], Function.update f volume (some { format := format }))

/-- The volumes on DIRECTORY and NFS pools of the disks that `p` selects. -/
def volumesWhere (t : Tables) (p : DiskRow → Bool) : List String :=
  (t.disks.filter fun d => p d ∧ ∃ pool ∈ Table.get t.pools d.storage,
    pool.type = .directory ∨ pool.type = .nfs).map DiskRow.volumeId

/-- The volumes that a domain may write to once it is started. The agent looks the domain up by the
resource id, which is the VM's `uuid`; the XML of a domain has the VM's `domain_uuid`. -/
def started (t : Tables) (resourceId : String) : List String :=
  (t.vms.filter fun v => v.uuid.str = resourceId ∨ v.domainUuid.str = resourceId).flatMap fun v =>
    volumesWhere t fun d => d.vm = v.pk ∧ ¬ d.readonly

/-- What the agent removes or writes to carry out an operation, and the files then. -/
def serve (t : Tables) (f : Files) (r : AgentRequest) (reply : Option Dict) :
    Option (List String × Files) :=
  let volume := r.payload.getStr "volume_id" ""
  match r.operation with
  | .deleteDisk => some (if inFiles r then deleteVolume f volume else ([], f))
  | .resizeDisk => if inFiles r then (f volume).map fun _ => ([volume], f) else some ([], f)
  | .cloneDisk => if inFiles r then cloneVolume f r reply else some ([], f)
  | .restoreBackup => restoreVolume f r
  | .startVm => some (started t r.resourceId, f)
  | _ => some ([], f)

/-- The operations of a task that were carried out, with the answers that arrived, oldest first. -/
def carriedOut (w : World) : List (AgentRequest × Option Dict) :=
  (w.trace.filterMap fun
    | .call r _ (.ok data) => some (r, some data)
    | .call r _ (.timedOut true) => some (r, none)
    | _ => none).reverse

/-- One operation after the other. Each file that is touched is noted with the files at that time. -/
def serveAll (t : Tables) : List (AgentRequest × Option Dict) → Files →
    Option (List (String × Files) × Files)
  | [], f => some ([], f)
  | (r, reply) :: rest, f => do
    let (touched, f₁) ← serve t f r reply
    let (later, f₂) ← serveAll t rest f₁
    return (touched.map (·, f) ++ later, f₂)

/-! ## Runs -/

/-- The operations on a VM or its disks. -/
inductive Operation
  | clone (vm : Nat) (newName : String) (linked : Bool)
  | start (vm : Nat)
  | delete (vm : Nat)
  | detachDisk (disk : Nat)
  | resizeDisk (disk newSizeBytes : Nat)
  | restoreBackup (backup : Nat)

/-- The message that a worker gets. -/
def Operation.task : Operation → Task
  | clone vm newName linked => .cloneVm vm newName linked
  | start vm => .startVm vm
  | delete vm => .deleteVm vm
  | detachDisk disk => .detachDisk disk
  | resizeDisk disk newSizeBytes => .resizeDisk disk newSizeBytes
  | restoreBackup backup => .restoreBackup backup

/-- One execution of a task, with what its surroundings decide. -/
structure Execution where
  taskId : String := ""
  jobId : Nat
  operation : Operation
  /-- The locks that others hold. -/
  busy : List LockKey := []
  script : Nat → Choice := fun _ => {}

inductive Event
  | execute (x : Execution)
  /-- Others write rows that are neither VMs nor disks. -/
  | elsewhere (db : Tables)

structure State where
  db : Tables
  files : Files
  /-- The volumes of disks whose backing file was removed or written. -/
  spoilt : List String := []

/-- The disks that lose by a file's being touched. -/
def losers (disks : List DiskRow) (touched : String × Files) : List String :=
  (disks.filter fun d => touched.2.backing d.volumeId = some touched.1).map DiskRow.volumeId

/-- The world after the task. -/
def Execution.world (x : Execution) (s : State) : World :=
  x.operation.task.execute x.taskId x.jobId { db := s.db, busy := x.busy, script := x.script }

def step : Event → State → Option State
  | .execute x, s => do
    let w := x.world s
    let (touched, files) ← serveAll s.db (carriedOut w) s.files
    return { db := w.db, files := files
             spoilt := s.spoilt ++ touched.flatMap (losers (s.db.disks ++ w.db.disks)) }
  | .elsewhere db, s => some { s with db := { db with vms := s.db.vms, disks := s.db.disks } }

end NodePilot.Volumes
