import NodePilot.Lib.Footprint
import NodePilot.Lib.Pool
import NodePilot.Tasks

/-!
# Lifecycle requests

The request side of `apps/virtual_machines/services.py`: the entry points that check the VM a view
has loaded, create a job and leave the work to a task. A request that is accepted and the task it
enqueues are one thread here: between any two of their operations, the wait in the broker
included, other requests and tasks may run.
-/

namespace NodePilot

open Lib

/-! ## Texts -/

/-- The stored value of a `JobType`. -/
def JobType.value : JobType → String
  | .vmCreate => "VM_CREATE"
  | .vmStart => "VM_START"
  | .vmStop => "VM_STOP"
  | .vmShutdown => "VM_SHUTDOWN"
  | .vmReboot => "VM_REBOOT"
  | .vmReset => "VM_RESET"
  | .vmPause => "VM_PAUSE"
  | .vmResume => "VM_RESUME"
  | .vmDelete => "VM_DELETE"
  | .vmClone => "VM_CLONE"
  | .vmMigrate => "VM_MIGRATE"
  | .diskCreate => "DISK_CREATE"
  | .diskDelete => "DISK_DELETE"
  | .diskResize => "DISK_RESIZE"
  | .diskAttach => "DISK_ATTACH"
  | .diskDetach => "DISK_DETACH"
  | .nicAttach => "NIC_ATTACH"
  | .nicDetach => "NIC_DETACH"
  | .networkCreate => "NETWORK_CREATE"
  | .networkDelete => "NETWORK_DELETE"
  | .snapshotCreate => "SNAPSHOT_CREATE"
  | .snapshotDelete => "SNAPSHOT_DELETE"
  | .snapshotRollback => "SNAPSHOT_ROLLBACK"
  | .backupCreate => "BACKUP_CREATE"
  | .backupRestore => "BACKUP_RESTORE"
  | .imageImport => "IMAGE_IMPORT"
  | .webhookDelivery => "WEBHOOK_DELIVERY"
  | .storagePoolCreate => "STORAGE_POOL_CREATE"

/-- The stored value of a `VMStatus`. -/
def VMStatus.value : VMStatus → String
  | .creating => "CREATING"
  | .stopped => "STOPPED"
  | .running => "RUNNING"
  | .paused => "PAUSED"
  | .suspended => "SUSPENDED"
  | .migrating => "MIGRATING"
  | .error => "ERROR"
  | .deleting => "DELETING"
  | .unknown => "UNKNOWN"

/-! ## Operations of a request -/

/-- What a request does beyond what a task does. -/
inductive ServiceOp
  | task (o : Op)
  /-- `create_job(...)` -/
  | createJob (row : JobRow)
  /-- `check_and_reserve(...)` for a clone of the VM. -/
  | checkAndReserve (vm : VmRow)

@[reducible]
def ServiceAns : ServiceOp → Type
  | .task o => Ans o
  | .createJob _ => Except Exn JobRow
  | .checkAndReserve _ => Except Exn Unit

abbrev ServiceM (α : Type) : Type := Script ServiceOp ServiceAns Exn Unit α

/-- A task body, among the operations of requests. -/
def ofTask {α : Type} (x : TaskM Unit α) : ServiceM α := x.translate .task fun _ a => a

/-- A fallible operation of a request. -/
def call {α : Type} (x : ServiceM (Except Exn α)) : ServiceM α := do
  match ← x with
  | .ok a => return a
  | .error e => throw e

/-- `create_job` -/
def createJob (type : JobType) (resourceId : String) (createdBy : Option Nat) : ServiceM JobRow :=
  call (Script.perform (ServiceOp.createJob
    { pk := 0, uuid := ⟨0⟩, type := type, resourceId := resourceId, createdBy := createdBy }))

/-! ## Entry points -/

/-- `_ALLOWED_FROM.get(job_type)` -/
def allowedFrom : JobType → Option (List VMStatus)
  | .vmStart => some [.stopped]
  | .vmStop => some [.running, .paused]
  | .vmShutdown => some [.running]
  | .vmReboot => some [.running]
  | .vmReset => some [.running, .paused]
  | .vmPause => some [.running]
  | .vmResume => some [.paused]
  | .vmDelete => some [.stopped, .error, .creating]
  | .vmClone => some [.stopped]
  | .vmMigrate => some [.running, .stopped]
  | _ => none

/-- The VM's status does not allow a job of the type. -/
def forbidden (type : JobType) (status : VMStatus) : Bool :=
  (allowedFrom type).any fun allowed => status ∉ allowed

/-- The optimistic look at the lock: taken without waiting, and released at once. -/
def precheckLock (vm : VmRow) : ServiceM Unit := do
  let acquired : Bool ← Script.perform (ServiceOp.task (.acquire (.lifecycle vm.uuid) 120))
  if acquired then
    Script.perform (ServiceOp.task (.release (.lifecycle vm.uuid)))
  else
    throw (.resourceLocked ("VM " ++ vm.name ++ " has another lifecycle operation in progress."))

/-- `_start_lifecycle_job` -/
def startLifecycleJob (vm : VmRow) (type : JobType) (requestedBy : Option Nat) :
    ServiceM JobRow :=
  if forbidden type vm.status then
    throw (.invalidStateTransition
      ("Cannot " ++ type.value ++ " a VM in status " ++ vm.status.value))
  else do
    precheckLock vm
    createJob type vm.uuid.str requestedBy

/-- `clone_vm`, up to the task it enqueues. -/
def cloneVm (vm : VmRow) (requestedBy : Option Nat) : ServiceM JobRow :=
  if forbidden .vmClone vm.status then
    throw (.invalidStateTransition "VM must be stopped before cloning.")
  else do
    call (Script.perform (ServiceOp.checkAndReserve vm))
    createJob .vmClone vm.uuid.str requestedBy

/-- The lifecycle requests, as `start_vm`, `stop_vm`, ... receive them. -/
inductive LifecycleRequest
  | start
  | stop (force : Bool)
  | reboot (force : Bool)
  | pause
  | resume
  | delete
  | clone (newName : String) (linked : Bool)
deriving DecidableEq

namespace LifecycleRequest

/-- The type of the job that the request creates. -/
def jobType : LifecycleRequest → JobType
  | start => .vmStart
  | stop force => if force then .vmStop else .vmShutdown
  | reboot force => if force then .vmReset else .vmReboot
  | pause => .vmPause
  | resume => .vmResume
  | delete => .vmDelete
  | clone _ _ => .vmClone

/-- The task that the request enqueues. -/
def task (vm : Nat) : LifecycleRequest → Task
  | start => .startVm vm
  | stop _ => .stopVm vm
  | reboot _ => .rebootVm vm
  | pause => .pauseVm vm
  | resume => .resumeVm vm
  | delete => .deleteVm vm
  | clone newName linked => .cloneVm vm newName linked

/-- The service function the view calls with the VM it has loaded. -/
def service (vm : VmRow) (requestedBy : Option Nat) : LifecycleRequest → ServiceM JobRow
  | clone _ _ => cloneVm vm requestedBy
  | r => startLifecycleJob vm r.jobType requestedBy

/-- The request and then its task. -/
def script (taskId : String) (requestedBy : Option Nat) (vm : VmRow) (r : LifecycleRequest) :
    ServiceM Unit := do
  let job ← r.service vm requestedBy
  ofTask ((r.task vm.pk).run taskId job.pk)

end LifecycleRequest

/-! ## Side by side -/

/-- The status that a write gives to the VM: `none` if it writes no status of it, `some none` if it
deletes the row. -/
def Write.vmStatus (vm : Nat) : Write → Option (Option VMStatus)
  | .vmSave pk fields => if pk = vm then fields.status.map some else none
  | .vmDelete pk => if pk = vm then some none else none
  | _ => none

/-- What the surroundings decide at one operation of a request or a task. -/
structure ServiceChoice extends Choice where
  /-- The quota does not admit the clone: the text of `QuotaExceeded`. -/
  overQuota : Option String := none

/-- What the requests and tasks about one VM share. -/
structure Site where
  world : World
  /-- The statuses that the VM's row was given, newest first, each with the thread that wrote it. -/
  marks : List (Option Nat × Option VMStatus)

namespace Site

/-- The status in the VM's row. -/
def rowStatus (vm : Nat) (w : World) : Option VMStatus := (Table.get w.db.vms vm).map VmRow.status

/-- The row as the requests find it at first. -/
def start (vm : Nat) (w : World) : Site := ⟨w, [(none, rowStatus vm w)]⟩

/-- The VM's status as the other threads have left it: what the thread wrote itself is set aside. -/
def leftTo (s : Site) (thread : Nat) : Option VMStatus :=
  (s.marks.find? fun m => m.1 ≠ some thread).bind Prod.snd

/-- What an operation leaves in `marks`. -/
def mark (vm thread : Nat) : (o : Op) → Ans o → List (Option Nat × Option VMStatus)
  | .write x, .ok () => ((x.vmStatus vm).map fun st => (some thread, st)).toList
  | _, _ => []

/-- One operation of a thread. The locks are held by whoever took them. -/
def act (vm : Nat) (c : ServiceChoice) (thread : Nat) :
    (o : ServiceOp) → Site → Option (ServiceAns o × Site)
  | .task o, s =>
    let r := World.answer c.toChoice o s.world
    some (r.1, ⟨r.2, mark vm thread o r.1 ++ s.marks⟩)
  | .createJob row, s =>
    if c.dbFails then some (.error .databaseError, s)
    else
      let db := s.world.db
      let row := { row with pk := Table.nextPk db.jobs, uuid := c.uuid }
      some (.ok row, { s with world := { s.world with db := { db with jobs := db.jobs ++ [row] } } })
  | .checkAndReserve _, s =>
    match c.overQuota with
    | some message => some (.error (.api "QUOTA_EXCEEDED" message), s)
    | none => some (.ok (), s)

/-- What happens around the threads. -/
inductive Event
  /-- A view loads the VM and calls the service. -/
  | request (r : LifecycleRequest) (requestedBy : Option Nat) (taskId : String)
  /-- `request_cancel` -/
  | cancel (job now : Nat)

/-- A thread: a request and its task. -/
abbrev Worker : Type := Thread LifecycleRequest ServiceOp ServiceAns (Except Exn Unit × Unit)

def env (vm : Nat) : Event → Site → Option (List Worker × Site)
  | .request r requestedBy taskId, s =>
    (Table.get s.world.db.vms vm).map fun row =>
      ([⟨r, (r.script taskId requestedBy row).prog ()⟩], s)
  | .cancel job now, s =>
    some ([], { s with world := { s.world with db := s.world.db.requestCancel now (some job) } })

/-- The requests about one VM, and their tasks. -/
def system (vm : Nat) :
    System LifecycleRequest ServiceOp ServiceAns (Except Exn Unit × Unit) Site ServiceChoice Event :=
  ⟨act vm, env vm⟩

end Site

end NodePilot
