import NodePilot.Services

/-!
# Restoring a backup

`restore_backup` of `apps/backups/services.py`, beside the lifecycle requests about the same VM. The
service looks at the status of the VM and at its storage lock; the lifecycle requests look at the
status and at the lifecycle lock. The tasks of the two hold the lock that their request looked at.
-/

namespace NodePilot

open Lib

/-- The stored value of a `BackupStatus`. -/
def BackupStatus.value : BackupStatus → String
  | .pending => "PENDING"
  | .running => "RUNNING"
  | .verifying => "VERIFYING"
  | .completed => "COMPLETED"
  | .failed => "FAILED"
  | .restoring => "RESTORING"
  | .deleted => "DELETED"

/-- The look of the backup services at the storage lock. -/
def precheckStorage (vm : VmRow) : ServiceM Unit := do
  let acquired : Bool ← Script.perform (ServiceOp.task (.acquire (.storage vm.uuid) 300))
  if acquired then
    Script.perform (ServiceOp.task (.release (.storage vm.uuid)))
  else
    throw (.resourceLocked ("VM " ++ vm.name ++ " has a storage operation in progress."))

/-- `restore_backup`, up to the task it enqueues. The exception about a VM that is not stopped is given an argument
that its class does not take, so a `TypeError` is raised in its place. -/
def restoreBackup (backup : BackupRow) (vm : VmRow) (requestedBy : Option Nat) : ServiceM JobRow :=
  if backup.status ≠ .completed then
    throw (.invalidStateTransition ("Cannot restore a backup in status " ++ backup.status.value))
  else if vm.status ≠ .stopped then
    throw (.typeError "NodePilotAPIException.__init__() got an unexpected keyword argument 'status_code'")
  else do
    precheckStorage vm
    createJob .backupRestore backup.uuid.str requestedBy

/-- The request to restore a backup, and then its task. -/
def restoreScript (taskId : String) (requestedBy : Option Nat) (backup : BackupRow) (vm : VmRow) :
    ServiceM Unit := do
  let job ← restoreBackup backup vm requestedBy
  ofTask ((Task.restoreBackup backup.pk).run taskId job.pk)

namespace Restores

/-- What is requested of a VM. -/
inductive Request
  | lifecycle (r : LifecycleRequest)
  | restore (backup : Nat)

/-- What happens around the threads. -/
inductive Event
  /-- A view loads the VM, or the backup with its VM, and calls the service. -/
  | request (r : Request) (requestedBy : Option Nat) (taskId : String)
  /-- `request_cancel` -/
  | cancel (job now : Nat)

/-- A thread: a request and its task. -/
abbrev Worker : Type := Thread Request ServiceOp ServiceAns (Except Exn Unit × Unit)

def env (vm : Nat) : Event → Site → Option (List Worker × Site)
  | .request (.lifecycle r) requestedBy taskId, s =>
    (Table.get s.world.db.vms vm).map fun row =>
      ([⟨.lifecycle r, (r.script taskId requestedBy row).prog ()⟩], s)
  | .request (.restore backup) requestedBy taskId, s =>
    match s.world.db.loadBackup backup with
    | some (b, row, _) =>
      if b.vm = vm then
        some ([⟨.restore backup, (restoreScript taskId requestedBy b row).prog ()⟩], s)
      else none
    | none => none
  | .cancel job now, s =>
    some ([], { s with world := { s.world with db := s.world.db.requestCancel now (some job) } })

/-- The lifecycle requests and the restores about one VM, and their tasks. A thread that has come to
a `send` has sent it, and goes on when it has the answer. -/
def system (vm : Nat) :
    System Request ServiceOp ServiceAns (Except Exn Unit × Unit) Site ServiceChoice Event :=
  ⟨Site.act vm, env vm⟩

end Restores

end NodePilot
