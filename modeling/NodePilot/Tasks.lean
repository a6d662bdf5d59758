import NodePilot.Tasks.Storage

/-!
# Task messages

What the broker delivers to a worker: the name of a task, the key of its job and the arguments
that follow. A worker runs the task's body inside `JobBoundTask`.
-/

namespace NodePilot

open Lib

/-- A message to a worker: a task with the arguments that follow the job's key. -/
inductive Task
  | provisionVm (vm : Nat)
  | startVm (vm : Nat)
  | stopVm (vm : Nat)
  | rebootVm (vm : Nat)
  | pauseVm (vm : Nat)
  | resumeVm (vm : Nat)
  | deleteVm (vm : Nat)
  | cloneVm (vm : Nat) (newName : String) (linked : Bool)
  | attachDisk (disk : Nat)
  | detachDisk (disk : Nat)
  | resizeDisk (disk newSizeBytes : Nat)
  | attachNic (nic : Nat)
  | detachNic (nic : Nat)
  | createSnapshot (snapshot : Nat)
  | deleteSnapshot (snapshot : Nat)
  | rollbackSnapshot (snapshot : Nat)
  | createBackup (backup : Nat)
  | restoreBackup (backup : Nat)
  | createNetwork (network : Nat)
  | deleteNetwork (network : Nat)
  | createStoragePool (pool : Nat)
deriving DecidableEq

/-- The body a task message runs. -/
def Task.body (jobId : Nat) : Task → TaskM Unit Unit
  | .provisionVm vm => NodePilot.provisionVm jobId vm
  | .startVm vm => startVmTask jobId vm
  | .stopVm vm => stopVmTask jobId vm
  | .rebootVm vm => rebootVmTask jobId vm
  | .pauseVm vm => pauseVmTask jobId vm
  | .resumeVm vm => resumeVmTask jobId vm
  | .deleteVm vm => deleteVmTask jobId vm
  | .cloneVm vm newName linked => cloneVmTask jobId vm newName linked
  | .attachDisk disk => attachDiskTask jobId disk
  | .detachDisk disk => detachDiskTask jobId disk
  | .resizeDisk disk newSizeBytes => resizeDiskTask jobId disk newSizeBytes
  | .attachNic nic => attachNicTask jobId nic
  | .detachNic nic => detachNicTask jobId nic
  | .createSnapshot snapshot => createSnapshotTask jobId snapshot
  | .deleteSnapshot snapshot => deleteSnapshotTask jobId snapshot
  | .rollbackSnapshot snapshot => rollbackSnapshotTask jobId snapshot
  | .createBackup backup => createBackupTask jobId backup
  | .restoreBackup backup => restoreBackupTask jobId backup
  | .createNetwork network => createNetworkTask jobId network
  | .deleteNetwork network => deleteNetworkTask jobId network
  | .createStoragePool pool => createStoragePoolTask jobId pool

/-- One execution of a task message, with what `JobBoundTask` adds. -/
def Task.run (taskId : String) (jobId : Nat) (task : Task) : TaskM Unit Unit :=
  jobBound taskId jobId (task.body jobId)

/-- The world after one execution of a task message. -/
def Task.execute (taskId : String) (jobId : Nat) (task : Task) (w : World) : World :=
  (Script.exec World.handle (task.run taskId jobId) () w).2.2

/-- The world after one execution that no exception leaves. -/
def Task.succeed (taskId : String) (jobId : Nat) (task : Task) (w : World) : Option World :=
  match Script.exec World.handle (task.run taskId jobId) () w with
  | (.ok _, _, w') => some w'
  | (.error _, _, _) => none

/-- The status in the job's row. -/
def World.jobStatus (w : World) (job : Nat) : Option JobStatus :=
  (Table.get w.db.jobs job).map JobRow.status

/-- The requests that left the controller, newest first. -/
def World.calls (w : World) : List AgentRequest :=
  w.trace.filterMap fun
    | .call r _ o => if o.sent then some r else none
    | _ => none

/-- What became of the agent calls, oldest first. -/
def World.exchanges (w : World) : List (AgentRequest × AgentOutcome) :=
  (w.trace.filterMap fun
    | .call r _ o => some (r, o)
    | _ => none).reverse

/-- The requests that an agent has confirmed, with its answers, oldest first. -/
def World.confirmed (w : World) : List (AgentRequest × Dict) :=
  (w.trace.filterMap fun
    | .call r _ (.ok data) => some (r, data)
    | _ => none).reverse

end NodePilot
