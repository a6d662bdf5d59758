import NodePilot.Agent.Backup
import NodePilot.Tasks

/-!
# Restores and the archives they read

The executions of `restore_backup_task` together with the files and objects that its RESTORE_BACKUP
reaches from the node of the VM. The task makes one call at most, so what becomes of its call is one
decision of the surroundings.
-/

namespace NodePilot.Backups

open Lib Agent

/-- One execution of `restore_backup_task`, with what its surroundings decide. -/
structure Execution where
  taskId : String := ""
  jobId : Nat
  backup : Nat
  /-- The decisions at the task's operations, but for what becomes of the call. -/
  surroundings : Nat → Choice := fun _ => {}
  agent : AgentOutcome := .ok []
  tools : Tools
  /-- Where the agent answers with an error: its handler has run. -/
  handled : Bool := true

/-- The database, the locks that are held, and the files and objects that the node reaches. -/
structure State where
  db : Tables
  busy : List LockKey := []
  store : Store

/-- The agent's handler for the operation. -/
def handler (r : AgentRequest) : BackupM Unit :=
  match r.operation with
  | .createBackup => do let _ ← Agent.createBackup r.payload
  | .restoreBackup => Agent.restoreBackup r.payload
  | _ => pure ()

/-- The volume that a request would have overwritten. -/
def destination (r : AgentRequest) : Option Text :=
  match destinationVolume r.payload with
  | some (.str volumeId) => some volumeId.toList
  | _ => none

namespace Execution

variable (x : Execution) (s : State)

def script (i : Nat) : Choice := { x.surroundings i with agent := x.agent }

/-- The end of the task. -/
def run : Except Exn Unit × World :=
  let r := Script.exec World.handle ((Task.restoreBackup x.backup).run x.taskId x.jobId) ()
    { db := s.db, busy := s.busy, script := x.script }
  (r.1, r.2.2)

/-- What one operation does to the store, where its outcome agrees with it. -/
def serve (store : Store) (c : AgentRequest × AgentOutcome) : Option Store :=
  c.2.settle x.handled (x.tools.execute (handler c.1) store) store

/-- The store after the execution, with what was written in the course of it. -/
def store : Option Store := (x.run s).2.exchanges.foldlM x.serve { s.store with written := [] }

/-- RESTORE_BACKUP gets to its handler. -/
def reaches : Bool :=
  match x.agent with
  | .noAgent | .notConnected | .timedOut false => false
  | .failed _ => x.handled
  | .timedOut true | .ok _ => true

end Execution

end NodePilot.Backups
