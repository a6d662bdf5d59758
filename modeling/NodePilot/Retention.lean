import NodePilot.Restores

/-!
# Deleting backups

`delete_backup` and `apply_retention` of `apps/backups/services.py`, beside the tasks that make and
restore backups. Nobody takes a lock here, and nobody looks at the status that is replaced: every
object is saved with the status that its thread gives it.
-/

namespace NodePilot.Retention

open Lib

/-- `delete_backup` -/
def deleteBackup (backup : BackupRow) : TaskM Unit Unit :=
  save (.backupSave backup.pk { status := .deleted })

/-- The query of `apply_retention`, in the order of `Backup`. -/
def expired (t : Tables) (target now : Nat) : List BackupRow :=
  (t.backups.filter fun b => b.target = target ∧ b.status = .completed ∧
    b.retentionExpiresAt.any (· < now)).reverse

/-- `apply_retention`. Counting is a query of its own. -/
def applyRetention (target : Nat) : TaskM Unit Nat := do
  let now ← now
  let count := (expired (← query) target now).length
  (expired (← query) target now).forM deleteBackup
  return count

/-! ## Side by side -/

inductive Request
  /-- `restore_backup` and the task it enqueues. -/
  | restore (backup : Nat)
  /-- A message is delivered, for the first time or again. -/
  | createTask (backup : Nat)
  | restoreTask (backup : Nat)
  /-- `delete_backup` -/
  | delete (backup : Nat)
  /-- `apply_retention` -/
  | retention (target : Nat)
deriving DecidableEq

/-- A thread: a request, a task or a sweep. -/
abbrev Worker : Type := Thread Request ServiceOp ServiceAns (Except Exn Unit × Unit)

/-- What the request does from now on. A view has loaded the backup. -/
def Request.script (w : World) (taskId : String) (jobId : Nat) (requestedBy : Option Nat) :
    Request → Option (ServiceM Unit)
  | .restore backup => (w.db.loadBackup backup).map fun found =>
      restoreScript taskId requestedBy found.1 found.2.1
  | .createTask backup => some (ofTask ((Task.createBackup backup).run taskId jobId))
  | .restoreTask backup => some (ofTask ((Task.restoreBackup backup).run taskId jobId))
  | .delete backup => (Table.get w.db.backups backup).map fun b => ofTask (deleteBackup b)
  | .retention target => some (ofTask do
      let _ ← applyRetention target)

inductive Event
  | request (r : Request) (taskId : String) (jobId : Nat) (requestedBy : Option Nat)
  /-- `create_backup` leaves a backup that is PENDING. -/
  | create (uuid : Uuid) (vm target : Nat) (type : BackupType)
  /-- `run_scheduled_backup` says when the backup expires. -/
  | schedule (uuid : Uuid) (expires : Nat)
  /-- Others change other rows, and hold other locks. -/
  | elsewhere (db : Tables) (busy : List LockKey)

def env : Event → World → Option (List Worker × World)
  | .request r taskId jobId requestedBy, w =>
    (r.script w taskId jobId requestedBy).map fun x => ([⟨r, x.prog ()⟩], w)
  | .create uuid vm target type, w =>
    let row : BackupRow :=
      { pk := Table.nextPk w.db.backups, uuid := uuid, vm := vm, target := target, type := type }
    some ([], { w with db := { w.db with backups := w.db.backups ++ [row] } })
  | .schedule uuid expires, w =>
    some ([], { w with db := { w.db with backups := w.db.backups.map fun b =>
      if b.uuid = uuid then { b with retentionExpiresAt := some expires } else b } })
  | .elsewhere db busy, w =>
    some ([], { w with db := { db with backups := w.db.backups }, busy := busy })

/-- One operation of a thread, as beside lifecycle requests. -/
def act (c : ServiceChoice) (thread : Nat) (o : ServiceOp) (w : World) :
    Option (ServiceAns o × World) :=
  (Site.act 0 c thread o ⟨w, []⟩).map fun r => (r.1, r.2.world)

/-- The requests and tasks about backups. -/
def system : System Request ServiceOp ServiceAns (Except Exn Unit × Unit) World ServiceChoice Event :=
  ⟨act, env⟩

/-- The status in the backup's row. -/
def statusOf (w : World) (backup : Nat) : Option BackupStatus :=
  (Table.get w.db.backups backup).map BackupRow.status

end NodePilot.Retention
