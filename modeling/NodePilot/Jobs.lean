import NodePilot.Effects

/-!
# Jobs

`apps/jobs/services.py` and `apps/jobs/tasks.py`: the status machine of a job, the `job_run` step
that every task body is made of, and what `JobBoundTask` adds around a body. A task loads its
`Job` object once and never refreshes it, so the object is a value here; only the row changes.
-/

namespace NodePilot

open Lib

variable {L α : Type}

/-! ## Statements -/

/-- The answer of a fallible operation, raised or returned. -/
def orRaise : Except Exn α → TaskM L α
  | .ok a => pure a
  | .error e => throw e

/-- One query. -/
def query : TaskM L Tables := Script.perform Op.read

/-- One statement that writes rows. -/
def save (w : Write) : TaskM L Unit := do
  let answer : Except Exn Unit ← Script.perform (Op.write w)
  orRaise answer

/-- `VirtualMachine.objects.create(...)` -/
def insertVm (row : VmRow) : TaskM L VmRow := do
  let answer : Except Exn VmRow ← Script.perform (Op.createVm row)
  orRaise answer

/-- `send_operation` -/
def sendOperation (node : Option Nat) (request : AgentRequest) (timeout : Option Nat := none) :
    TaskM L Dict := do
  let answer : Except Exn Dict ← Script.perform (Op.send node request timeout)
  orRaise answer

/-- `emit_event` -/
def emitEvent (event : Event) : TaskM L Unit := do
  let answer : Except Exn Unit ← Script.perform (Op.emit event)
  orRaise answer

/-- A call whose exceptions are logged and dropped. -/
def swallow (x : TaskM L Unit) : TaskM L Unit := tryCatch x fun _ => pure ()

/-- An `if` without an `else`. -/
def onlyIf (c : Prop) [Decidable c] (x : TaskM L Unit) : TaskM L Unit := if c then x else pure ()

/-- `timezone.now()` -/
def now : TaskM L Nat := Script.perform Op.now

/-- `Model.objects.get(pk=...)` over the tables that `row` reads. -/
def getRow (model : String) (row : Tables → Option α) : TaskM L α := do
  match row (← query) with
  | some r => return r
  | none => throw (.doesNotExist model)

/-- `Job.objects.get(pk=...)` -/
def getJob (job : Nat) : TaskM L JobRow := getRow "Job" fun t => Table.get t.jobs job

/-! ## Locks -/

/-- `with RedisLock(...)`: the lock is released however the body ends. -/
def withLock (key : LockKey) (ttlSeconds : Nat) (body : TaskM L α) : TaskM L α := do
  let acquired : Bool ← Script.perform (Op.acquire key ttlSeconds)
  if acquired then
    let a ← tryCatch body fun e => do
      Script.perform (Op.release key)
      throw e
    Script.perform (Op.release key)
    return a
  else
    throw (.lockAcquisition key)

/-- `lifecycle_lock(vm)` -/
def lifecycleLock (vm : VmRow) : TaskM L α → TaskM L α := withLock (.lifecycle vm.uuid) 120

/-- `storage_lock(vm)` -/
def storageLock (vm : VmRow) : TaskM L α → TaskM L α := withLock (.storage vm.uuid) 300

/-! ## The status of a job -/

/-- `transition` -/
def transition (job : JobRow) (new : JobStatus) (message error : Option String := none) :
    TaskM L Unit :=
  save (.jobTransition job.pk new message error)

/-- `set_progress` -/
def setProgress (job : JobRow) (progress : Int) (message : Option String := none) :
    TaskM L Unit :=
  save (.jobProgress job.pk (max 0 (min 100 progress)).toNat (message.getD job.message))

/-- `append_log`: the logs are read, and written back longer by a line. -/
def appendLog (job : JobRow) (line : String) : TaskM L Unit := do
  let row ← getJob job.pk
  save (.jobLogs job.pk (row.logs ++ [line]))

/-- `request_cancel`. The status that decides is that of the caller's object. -/
def requestCancel (job : JobRow) : TaskM L Unit :=
  if job.status = .queued ∨ job.status = .running then
    transition job .canceling (some "Cancellation requested")
  else
    throw (.invalidStateTransition ("Job in status " ++ job.status.value ++ " cannot be canceled"))

/-- `is_cancel_requested` -/
def isCancelRequested (job : Nat) : TaskM L Bool := do
  let t ← query
  return (Table.get t.jobs job).any fun row => row.status = .canceling

/-- What `job_run` records of an exception that the block under it raised. -/
def jobRunExcept (job : JobRow) : Exn → TaskM L Unit
  | .jobCancelled _ => transition job .canceled (some "Canceled")
  | exc => transition job .failed none (some exc.str)

/-- `job_run`. The check for cancellation stands before the `try`. -/
def jobRun (job : JobRow) (step : String) (body : TaskM L α) : TaskM L α := do
  onlyIf (job.status = .queued) (transition job .running)
  let canceling ← isCancelRequested job.pk
  onlyIf canceling (throw (.jobCancelled job.uuid))
  onlyIf (step ≠ "") do
    setProgress job job.progress (some step)
    appendLog job step
  tryCatch body fun exc => do
    jobRunExcept job exc
    throw exc

/-- The end of a task's `except` branch: the job fails, unless its row is terminal already. -/
def failUnlessTerminal (job : JobRow) (exc : Exn) : TaskM L Unit := do
  let row ← getJob job.pk
  onlyIf (¬ row.isTerminal) (transition job .failed none (some exc.str))

/-! ## `JobBoundTask` -/

/-- `before_start` -/
def beforeStart (taskId : String) (job : Nat) : TaskM L Unit := save (.jobCeleryTaskId job taskId)

/-- `on_failure` -/
def onFailure (job : Nat) (exc : Exn) : TaskM L Unit := do
  match Table.get (← query).jobs job with
  | some row => onlyIf (¬ row.isTerminal) (transition row .failed none (some exc.str))
  | none => pure ()

/-- One execution of a task message by a worker. -/
def jobBound (taskId : String) (job : Nat) (body : TaskM L Unit) : TaskM L Unit :=
  tryCatch (do beforeStart taskId job; body) fun exc => do
    onFailure job exc
    throw exc

end NodePilot
