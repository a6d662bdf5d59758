import NodePilot.Jobs
import NodePilot.Lib.Pool

/-!
# Workers on jobs

Any number of workers call the functions of `apps/jobs/services.py` side by side. Each call gets a
`Job` object, which may have been loaded at any time and changed in memory since, so nothing ties
its fields to the row. `transition` is one operation: it holds the row's lock from its read to its
save. Every other call gives way to other workers between its statements.
-/

namespace NodePilot

open Lib

/-- What a worker does with jobs, and with which objects. -/
inductive Work
  | transition (job : JobRow) (new : JobStatus) (message error : Option String)
  | setProgress (job : JobRow) (progress : Int) (message : Option String)
  | appendLog (job : JobRow) (line : String)
  | requestCancel (job : JobRow)
  /-- `with job_run(job, step):` around other work. -/
  | jobRun (job : JobRow) (step : String) (body : Work)
  | onFailure (job : Nat) (exc : Exn)
  | pass
  | raise (exc : Exn)
  | andThen (first second : Work)
  /-- `try:` with an `except` branch. -/
  | orElse (body handler : Work)

/-- The statements of the work. -/
def Work.script : Work → TaskM Unit Unit
  | .transition job new message error => NodePilot.transition job new message error
  | .setProgress job progress message => NodePilot.setProgress job progress message
  | .appendLog job line => NodePilot.appendLog job line
  | .requestCancel job => NodePilot.requestCancel job
  | .jobRun job step body => NodePilot.jobRun job step body.script
  | .onFailure job exc => NodePilot.onFailure job exc
  | .pass => return ()
  | .raise exc => throw exc
  | .andThen first second => do
    first.script
    second.script
  | .orElse body handler => tryCatch body.script fun _ => handler.script

namespace Workers

/-- What happens around the workers. -/
inductive Event
  | call (work : Work)
  /-- `create_job` -/
  | createJob (type : JobType) (resourceId : String) (createdBy : Option Nat) (uuid : Uuid)

abbrev Worker : Type := Thread Work Op Ans (Except Exn Unit × Unit)

def env : Event → World → Option (List Worker × World)
  | .call work, w => some ([⟨work, work.script.prog ()⟩], w)
  | .createJob type resourceId createdBy uuid, w =>
    let row := { pk := Table.nextPk w.db.jobs, uuid := uuid, type := type,
                 resourceId := resourceId, createdBy := createdBy }
    some ([], { w with db := { w.db with jobs := w.db.jobs ++ [row] } })

/-- The workers over one database. -/
def system : System Work Op Ans (Except Exn Unit × Unit) World Choice Event :=
  ⟨fun c _ o w => some (World.answer c o w), env⟩

/-- The row of a job. -/
def row (job : Nat) (p : Pool Work Op Ans (Except Exn Unit × Unit) World) : Option JobRow :=
  Table.get p.shared.db.jobs job

end Workers

end NodePilot
