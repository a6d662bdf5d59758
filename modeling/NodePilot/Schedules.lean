import NodePilot.JsonText
import NodePilot.Lib.Prog
import NodePilot.Lib.Sequence
import NodePilot.Networks

/-!
# Backup schedules and Celery Beat

The schedules of `apps/backups/services.py`, the requests of `BackupScheduleViewSet` that write them, and the rows of
`django_celery_beat` they are wired to. Every statement is one step: there is no transaction around them
(`ATOMIC_REQUESTS` is off). Which cron fields and timezones a `CrontabSchedule` takes is Celery Beat's to say, and
that its rows are unique by these; any statement may be refused by the database.
-/

namespace NodePilot.Schedules

open Lib

/-! ## Rows -/

/-- The five fields of a cron expression. -/
structure CronFields where
  minute : String
  hour : String
  dayOfMonth : String
  monthOfYear : String
  dayOfWeek : String
deriving DecidableEq

/-- `CrontabSchedule` -/
structure CrontabSchedule where
  pk : Nat
  fields : CronFields
  timezone : String

/-- `PeriodicTask` -/
structure PeriodicTask where
  pk : Nat
  crontab : Option Nat
  name : String
  task : String
  args : String
  enabled : Bool := true

/-- What a request may say of a `BackupSchedule`. -/
structure Values where
  organization : Nat
  vm : Nat
  target : Nat
  backupType : String := "FULL"
  cronExpression : String
  timezone : String := "UTC"
  retentionDays : Nat := 30
  enabled : Bool := true

/-- `BackupSchedule` -/
structure BackupSchedule extends Values where
  pk : Nat
  uuid : Uuid
  periodicTask : Option Nat := none

instance : Row CrontabSchedule := ⟨CrontabSchedule.pk⟩

instance : Row PeriodicTask := ⟨PeriodicTask.pk⟩

instance : Row BackupSchedule := ⟨BackupSchedule.pk⟩

structure Database where
  schedules : Sequenced BackupSchedule := .empty
  tasks : Sequenced PeriodicTask := .empty
  crontabs : Sequenced CrontabSchedule := .empty

/-- The fields a request gives. -/
structure Changes where
  organization : Option Nat := none
  vm : Option Nat := none
  target : Option Nat := none
  backupType : Option String := none
  cronExpression : Option String := none
  timezone : Option String := none
  retentionDays : Option Nat := none
  enabled : Option Bool := none
deriving DecidableEq

/-- `setattr(schedule, field, value)`, for every field that is given. -/
def Changes.apply (fields : Changes) (values : Values) : Values where
  organization := fields.organization.getD values.organization
  vm := fields.vm.getD values.vm
  target := fields.target.getD values.target
  backupType := fields.backupType.getD values.backupType
  cronExpression := fields.cronExpression.getD values.cronExpression
  timezone := fields.timezone.getD values.timezone
  retentionDays := fields.retentionDays.getD values.retentionDays
  enabled := fields.enabled.getD values.enabled

/-! ## Statements -/

inductive Exn
  /-- The database refuses a statement, or a row to update is not there. -/
  | databaseError
  /-- A `CrontabSchedule` does not take its timezone, or its fields. -/
  | validationError
  | multipleObjectsReturned
  | doesNotExist
  /-- An expression does not have five fields. -/
  | valueError
  | keyError (key : String)
deriving DecidableEq

inductive Statement
  /-- `BackupSchedule.objects.create(...)` -/
  | createSchedule (uuid : Uuid) (values : Values)
  /-- `schedule.save(update_fields=list(fields))` -/
  | saveSchedule (schedule : Nat) (fields : Changes)
  /-- `schedule.save(update_fields=["periodic_task"])` -/
  | linkTask (schedule task : Nat)
  /-- `CrontabSchedule.objects.get_or_create(...)` -/
  | getOrCreateCrontab (fields : CronFields) (timezone : String)
  /-- `PeriodicTask.objects.create(...)` -/
  | createTask (crontab : Nat) (name task args : String) (enabled : Bool)
  /-- `schedule.periodic_task.save(update_fields=task_update_fields)` -/
  | saveTask (task : Nat) (crontab : Option Nat) (enabled : Option Bool)
  /-- `schedule.periodic_task.delete()` -/
  | deleteTask (task : Nat)
  /-- `schedule.delete()` -/
  | deleteSchedule (schedule : Nat)

/-- A statement returns the key of its row, or it raises. -/
abbrev ScheduleM (α : Type) : Type := Script Statement (fun _ => Except Exn Nat) Exn Unit α

def statement (o : Statement) : ScheduleM Nat := do
  match ← Script.perform o with
  | .ok pk => return pk
  | .error e => throw e

/-- A statement whose row is known. -/
def execute (o : Statement) : ScheduleM Unit := do
  let _ ← statement o
  return

/-! ## Services -/

/-- `cron_expression.split()` -/
def split (expression : String) : List String :=
  ((expression.toList.splitOnP Networks.isSpace).filter (· ≠ [])).map String.ofList

/-- `minute, hour, day_of_month, month_of_year, day_of_week = ...` -/
def unpack : List String → Option CronFields
  | [minute, hour, dayOfMonth, monthOfYear, dayOfWeek] => some ⟨minute, hour, dayOfMonth, monthOfYear, dayOfWeek⟩
  | _ => none

/-- The `CrontabSchedule` of an expression and a timezone. -/
def crontabOf (cronExpression timezone : String) : ScheduleM Nat :=
  match unpack (split cronExpression) with
  | some fields => statement (.getOrCreateCrontab fields timezone)
  | none => throw .valueError

def taskName (uuid : Uuid) : String := "backup-schedule-" ++ uuid.str

/-- `json.dumps([schedule.pk])` -/
def taskArgs (schedule : Nat) : String := Json.dumps (.arr [.int schedule])

/-- `_sync_periodic_task` -/
def syncPeriodicTask (schedule : BackupSchedule) : ScheduleM Unit := do
  let crontab ← crontabOf schedule.cronExpression schedule.timezone
  let task ← statement (.createTask crontab (taskName schedule.uuid) "backups.run_scheduled_backup"
    (taskArgs schedule.pk) schedule.enabled)
  execute (.linkTask schedule.pk task)

/-- `create_schedule`, with the UUID that is drawn for the row. It returns the key of the row. -/
def createSchedule (uuid : Uuid) (organization vm target : Nat) (backupType cronExpression : String)
    (timezoneName : String) (retentionDays : Nat) : ScheduleM Nat := do
  let values : Values :=
    { organization := organization, vm := vm, target := target, backupType := backupType
      cronExpression := cronExpression, timezone := timezoneName, retentionDays := retentionDays }
  let pk ← statement (.createSchedule uuid values)
  syncPeriodicTask { values with pk := pk, uuid := uuid }
  return pk

/-- `cron_or_tz_changed` -/
def cronOrTzChanged (schedule : Values) (fields : Changes) : Bool :=
  (fields.cronExpression.any fun expression => expression ≠ schedule.cronExpression) ||
    fields.timezone.any fun timezone => timezone ≠ schedule.timezone

/-- `if fields: schedule.save(update_fields=list(fields))` -/
def saveGiven (schedule : Nat) (fields : Changes) : ScheduleM Unit :=
  if fields = {} then pure () else execute (.saveSchedule schedule fields)

/-- `if task_update_fields: schedule.periodic_task.save(update_fields=task_update_fields)` -/
def saveTaskFields (task : Nat) (crontab : Option Nat) (enabled : Option Bool) : ScheduleM Unit :=
  if crontab.isNone && enabled.isNone then pure () else execute (.saveTask task crontab enabled)

/-- `update_schedule`, on a schedule as it is read. -/
def updateSchedule (schedule : BackupSchedule) (fields : Changes) : ScheduleM Unit := do
  let changed := cronOrTzChanged schedule.toValues fields
  let values := fields.apply schedule.toValues
  saveGiven schedule.pk fields
  match schedule.periodicTask with
  | none => return
  | some task =>
    if changed then
      let crontab ← crontabOf values.cronExpression values.timezone
      saveTaskFields task (some crontab) fields.enabled
    else saveTaskFields task none fields.enabled

/-- `delete_schedule`, on a schedule as it is read. -/
def deleteSchedule (schedule : BackupSchedule) : ScheduleM Unit :=
  match schedule.periodicTask with
  | some task => do
    execute (.deleteTask task)
    execute (.deleteSchedule schedule.pk)
  | none => execute (.deleteSchedule schedule.pk)

/-! ## Requests -/

/-- `validate_cron_expression`, with the validators of the five fields. -/
def validateCronExpression (validators : List (String → Bool)) (value : String) : Bool :=
  (split value).length = 5 && ((split value).zip validators).all fun field => field.2 field.1

/-- What `BackupScheduleSerializer` makes of a request to create a schedule. A field that has a default may be
missing. -/
structure Created where
  organization : Nat
  vm : Nat
  target : Nat
  backupType : Option String := none
  cronExpression : String
  timezone : Option String := none
  retentionDays : Option Nat := none
  enabled : Option Bool := none

/-- `perform_create` -/
def performCreate (uuid : Uuid) (data : Created) : ScheduleM Nat :=
  match data.backupType with
  | none => throw (.keyError "backup_type")
  | some backupType =>
    createSchedule uuid data.organization data.vm data.target backupType data.cronExpression
      (data.timezone.getD "UTC") (data.retentionDays.getD 30)

/-- `perform_update`, on the schedule of the request. -/
def performUpdate (schedule : BackupSchedule) (data : Changes) : ScheduleM Unit := updateSchedule schedule data

/-! ## The database -/

section Database

variable (accepts : CronFields → String → Bool)

/-- `get_or_create` -/
def Database.getOrCreateCrontab (db : Database) (fields : CronFields) (timezone : String) :
    Except Exn (Nat × Database) :=
  if accepts fields timezone then
    match db.crontabs.rows.filter fun c => c.fields = fields ∧ c.timezone = timezone with
    | [] =>
      .ok (db.crontabs.next, { db with crontabs := db.crontabs.insert ⟨db.crontabs.next, fields, timezone⟩ rfl })
    | [crontab] => .ok (crontab.pk, db)
    | _ => .error .multipleObjectsReturned
  else .error .validationError

/-- What a statement does that is not refused. A schedule whose task is deleted is linked to none. -/
def Database.perform (db : Database) : Statement → Except Exn (Nat × Database)
  | .createSchedule uuid values =>
    .ok (db.schedules.next, { db with
      schedules := db.schedules.insert { values with pk := db.schedules.next, uuid := uuid } rfl })
  | .saveSchedule schedule fields =>
    match db.schedules.get schedule with
    | some _ => .ok (schedule, { db with
        schedules := db.schedules.modify schedule (fun s => { s with toValues := fields.apply s.toValues })
          fun _ => rfl })
    | none => .error .databaseError
  | .linkTask schedule task =>
    match db.schedules.get schedule with
    | some _ => .ok (schedule, { db with
        schedules := db.schedules.modify schedule (fun s => { s with periodicTask := some task }) fun _ => rfl })
    | none => .error .databaseError
  | .getOrCreateCrontab fields timezone => db.getOrCreateCrontab accepts fields timezone
  | .createTask crontab name task args enabled =>
    .ok (db.tasks.next, { db with
      tasks := db.tasks.insert ⟨db.tasks.next, some crontab, name, task, args, enabled⟩ rfl })
  | .saveTask task crontab enabled =>
    match db.tasks.get task with
    | some _ => .ok (task, { db with
        tasks := db.tasks.modify task
          (fun t => { t with crontab := crontab.or t.crontab, enabled := enabled.getD t.enabled }) fun _ => rfl })
    | none => .error .doesNotExist
  | .deleteTask task =>
    .ok (task, { db with
      tasks := db.tasks.remove task
      schedules := db.schedules.mapRows
        (fun s => if s.periodicTask = some task then { s with periodicTask := none } else s)
        fun s => by split_ifs <;> rfl })
  | .deleteSchedule schedule => .ok (schedule, { db with schedules := db.schedules.remove schedule })

/-- A database, and which of the next statements it refuses. -/
structure World where
  db : Database
  refuses : Nat → Bool := fun _ => false

/-- One statement. -/
def World.perform : Handler Statement (fun _ => Except Exn Nat) World := fun o w =>
  let later : Nat → Bool := fun n => w.refuses (n + 1)
  if w.refuses 0 then (.error .databaseError, ⟨w.db, later⟩)
  else
    match w.db.perform accepts o with
    | .ok (pk, db) => (.ok pk, ⟨db, later⟩)
    | .error e => (.error e, ⟨w.db, later⟩)

end Database

/-! ## Calls -/

/-- A call of a service. -/
inductive Call
  | create (uuid : Uuid) (organization vm target : Nat) (backupType cronExpression timezoneName : String)
    (retentionDays : Nat)
  | update (schedule : Nat) (fields : Changes)
  | delete (schedule : Nat)

/-- The service with the schedule as it is stored, if there is one. -/
def Call.script (db : Database) : Call → Option (ScheduleM Unit)
  | .create uuid organization vm target backupType cronExpression timezoneName retentionDays =>
    some do
      let _ ← createSchedule uuid organization vm target backupType cronExpression timezoneName retentionDays
      return
  | .update schedule fields => (db.schedules.get schedule).map fun s => updateSchedule s fields
  | .delete schedule => (db.schedules.get schedule).map deleteSchedule

/-- The database after a call that has succeeded. -/
def Call.succeed (accepts : CronFields → String → Bool) (db : Database) (call : Call) : Option Database := do
  let script ← call.script db
  match Script.exec (World.perform accepts) script () ⟨db, fun _ => false⟩ with
  | (.ok _, _, w) => some w.db
  | (.error _, _, _) => none

/-- The database after some calls that have all succeeded. -/
def run (accepts : CronFields → String → Bool) (calls : List Call) (db : Database) : Option Database :=
  calls.foldlM (Call.succeed accepts) db

/-! ## Requests through the views -/

/-- The fields that a request to create a schedule gives. -/
def Created.given (data : Created) : Changes where
  organization := some data.organization
  vm := some data.vm
  target := some data.target
  backupType := data.backupType
  cronExpression := some data.cronExpression
  timezone := data.timezone
  retentionDays := data.retentionDays
  enabled := data.enabled

/-- `BackupType` -/
def backupTypes : List String := ["FULL", "INCREMENTAL", "SNAPSHOT"]

/-- What `BackupScheduleSerializer` asks of the fields that are given: a choice, an expression, and texts that fit
their columns. It asks nothing more of a timezone. -/
def Changes.valid (validators : List (String → Bool)) (fields : Changes) : Bool :=
  fields.backupType.all (backupTypes.contains ·) &&
    fields.cronExpression.all (fun value => value.length ≤ 100 && validateCronExpression validators value) &&
    fields.timezone.all fun value => 0 < value.length && value.length ≤ 64

/-- A request that writes a schedule: a `POST`, with the UUID that is drawn for the row, or a `PUT` or `PATCH`. -/
inductive Request
  | create (uuid : Uuid) (data : Created)
  | update (schedule : Nat) (data : Changes)

def Request.given : Request → Changes
  | .create _ data => data.given
  | .update _ data => data

/-- The key of the schedule that is answered with, or what is raised, and the database then. -/
def Request.answer (accepts : CronFields → String → Bool) (w : World) : Request → Except Exn Nat × Database
  | .create uuid data =>
    let done := Script.exec (World.perform accepts) (performCreate uuid data) () w
    (done.1, done.2.2.db)
  | .update schedule data =>
    match w.db.schedules.get schedule with
    | none => (.error .doesNotExist, w.db)
    | some s =>
      let done := Script.exec (World.perform accepts) (performUpdate s data) () w
      (done.1.map fun _ => schedule, done.2.2.db)

end NodePilot.Schedules
