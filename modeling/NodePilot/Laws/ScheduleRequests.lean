import NodePilot.Laws.BeatInStep

/-!
# Requests that write schedules

A request writes one row after another, and nothing takes a row back. So a request is all or nothing when it is refused
before its first row is written, or when every statement succeeds and each value it gives reaches the rows; exactly
which requests these are is `Fits`.
-/

namespace NodePilot.Schedules

open Lib

/-! ## All or nothing -/

/-- The task of a schedule. -/
def OfTask (db : Database) (s : BackupSchedule) (P : PeriodicTask → Prop) : Prop :=
  ∃ t task, s.periodicTask = some t ∧ db.tasks.get t = some task ∧ P task

/-- The times of the task of a schedule. -/
def OfTimes (db : Database) (s : BackupSchedule) (P : CrontabSchedule → Prop) : Prop :=
  OfTask db s fun task => ∃ c crontab, task.crontab = some c ∧ db.crontabs.get c = some crontab ∧ P crontab

/-- The task of a schedule has the times that are given. -/
structure HasTimes (db : Database) (s : BackupSchedule) (given : Changes) : Prop where
  cronExpression : ∀ expression, given.cronExpression = some expression →
    OfTimes db s fun crontab => unpack (split expression) = some crontab.fields
  timezone : ∀ timezone, given.timezone = some timezone → OfTimes db s fun crontab => crontab.timezone = timezone

/-- A schedule has every value that is given, and its task has. -/
structure Has (db : Database) (s : BackupSchedule) (given : Changes) : Prop extends HasTimes db s given where
  values : given.apply s.toValues = s.toValues
  enabled : ∀ b, given.enabled = some b → OfTask db s fun task => task.enabled = b

/-- An answer to a request means that all it gives is written, and an exception that nothing is. -/
def AllOrNothing (w : World) (given : Changes) : Except Exn Nat × Database → Prop
  | (.ok k, db) => ∃ s, db.schedules.get k = some s ∧ Has db s given
  | (.error _, db) => db.schedules = w.db.schedules ∧ db.tasks = w.db.tasks

/-- A request takes effect completely or not at all. -/
def TakesEffect (accepts : CronFields → String → Bool) (w : World) (request : Request) : Prop :=
  AllOrNothing w request.given (request.answer accepts w)

/-! ## The requests that fit -/

/-- A `CrontabSchedule` takes the times, and there is at most one that has them. -/
def Database.takesTimes (accepts : CronFields → String → Bool) (db : Database) (cronExpression timezone : String) :
    Bool :=
  match unpack (split cronExpression) with
  | some fields =>
    accepts fields timezone &&
      (db.crontabs.rows.filter fun c => c.fields = fields ∧ c.timezone = timezone).length ≤ 1
  | none => false

/-- The statement saves a task: it is not refused, and the task is there. -/
def World.savesTask (w : World) (n task : Nat) : Bool := !w.refuses n && (w.db.tasks.get task).isSome

/-- A request to create a schedule is refused before the first row, or it succeeds and does not ask for a schedule
that is not enabled. -/
def CreateFits (accepts : CronFields → String → Bool) (w : World) (data : Created) : Prop :=
  data.backupType = none ∨ w.refuses 0 = true ∨
    (data.enabled ≠ some false ∧ (∀ n < 4, w.refuses n = false) ∧
      w.db.takesTimes accepts data.cronExpression (data.timezone.getD "UTC") = true)

/-- A request to update a schedule gives nothing or is refused at once. Otherwise, of a schedule with no task it may
ask nothing that is the task's; with times that are other ones, it succeeds; and without, what it gives is what the
task has already, or what the schedule has if the task cannot be saved. -/
def UpdateFits (accepts : CronFields → String → Bool) (w : World) (s : BackupSchedule) (data : Changes) : Prop :=
  data = {} ∨ w.refuses 0 = true ∨
    match s.periodicTask with
    | none => data.cronExpression = none ∧ data.timezone = none ∧ data.enabled = none
    | some task =>
      let values := data.apply s.toValues
      if cronOrTzChanged s.toValues data then
        w.refuses 1 = false ∧ w.db.takesTimes accepts values.cronExpression values.timezone = true ∧
          w.savesTask 2 task = true
      else if data.enabled = none ∨ w.savesTask 1 task = true then HasTimes w.db s data
      else values = s.toValues

def Fits (accepts : CronFields → String → Bool) (w : World) : Request → Prop
  | .create _ data => CreateFits accepts w data
  | .update schedule data => ∀ s, w.db.schedules.get schedule = some s → UpdateFits accepts w s data

/-! ## Statement by statement -/

section Steps

variable {accepts : CronFields → String → Bool} {w : World} {db : Database} {α : Type} {f : Nat → ScheduleM α}
  {o : Statement} {pk : Nat} {e : Exn}

theorem exec_refused (refused : w.refuses 0 = true) :
    Script.exec (World.perform accepts) (statement o >>= f) () w =
      (.error .databaseError, (), ⟨w.db, fun n => w.refuses (n + 1)⟩) := by
  simp [statement, Script.exec_bind, World.perform, refused]

theorem exec_performed (asked : w.refuses 0 = false) (performed : w.db.perform accepts o = .ok (pk, db)) :
    Script.exec (World.perform accepts) (statement o >>= f) () w =
      Script.exec (World.perform accepts) (f pk) () ⟨db, fun n => w.refuses (n + 1)⟩ := by
  simp [statement, Script.exec_bind, World.perform, asked, performed]

theorem exec_raised (asked : w.refuses 0 = false) (raised : w.db.perform accepts o = .error e) :
    Script.exec (World.perform accepts) (statement o >>= f) () w =
      (.error e, (), ⟨w.db, fun n => w.refuses (n + 1)⟩) := by
  simp [statement, Script.exec_bind, World.perform, asked, raised]

/-- `get_or_create` succeeds for times that are taken, if no two rows have them. -/
theorem getOrCreateCrontab_taken {fields : CronFields} {timezone : String} :
    (∃ done, db.getOrCreateCrontab accepts fields timezone = .ok done) ↔
      accepts fields timezone = true ∧
        (db.crontabs.rows.filter fun c => c.fields = fields ∧ c.timezone = timezone).length ≤ 1 := by
  unfold Database.getOrCreateCrontab
  split_ifs with taken
  · split
    · next rows => simp only [rows, taken, List.length_nil, Except.ok.injEq, exists_eq', true_and, Nat.zero_le]
    · next rows =>
      simp only [rows, taken, List.length_singleton, Except.ok.injEq, exists_eq', true_and, Nat.le_refl]
    · next not_none not_one =>
      constructor
      · rintro ⟨_, ⟨⟩⟩
      · rintro ⟨-, few⟩
        rcases rows : db.crontabs.rows.filter fun c => c.fields = fields ∧ c.timezone = timezone with _ | ⟨c, _ | ⟨c', cs⟩⟩
        · exact absurd rows not_none
        · exact absurd rows (not_one c)
        · rw [rows, List.length_cons, List.length_cons] at few
          omega
  · simp [taken]

theorem takesTimes_eq_true {cronExpression timezone : String} {fields : CronFields}
    (unpacked : unpack (split cronExpression) = some fields) :
    db.takesTimes accepts cronExpression timezone = true ↔
      ∃ done, db.getOrCreateCrontab accepts fields timezone = .ok done := by
  rw [getOrCreateCrontab_taken]
  unfold Database.takesTimes
  rw [unpacked]
  simp only [Bool.and_eq_true, decide_eq_true_eq]

variable (accepts w) in
/-- The times of a schedule are found or made, or nothing is done. -/
theorem exec_crontabOf_cases (cronExpression timezone : String) (f : Nat → ScheduleM α) :
    (w.refuses 0 = false ∧ w.db.takesTimes accepts cronExpression timezone = true ∧
      ∃ c db, db.schedules = w.db.schedules ∧ db.tasks = w.db.tasks ∧
        Script.exec (World.perform accepts) (crontabOf cronExpression timezone >>= f) () w =
          Script.exec (World.perform accepts) (f c) () ⟨db, fun n => w.refuses (n + 1)⟩) ∨
    (¬ (w.refuses 0 = false ∧ w.db.takesTimes accepts cronExpression timezone = true) ∧
      ∃ e refuses, Script.exec (World.perform accepts) (crontabOf cronExpression timezone >>= f) () w =
        (.error e, (), ⟨w.db, refuses⟩)) := by
  unfold crontabOf
  cases unpacked : unpack (split cronExpression) with
  | none =>
    have untaken : w.db.takesTimes accepts cronExpression timezone = false := by
      simp only [Database.takesTimes, unpacked]
    exact .inr ⟨by simp [untaken], _, _, by rw [Script.exec_bind, Script.exec_throw]⟩
  | some fields =>
    rw [takesTimes_eq_true unpacked]
    cases refused : w.refuses 0 with
    | true => exact .inr ⟨by simp, _, _, exec_refused refused⟩
    | false =>
      cases done : w.db.getOrCreateCrontab accepts fields timezone with
      | ok made =>
        obtain ⟨c, db⟩ := made
        obtain ⟨schedules, tasks, -, -⟩ := getOrCreateCrontab_eq_ok done
        exact .inl ⟨rfl, ⟨_, rfl⟩, c, db, schedules, tasks, exec_performed refused done⟩
      | error e => exact .inr ⟨by simp, e, _, exec_raised refused done⟩

theorem linkTask_performed {schedule task : Nat} {s : BackupSchedule} (there : db.schedules.get schedule = some s) :
    db.perform accepts (.linkTask schedule task) = .ok (schedule, { db with
      schedules := db.schedules.modify schedule (fun s => { s with periodicTask := some task }) fun _ => rfl }) := by
  simp only [Database.perform, there]

theorem saveTask_performed {task : Nat} {crontab : Option Nat} {enabled : Option Bool} {row : PeriodicTask}
    (there : db.tasks.get task = some row) :
    db.perform accepts (.saveTask task crontab enabled) = .ok (task, { db with
      tasks := db.tasks.modify task
        (fun t => { t with crontab := crontab.or t.crontab, enabled := enabled.getD t.enabled }) fun _ => rfl }) := by
  simp only [Database.perform, there]

theorem saveSchedule_performed {schedule : Nat} {fields : Changes} {s : BackupSchedule}
    (there : db.schedules.get schedule = some s) :
    db.perform accepts (.saveSchedule schedule fields) = .ok (schedule, { db with
      schedules := db.schedules.modify schedule (fun s => { s with toValues := fields.apply s.toValues })
        fun _ => rfl }) := by
  simp only [Database.perform, there]

variable (accepts w) in
/-- **How `create_schedule` ends**: refused at once, with a schedule that is left behind, or well. -/
theorem createSchedule_cases (uuid : Uuid) (organization vm target : Nat) (backupType cronExpression : String)
    (timezoneName : String) (retentionDays : Nat) :
    let done := Script.exec (World.perform accepts)
      (createSchedule uuid organization vm target backupType cronExpression timezoneName retentionDays) () w
    let unbroken := (∀ n < 4, w.refuses n = false) ∧ w.db.takesTimes accepts cronExpression timezoneName = true
    (w.refuses 0 = true ∧ ∃ e w', done = (.error e, (), w') ∧ w'.db = w.db) ∨
      (w.refuses 0 = false ∧ ¬ unbroken ∧ ∃ e w', done = (.error e, (), w') ∧ w'.db.schedules ≠ w.db.schedules) ∨
      (unbroken ∧ ∃ pk w', done = (.ok pk, (), w')) := by
  intro done unbroken
  have inserted : ∀ (values : Values) (key : _ = _),
      w.db.schedules.insert { values with pk := w.db.schedules.next, uuid := uuid } key ≠ w.db.schedules := by
    intro values key same
    have next := congrArg Sequenced.next same
    exact absurd next (Nat.succ_ne_self _)
  cases refused₀ : w.refuses 0 with
  | true => exact .inl ⟨rfl, _, _, exec_refused refused₀, rfl⟩
  | false =>
    refine .inr ?_
    simp only [done, createSchedule, syncPeriodicTask, execute, bind_assoc, pure_bind]
    rw [exec_performed refused₀ rfl]
    rcases exec_crontabOf_cases accepts _ cronExpression timezoneName _ with
      ⟨refused₁, taken, c, db₂, schedules, tasks, same⟩ | ⟨untaken, e, refuses, same⟩
    · rw [same]
      dsimp only at schedules
      cases refused₂ : w.refuses 2 with
      | true =>
        rw [exec_refused refused₂]
        refine .inl ⟨trivial, fun unbroken => ?_, _, _, rfl, ?_⟩
        · exact absurd (unbroken.1 2 (by omega)) (by simp [refused₂])
        · exact ne_of_eq_of_ne schedules (inserted _ rfl)
      | false =>
        rw [exec_performed refused₂ rfl]
        cases refused₃ : w.refuses 3 with
        | true =>
          rw [exec_refused refused₃]
          refine .inl ⟨trivial, fun unbroken => ?_, _, _, rfl, ?_⟩
          · exact absurd (unbroken.1 3 (by omega)) (by simp [refused₃])
          · exact ne_of_eq_of_ne schedules (inserted _ rfl)
        | false =>
          obtain ⟨s, there⟩ : ∃ s, db₂.schedules.get w.db.schedules.next = some s :=
            ⟨_, by rw [schedules, Sequenced.get_insert, if_pos rfl]⟩
          rw [exec_performed refused₃ (linkTask_performed there)]
          refine .inr ⟨⟨fun n bound => ?_, taken⟩, _, _, rfl⟩
          match n with
          | 0 => exact refused₀
          | 1 => exact refused₁
          | 2 => exact refused₂
          | 3 => exact refused₃
    · rw [same]
      refine .inl ⟨trivial, fun unbroken => untaken ⟨unbroken.1 1 (by omega), unbroken.2⟩, _, _, rfl, inserted _ rfl⟩

end Steps

/-! ## Exactly these -/

section Exactly

variable {accepts : CronFields → String → Bool} {w : World}

theorem getD_getD {α : Type} (o : Option α) (a : α) : o.getD (o.getD a) = o.getD a := by
  cases o <;> rfl

/-- A new schedule and its task have what is given, if the schedule is not to be stopped. -/
theorem created_has {uuid : Uuid} {data : Created} {backupType : String} (given : data.backupType = some backupType)
    {pk : Nat} {w' : World}
    (ran : Script.exec (World.perform accepts)
      (createSchedule uuid data.organization data.vm data.target backupType data.cronExpression
        (data.timezone.getD "UTC") (data.retentionDays.getD 30)) () w = (.ok pk, (), w')) :
    (∃ s, w'.db.schedules.get pk = some s ∧ Has w'.db s data.given) ↔ data.enabled ≠ some false := by
  obtain ⟨c, crontab, schedules, tasks, -, -, ⟨found, unpacked, timezone⟩, rfl⟩ := createSchedule_eq_ok ran
  rw [schedules, if_pos rfl]
  constructor
  · rintro ⟨s, ⟨⟩, has⟩ stopped
    obtain ⟨t, task, ⟨⟩, there, enabled⟩ := has.enabled false stopped
    rw [tasks, if_pos rfl] at there
    cases there
    cases enabled
  · intro running
    have enabled : data.enabled.getD true = true := by
      cases value : data.enabled with
      | none => rfl
      | some b =>
        cases b with
        | false => exact absurd value running
        | true => rfl
    have now : w'.db.tasks.get w.db.tasks.next = some _ := (tasks _).trans (if_pos rfl)
    refine ⟨_, rfl, ⟨?_, ?_⟩, ?_, ?_⟩
    · rintro expression ⟨⟩
      exact ⟨_, _, rfl, now, c, crontab, rfl, found, unpacked⟩
    · intro zone asked
      refine ⟨_, _, rfl, now, c, crontab, rfl, found, timezone.trans ?_⟩
      rw [show data.timezone = some zone from asked, Option.getD_some]
    · simp only [Changes.apply, Created.given, newSchedule, given, Option.getD_some, getD_getD, enabled]
    · intro b asked
      refine ⟨_, _, rfl, now, ?_⟩
      rw [show data.enabled = some b from asked] at enabled
      exact enabled.symm

theorem create_takes_effect_iff (uuid : Uuid) (data : Created) :
    TakesEffect accepts w (.create uuid data) ↔ CreateFits accepts w data := by
  unfold TakesEffect CreateFits
  simp only [Request.answer, Request.given]
  cases given : data.backupType with
  | none =>
    have raises : performCreate uuid data = throw (.keyError "backup_type") := by
      simp only [performCreate, given]
    rw [raises, Script.exec_throw]
    exact iff_of_true ⟨rfl, rfl⟩ (.inl rfl)
  | some backupType =>
    have script : performCreate uuid data = createSchedule uuid data.organization data.vm data.target backupType
        data.cronExpression (data.timezone.getD "UTC") (data.retentionDays.getD 30) := by
      simp only [performCreate, given]
    rw [script]
    rcases createSchedule_cases accepts w uuid data.organization data.vm data.target backupType
      data.cronExpression (data.timezone.getD "UTC") (data.retentionDays.getD 30) with
      ⟨refused, e, w', ran, same⟩ | ⟨asked, broken, e, w', ran, left⟩ | ⟨unbroken, pk, w', ran⟩
    · rw [ran]
      refine iff_of_true ⟨?_, ?_⟩ (.inr (.inl refused))
      · rw [same]
      · rw [same]
    · rw [ran]
      apply iff_of_false
      · exact fun unchanged => left unchanged.1
      · simp only [asked, Bool.false_eq_true, reduceCtorEq, false_or]
        exact fun fits => broken fits.2
    · rw [ran]
      simp only [unbroken.1 0 (by omega), Bool.false_eq_true, reduceCtorEq, false_or]
      exact (created_has given ran).trans ⟨fun running => ⟨running, unbroken⟩, fun fits => fits.1⟩

/-- What `update_schedule` does to the task. -/
def updateTask (schedule : BackupSchedule) (fields : Changes) : ScheduleM Unit :=
  match schedule.periodicTask with
  | none => pure ()
  | some task =>
    if cronOrTzChanged schedule.toValues fields then do
      let values := fields.apply schedule.toValues
      let crontab ← crontabOf values.cronExpression values.timezone
      saveTaskFields task (some crontab) fields.enabled
    else saveTaskFields task none fields.enabled

theorem updateSchedule_eq (s : BackupSchedule) (data : Changes) :
    updateSchedule s data = saveGiven s.pk data >>= fun _ => updateTask s data := by
  unfold updateSchedule updateTask
  rfl

/-- Nothing of the task is left to do that cannot be done. -/
def World.reaches (accepts : CronFields → String → Bool) (w : World) (s : BackupSchedule) (data : Changes) : Bool :=
  match s.periodicTask with
  | none => true
  | some task =>
    let values := data.apply s.toValues
    if cronOrTzChanged s.toValues data then
      !w.refuses 0 && w.db.takesTimes accepts values.cronExpression values.timezone && w.savesTask 1 task
    else data.enabled.isNone || w.savesTask 0 task

variable (accepts w) in
theorem exec_saveTask_cases (task : Nat) (crontab : Option Nat) (enabled : Option Bool) :
    let done := Script.exec (World.perform accepts) (execute (.saveTask task crontab enabled)) () w
    (w.savesTask 0 task = true ∧ ∃ w', done = (.ok (), (), w')) ∨
      (w.savesTask 0 task = false ∧ ∃ e refuses, done = (.error e, (), ⟨w.db, refuses⟩)) := by
  unfold execute World.savesTask
  cases refused : w.refuses 0 with
  | true => exact .inr ⟨rfl, _, _, exec_refused refused⟩
  | false =>
    cases there : w.db.tasks.get task with
    | none =>
      have raised : w.db.perform accepts (.saveTask task crontab enabled) = .error .doesNotExist := by
        simp only [Database.perform, there]
      exact .inr ⟨rfl, _, _, exec_raised refused raised⟩
    | some row =>
      refine .inl ⟨rfl, ?_⟩
      rw [exec_performed refused (saveTask_performed there)]
      exact ⟨_, rfl⟩

variable (accepts w) in
/-- **How the update of a task ends**: well, or with the schedules and the tasks as they were. -/
theorem updateTask_cases (s : BackupSchedule) (data : Changes) :
    let done := Script.exec (World.perform accepts) (updateTask s data) () w
    (w.reaches accepts s data = true ∧ ∃ w', done = (.ok (), (), w')) ∨
      (w.reaches accepts s data = false ∧ ∃ e w', done = (.error e, (), w') ∧
        w'.db.schedules = w.db.schedules ∧ w'.db.tasks = w.db.tasks) := by
  unfold updateTask World.reaches
  cases s.periodicTask with
  | none => exact .inl ⟨rfl, w, rfl⟩
  | some task =>
    dsimp only
    split_ifs with changed
    · rcases exec_crontabOf_cases accepts w (data.apply s.toValues).cronExpression
        (data.apply s.toValues).timezone (fun crontab => saveTaskFields task (some crontab) data.enabled) with
        ⟨asked, taken, c, db, schedules, tasks, same⟩ | ⟨untaken, e, refuses, same⟩
      · rw [same, asked, taken]
        have saves : World.savesTask ⟨db, fun n => w.refuses (n + 1)⟩ 0 task = w.savesTask 1 task := by
          simp only [World.savesTask, tasks]
        rcases exec_saveTask_cases accepts ⟨db, fun n => w.refuses (n + 1)⟩ task (some c)
          data.enabled with ⟨saved, w', ran⟩ | ⟨unsaved, e, refuses, ran⟩
        · exact .inl ⟨saves.symm.trans saved, w', ran⟩
        · exact .inr ⟨saves.symm.trans unsaved, e, _, ran, schedules, tasks⟩
      · rw [same]
        refine .inr ⟨?_, e, _, rfl, rfl, rfl⟩
        rw [Bool.eq_false_iff]
        intro reached
        simp only [Bool.and_eq_true, Bool.not_eq_true'] at reached
        exact untaken reached.1
    · cases given : data.enabled with
      | none => exact .inl ⟨rfl, w, rfl⟩
      | some b =>
        rcases exec_saveTask_cases accepts w task none (some b) with
          ⟨saved, w', ran⟩ | ⟨unsaved, e, refuses, ran⟩
        · exact .inl ⟨saved, w', ran⟩
        · exact .inr ⟨unsaved, e, _, ran, rfl, rfl⟩

theorem apply_apply (data : Changes) (values : Values) : data.apply (data.apply values) = data.apply values := by
  simp only [Changes.apply, getD_getD]

/-- Other times are other values. -/
theorem apply_ne {values : Values} {data : Changes} (changed : cronOrTzChanged values data = true) :
    data.apply values ≠ values := by
  intro same
  rcases Bool.or_eq_true_iff.mp changed with other | other
  · obtain ⟨expression, given, other⟩ := (Option.any_eq_true _ _).mp other
    have stored := congrArg Values.cronExpression same
    rw [Changes.apply, given] at stored
    exact of_decide_eq_true other stored
  · obtain ⟨zone, given, other⟩ := (Option.any_eq_true _ _).mp other
    have stored := congrArg Values.timezone same
    rw [Changes.apply, given] at stored
    exact of_decide_eq_true other stored

/-- A schedule that is updated and its task have what is given: its task is there if it has to be, and has the times
that are given if they are not other ones. -/
theorem updated_has {s : BackupSchedule} {data : Changes} {w' : World}
    (there : w.db.schedules.get s.pk = some s)
    (ran : Script.exec (World.perform accepts) (updateSchedule s data) () w = (.ok (), (), w'))
    (saved : ∀ t, s.periodicTask = some t → cronOrTzChanged s.toValues data = true ∨ data.enabled ≠ none →
      ∃ task, w.db.tasks.get t = some task) :
    (∃ s', w'.db.schedules.get s.pk = some s' ∧ Has w'.db s' data) ↔
      match s.periodicTask with
      | none => data.cronExpression = none ∧ data.timezone = none ∧ data.enabled = none
      | some _ => cronOrTzChanged s.toValues data = true ∨ HasTimes w.db s data := by
  obtain ⟨schedules, -, -, updated⟩ := updateSchedule_eq_ok ran
  rw [schedules, if_pos rfl, there]
  cases linked : s.periodicTask with
  | none =>
    have untold : ∀ P, ¬ OfTask w'.db { s with toValues := data.apply s.toValues } P := by
      rintro P ⟨t, task, linked', -⟩
      cases linked.symm.trans linked'
    constructor
    · rintro ⟨s', ⟨⟩, has⟩
      refine ⟨?_, ?_, ?_⟩
      · exact Option.eq_none_iff_forall_ne_some.mpr fun e given => untold _ (has.cronExpression e given)
      · exact Option.eq_none_iff_forall_ne_some.mpr fun z given => untold _ (has.timezone z given)
      · exact Option.eq_none_iff_forall_ne_some.mpr fun b given => untold _ (has.enabled b given)
    · rintro ⟨expression, zone, enabled⟩
      exact ⟨_, rfl, ⟨by simp [expression], by simp [zone]⟩, apply_apply data _, by simp [enabled]⟩
  | some t =>
    rw [linked] at updated
    obtain ⟨crontab', tasks, anew⟩ := updated
    have enabled_of : ∀ task, w.db.tasks.get t = some task → ∀ b, data.enabled = some b →
        OfTask w'.db { s with toValues := data.apply s.toValues } fun task => task.enabled = b := by
      intro task before b given
      refine ⟨t, _, linked, (tasks t).trans ((if_pos rfl).trans (congrArg _ before)), ?_⟩
      simp only [given, Option.getD_some]
    split_ifs at anew with changed
    · obtain ⟨c, row, rfl, found, unpacked, timezone⟩ := anew
      obtain ⟨task, before⟩ := saved t linked (.inl changed)
      have now := (tasks t).trans ((if_pos rfl).trans (congrArg _ before))
      refine iff_of_true ⟨_, rfl, ⟨?_, ?_⟩, apply_apply data _, enabled_of task before⟩ (.inl changed)
      · intro expression given
        refine ⟨t, _, linked, now, c, row, rfl, found, ?_⟩
        simpa only [Changes.apply, given, Option.getD_some] using unpacked
      · intro zone given
        refine ⟨t, _, linked, now, c, row, rfl, found, ?_⟩
        simpa only [Changes.apply, given, Option.getD_some] using timezone
    · obtain ⟨rfl, crontabs⟩ := anew
      have times : ∀ P, OfTimes w'.db { s with toValues := data.apply s.toValues } P ↔ OfTimes w.db s P := by
        intro P
        constructor
        · rintro ⟨t', task', linked', got, c, row, at_times, found, holds⟩
          obtain rfl : t = t' := Option.some.inj (linked.symm.trans linked')
          rw [tasks, if_pos rfl] at got
          obtain ⟨task, before, rfl⟩ := Option.map_eq_some_iff.mp got
          rw [crontabs] at found
          exact ⟨t, task, linked, before, c, row, at_times, found, holds⟩
        · rintro ⟨t', task, linked', before, c, row, at_times, found, holds⟩
          obtain rfl : t = t' := Option.some.inj (linked.symm.trans linked')
          have now := (tasks t).trans ((if_pos rfl).trans (congrArg _ before))
          exact ⟨t, _, linked, now, c, row, at_times, by rw [crontabs, found], holds⟩
      constructor
      · rintro ⟨s', ⟨⟩, has⟩
        refine .inr ⟨fun e given => ?_, fun z given => ?_⟩
        · exact (times _).mp (has.cronExpression e given)
        · exact (times _).mp (has.timezone z given)
      · rintro (other | has)
        · exact absurd other changed
        · refine ⟨_, rfl, ⟨fun e given => ?_, fun z given => ?_⟩, apply_apply data _, fun b given => ?_⟩
          · exact (times _).mpr (has.cronExpression e given)
          · exact (times _).mpr (has.timezone z given)
          · obtain ⟨task, before⟩ := saved t linked (.inr (by simp [given]))
            exact enabled_of task before b given

/-- A schedule that is saved is as it was, if the values are. -/
theorem saved_eq_iff {s : BackupSchedule} {data : Changes} (there : w.db.schedules.get s.pk = some s) :
    w.db.schedules.modify s.pk (fun s => { s with toValues := data.apply s.toValues }) (fun _ => rfl) =
      w.db.schedules ↔ data.apply s.toValues = s.toValues := by
  constructor
  · intro same
    have now := congrArg (Sequenced.get · s.pk) same
    dsimp only at now
    rw [Sequenced.get_modify, if_pos rfl, there, Option.map_some, Option.some.injEq] at now
    exact congrArg BackupSchedule.toValues now
  · intro same
    apply Sequenced.modify_eq_self there
    rw [same]

/-- An update that gives nothing does nothing. -/
theorem exec_nothing (s : BackupSchedule) :
    Script.exec (World.perform accepts) (updateSchedule s {}) () w = (.ok (), (), w) := by
  unfold updateSchedule
  cases s.periodicTask <;> rfl

/-- A task that has to be saved is there, where nothing is left to do that cannot be done. -/
theorem reaches_task {s : BackupSchedule} {data : Changes} {t : Nat} (reached : w.reaches accepts s data = true)
    (linked : s.periodicTask = some t) (needed : cronOrTzChanged s.toValues data = true ∨ data.enabled ≠ none) :
    ∃ task, w.db.tasks.get t = some task := by
  unfold World.reaches at reached
  rw [← Option.isSome_iff_exists]
  simp only [linked] at reached
  split_ifs at reached with changed
  · have saves : w.savesTask 1 t = true := (Bool.and_eq_true_iff.mp reached).2
    exact (Bool.and_eq_true_iff.mp saves).2
  · rcases Bool.or_eq_true_iff.mp reached with absent | saves
    · exact absurd (Option.isNone_iff_eq_none.mp absent) (needed.resolve_left changed)
    · exact (Bool.and_eq_true_iff.mp saves).2

/-- The update of a task, at the world after the schedule is saved. -/
theorem reaches_iff {s : BackupSchedule} {data : Changes} {schedules : Sequenced BackupSchedule}
    (something : data ≠ {}) (asked : w.refuses 0 = false) (reached : World.reaches accepts
      ⟨{ w.db with schedules := schedules }, fun n => w.refuses (n + 1)⟩ s data = true) :
    UpdateFits accepts w s data ↔ match s.periodicTask with
      | none => data.cronExpression = none ∧ data.timezone = none ∧ data.enabled = none
      | some _ => cronOrTzChanged s.toValues data = true ∨ HasTimes w.db s data := by
  unfold UpdateFits
  simp only [something, asked, Bool.false_eq_true, false_or]
  unfold World.reaches at reached
  cases linked : s.periodicTask with
  | none => rfl
  | some task =>
    simp only [linked] at reached ⊢
    split_ifs at reached with changed
    · simp only [Bool.and_eq_true, Bool.not_eq_true'] at reached
      obtain ⟨⟨asked₁, taken⟩, saves⟩ := reached
      simp only [changed, if_true, true_or, iff_true]
      exact ⟨asked₁, taken, saves⟩
    · have saves : data.enabled = none ∨ w.savesTask 1 task = true := by
        rw [Bool.or_eq_true, Option.isNone_iff_eq_none] at reached
        exact reached
      simp only [changed, saves, if_true, false_or, Bool.false_eq_true, if_false]

theorem not_reaches_iff {s : BackupSchedule} {data : Changes} {schedules : Sequenced BackupSchedule}
    (something : data ≠ {}) (asked : w.refuses 0 = false) (broken : World.reaches accepts
      ⟨{ w.db with schedules := schedules }, fun n => w.refuses (n + 1)⟩ s data = false) :
    UpdateFits accepts w s data ↔ data.apply s.toValues = s.toValues := by
  unfold UpdateFits
  simp only [something, asked, Bool.false_eq_true, false_or]
  unfold World.reaches at broken
  cases linked : s.periodicTask with
  | none => simp [linked] at broken
  | some task =>
    simp only [linked] at broken ⊢
    split_ifs at broken with changed
    · simp only [changed, if_true]
      apply iff_of_false
      · rintro ⟨asked₁, taken, saves⟩
        rw [Bool.eq_false_iff] at broken
        apply broken
        simp only [Bool.and_eq_true, Bool.not_eq_true']
        exact ⟨⟨asked₁, taken⟩, saves⟩
      · exact apply_ne changed
    · obtain ⟨given, unsaved⟩ := Bool.or_eq_false_iff.mp broken
      have unsaved : ¬ (data.enabled = none ∨ w.savesTask 1 task = true) := by
        rintro (none_given | saves)
        · simp [none_given] at given
        · exact Bool.false_ne_true (unsaved.symm.trans saves)
      simp only [changed, unsaved, Bool.false_eq_true, if_false]

theorem update_takes_effect_iff {s : BackupSchedule} (there : w.db.schedules.get s.pk = some s) (data : Changes) :
    TakesEffect accepts w (.update s.pk data) ↔ UpdateFits accepts w s data := by
  unfold TakesEffect
  simp only [Request.answer, Request.given, there, performUpdate]
  by_cases nothing : data = {}
  · subst nothing
    rw [exec_nothing]
    exact iff_of_true ⟨s, there, ⟨nofun, nofun⟩, rfl, nofun⟩ (.inl rfl)
  have script : updateSchedule s data = statement (.saveSchedule s.pk data) >>= fun _ => updateTask s data := by
    rw [updateSchedule_eq, saveGiven, if_neg nothing]
    simp only [execute, bind_assoc, pure_bind]
  cases refused : w.refuses 0 with
  | true =>
    rw [script, exec_refused refused]
    exact iff_of_true ⟨rfl, rfl⟩ (.inr (.inl refused))
  | false =>
    have ran : Script.exec (World.perform accepts) (updateSchedule s data) () w = _ :=
      script ▸ exec_performed refused (saveSchedule_performed there)
    rcases updateTask_cases accepts ⟨_, fun n => w.refuses (n + 1)⟩ s data with
      ⟨reached, w', ended⟩ | ⟨broken, e, w', ended, schedules, tasks⟩
    · rw [ran, ended, reaches_iff nothing refused reached]
      apply updated_has there (ran.trans ended)
      intro t linked needed
      have row_there := reaches_task reached linked needed
      exact row_there
    · rw [ran, ended, not_reaches_iff nothing refused broken, ← saved_eq_iff there]
      exact (and_iff_left tasks).trans (Eq.congr_left schedules)

/-- **Requests take effect completely or not at all** exactly if they fit: whatever is stored, whatever the database
refuses, and whether or not the serializer passes them. -/
theorem takes_effect_iff (accepts : CronFields → String → Bool) (w : World) (request : Request) :
    TakesEffect accepts w request ↔ Fits accepts w request := by
  cases request with
  | create uuid data => exact create_takes_effect_iff uuid data
  | update schedule data =>
    unfold Fits
    cases there : w.db.schedules.get schedule with
    | none =>
      unfold TakesEffect
      simp only [Request.answer, there]
      exact iff_of_true ⟨rfl, rfl⟩ fun s found => nomatch found
    | some s =>
      obtain rfl : s.pk = schedule := Sequenced.pk_of_get there
      rw [update_takes_effect_iff there]
      constructor
      · rintro fits s' found
        obtain rfl : s = s' := Option.some.inj (there.symm.trans found)
        exact fits
      · exact fun fits => fits s there

/-- A schedule that is not to be enabled. -/
def stopped : Created where
  organization := 1
  vm := 1
  target := 1
  backupType := some "FULL"
  cronExpression := "0 3 * * *"
  timezone := some "UTC"
  enabled := some false

/-- A request passes for a schedule that is not enabled, and is answered with one that is. -/
theorem stopped_takes_no_effect :
    ¬ ∀ (validators : List (String → Bool)) (accepts : CronFields → String → Bool) (w : World) (request : Request),
      request.given.valid validators = true → TakesEffect accepts w request := by
  intro all
  have effect := all (List.replicate 5 fun field => ["*", "0", "3"].contains field)
    (fun _ timezone => timezone == "UTC") ⟨{}, fun _ => false⟩ (.create ⟨1⟩ stopped) rfl
  obtain ⟨s, ⟨⟩, has⟩ := effect
  obtain ⟨t, task, ⟨⟩, ⟨⟩, enabled⟩ := has.enabled false rfl
  cases enabled

end Exactly

end NodePilot.Schedules
