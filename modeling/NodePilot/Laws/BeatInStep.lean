import NodePilot.Schedules

/-!
# Celery Beat runs what the schedules say

After calls that have succeeded, every schedule is linked to a task of its own that is enabled as it is, at its times
and for its key, and no task is left of a schedule that is deleted. A call is inverted into what it does to the three
tables; the invariant is read row by row.
-/

namespace NodePilot.Schedules

open Lib

/-! ## What a call does that succeeds -/

section Calls

variable {accepts : CronFields → String → Bool} {db db' : Database} {pk : Nat} {w₀ w : World}

theorem exec_pure_world {α : Type} {a b : α}
    (h : Script.exec (World.perform accepts) (pure a : ScheduleM α) () w₀ = (.ok b, (), w)) : w = w₀ := by
  rw [Script.exec_pure] at h
  exact (Prod.mk.inj (Prod.mk.inj h).2).2.symm

/-- A statement that returns was performed. -/
theorem exec_statement {o : Statement}
    (h : Script.exec (World.perform accepts) (statement o) () w₀ = (.ok pk, (), w)) :
    w₀.db.perform accepts o = .ok (pk, w.db) := by
  unfold statement at h
  rw [Script.exec_bind, Script.exec_perform] at h
  unfold World.perform at h
  cases refused : w₀.refuses 0 with
  | true => simp [refused] at h
  | false =>
    cases performed : w₀.db.perform accepts o with
    | error e => simp [refused, performed] at h
    | ok done =>
      simp only [refused, performed, Bool.false_eq_true, if_false, Script.exec_pure, Prod.mk.injEq, Except.ok.injEq,
        true_and] at h
      obtain ⟨rfl, rfl⟩ := h
      rfl

/-- A statement, and what returns after it. -/
theorem exec_statement_bind {α : Type} {o : Statement} {f : Nat → ScheduleM α} {a : α}
    (h : Script.exec (World.perform accepts) (statement o >>= f) () w₀ = (.ok a, (), w)) :
    ∃ pk w₁, w₀.db.perform accepts o = .ok (pk, w₁.db) ∧
      Script.exec (World.perform accepts) (f pk) () w₁ = (.ok a, (), w) := by
  obtain ⟨pk, ⟨⟩, w₁, first, rest⟩ := (Script.exec_bind_eq_ok _ _ _).mp h
  exact ⟨pk, w₁, exec_statement first, rest⟩

/-- A row for the times of a schedule, which was there or is new. -/
theorem getOrCreateCrontab_eq_ok {fields : CronFields} {timezone : String}
    (h : db.getOrCreateCrontab accepts fields timezone = .ok (pk, db')) :
    db'.schedules = db.schedules ∧ db'.tasks = db.tasks ∧
      (∀ c crontab, db.crontabs.get c = some crontab → db'.crontabs.get c = some crontab) ∧
      ∃ crontab, db'.crontabs.get pk = some crontab ∧ crontab.fields = fields ∧ crontab.timezone = timezone := by
  unfold Database.getOrCreateCrontab at h
  split_ifs at h
  split at h
  · cases h
    refine ⟨rfl, rfl, fun c crontab there => ?_, ⟨db.crontabs.next, fields, timezone⟩, ?_, rfl, rfl⟩
    · rw [Sequenced.get_insert, if_neg (Nat.ne_of_lt (Sequenced.lt_of_get there)), there]
    · rw [Sequenced.get_insert, if_pos rfl]
  · next crontab only =>
    cases h
    have member : crontab ∈ db.crontabs.rows.filter fun c => c.fields = fields ∧ c.timezone = timezone := by
      rw [only]
      exact List.mem_singleton_self _
    obtain ⟨there, same⟩ := List.mem_filter.mp member
    obtain ⟨same_fields, same_timezone⟩ := of_decide_eq_true same
    exact ⟨rfl, rfl, fun _ _ there => there, crontab, Table.get_of_mem db.crontabs.distinct there, same_fields,
      same_timezone⟩
  · cases h

/-- The times of an expression, and what returns after them. -/
theorem exec_crontabOf_bind {α : Type} {cronExpression timezone : String} {f : Nat → ScheduleM α} {a : α}
    (h : Script.exec (World.perform accepts) (crontabOf cronExpression timezone >>= f) () w₀ =
      (.ok a, (), w)) :
    ∃ c w₁, w₁.db.schedules = w₀.db.schedules ∧ w₁.db.tasks = w₀.db.tasks ∧
      (∀ c crontab, w₀.db.crontabs.get c = some crontab → w₁.db.crontabs.get c = some crontab) ∧
      (∃ crontab, w₁.db.crontabs.get c = some crontab ∧ unpack (split cronExpression) = some crontab.fields ∧
        crontab.timezone = timezone) ∧
      Script.exec (World.perform accepts) (f c) () w₁ = (.ok a, (), w) := by
  unfold crontabOf at h
  split at h
  · next fields unpacked =>
    obtain ⟨c, w₁, performed, rest⟩ := exec_statement_bind h
    obtain ⟨schedules, tasks, kept, crontab, there, rfl, same⟩ := getOrCreateCrontab_eq_ok performed
    exact ⟨c, w₁, schedules, tasks, kept, ⟨crontab, there, unpacked, same⟩, rest⟩
  · rw [Script.exec_bind, Script.exec_throw] at h
    cases h

theorem exec_execute {o : Statement} (h : Script.exec (World.perform accepts) (execute o) () w₀ =
    (.ok (), (), w)) : ∃ pk, w₀.db.perform accepts o = .ok (pk, w.db) := by
  obtain ⟨pk, w₁, performed, rest⟩ := exec_statement_bind h
  obtain rfl := exec_pure_world rest
  exact ⟨pk, performed⟩

theorem exec_execute_bind {α : Type} {o : Statement} {f : Unit → ScheduleM α} {a : α}
    (h : Script.exec (World.perform accepts) (execute o >>= f) () w₀ = (.ok a, (), w)) :
    ∃ pk w₁, w₀.db.perform accepts o = .ok (pk, w₁.db) ∧
      Script.exec (World.perform accepts) (f ()) () w₁ = (.ok a, (), w) := by
  unfold execute at h
  rw [bind_assoc] at h
  exact exec_statement_bind h

theorem linkTask_eq_ok {schedule task : Nat} (h : db.perform accepts (.linkTask schedule task) = .ok (pk, db')) :
    (∃ s, db.schedules.get schedule = some s) ∧ db' = { db with
      schedules := db.schedules.modify schedule (fun s => { s with periodicTask := some task }) fun _ => rfl } := by
  simp only [Database.perform] at h
  split at h
  · next s there =>
    cases h
    exact ⟨⟨s, there⟩, rfl⟩
  · cases h

theorem saveSchedule_eq_ok {schedule : Nat} {fields : Changes}
    (h : db.perform accepts (.saveSchedule schedule fields) = .ok (pk, db')) :
    db' = { db with
      schedules := db.schedules.modify schedule (fun s => { s with toValues := fields.apply s.toValues })
        fun _ => rfl } := by
  simp only [Database.perform] at h
  split at h
  · cases h
    rfl
  · cases h

theorem saveTask_eq_ok {task : Nat} {crontab : Option Nat} {enabled : Option Bool}
    (h : db.perform accepts (.saveTask task crontab enabled) = .ok (pk, db')) :
    db' = { db with
      tasks := db.tasks.modify task
        (fun t => { t with crontab := crontab.or t.crontab, enabled := enabled.getD t.enabled }) fun _ => rfl } := by
  simp only [Database.perform] at h
  split at h
  · cases h
    rfl
  · cases h

/-- The row of a new schedule. -/
def newSchedule (uuid : Uuid) (values : Values) (pk : Nat) (task : Nat) : BackupSchedule :=
  { values with pk := pk, uuid := uuid, periodicTask := some task }

/-- **What `create_schedule` does** that succeeds: a schedule, a task for it, and times for the task. -/
theorem createSchedule_eq_ok {uuid : Uuid} {organization vm target : Nat} {backupType cronExpression : String}
    {timezoneName : String} {retentionDays : Nat}
    (h : Script.exec (World.perform accepts)
      (createSchedule uuid organization vm target backupType cronExpression timezoneName retentionDays) ()
      w₀ = (.ok pk, (), w)) :
    ∃ c crontab,
      let values : Values :=
        { organization := organization, vm := vm, target := target, backupType := backupType
          cronExpression := cronExpression, timezone := timezoneName, retentionDays := retentionDays }
      (∀ k, w.db.schedules.get k =
        if k = w₀.db.schedules.next then some (newSchedule uuid values w₀.db.schedules.next w₀.db.tasks.next)
        else w₀.db.schedules.get k) ∧
      (∀ t, w.db.tasks.get t = if t = w₀.db.tasks.next then
          some ⟨w₀.db.tasks.next, some c, taskName uuid, "backups.run_scheduled_backup",
            taskArgs w₀.db.schedules.next, true⟩
        else w₀.db.tasks.get t) ∧
      w₀.db.tasks.next ≤ w.db.tasks.next ∧
      (∀ c crontab, w₀.db.crontabs.get c = some crontab → w.db.crontabs.get c = some crontab) ∧
      (w.db.crontabs.get c = some crontab ∧ unpack (split cronExpression) = some crontab.fields ∧
        crontab.timezone = timezoneName) ∧
      pk = w₀.db.schedules.next := by
  obtain ⟨k, ⟨db₁, _⟩, created, h⟩ := exec_statement_bind h
  cases created
  unfold syncPeriodicTask at h
  simp only [bind_assoc] at h
  obtain ⟨c, ⟨db₂, _⟩, schedules, tasks, kept, ⟨crontab, there, unpacked, same⟩, h⟩ := exec_crontabOf_bind h
  dsimp only at schedules tasks
  obtain ⟨t, ⟨db₃, _⟩, made, h⟩ := exec_statement_bind h
  cases made
  obtain ⟨_, w₄, linked, h⟩ := exec_execute_bind h
  have final : w.db = w₄.db := by
    rw [exec_pure_world h]
  rw [Script.exec_pure] at h
  rw [final, (linkTask_eq_ok linked).2]
  refine ⟨c, crontab, fun k => ?_, fun t => ?_, ?_, kept, ⟨there, unpacked, same⟩, ?_⟩
  · dsimp only
    rw [Sequenced.get_modify, schedules]
    simp only [Sequenced.get_insert, if_true]
    by_cases new : k = w₀.db.schedules.next
    · simp [new, newSchedule, tasks]
    · simp [new]
  · dsimp only
    rw [Sequenced.get_insert, tasks]
  · have before : db₂.tasks.next = w₀.db.tasks.next := by rw [tasks]
    change w₀.db.tasks.next ≤ db₂.tasks.next + 1
    omega
  · exact (Except.ok.inj (Prod.mk.inj h).1).symm

theorem apply_nothing (values : Values) : ({} : Changes).apply values = values := rfl

theorem saveGiven_eq_ok {schedule : Nat} {fields : Changes} {α : Type} {f : Unit → ScheduleM α} {a : α}
    (h : Script.exec (World.perform accepts) (saveGiven schedule fields >>= f) () w₀ =
      (.ok a, (), w)) :
    ∃ w₁, (∀ k, w₁.db.schedules.get k = if k = schedule then
        (w₀.db.schedules.get schedule).map fun s => { s with toValues := fields.apply s.toValues }
        else w₀.db.schedules.get k) ∧
      w₁.db.tasks = w₀.db.tasks ∧ w₁.db.crontabs = w₀.db.crontabs ∧
      Script.exec (World.perform accepts) (f ()) () w₁ = (.ok a, (), w) := by
  unfold saveGiven at h
  split_ifs at h with nothing
  · refine ⟨w₀, fun k => ?_, rfl, rfl, h⟩
    subst nothing
    by_cases same : k = schedule
    · simp only [same, if_true, apply_nothing]
      exact Option.map_id'.symm
    · rw [if_neg same]
  · obtain ⟨_, w₁, saved, h⟩ := exec_execute_bind h
    have final := saveSchedule_eq_ok saved
    refine ⟨w₁, fun k => ?_, by rw [final], by rw [final], h⟩
    rw [final]
    rw [Sequenced.get_modify]

theorem saveTaskFields_eq_ok {task : Nat} {crontab : Option Nat} {enabled : Option Bool}
    (h : Script.exec (World.perform accepts) (saveTaskFields task crontab enabled) () w₀ =
      (.ok (), (), w)) :
    w.db.schedules = w₀.db.schedules ∧ w.db.crontabs = w₀.db.crontabs ∧ w.db.tasks.next = w₀.db.tasks.next ∧
      ∀ t, w.db.tasks.get t = if t = task then
        (w₀.db.tasks.get task).map fun t =>
          { t with crontab := crontab.or t.crontab, enabled := enabled.getD t.enabled }
        else w₀.db.tasks.get t := by
  unfold saveTaskFields at h
  split_ifs at h with nothing
  · obtain rfl := exec_pure_world h
    refine ⟨rfl, rfl, rfl, fun t => ?_⟩
    rw [Bool.and_eq_true, Option.isNone_iff_eq_none, Option.isNone_iff_eq_none] at nothing
    obtain ⟨rfl, rfl⟩ := nothing
    by_cases same : t = task
    · simp only [same, if_true, Option.none_or, Option.getD_none]
      exact Option.map_id'.symm
    · rw [if_neg same]
  · obtain ⟨_, saved⟩ := exec_execute h
    rw [saveTask_eq_ok saved]
    refine ⟨rfl, rfl, rfl, fun t => ?_⟩
    rw [Sequenced.get_modify]

/-- **What `update_schedule` does** that succeeds: the schedule has the fields, and its task is enabled as they say
and at their times if these are other times. -/
theorem updateSchedule_eq_ok {schedule : BackupSchedule} {fields : Changes}
    (h : Script.exec (World.perform accepts) (updateSchedule schedule fields) () w₀ =
      (.ok (), (), w)) :
    let values := fields.apply schedule.toValues
    (∀ k, w.db.schedules.get k = if k = schedule.pk then
        (w₀.db.schedules.get schedule.pk).map fun s => { s with toValues := fields.apply s.toValues }
        else w₀.db.schedules.get k) ∧
      w.db.tasks.next = w₀.db.tasks.next ∧
      (∀ c crontab, w₀.db.crontabs.get c = some crontab → w.db.crontabs.get c = some crontab) ∧
      match schedule.periodicTask with
      | none => w.db.tasks = w₀.db.tasks
      | some task => ∃ crontab : Option Nat,
        (∀ t, w.db.tasks.get t = if t = task then
          (w₀.db.tasks.get task).map fun t =>
            { t with crontab := crontab.or t.crontab, enabled := fields.enabled.getD t.enabled }
          else w₀.db.tasks.get t) ∧
        if cronOrTzChanged schedule.toValues fields then
          ∃ c row, crontab = some c ∧ w.db.crontabs.get c = some row ∧
            unpack (split values.cronExpression) = some row.fields ∧ row.timezone = values.timezone
        else crontab = none ∧ w.db.crontabs = w₀.db.crontabs := by
  intro values
  unfold updateSchedule at h
  obtain ⟨w₁, saved, tasks, crontabs, h⟩ := saveGiven_eq_ok h
  cases linked : schedule.periodicTask with
  | none =>
    simp only [linked] at h
    obtain rfl := exec_pure_world h
    exact ⟨saved, by rw [tasks], by rw [crontabs]; exact fun _ _ there => there, tasks⟩
  | some task =>
    simp only [linked] at h
    split_ifs at h with changed
    · obtain ⟨c, w₂, schedules₂, tasks₂, kept, ⟨row, there, unpacked, same⟩, h⟩ := exec_crontabOf_bind h
      obtain ⟨schedules, crontabs', next, updated⟩ := saveTaskFields_eq_ok h
      refine ⟨?_, ?_, ?_, some c, ?_, ?_⟩
      · rw [schedules, schedules₂]
        exact saved
      · rw [next, tasks₂, tasks]
      · rw [crontabs', ← crontabs]
        exact kept
      · rw [← tasks, ← tasks₂]
        exact updated
      · rw [if_pos changed, crontabs']
        exact ⟨c, row, rfl, there, unpacked, same⟩
    · obtain ⟨schedules, crontabs', next, updated⟩ := saveTaskFields_eq_ok h
      refine ⟨?_, ?_, ?_, none, ?_, ?_⟩
      · rw [schedules]
        exact saved
      · rw [next, tasks]
      · rw [crontabs', crontabs]
        exact fun _ _ there => there
      · rw [← tasks]
        exact updated
      · rw [if_neg changed, crontabs', crontabs]
        exact ⟨rfl, rfl⟩

end Calls

/-! ## In step -/

/-- A schedule is linked to a task that is enabled as it is, at its times and for its key. -/
def InStep (db : Database) (k : Nat) (s : BackupSchedule) (t : Nat) : Prop :=
  s.periodicTask = some t ∧ ∃ task c crontab, db.tasks.get t = some task ∧ task.enabled = s.enabled ∧
    task.args = taskArgs k ∧ task.crontab = some c ∧ db.crontabs.get c = some crontab ∧
    unpack (split s.cronExpression) = some crontab.fields ∧ crontab.timezone = s.timezone

/-- **The invariant**: every schedule is in step with a task of its own, and any other task was there before. -/
structure Wired (first : Sequenced PeriodicTask) (db : Database) : Prop where
  scheduled : ∀ k s, db.schedules.get k = some s → ∃ t, first.next ≤ t ∧ InStep db k s t
  single : ∀ k k' s s' t, db.schedules.get k = some s → db.schedules.get k' = some s' →
    s.periodicTask = some t → s'.periodicTask = some t → k = k'
  foreign : ∀ t < first.next, db.tasks.get t = first.get t
  owned : ∀ t task, first.next ≤ t → db.tasks.get t = some task →
    ∃ k s, db.schedules.get k = some s ∧ s.periodicTask = some t
  next : first.next ≤ db.tasks.next

section InStep

variable {accepts : CronFields → String → Bool} {first : Sequenced PeriodicTask} {db db' : Database} {k t pk : Nat}
  {s : BackupSchedule} {w₀ w : World}

/-- A task is not seen to change where another one does. -/
theorem InStep.of_same (inStep : InStep db k s t) (task : db'.tasks.get t = db.tasks.get t)
    (kept : ∀ c crontab, db.crontabs.get c = some crontab → db'.crontabs.get c = some crontab) :
    InStep db' k s t := by
  obtain ⟨linked, row, c, crontab, there, enabled, args, times, found, same⟩ := inStep
  exact ⟨linked, row, c, crontab, task.trans there, enabled, args, times, kept c crontab found, same⟩

/-- Times that are not other ones are the ones there were. -/
theorem unchanged {values : Values} {fields : Changes} (same : cronOrTzChanged values fields = false) :
    (fields.apply values).cronExpression = values.cronExpression ∧
      (fields.apply values).timezone = values.timezone := by
  obtain ⟨expression, timezone⟩ := Bool.or_eq_false_iff.mp same
  constructor
  · cases given : fields.cronExpression with
    | none => simp [Changes.apply, given]
    | some value => simpa [given, Changes.apply] using expression
  · cases given : fields.timezone with
    | none => simp [Changes.apply, given]
    | some value => simpa [given, Changes.apply] using timezone

end InStep

end NodePilot.Schedules
