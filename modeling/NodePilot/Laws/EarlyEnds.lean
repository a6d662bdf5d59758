import NodePilot.Laws.FailedClone
import NodePilot.Laws.Statuses

/-!
# Tasks that end before they reach an agent

A task that cannot have its lock, or that finds its job canceled at its first step, ends in its catch-all
`except` branch as it would after a failed operation. What that branch writes over the statuses is all that such
a task changes: what the task itself has written before is overwritten. So the statuses are the same as before
if and only if they were what the branch writes.
-/

namespace NodePilot

open Lib Lib.Script

/-- Lock or cancellation. A cancellation that comes after the task has loaded its job shows as a transition that
is refused. -/
def Exn.early : Exn → Bool
  | .lockAcquisition _ | .jobCancelled _ | .invalidStateTransition _ => true
  | _ => false

/-- The execution ends by such an exception, and has sent nothing to an agent. -/
structure EndsEarly (taskId : String) (job : Nat) (task : Task) (w : World) : Prop where
  raises : ∃ e, (exec World.handle (task.run taskId job) () w).1 = .error e ∧ e.early
  silent : (task.execute taskId job w).calls = w.calls

/-- The tasks on a VM, a snapshot or a backup that is there. -/
def Task.onResource : Task → Bool
  | .cloneVm _ _ _ | .attachDisk _ | .detachDisk _ | .resizeDisk _ _ | .attachNic _ | .detachNic _
  | .createNetwork _ | .deleteNetwork _ | .createStoragePool _ => false
  | _ => true

/-- The resource already is what the task's `except` branch makes of it, or the branch leaves it alone. -/
def Task.spared (w : World) : Task → Prop
  | .deleteVm vm => ∀ v, Table.get w.db.vms vm = some v → v.status = .error
  | .provisionVm vm => ∀ v, Table.get w.db.vms vm = some v →
      .lifecycle v.uuid ∈ w.busy ∨ (v.status = .error ∧ v.provisioningState = .error)
  | .createSnapshot snapshot => ∀ s, Table.get w.db.snapshots snapshot = some s → s.status = .error
  | .rollbackSnapshot snapshot => ∀ s, Table.get w.db.snapshots snapshot = some s → s.status = .ready
  | .createBackup backup => ∀ b, Table.get w.db.backups backup = some b → b.status = .failed
  | .restoreBackup backup => ∀ b, Table.get w.db.backups backup = some b → b.status = .completed
  | _ => True

/-! ## Along an execution -/

section Runs

variable {n : Nat} {f : Statuses → Statuses} {S : Statuses} {o : Op} {w : World}

/-- The statuses are `S` with `f` over them, unless something has been sent after the first `n` requests. -/
structure Heading (n : Nat) (f : Statuses → Statuses) (S : Statuses) (w : World) : Prop where
  sent : n ≤ w.calls.length
  statuses : n < w.calls.length ∨ f w.db.statuses = S

theorem statuses_next (w : World) : w.next.db.statuses = w.db.statuses :=
  statuses_eq_of_settled settled_requestCancel

/-- No operation takes a call back. -/
theorem calls_le_handle (o : Op) (w : World) : w.calls.length ≤ (World.handle o w).2.calls.length := by
  unfold World.calls
  rcases World.handle_trace o w with same | ⟨e, -, added⟩
  · rw [same]
  · rw [added, List.filterMap_cons]
    split
    · exact Nat.le_refl _
    · rw [List.length_cons]
      omega

/-- Time passing changes no status. -/
theorem Heading.next (h : Heading n f S w) : Heading n f S w.next :=
  ⟨h.sent, h.statuses.imp id fun same => (congrArg f (statuses_next w)).trans same⟩

/-- An operation that writes nothing but the job and what `f` absorbs. -/
theorem heading_handle (ho : o.within (fun _ => True) (fun x => x.keepsRows ∧ ∀ s, f (x.restates s) = f s) False)
    (h : Heading n f S w) : Heading n f S (World.handle o w).2 := by
  have more := calls_le_handle o w
  refine ⟨h.sent.trans more, ?_⟩
  rcases h.next.statuses with sent | same
  · exact .inl (Nat.lt_of_lt_of_le sent more)
  · right
    rcases World.handle_db o w with unchanged | ⟨x, rfl, hx⟩ | ⟨row, row', rfl, -⟩
    · rw [unchanged]
      exact same
    · rcases ho with onJobs | ⟨keeps, absorbed⟩
      · obtain ⟨keeps, nothing⟩ := restates_onJobs onJobs
        rw [Tables.write_statuses keeps hx, nothing]
        exact same
      · rw [Tables.write_statuses keeps hx, absorbed]
        exact same
    · exact ho.elim

variable {L α : Type} {x : TaskM L α} {Q : α → Prop}

/-- What writes nothing but the job and what `f` absorbs. -/
abbrev Op.under (f : Statuses → Statuses) : Op → Prop :=
  Op.within (fun _ => True) (fun x => x.keepsRows ∧ ∀ s, f (x.restates s) = f s) False

/-- A script whose writes are covered keeps heading for the same statuses. -/
theorem keeps_heading (hx : Obeys (fun _ _ => True) (Op.under f) Q x) :
    Keeps World.handle (fun _ => Heading n f S) (fun _ => True) x :=
  hx.keeps fun _ _ ho h => ⟨trivial, heading_handle ho h⟩

/-- A routine operation that inserts no VM is covered by any mark. -/
theorem Op.withoutInsert.under (ho : o.withoutInsert) (f : Statuses → Statuses) : o.under f := by
  cases o with
  | write x => exact .inl (ho.resolve_right id)
  | createVm => exact ho.elim
  | _ => trivial

/-- Where an execution that ends early is left. -/
def Left (n : Nat) (S : Statuses) (e : Exn) (w : World) : Prop := e.early → Heading n id S w

/-- A script that inserts nothing keeps what was left. -/
theorem keeps_left {exc : Exn} (hx : Obeys (fun _ _ => True) Op.withoutInsert Q x) :
    Keeps World.handle (fun _ => Left n S exc) (fun _ => True) x :=
  hx.keeps fun _ _ ho h => ⟨trivial, fun early => heading_handle (ho.under id) (h early)⟩

/-- A write that nothing but the database itself refuses. -/
def Write.unchecked : Write → Prop
  | .vmSave _ _ | .snapshotSave _ _ | .backupSave _ _ | .jobCeleryTaskId _ _ => True
  | _ => False

/-- Only the database can refuse an unchecked write. -/
theorem Tables.unchecked_error {now : Nat} {uuid : Uuid} {t : Tables} {x : Write} {e : Exn} (hx : x.unchecked)
    (h : t.write now uuid x = .error e) : e = .databaseError := by
  have row {ρ : Type} [Row ρ] {rows : List ρ} {pk : Nat} {f : ρ → ρ} {e : Exn}
      (h : saveRow rows pk f = .error e) : e = .databaseError := by
    unfold saveRow at h
    split at h
    · cases h
      rfl
    · cases h
  cases x with
  | vmSave | snapshotSave | backupSave => exact row (except_bind_error h)
  | jobCeleryTaskId => cases h
  | _ => exact hx.elim

/-- An unchecked write never ends a task early. -/
theorem late_save {x : Write} (hx : x.unchecked) :
    Triple (L := L) World.handle (fun _ _ => True) (save x) (fun _ _ _ => True) fun e _ _ => ¬ e.early := by
  intro l w _
  unfold NodePilot.save
  rw [exec_bind]
  simp only [exec_perform, World.handle, World.answer, World.statement]
  cases refused : (if (w.script w.pos).dbFails then .error .databaseError
      else w.next.db.write (w.script w.pos).now (w.script w.pos).uuid x : Except Exn Tables) with
  | ok db => trivial
  | error e =>
    have database : e = .databaseError := by
      split at refused
      · cases refused
        rfl
      · exact Tables.unchecked_error hx refused
    show ¬ e.early
    rw [database]
    exact Bool.false_ne_true

/-- The mark of an except branch is written, or the database fails. -/
theorem triple_mark {mark : Write} (hm : mark.unchecked) :
    Triple (L := L) World.handle (fun _ => Heading n mark.restates S) (save mark)
      (fun _ _ => Heading n id S) fun e _ _ => ¬ e.early := by
  have keeps : mark.keepsRows := by cases mark <;> first | exact trivial | exact hm
  have written : Triple (L := L) World.handle (fun _ => Heading n mark.restates S) (save mark)
      (fun _ _ => Heading n id S) fun _ _ _ => True := by
    refine Triple.save (fun _ _ h => h.next) (fun l w now uuid db start hdb =>
      ⟨start.sent, start.statuses.imp id fun same => ?_⟩) fun _ _ _ _ _ => trivial
    show db.statuses = S
    rw [Tables.write_statuses keeps hdb]
    exact same
  exact (written.both (late_save hm)).conseq (fun _ _ h => ⟨h, trivial⟩) (fun _ _ _ h => h.1) fun _ _ _ h => h.2

/-- The save of an `except` branch, and what follows it. -/
theorem triple_marked (mark : Write) {rest : TaskM L α} (hm : mark.unchecked)
    (hrest : Obeys (fun _ _ => True) Op.withoutInsert (fun _ => True) rest) :
    Triple World.handle (fun _ => Heading n mark.restates S) (do save mark; rest) (fun _ _ => Heading n id S)
      fun e _ => Left n S e := by
  refine Triple.bind ((triple_mark hm).conseq (fun _ _ => id) (fun _ _ _ => id)
    fun e l w late early => absurd early late) fun _ => ?_
  have kept : Keeps World.handle (fun _ => Heading n id S) (fun _ => True) rest :=
    keeps_heading (hrest.mono (fun _ ho => ho.under id) fun _ => id)
  exact kept.conseq (fun _ _ => id) (fun _ _ _ => id) fun e l w h _ => h.1

/-- An except branch leaves the statuses it marks. -/
theorem triple_except (mark : Write) {rest : TaskM L α} (hm : mark.unchecked)
    (hrest : Obeys (fun _ _ => True) Op.withoutInsert (fun _ => True) rest) :
    Triple World.handle (fun _ => Heading n mark.restates S) (do save mark; rest) (fun _ _ _ => True)
      fun e _ => Left n S e :=
  (triple_marked mark hm hrest).conseq (fun _ _ => id) (fun _ _ _ _ => trivial) fun _ _ _ => id

/-- A job that has not ended. -/
def Active (job : Nat) (w : World) : Prop :=
  ∃ row, Table.get w.db.jobs job = some row ∧ row.status.isTerminal = false

theorem active_next {job : Nat} (h : Active job w) : Active job w.next := by
  obtain ⟨row, found, running⟩ := h
  show ∃ row, Table.get (w.db.requestCancel (w.script w.pos).now (w.script w.pos).cancel).jobs job = some row ∧ _
  rcases w.db.requestCancel_cases (w.script w.pos).now (w.script w.pos).cancel with same | ⟨k, -, -, -, turned⟩
  · rw [same]
    exact ⟨row, found, running⟩
  · rw [turned]
    by_cases here : job = k
    · subst here
      exact ⟨_, (Table.get_modify_self (f := fun r : JobRow =>
        r.transitioned .canceling (some "Cancellation requested") none (w.script w.pos).now) (fun _ => rfl)).trans
        (congrArg _ found), rfl⟩
    · exact ⟨row, (Table.get_modify_ne (f := fun r : JobRow =>
        r.transitioned .canceling (some "Cancellation requested") none (w.script w.pos).now) (fun _ => rfl) here).trans
          found, running⟩

/-- A job that has not ended can always fail. -/
theorem triple_fail {j : JobRow} {message error : Option String} :
    Triple (L := L) World.handle (fun _ => Active j.pk) (transition j .failed message error) (fun _ _ _ => True)
      fun e _ _ => ¬ e.early := by
  intro l w start
  obtain ⟨row, found, running⟩ := active_next start
  have valid : JobStatus.failed ∈ validTransitions row.status := by
    cases hs : row.status <;> rw [hs] at running <;> first | decide | cases running
  unfold NodePilot.transition NodePilot.save
  rw [exec_bind]
  simp only [exec_perform, World.handle, World.answer, World.statement, Tables.write, found, valid, true_or, if_true]
  cases (w.script w.pos).dbFails
  · trivial
  · exact Bool.false_ne_true

/-- Failing the job changes no other status. -/
theorem triple_failActive {job : Nat} {row : JobRow} {exc : Exn} :
    Triple (L := L) World.handle
      (fun _ w => Left n S exc w ∧ Table.get w.db.jobs job = some row)
      (onlyIf (¬ row.isTerminal) (transition row .failed none (some exc.str))) (fun _ _ => Left n S exc)
      fun e _ _ => ¬ e.early := by
  refine Triple.ite (fun running => ?_) fun _ => Triple.pure fun _ _ h => h.1
  have keeps : Keeps (L := L) World.handle (fun _ => Left n S exc) (fun _ => True)
      (NodePilot.transition row .failed none (some exc.str)) := keeps_left routine_withoutInsert.transition
  refine (keeps.both triple_fail).conseq (fun l w h => ⟨h.1, row, ?_, Bool.eq_false_iff.mpr running⟩)
    (fun _ _ _ h => h.1) fun _ _ _ h => h.2
  have pk : row.pk = job := Table.pk_of_get h.2
  rw [pk]
  exact h.2

/-- Neither does `on_failure`. -/
theorem triple_onFailure {job : Nat} {exc : Exn} :
    Triple (L := L) World.handle (fun _ => Left n S exc) (onFailure job exc) (fun _ _ => Left n S exc)
      fun e _ _ => ¬ e.early := by
  intro l w start
  have kept : Left n S exc w.next := fun early => (start early).next
  have read : exec World.handle NodePilot.query l w = (.ok w.next.db, l, w.next) := rfl
  unfold NodePilot.onFailure
  rw [exec_bind, read]
  dsimp only
  cases found : Table.get w.next.db.jobs job with
  | some row => exact @triple_failActive _ _ _ job _ _ l w.next ⟨kept, found⟩
  | none => exact kept

variable {t₀ : Tables} {busy : List LockKey}

/-- Where a task starts. -/
structure Fresh (n : Nat) (t₀ : Tables) (busy : List LockKey) (w : World) : Prop where
  rows : w.db.settled = t₀
  sent : n ≤ w.calls.length
  locks : w.busy = busy

/-- Nothing was done while only rows were loaded. -/
theorem fresh_handle (ho : o.withoutInsert) (lockFree : o.lockFree) (h : Fresh n t₀ busy w) :
    Fresh n t₀ busy (World.handle o w).2 :=
  ⟨settled_handle ho h.rows, h.sent.trans (calls_le_handle o w), (World.handle_busy lockFree).trans h.locks⟩

/-- Whoever has done nothing heads for any statuses. -/
theorem Fresh.heading (h : Fresh n t₀ busy w) (f : Statuses → Statuses) : Heading n f (f t₀.statuses) w :=
  ⟨h.sent, .inr (congrArg f (congrArg Tables.statuses h.rows :))⟩

/-- What `JobBoundTask` adds changes no status, and raises no early exception of its own. -/
theorem triple_jobBound_left {taskId : String} {job : Nat} {body : TaskM Unit Unit}
    (hbody : Triple World.handle (fun _ => Fresh n t₀ busy) body (fun _ _ _ => True) fun e _ => Left n S e) :
    Triple World.handle (fun _ => Fresh n t₀ busy) (jobBound taskId job body) (fun _ _ _ => True)
      fun e _ => Left n S e := by
  have kept : Keeps (L := Unit) World.handle (fun _ => Fresh n t₀ busy) (fun _ => True) (beforeStart taskId job) :=
    Keeps.save (fun _ _ => trivial) fun _ _ =>
      fresh_handle (o := .write (.jobCeleryTaskId job taskId)) (.inl rfl) trivial
  have started : Triple (L := Unit) World.handle (fun _ => Fresh n t₀ busy) (beforeStart taskId job)
      (fun _ _ => Fresh n t₀ busy) fun e _ _ => ¬ e.early :=
    (kept.both (late_save (x := .jobCeleryTaskId job taskId) trivial)).conseq (fun _ _ h => ⟨h, trivial⟩)
      (fun _ _ _ h => h.1) fun _ _ _ h => h.2
  refine Triple.tryCatch (R := fun e _ => Left n S e) (Triple.bind (started.conseq (fun _ _ => id) (fun _ _ _ => id)
    fun e l w late early => absurd early late) fun _ => hbody) fun exc => ?_
  exact Triple.bind (triple_onFailure.conseq (fun _ _ => id) (fun _ _ _ => id)
    fun e l w late early => absurd early late) fun _ => Triple.throw fun _ _ => id

/-- What a task loads is in the tables that it starts from. -/
theorem triple_load {β : Type} {model : String} {row : Tables → Option β} {rest : β → TaskM L Unit}
    (hrest : ∀ a t, t.settled = t₀ → row t = some a →
      Triple World.handle (fun _ => Fresh n t₀ busy) (rest a) (fun _ _ _ => True) fun e _ => Left n S e) :
    Triple World.handle (fun _ => Fresh n t₀ busy) (getRow model row >>= rest) (fun _ _ _ => True)
      fun e _ => Left n S e := by
  unfold NodePilot.getRow
  rw [bind_assoc]
  refine Triple.query_bind (fun _ _ => fresh_handle (o := Op.read) trivial trivial) fun t ⟨l, w, fresh, here⟩ => ?_
  cases found : row t with
  | none =>
    exact Triple.bind (Q := fun _ _ _ => False) (Triple.throw fun _ _ _ early => nomatch early)
      fun _ _ _ h => h.elim
  | some a =>
    rw [pure_bind]
    exact hrest a t (here ▸ fresh.rows) found

theorem triple_now {Q : α → L → World → Prop} {R : Exn → L → World → Prop} {rest : Nat → TaskM L α}
    (hrest : ∀ time, Triple World.handle (fun _ => Heading n f S) (rest time) Q R) :
    Triple World.handle (fun _ => Heading n f S) (now >>= rest) Q R :=
  Triple.bind (Q := fun _ _ => Heading n f S)
    (Triple.perform fun _ _ here => heading_handle (o := Op.now) trivial here) hrest

/-- A task whose own writes are absorbed by what its `except` branch writes. -/
theorem triple_absorbed {body : TaskM L Unit} {handler : Exn → TaskM L Unit}
    (hbody : Obeys (fun _ _ => True) (Op.under f) (fun _ => True) body)
    (hhandler : ∀ exc, Triple World.handle (fun _ => Heading n f S) (handler exc) (fun _ _ _ => True)
      fun e _ => Left n S e) (hS : S = f t₀.statuses) :
    Triple World.handle (fun _ => Fresh n t₀ busy) (tryCatch body handler) (fun _ _ _ => True)
      fun e _ => Left n S e := by
  subst hS
  exact Triple.tryCatch (R := fun _ _ => Heading n f _) ((keeps_heading hbody).conseq (fun _ _ h => h.heading f)
    (fun _ _ _ _ => trivial) fun _ _ _ h => h.1) hhandler

end Runs

/-! ## The tasks -/

section Tasks

variable {n : Nat} {t₀ : Tables} {busy : List LockKey} {L : Type} {jobId : Nat}

theorem routine_under {f : Statuses → Statuses} : Routine (Op.under f) := routine_within

/-- A write that the mark overwrites is covered by it. -/
theorem obeys_under {f : Statuses → Statuses} {mark y : Write} (h : mark.Absorbs y) (hf : f = mark.restates) :
    Obeys (fun _ _ => True) (Op.under f) (fun _ => True) (save y : TaskM L Unit) :=
  obeys_save (.inr ⟨h.1, fun s => by rw [hf, h.2]⟩)

theorem loadSnapshot_some {t : Tables} {snapshot : Nat} {s : SnapshotRow} {v : VmRow}
    (h : t.loadSnapshot snapshot = some (s, v)) : Table.get t.snapshots snapshot = some s := by
  obtain ⟨s', found, rest⟩ := Option.bind_eq_some_iff.mp h
  obtain ⟨v', -, same⟩ := Option.bind_eq_some_iff.mp rest
  cases same
  exact found

/-- What an early end of `create_snapshot_task` leaves. -/
theorem left_createSnapshot {snapshot : Nat} :
    Triple (L := L) World.handle (fun _ => Fresh n t₀ busy) (createSnapshotTask jobId snapshot) (fun _ _ _ => True)
      fun e _ => Left n ((Write.snapshotSave snapshot { status := .error }).restates t₀.statuses) e := by
  refine triple_load fun job _ _ _ => triple_load fun (s, vm) t _ loaded => ?_
  have pk : s.pk = snapshot := Table.pk_of_get (loadSnapshot_some loaded)
  subst pk
  dsimp only
  have h := routine_under (f := (Write.snapshotSave s.pk { status := .error }).restates)
  refine triple_absorbed ?_ (fun exc => triple_except _ trivial routine_withoutInsert.failAndRaise) rfl
  refine Obeys.bind (Q := fun _ => True) (h.withLock (h.jobRun ?_)) fun _ _ =>
    Obeys.bind h.transition fun _ _ => h.emitEvent
  exact Obeys.bind (obeys_send trivial) fun _ _ => obeys_under absorbs_snapshotSave rfl

/-- What an early end of `rollback_snapshot_task` leaves. -/
theorem left_rollbackSnapshot {snapshot : Nat} :
    Triple (L := L) World.handle (fun _ => Fresh n t₀ busy) (rollbackSnapshotTask jobId snapshot) (fun _ _ _ => True)
      fun e _ => Left n ((Write.snapshotSave snapshot { status := .ready }).restates t₀.statuses) e := by
  refine triple_load fun job _ _ _ => triple_load fun (s, vm) t _ loaded => ?_
  have pk : s.pk = snapshot := Table.pk_of_get (loadSnapshot_some loaded)
  subst pk
  dsimp only
  have h := routine_under (f := (Write.snapshotSave s.pk { status := .ready }).restates)
  refine triple_absorbed ?_ (fun exc => triple_except _ trivial routine_withoutInsert.failAndRaise) rfl
  refine Obeys.bind (Q := fun _ => True) (h.withLock (h.withLock (h.jobRun ?_))) fun _ _ =>
    Obeys.bind h.transition fun _ _ => h.emitEvent
  exact Obeys.bind (obeys_under absorbs_snapshotSave rfl) fun _ _ => Obeys.bind (obeys_send trivial) fun _ _ =>
    obeys_under absorbs_snapshotSave rfl

/-- What an early end of `create_backup_task` leaves. -/
theorem left_createBackup {backup : Nat} :
    Triple (L := L) World.handle (fun _ => Fresh n t₀ busy) (createBackupTask jobId backup) (fun _ _ _ => True)
      fun e _ => Left n ((Write.backupSave backup { status := .failed }).restates t₀.statuses) e := by
  refine triple_load fun job _ _ _ => triple_load fun (b, vm, target) t _ loaded => ?_
  have pk : b.pk = backup := Table.pk_of_get (loadBackup_some loaded).1
  subst pk
  dsimp only
  have h := routine_under (f := (Write.backupSave b.pk { status := .failed }).restates)
  have clock {φ : Op → Prop} (hφ : φ .now) : Obeys (fun _ _ => True) φ (fun _ => True) (now : TaskM L Nat) :=
    Obeys.perform (o := Op.now) hφ fun _ _ => trivial
  refine triple_absorbed ?_ (fun exc => ?_) rfl
  · refine Obeys.bind (Q := fun _ => True) (h.withLock (h.jobRun ?_)) fun _ _ =>
      Obeys.bind h.transition fun _ _ => h.emitEvent
    refine Obeys.bind (clock trivial) fun _ _ => Obeys.bind (obeys_under absorbs_backupSave rfl) fun _ _ => ?_
    refine Obeys.bind h.requirePrimaryDisk fun _ _ => Obeys.bind (obeys_send trivial) fun _ _ => ?_
    exact Obeys.bind (clock trivial) fun _ _ => obeys_under absorbs_backupSave rfl
  · refine triple_now fun finishedAt => triple_except (.backupSave b.pk
      { status := .failed, finishedAt := some finishedAt }) trivial ?_
    exact Obeys.bind (Q := fun _ => True) (Obeys.bind routine_withoutInsert.getRow fun _ _ =>
      obeys_onlyIf routine_withoutInsert.transition) fun _ _ =>
        Obeys.bind routine_withoutInsert.emitEvent fun _ _ => Obeys.throw

/-- What an early end of `restore_backup_task` leaves. -/
theorem left_restoreBackup {backup : Nat} :
    Triple (L := L) World.handle (fun _ => Fresh n t₀ busy) (restoreBackupTask jobId backup) (fun _ _ _ => True)
      fun e _ => Left n ((Write.backupSave backup { status := .completed }).restates t₀.statuses) e := by
  refine triple_load fun job _ _ _ => triple_load fun (b, vm, target) t _ loaded => ?_
  have pk : b.pk = backup := Table.pk_of_get (loadBackup_some loaded).1
  subst pk
  dsimp only
  have h := routine_under (f := (Write.backupSave b.pk { status := .completed }).restates)
  refine triple_absorbed ?_ (fun exc => triple_except _ trivial routine_withoutInsert.failAndRaise) rfl
  refine Obeys.bind (Q := fun _ => True) (h.withLock (h.jobRun ?_)) fun _ _ => h.transition
  refine Obeys.bind (obeys_under absorbs_backupSave rfl) fun _ _ => ?_
  refine Obeys.bind h.requirePrimaryDisk fun _ _ => Obeys.bind (obeys_send trivial) fun _ _ => ?_
  exact obeys_under absorbs_backupSave rfl

/-- A removal takes effect, or the task goes on as if it had not been tried. -/
theorem triple_removed {x : Write} {K : Tables → Prop} {f : Statuses → Statuses} {S : Statuses}
    {rest : TaskM L Unit}
    (hx : ∀ now uuid (t t' : Tables), t.write now uuid x = .ok t' → K t'.settled)
    (hrest : Obeys (fun _ _ => True) Op.withoutInsert (fun _ => True) rest) :
    Triple World.handle (fun _ => Heading n f S) (do save x; rest) (fun _ _ _ => True)
      fun _ _ w => Heading n f S w ∨ K w.db.settled := by
  have removed : Triple (L := L) World.handle (fun _ => Heading n f S) (save x) (fun _ _ w => K w.db.settled)
      fun _ _ w => Heading n f S w ∨ K w.db.settled :=
    Triple.save (fun _ _ h => h.next) (fun _ _ _ _ _ _ done => hx _ _ _ _ done) fun _ w _ here _ =>
      .inl ⟨here.sent, here.statuses⟩
  refine Triple.bind removed fun _ l w gone => ?_
  have kept := (keeps_settled hrest : Keeps World.handle (fun _ w' => w'.db.settled = w.db.settled) _ rest) l w rfl
  generalize exec World.handle rest l w = r at kept ⊢
  rcases r with ⟨e | a, l', w'⟩
  · exact .inr (kept.1 ▸ gone)
  · trivial

/-- A branch that finds its row gone raises what the database says. -/
theorem triple_gone {mark : Write} {K : Tables → Prop} {S : Statuses} {rest : TaskM L Unit}
    (hm : ∀ now uuid (t t' : Tables), t.write now uuid mark = .ok t' → ¬ K t.settled)
    (refused : mark.unchecked) :
    Triple World.handle (fun _ w => K w.db.settled) (do save mark; rest) (fun _ _ _ => True)
      fun e _ => Left n S e := by
  have never : Triple (L := L) World.handle (fun _ w => K w.db.settled) (save mark) (fun _ _ _ => False)
      fun _ _ _ => True :=
    Triple.save (fun _ w here => (settled_requestCancel (t := w.db)).symm ▸ here)
      (fun _ _ _ _ _ here done => hm _ _ _ _ done here) fun _ _ _ _ _ => trivial
  refine Triple.bind (Q := fun _ _ _ => False) ((never.both (late_save refused)).conseq
    (fun _ _ here => ⟨here, trivial⟩) (fun _ _ _ h => h.1) fun _ _ _ h early => absurd early h.2)
    fun _ _ _ h => h.elim

/-- A row that was saved was there. -/
theorem saveRow_found {ρ : Type} [Row ρ] {rows : List ρ} {pk : Nat} {f : ρ → ρ} {g : List ρ → Tables}
    {t' : Tables}
    (h : (do let rows' ← saveRow rows pk f; return g rows' : Except Exn Tables) = .ok t') :
    Table.get rows pk ≠ none := by
  obtain ⟨rows', saved, -⟩ := except_bind_ok h
  unfold saveRow at saved
  split at saved
  · cases saved
  · next found =>
    rw [found]
    nofun

/-- What an early end of `delete_vm_task` leaves. -/
theorem left_deleteVm {vm : Nat} :
    Triple (L := L) World.handle (fun _ => Fresh n t₀ busy) (deleteVmTask jobId vm) (fun _ _ _ => True)
      fun e _ => Left n ((Write.vmSave vm { status := some .error }).restates t₀.statuses) e := by
  refine triple_load fun job _ _ _ => triple_load fun v t _ loaded => ?_
  have pk : v.pk = vm := Table.pk_of_get loaded
  subst pk
  have h := routine_under (f := (Write.vmSave v.pk { status := some .error }).restates)
  have locked : Obeys (fun _ _ => True) (Op.under (Write.vmSave v.pk { status := some .error }).restates)
      (fun _ => True) (lifecycleLock v (storageLock v (jobRun job "Deleting VM" (deleteVmStep v))) : TaskM L Unit) := by
    refine h.withLock (h.withLock (h.jobRun ?_))
    refine Obeys.bind (obeys_under (absorbs_vmSave (.inl rfl) (.inr rfl)) rfl) fun _ _ => ?_
    refine Obeys.bind (obeys_send trivial) fun _ _ => ?_
    refine Obeys.bind (Q := fun _ => True) (Obeys.bind h.query fun _ _ => Obeys.pure trivial) fun _ _ => ?_
    exact Obeys.forM trivial fun _ _ => Obeys.bind (obeys_send trivial) fun _ _ => Obeys.pure trivial
  refine Triple.tryCatch (R := fun _ _ w => Heading n _ _ w ∨ Table.get w.db.settled.vms v.pk = none)
    (Triple.bind ((keeps_heading locked).conseq (fun _ _ h => h.heading _) (fun _ _ _ => id)
      fun _ _ _ h => .inl h.1) fun _ => ?_) fun exc => ?_
  · refine triple_removed (K := fun t => Table.get t.vms v.pk = none) (fun _ _ _ _ done => ?_) ?_
    · cases done
      exact Table.get_remove_self
    · exact Obeys.bind routine_withoutInsert.transition fun _ _ => obeys_swallow routine_withoutInsert.emitEvent
  · refine Triple.either (triple_except (.vmSave v.pk { status := some .error, lastError := some exc.str })
      trivial routine_withoutInsert.failAndRaise)
      (triple_gone (K := fun t => Table.get t.vms v.pk = none) (fun now uuid t t' done gone => ?_) trivial)
    exact absurd gone (saveRow_found done)

/-- After a failure a snapshot has the status it was loaded with. -/
theorem left_deleteSnapshot {snapshot : Nat} :
    Triple (L := L) World.handle (fun _ => Fresh n t₀ busy) (deleteSnapshotTask jobId snapshot) (fun _ _ _ => True)
      fun e _ => Left n t₀.statuses e := by
  refine triple_load fun job _ _ _ => triple_load fun (s, vm) t same loaded => ?_
  have found := loadSnapshot_some loaded
  have pk : s.pk = snapshot := Table.pk_of_get found
  subst pk
  dsimp only
  have h := routine_under (f := (Write.snapshotSave s.pk { status := s.status }).restates)
  have locked : Obeys (fun _ _ => True) (Op.under (Write.snapshotSave s.pk { status := s.status }).restates)
      (fun _ => True) (storageLock vm (jobRun job ("Deleting snapshot " ++ s.name) (deleteSnapshotStep vm s)) :
        TaskM L Unit) := by
    refine h.withLock (h.jobRun ?_)
    refine Obeys.bind (obeys_under absorbs_snapshotSave rfl) fun _ _ => ?_
    exact Obeys.bind (obeys_send trivial) fun _ _ => Obeys.pure trivial
  have still : (Write.snapshotSave s.pk { status := s.status }).restates t₀.statuses = t₀.statuses := by
    refine Statuses.ext rfl (restates_eq_iff.mpr fun status was => ?_) rfl
    subst same
    have here : Table.get t.settled.snapshots s.pk = some s := found
    simp only [Tables.statuses, here, Option.map_some, Option.some.injEq] at was
    exact was
  refine Triple.tryCatch (R := fun _ _ w => Heading n _ _ w ∨ Table.get w.db.settled.snapshots s.pk = none)
    (Triple.bind ((keeps_heading locked).conseq (fun _ _ h => h.heading _) (fun _ _ _ => id)
      fun _ _ _ h => .inl h.1) fun _ => ?_) fun exc => ?_
  · refine triple_removed (K := fun t => Table.get t.snapshots s.pk = none) (fun _ _ _ _ done => ?_) ?_
    · cases done
      exact Table.get_remove_self
    · exact routine_withoutInsert.transition
  · rw [still]
    refine Triple.either (triple_except _ trivial routine_withoutInsert.failAndRaise)
      (triple_gone (K := fun t => Table.get t.snapshots s.pk = none) (fun now uuid t t' done gone => ?_) trivial)
    exact absurd gone (saveRow_found done)

/-! ### Lifecycle -/

section Steps

variable {f : Statuses → Statuses} {S : Statuses} {α : Type}

theorem Keeps.jobRun {I : L → World → Prop} {E : Exn → Prop} {job : JobRow} {step : String} {body : TaskM L α}
    (hI : ∀ o : Op, o.withoutInsert → OpKeeps I o) (ops : ∀ e : Exn, e.ofOperation → E e)
    (cancels : ∀ uuid, E (.jobCancelled uuid)) (hb : Keeps World.handle I E body) :
    Keeps World.handle I E (jobRun job step body) := by
  have moves {new : JobStatus} {message error : Option String} :
      Keeps World.handle I E (transition job new message error : TaskM L Unit) := Keeps.save ops (hI _ (.inl rfl))
  have reads : OpKeeps I .read := hI .read trivial
  refine Keeps.bind (Keeps.onlyIf fun _ => moves) fun _ => ?_
  refine Keeps.bind (Keeps.bind (Keeps.query reads) fun _ => Keeps.pure _) fun _ => ?_
  refine Keeps.bind (Keeps.onlyIf fun _ => Keeps.throw (cancels _)) fun _ => ?_
  refine Keeps.bind (Keeps.onlyIf fun _ => ?_) fun _ => ?_
  · refine Keeps.bind (Keeps.save ops (hI _ (.inl rfl))) fun _ => ?_
    exact Keeps.bind (Keeps.getRow ops reads) fun _ => Keeps.save ops (hI _ (.inl rfl))
  · refine Keeps.tryCatch hb fun exc raised => Keeps.bind ?_ fun _ => Keeps.throw raised
    cases exc <;> exact moves

/-- Once something has been sent, anything may be written. -/
theorem keeps_sendThen {node : Option Nat} {r : AgentRequest} {timeout : Option Nat} {rest : Dict → TaskM L Unit}
    (hrest : ∀ data, Obeys (fun _ _ => True) (fun _ => True) (fun _ => True) (rest data)) :
    Keeps World.handle (fun _ => Heading n f S) (fun _ => True) (sendOperation node r timeout >>= rest) := by
  have answered : Triple (L := L) World.handle (fun _ w => n ≤ w.calls.length) (sendOperation node r timeout)
      (fun _ _ w => n < w.calls.length) fun _ _ _ => True := by
    refine Triple.sendOperation (fun _ _ => id) (fun _ _ _ _ => trivial) (fun _ w data before _ => ?_)
      fun _ _ _ _ _ _ _ _ => trivial
    exact Nat.lt_succ_of_le before
  have kept : Keeps (L := L) World.handle (fun _ => Heading n f S) (fun _ => True) (sendOperation node r timeout) :=
    keeps_heading (obeys_send trivial)
  refine Triple.bind ((answered.both kept).conseq (fun _ _ h => ⟨h.sent, h⟩) (fun _ _ _ h => h.1)
    fun _ _ _ h => h.2) fun data => ?_
  have free : Keeps World.handle (fun _ w => n < w.calls.length) (fun _ => True) (rest data) :=
    (hrest data).keeps fun o w _ h => ⟨trivial, Nat.lt_of_lt_of_le h (calls_le_handle o w)⟩
  exact free.conseq (fun _ _ => id) (fun _ _ _ h => ⟨Nat.le_of_lt h, .inl h⟩)
    fun _ _ _ h => ⟨⟨Nat.le_of_lt h.1, .inl h.1⟩, trivial⟩

end Steps

/-- A lifecycle task writes a status only once its operation is through, and its `except` branch writes none. -/
theorem left_simpleLifecycle {vm : Nat} {operation : OperationType} {status : VMStatus} {step event : String} :
    Triple (L := L) World.handle (fun _ => Fresh n t₀ busy) (simpleLifecycleTask jobId vm operation status step event)
      (fun _ _ _ => True) fun e _ => Left n t₀.statuses e := by
  refine triple_load fun job _ _ _ => triple_load fun v t _ _ => ?_
  have nothing : (Write.vmSave v.pk { lastError := some "" }).restates t₀.statuses = t₀.statuses :=
    Statuses.ext (restates_eq_iff.mpr fun _ _ => rfl) rfl rfl
  have h := routine_under (f := (Write.vmSave v.pk { lastError := some "" }).restates)
  refine Triple.tryCatch (R := fun _ _ => Heading n (Write.vmSave v.pk { lastError := some "" }).restates t₀.statuses)
    (Triple.bind (Q := fun _ _ => Heading n (Write.vmSave v.pk { lastError := some "" }).restates t₀.statuses)
      (Triple.conseq (Keeps.withLock trivial (fun _ _ => heading_handle (o := Op.acquire _ 120) trivial)
        (fun _ _ => heading_handle (o := Op.release _) trivial) (Keeps.jobRun
          (fun _ ho _ _ => heading_handle (ho.under _)) (fun _ _ => trivial) (fun _ => trivial)
          (keeps_sendThen fun _ => obeys_save trivial))) (fun _ _ fresh => ?_) (fun _ _ _ => id) fun _ _ _ h => h.1)
      fun _ => ?_) fun exc => ?_
  · rw [← nothing]
    exact fresh.heading _
  · exact (keeps_heading (Obeys.bind h.transition fun _ _ => obeys_swallow h.emitEvent)).conseq (fun _ _ => id)
      (fun _ _ _ _ => trivial) fun _ _ _ h => h.1
  · exact triple_except (.vmSave v.pk { lastError := some exc.str }) trivial routine_withoutInsert.failAndRaise

end Tasks

/-! ### Provisioning -/

section Provision

variable {n : Nat} {t₀ : Tables} {busy : List LockKey} {jobId vm : Nat} {S : Statuses} {job : JobRow}

/-- What the `except Exception` branch of `provision_vm` makes of the statuses. -/
abbrev provisionFailed (vm : Nat) : Write :=
  .vmSave vm { status := some .error, provisioningState := some .error }

/-- Under the lock: the object in memory is that of the VM, and whatever was written is overwritten in the end. -/
def Provisioning (vm n : Nat) (S : Statuses) (v : VmRow) (w : World) : Prop :=
  v.pk = vm ∧ Heading n (provisionFailed vm).restates S w

/-- A covered operation keeps what provisioning heads for. -/
theorem provisioning_handle {o : Op} (ho : o.under (provisionFailed vm).restates) :
    OpKeeps (Provisioning vm n S) o := fun _ _ h => ⟨h.1, heading_handle ho h.2⟩

/-- The statements under the lock raise no `LockAcquisitionError`. -/
abbrev Unlocked (vm n : Nat) (S : Statuses) {α : Type} (x : TaskM VmRow α) : Prop :=
  Keeps World.handle (Provisioning vm n S) (fun e => ¬ e.isLock) x

/-- A call to the agent is covered by the mark. -/
theorem unlocked_send {node : Option Nat} {r : AgentRequest} {timeout : Option Nat} :
    Unlocked vm n S (sendOperation node r timeout) :=
  Keeps.sendOperation (fun _ => Exn.not_isLock_of_operation) (provisioning_handle trivial)

/-- A save that the mark overwrites is covered by it. -/
theorem unlocked_save {x : Write} (hx : (provisionFailed vm).Absorbs x) : Unlocked vm n S (save x) :=
  Keeps.save (fun _ => Exn.not_isLock_of_operation) (provisioning_handle (.inr hx))

theorem unlocked_query : Unlocked vm n S query := Keeps.query (provisioning_handle trivial)

theorem unlocked_saveVm {fields : VmRow → VmFields} :
    Unlocked vm n S (do let v ← get; save (.vmSave v.pk (fields v))) := by
  refine Triple.get_bind fun v ⟨w, pk, _⟩ => ?_
  rw [pk]
  exact unlocked_save (absorbs_vmSave (.inl rfl) (.inl rfl))

theorem unlocked_modify {g : VmRow → VmRow} (hg : ∀ v, (g v).pk = v.pk) :
    Unlocked vm n S (modify g : TaskM VmRow PUnit) :=
  Keeps.modify fun v _ h => ⟨(hg v).trans h.1, h.2⟩

theorem unlocked_enter {state : ProvisioningState} : Unlocked vm n S (enter state) :=
  Keeps.bind (unlocked_modify fun _ => rfl) fun _ =>
    @unlocked_saveVm _ _ _ fun _ => { provisioningState := some state }

theorem unlocked_saveStatusAndState : Unlocked vm n S saveStatusAndState := unlocked_saveVm

/-- So are the disks. -/
theorem unlocked_createDisks {v : VmRow} : Unlocked vm n S (createDisks v) :=
  Keeps.bind unlocked_query fun _ => Keeps.forM fun _ _ => Keeps.bind unlocked_send fun _ =>
    unlocked_save ⟨trivial, fun _ => rfl⟩

/-- So is the domain. -/
theorem unlocked_createDomain : Unlocked vm n S createDomain := by
  refine Keeps.bind Keeps.get fun v => Keeps.bind ?_ fun _ => Keeps.bind unlocked_send fun _ => unlocked_enter
  exact Keeps.bind unlocked_query fun _ => Keeps.bind unlocked_query fun _ => Keeps.pure _

theorem unlocked_startDomain : Unlocked vm n S startDomain :=
  Keeps.bind Keeps.get fun _ => Keeps.bind unlocked_send fun _ =>
    Keeps.bind (unlocked_modify fun _ => rfl) fun _ => unlocked_saveStatusAndState

theorem unlocked_jobRun {step : String} {α : Type} {body : TaskM VmRow α} (hb : Unlocked vm n S body) :
    Unlocked vm n S (jobRun job step body) :=
  Keeps.jobRun (fun _ ho => provisioning_handle (ho.under _)) (fun _ => Exn.not_isLock_of_operation)
    (fun _ ⟨_, h⟩ => nomatch h) hb

/-- So are all steps under the lock. -/
theorem unlocked_provisionSteps : Unlocked vm n S (provisionSteps job) := by
  refine Keeps.bind Keeps.get fun v => ?_
  refine Keeps.bind (unlocked_jobRun unlocked_enter) fun _ => ?_
  refine Keeps.bind (unlocked_jobRun (Keeps.bind unlocked_createDisks fun _ => unlocked_enter)) fun _ => ?_
  refine Keeps.bind (unlocked_jobRun unlocked_enter) fun _ => ?_
  refine Keeps.bind (unlocked_jobRun unlocked_createDomain) fun _ => ?_
  refine Keeps.bind (Keeps.onlyIf fun _ => unlocked_jobRun (Keeps.bind unlocked_send fun _ => Keeps.pure _))
    fun _ => ?_
  refine Keeps.bind unlocked_enter fun _ => ?_
  refine Keeps.bind (Keeps.ite (fun _ => unlocked_jobRun unlocked_startDomain)
    fun _ => unlocked_modify fun _ => rfl) fun _ => ?_
  exact Keeps.bind (unlocked_modify fun _ => rfl) fun _ => unlocked_saveStatusAndState

/-- The cleanup writes no row, and raises nothing. -/
theorem keeps_cleanupPartialVm {f : Statuses → Statuses} {v : VmRow} :
    Keeps World.handle (fun _ => Heading n f S) (fun _ => False) (cleanupPartialVm v : TaskM VmRow Unit) := by
  have attempted {what : String} {node : Option Nat} {r : AgentRequest} :
      Keeps World.handle (fun _ => Heading n f S) (fun _ => False)
        (attempt what (sendOperation node r) : TaskM VmRow (List String)) :=
    Keeps.tryCatch (Keeps.bind (keeps_heading (obeys_send trivial)) fun _ => Keeps.pure _) fun _ _ => Keeps.pure _
  have volumes (ds : List (DiskRow × PoolRow)) : Keeps World.handle (fun _ => Heading n f S) (fun _ => False)
      (cleanupVolumes v ds : TaskM VmRow (List String)) := by
    induction ds with
    | nil => exact Keeps.pure _
    | cons d rest ih => exact Keeps.bind attempted fun _ => Keeps.bind ih fun _ => Keeps.pure _
  have reads : OpKeeps (L := VmRow) (fun _ => Heading n f S) .read := fun _ _ => heading_handle (o := Op.read) trivial
  refine Keeps.bind (Keeps.ite (fun _ => attempted) fun _ => Keeps.pure _) fun _ => ?_
  refine Keeps.bind (Keeps.bind (Keeps.query reads) fun _ => Keeps.pure _) fun _ => ?_
  exact Keeps.bind (volumes _) fun _ => Keeps.onlyIf fun _ =>
    Keeps.swallow (keeps_heading (routine_under.emitEvent))

/-- Without the lock nothing is done and nothing is marked. -/
theorem left_provisionBody_busy {v : VmRow} (taken : .lifecycle v.uuid ∈ busy) :
    Triple World.handle (fun l w => l = v ∧ Fresh n t₀ busy w) (provisionBody job) (fun _ _ _ => True)
      fun e _ => Left n t₀.statuses e := by
  have h := routine_withoutInsert
  refine Triple.tryCatch (R := fun e _ w => e = .lockAcquisition (.lifecycle v.uuid) ∧ Heading n id t₀.statuses w)
    (Triple.get_bind ?_) fun exc => ?_
  · rintro l ⟨_, rfl, _⟩
    refine Triple.bind (Q := fun _ _ _ => False) (fun l w ⟨here, fresh⟩ => ?_) fun _ _ _ h => h.elim
    subst here
    have locked : LockKey.lifecycle l.uuid ∈ w.busy := fresh.locks ▸ taken
    unfold lifecycleLock
    rw [exec_withLock_busy locked]
    exact ⟨rfl, (fresh.heading id).next⟩
  · refine Triple.fact fun raised => ?_
    subst raised
    have kept : Keeps World.handle (fun _ => Heading n id t₀.statuses) (fun _ => True)
        (do provisionExcept job (.lockAcquisition (.lifecycle v.uuid))
            throw (.lockAcquisition (.lifecycle v.uuid)) : TaskM VmRow Unit) :=
      keeps_heading (Q := fun _ => True) (Obeys.bind (obeys_onlyIf routine_under.transition) fun _ _ => Obeys.throw)
    exact kept.conseq (fun _ _ => id) (fun _ _ _ _ => trivial) fun _ _ _ h _ => h.1

/-- With the lock the steps head for the mark. -/
theorem triple_lockedSteps_free {v : VmRow} (free : .lifecycle v.uuid ∉ busy) :
    Triple World.handle (fun l w => l = v ∧ Fresh n t₀ busy w) (lifecycleLock v (provisionSteps job))
      (fun _ => Provisioning v.pk n ((provisionFailed v.pk).restates t₀.statuses))
      fun e l w => Provisioning v.pk n ((provisionFailed v.pk).restates t₀.statuses) l w ∧ ¬ e.isLock := by
  rintro l w ⟨same, fresh⟩
  have unlocked : LockKey.lifecycle v.uuid ∉ w.busy := fresh.locks ▸ free
  have heading := (fresh.heading (provisionFailed v.pk).restates).next
  have start : Provisioning v.pk n ((provisionFailed v.pk).restates t₀.statuses) l
      { w.next with busy := .lifecycle v.uuid :: w.busy } :=
    ⟨congrArg VmRow.pk same, heading.sent, heading.statuses⟩
  have unlocks : Unlocked v.pk n ((provisionFailed v.pk).restates t₀.statuses) (provisionSteps job) :=
    unlocked_provisionSteps
  have steps := unlocks l _ start
  unfold lifecycleLock
  rw [exec_withLock_free unlocked]
  generalize exec World.handle (provisionSteps job) l _ = r at steps ⊢
  rcases r with ⟨e | a, l', w'⟩
  · exact ⟨provisioning_handle (o := .release _) trivial l' w' steps.1, steps.2⟩
  · exact provisioning_handle (o := .release _) trivial l' w' steps

/-- With the lock an early end leaves the mark. -/
theorem left_provisionBody_free {v : VmRow} (free : .lifecycle v.uuid ∉ busy) :
    Triple World.handle (fun l w => l = v ∧ Fresh n t₀ busy w) (provisionBody job) (fun _ _ _ => True)
      fun e _ => Left n ((provisionFailed v.pk).restates t₀.statuses) e := by
  have h := routine_withoutInsert
  refine Triple.tryCatch (R := fun e l w => Provisioning v.pk n ((provisionFailed v.pk).restates t₀.statuses) l w ∧
    ¬ e.isLock) (Triple.get_bind ?_) fun exc => ?_
  · rintro l ⟨_, rfl, _⟩
    refine Triple.bind (triple_lockedSteps_free free) fun _ => ?_
    have kept : Keeps World.handle (Provisioning l.pk n ((provisionFailed l.pk).restates t₀.statuses))
        (fun e => ¬ e.isLock) (do
          transition job .success (some "VM created successfully")
          emitVmEvent (← get) "VM_CREATED") := by
      refine Keeps.bind (Keeps.save (fun _ => Exn.not_isLock_of_operation) (provisioning_handle (.inl rfl))) fun _ => ?_
      exact Keeps.bind Keeps.get fun _ => Keeps.swallow (Keeps.emitEvent (E := fun _ => True) (fun _ _ => trivial)
        (provisioning_handle trivial))
    exact kept.conseq (fun _ _ => id) (fun _ _ _ _ => trivial) fun _ _ _ => id
  · refine Triple.bind (Q := fun _ _ => Heading n id ((provisionFailed v.pk).restates t₀.statuses)) ?_
      fun _ => Triple.throw fun _ _ here _ => here
    unfold provisionExcept
    split
    · exact fun _ _ h => absurd ⟨_, rfl⟩ h.2
    · refine Triple.get_bind fun l ⟨_, known, _⟩ => ?_
      have pk : l.pk = v.pk := known.1
      refine Triple.bind (Triple.conseq keeps_cleanupPartialVm (fun _ _ h => h.1.2) (fun _ _ _ => id)
        fun _ _ _ h => h.2.elim) fun _ => ?_
      rw [pk]
      exact triple_marked (.vmSave v.pk
        { status := some .error, provisioningState := some .error, lastError := some exc.str }) trivial
        (Obeys.bind h.getRow fun _ _ => obeys_onlyIf h.transition)

/-- What an early end of `provision_vm` leaves. -/
theorem left_provisionVm {L : Type} :
    Triple (L := L) World.handle (fun _ => Fresh n t₀ busy) (provisionVm jobId vm) (fun _ _ _ => True)
      fun e _ => Left n (if ∃ v, Table.get t₀.vms vm = some v ∧ .lifecycle v.uuid ∈ busy then t₀.statuses
        else (provisionFailed vm).restates t₀.statuses) e := by
  refine triple_load fun job _ _ _ => triple_load fun v t same loaded => ?_
  have found : Table.get t₀.vms vm = some v := by
    subst same
    exact loaded
  have pk : v.pk = vm := Table.pk_of_get loaded
  by_cases taken : LockKey.lifecycle v.uuid ∈ busy
  · rw [if_pos ⟨v, found, taken⟩]
    exact Triple.scope (left_provisionBody_busy taken)
  · rw [if_neg fun ⟨v', found', taken'⟩ => taken (by rw [found] at found'; cases found'; exact taken'), ← pk]
    exact Triple.scope (left_provisionBody_free taken)

end Provision

/-! ## Every task -/

/-- What the statuses are after a task that has ended early. -/
def Task.earlyEnd (w : World) : Task → Statuses
  | .deleteVm vm => (Write.vmSave vm { status := some .error }).restates w.db.statuses
  | .provisionVm vm =>
    if ∃ v, Table.get w.db.settled.vms vm = some v ∧ .lifecycle v.uuid ∈ w.busy then w.db.statuses
    else (provisionFailed vm).restates w.db.statuses
  | .createSnapshot snapshot => (Write.snapshotSave snapshot { status := .error }).restates w.db.statuses
  | .rollbackSnapshot snapshot => (Write.snapshotSave snapshot { status := .ready }).restates w.db.statuses
  | .createBackup backup => (Write.backupSave backup { status := .failed }).restates w.db.statuses
  | .restoreBackup backup => (Write.backupSave backup { status := .completed }).restates w.db.statuses
  | _ => w.db.statuses

section Every

variable {taskId : String} {jobId : Nat} {w : World}

/-- What an early end of any of these tasks leaves. -/
theorem left_body (task : Task) (covered : task.onResource) :
    Triple World.handle (fun _ => Fresh w.calls.length w.db.settled w.busy) (task.body jobId) (fun _ _ _ => True)
      fun e _ => Left w.calls.length (task.earlyEnd w) e := by
  cases task with
  | provisionVm => exact left_provisionVm
  | startVm | pauseVm | resumeVm => exact left_simpleLifecycle
  | stopVm | rebootVm =>
    refine triple_load fun job _ _ _ => Triple.ite (fun _ => ?_) fun _ => ?_
    · exact left_simpleLifecycle
    · exact left_simpleLifecycle
  | deleteVm => exact left_deleteVm
  | createSnapshot => exact left_createSnapshot
  | deleteSnapshot => exact left_deleteSnapshot
  | rollbackSnapshot => exact left_rollbackSnapshot
  | createBackup => exact left_createBackup
  | restoreBackup => exact left_restoreBackup
  | _ => cases covered

/-- The statuses after an early end are the ones computed for it. -/
theorem earlyEnd_statuses {task : Task} (covered : task.onResource) (early : EndsEarly taskId jobId task w) :
    (task.execute taskId jobId w).db.statuses = task.earlyEnd w := by
  obtain ⟨⟨e, raised, kind⟩, silent⟩ := early
  have left : Triple World.handle (fun _ => Fresh w.calls.length w.db.settled w.busy)
      (jobBound taskId jobId (task.body jobId)) (fun _ _ _ => True)
      fun e _ => Left w.calls.length (task.earlyEnd w) e :=
    triple_jobBound_left (left_body task covered)
  have ends := left () w ⟨rfl, Nat.le_refl _, rfl⟩
  unfold Task.execute at silent ⊢
  unfold Task.run at raised silent ⊢
  generalize exec World.handle (jobBound taskId jobId (task.body jobId)) () w = r at ends raised silent ⊢
  obtain ⟨e' | a, l, w'⟩ := r
  · cases raised
    refine (ends kind).statuses.resolve_left fun more => ?_
    rw [show w'.calls = w.calls from silent] at more
    exact Nat.lt_irrefl _ more
  · cases raised

/-- An early end leaves the statuses exactly where the task spares them. -/
theorem earlyEnd_eq_iff {task : Task} : task.earlyEnd w = w.db.statuses ↔ task.spared w := by
  have vms {pk : Nat} {fields : VmFields} : (Write.vmSave pk fields).restates w.db.statuses = w.db.statuses ↔
      ∀ v, Table.get w.db.vms pk = some v → fields.status.getD v.status = v.status ∧
        fields.provisioningState.getD v.provisioningState = v.provisioningState := by
    refine ⟨fun same v found => ?_, fun same => Statuses.ext (restates_eq_iff.mpr fun p was => ?_) rfl rfl⟩
    · exact Prod.mk.inj (restates_eq_iff.mp (congrArg Statuses.vms same) _ (congrArg (Option.map _) found))
    · obtain ⟨v, found, rfl⟩ := Option.map_eq_some_iff.mp was
      exact Prod.ext (same v found).1 (same v found).2
  have snapshots {pk : Nat} {fields : SnapshotFields} :
      (Write.snapshotSave pk fields).restates w.db.statuses = w.db.statuses ↔
        ∀ s, Table.get w.db.snapshots pk = some s → s.status = fields.status := by
    refine ⟨fun same s found => ?_, fun same => Statuses.ext rfl (restates_eq_iff.mpr fun p was => ?_) rfl⟩
    · exact (restates_eq_iff.mp (congrArg Statuses.snapshots same) _ (congrArg (Option.map _) found)).symm
    · obtain ⟨s, found, rfl⟩ := Option.map_eq_some_iff.mp was
      exact (same s found).symm
  have backups {pk : Nat} {fields : BackupFields} :
      (Write.backupSave pk fields).restates w.db.statuses = w.db.statuses ↔
        ∀ b, Table.get w.db.backups pk = some b → b.status = fields.status := by
    refine ⟨fun same b found => ?_, fun same => Statuses.ext rfl rfl (restates_eq_iff.mpr fun p was => ?_)⟩
    · exact (restates_eq_iff.mp (congrArg Statuses.backups same) _ (congrArg (Option.map _) found)).symm
    · obtain ⟨b, found, rfl⟩ := Option.map_eq_some_iff.mp was
      exact (same b found).symm
  cases task with
  | deleteVm vm =>
    refine vms.trans (forall_congr' fun v => forall_congr' fun found => ?_)
    exact ⟨fun h => h.1.symm, fun h => ⟨h.symm, rfl⟩⟩
  | provisionVm vm =>
    simp only [Task.earlyEnd, Task.spared]
    have rows : w.db.settled.vms = w.db.vms := rfl
    rw [rows]
    split
    · next locked =>
      obtain ⟨v, found, taken⟩ := locked
      refine ⟨fun _ v' found' => .inl ?_, fun _ => rfl⟩
      rw [found] at found'
      cases found'
      exact taken
    · next unlocked =>
      refine vms.trans (forall_congr' fun v => forall_congr' fun found => ?_)
      have free : LockKey.lifecycle v.uuid ∉ w.busy := fun taken => unlocked ⟨v, found, taken⟩
      exact ⟨fun h => .inr ⟨h.1.symm, h.2.symm⟩, fun h => (h.resolve_left free).imp Eq.symm Eq.symm⟩
  | createSnapshot | rollbackSnapshot => exact snapshots
  | createBackup | restoreBackup => exact backups
  | _ => exact ⟨fun _ => trivial, fun _ => rfl⟩

end Every

/-- **Exactly the spared resources keep their statuses.** A task on a VM, a snapshot or a backup that ends by a
lock it cannot have or by a cancellation, with nothing sent to an agent, leaves all the statuses as they were if
and only if its resource is one that its `except` branch does not change. -/
theorem early_end_iff (taskId : String) (jobId : Nat) (task : Task) (w : World) (covered : task.onResource)
    (early : EndsEarly taskId jobId task w) :
    (task.execute taskId jobId w).db.statuses = w.db.statuses ↔ task.spared w := by
  rw [earlyEnd_statuses covered early]
  exact earlyEnd_eq_iff

/-- A stopped VM, and another task that holds its locks. -/
def lockedWorld : World where
  db :=
    { jobs := [{ pk := 1, uuid := ⟨1⟩, type := .vmDelete }]
      vms := [{ pk := 1, uuid := ⟨2⟩, domainUuid := ⟨3⟩, organization := 1, project := 1, node := some 1,
                name := "web", status := .stopped, provisioningState := .ready }]
      nodes := [{ pk := 1, name := "n1" }] }
  busy := [.lifecycle ⟨2⟩, .storage ⟨2⟩]
  script := fun _ => {}

/-- The end of an execution, by its exception. -/
def endsEarly (taskId : String) (jobId : Nat) (task : Task) (w : World) : Bool :=
  match (exec World.handle (task.run taskId jobId) () w).1 with
  | .error e => e.early
  | .ok _ => false

theorem endsEarly_raises {taskId : String} {jobId : Nat} {task : Task} {w : World}
    (h : endsEarly taskId jobId task w) :
    ∃ e, (exec World.handle (task.run taskId jobId) () w).1 = .error e ∧ e.early := by
  unfold endsEarly at h
  split at h
  · next e raised => exact ⟨e, raised, h⟩
  · cases h

/-- A start that waits for a held lock ends early. -/
theorem lockedWorld_startVm : EndsEarly "t" 1 (.startVm 1) lockedWorld :=
  ⟨endsEarly_raises (by decide +kernel), List.isEmpty_iff.mp (by decide +kernel)⟩

/-- A deletion that waits for a held lock ends early. -/
theorem lockedWorld_deleteVm : EndsEarly "t" 1 (.deleteVm 1) lockedWorld :=
  ⟨endsEarly_raises (by decide +kernel), List.isEmpty_iff.mp (by decide +kernel)⟩

theorem early_end_iff_locked : EndsEarly "t" 1 (.startVm 1) lockedWorld ∧
    ((Task.startVm 1).execute "t" 1 lockedWorld).db.statuses = lockedWorld.db.statuses :=
  ⟨lockedWorld_startVm, (early_end_iff "t" 1 (.startVm 1) lockedWorld rfl lockedWorld_startVm).mpr trivial⟩

/-- A deletion that cannot have the lock puts the stopped VM in ERROR. -/
theorem locked_delete_ends_in_error : EndsEarly "t" 1 (.deleteVm 1) lockedWorld ∧
    (Table.get lockedWorld.db.vms 1).map VmRow.status = some .stopped ∧
    (Table.get ((Task.deleteVm 1).execute "t" 1 lockedWorld).db.vms 1).map VmRow.status = some .error ∧
    ((Task.deleteVm 1).execute "t" 1 lockedWorld).db.statuses ≠ lockedWorld.db.statuses := by
  have after : (Table.get ((Task.deleteVm 1).execute "t" 1 lockedWorld).db.vms 1).map VmRow.status = some .error := by
    decide +kernel
  refine ⟨lockedWorld_deleteVm, by decide +kernel, after, fun same => ?_⟩
  have vms := congrArg (Option.map Prod.fst) (congrFun (congrArg Statuses.vms same) 1)
  simp only [Tables.statuses, Option.map_map, Function.comp_def] at vms
  rw [show (Table.get ((Task.deleteVm 1).execute "t" 1 lockedWorld).db.vms 1).map (fun v => v.status) = some .error
    from after] at vms
  exact absurd vms (by decide +kernel)

end NodePilot
