import NodePilot.Laws.CloneFidelity
import NodePilot.Laws.Footprints
import NodePilot.Lib.Forerun

/-!
# What a failed clone leaves behind

`clone_vm_task` inserts the clone's row first and works on it then, in statements that are committed one by one.
Its `except` branch fails the job and touches no row of the clone. So nothing is left of a clone that failed if
its row was not inserted; otherwise the row stays, CREATING or, where the last step failed, STOPPED. Whether the
row is inserted is told by the statements up to the INSERT, run by themselves.
-/

namespace NodePilot

open Lib Lib.Script

/-- The task as far as the INSERT of the clone's row. -/
def insertClone (taskId : String) (jobId vm : Nat) (newName : String) : TaskM Unit VmRow := do
  beforeStart taskId jobId
  let job ← getJob jobId
  let source ← getVm vm
  lifecycleLock source <| storageLock source <| jobRun job "Preparing clone" <|
    insertVm (cloneRow job source newName)

/-- The INSERT is not reached, or the database rejects it. -/
def insertRefused (taskId : String) (jobId vm : Nat) (newName : String) (w : World) : Bool :=
  ¬ (Script.exec World.handle (insertClone taskId jobId vm newName) () w).1.isOk

/-- No row of the clone is there, or the clone is in error and says why; in no case is it being created. -/
structure NothingHalfMade (clone : Nat) (t : Tables) : Prop where
  settled : (Table.get t.vms clone = none ∧ (∀ d ∈ t.disks, d.vm ≠ clone) ∧ ∀ n ∈ t.nics, n.vm ≠ clone) ∨
    ∃ row, Table.get t.vms clone = some row ∧ row.status = .error ∧ row.lastError ≠ ""
  stays : ∀ row, Table.get t.vms clone = some row → row.status ≠ .creating

/-! ## What is left -/

/-- The clone's row is there, and nobody has put it in error. -/
def Placed (clone : Nat) (w : World) : Prop :=
  ∃ row, Table.get w.db.vms clone = some row ∧ (row.status = .creating ∨ row.status = .stopped)

/-- The writes of the task but for the job's. -/
def Write.ofClone : Write → Prop
  | .vmSave _ fields => fields.status = none ∨ fields.status = some .stopped
  | .diskCreate _ | .nicCreate _ => True
  | _ => False

/-- What the task does once the clone's row is there. -/
def Op.afterInsert : Op → Prop := Op.within (fun _ => True) Write.ofClone False

/-- What the task does where the clone's row is not there. -/
def Op.withoutInsert : Op → Prop := Op.within (fun _ => True) (fun _ => False) False

section Kept

variable {clone : Nat} {t₀ : Tables} {o : Op} {w : World}

theorem next_vms (w : World) : w.next.db.vms = w.db.vms := by
  have settled : w.next.db.settled = w.db.settled := settled_requestCancel
  exact (congrArg Tables.vms settled :)

theorem placed_handle (ho : o.afterInsert) (h : Placed clone w) : Placed clone (World.handle o w).2 := by
  obtain ⟨row, found, status⟩ := h
  rcases World.handle_db o w with same | ⟨x, rfl, hx⟩ | ⟨row, row', rfl, -⟩
  · refine ⟨row, ?_, status⟩
    rw [same, next_vms, found]
  · have vms := Tables.write_vms hx
    rw [next_vms] at vms
    unfold Placed
    rw [vms]
    cases x with
    | vmSave pk fields =>
      obtain onJobs | allowed := ho
      · cases onJobs
      · unfold Write.onVms
        rw [Table.get_modify (f := fields.apply) fun _ => rfl, found]
        split
        · refine ⟨fields.apply row, rfl, ?_⟩
          rcases allowed with none | stopped
          · simpa [VmFields.apply, none] using status
          · simp [VmFields.apply, stopped]
        · exact ⟨row, rfl, status⟩
    | vmDelete =>
      obtain onJobs | allowed := ho
      · cases onJobs
      · exact allowed.elim
    | _ => exact ⟨row, found, status⟩
  · exact ho.elim

theorem settled_handle (ho : o.withoutInsert) (h : w.db.settled = t₀) : (World.handle o w).2.db.settled = t₀ := by
  cases o with
  | write x => exact (World.settled_handle (o := .write x) (ho.resolve_right id) w).trans h
  | send node r timeout =>
    cases node <;> exact (settled_requestCancel (t := w.db)).trans h
  | createVm => exact ho.elim
  | read | acquire | release | emit | now | mac => exact (World.settled_handle rfl w).trans h

variable {L α : Type} {x : TaskM L α} {Q : α → Prop}

theorem keeps_placed (hx : Obeys (fun _ _ => True) Op.afterInsert Q x) :
    Keeps World.handle (fun _ => Placed clone) (fun _ => True) x :=
  hx.keeps fun _ _ ho h => ⟨trivial, placed_handle ho h⟩

theorem keeps_settled (hx : Obeys (fun _ _ => True) Op.withoutInsert Q x) :
    Keeps World.handle (fun _ w => w.db.settled = t₀) (fun _ => True) x :=
  hx.keeps fun _ _ ho h => ⟨trivial, settled_handle ho h⟩

theorem triple_settled (hx : Obeys (fun _ _ => True) Op.withoutInsert Q x) :
    Triple World.handle (fun _ w => w.db.settled = t₀) x (fun _ _ w => w.db.settled = t₀)
      fun _ _ w => w.db.settled = t₀ :=
  (keeps_settled hx).conseq (fun _ _ => id) (fun _ _ _ => id) fun _ _ _ h => h.1

end Kept

/-! ## The INSERT tells -/

section Foretold

variable {t₀ : Tables} {L α β : Type} {clone : Nat}

/-- The two ways a clone leaves the tables. -/
abbrev Unstarted (t₀ : Tables) : L → World → Prop := fun _ w => w.db.settled = t₀

abbrev Started (clone : Nat) : L → World → Prop := fun _ => Placed clone

theorem routine_afterInsert : Routine Op.afterInsert := routine_within

theorem routine_withoutInsert : Routine Op.withoutInsert := routine_within

theorem foretells_withLock {key : LockKey} {ttl : Nat} {y : TaskM L β} {x : TaskM L α}
    (hyx : Foretells World.handle (Unstarted t₀) y x (Unstarted t₀) (Started clone)) :
    Foretells World.handle (Unstarted t₀) (withLock key ttl y) (withLock key ttl x) (Unstarted t₀)
      (Started clone) := by
  have released {φ : Op → Prop} (hφ : Routine φ) (e : Exn) {γ : Type} :
      Obeys (fun _ _ => True) φ (fun _ => True)
        (do Script.perform (Op.release key); throw e : TaskM L γ) :=
    Obeys.bind (Obeys.perform (Q := fun _ => True) (hφ.release key) fun _ _ => trivial) fun _ _ => Obeys.throw
  have given (a : α) : Obeys (fun _ _ => True) Op.afterInsert (fun _ => True)
      (do Script.perform (Op.release key); return a : TaskM L α) :=
    Obeys.bind (Obeys.perform (Q := fun _ => True) (routine_afterInsert.release key) fun _ _ => trivial)
      fun _ _ => Obeys.pure trivial
  refine Foretells.bind (triple_settled (Obeys.perform (Q := fun _ => True)
    (routine_withoutInsert.acquire key ttl) fun _ _ => trivial)) fun acquired => Foretells.ite (fun _ => ?_)
      fun _ => Foretells.throw fun _ _ => id
  refine ((hyx.reraise fun e => Raises.bind fun _ => Raises.throw).handled (fun e => Raises.bind fun _ => Raises.throw)
    (fun e => keeps_settled (released routine_withoutInsert e))
    fun e => keeps_placed (released routine_afterInsert e)).andThen (fun a => keeps_placed (given a)) |>.quiet
      fun b => ?_
  exact Returns.bind Returns.perform fun _ => Returns.pure

theorem foretells_jobRun {job : JobRow} {step : String} {y : TaskM L β} {x : TaskM L α}
    (hyx : Foretells World.handle (Unstarted t₀) y x (Unstarted t₀) (Started clone)) :
    Foretells World.handle (Unstarted t₀) (jobRun job step y) (jobRun job step x) (Unstarted t₀)
      (Started clone) := by
  have h := routine_withoutInsert
  have recorded {φ : Op → Prop} (hφ : Routine φ) (e : Exn) {γ : Type} :
      Obeys (fun _ _ => True) φ (fun _ => True) (do jobRunExcept job e; throw e : TaskM L γ) :=
    Obeys.bind (Q := fun _ => True) (by cases e <;> exact hφ.transition) fun _ _ => Obeys.throw
  refine Foretells.bind (triple_settled (obeys_onlyIf h.transition)) fun _ => ?_
  refine Foretells.bind (triple_settled (Obeys.bind h.query fun _ _ => Obeys.pure trivial (Q := fun _ => True)))
    fun canceling => ?_
  refine Foretells.bind (triple_settled (obeys_onlyIf Obeys.throw)) fun _ => ?_
  refine Foretells.bind (triple_settled (obeys_onlyIf (Obeys.bind h.setProgress fun _ _ => h.appendLog)))
    fun _ => ?_
  exact (hyx.reraise fun e => Raises.bind fun _ => Raises.throw).handled
    (fun e => Raises.bind fun _ => Raises.throw) (fun e => keeps_settled (recorded routine_withoutInsert e))
    fun e => keeps_placed (recorded routine_afterInsert e)

/-- The INSERT places the row, or leaves the tables as they were. -/
theorem triple_insertVm {row : VmRow} (creating : row.status = .creating) :
    Triple World.handle (Unstarted t₀) (insertVm row : TaskM L VmRow)
      (fun _ => Started (Table.nextPk t₀.vms)) fun _ => Unstarted t₀ := by
  intro l w start
  have turn : w.next.db.settled = t₀ := Eq.trans settled_requestCancel start
  have vms : w.next.db.vms = t₀.vms := (congrArg Tables.vms turn :)
  unfold NodePilot.insertVm
  rw [exec_bind]
  simp only [exec_perform, World.handle, World.answer]
  cases hx : (if (w.script w.pos).dbFails then .error .databaseError
      else w.next.db.createVm (w.script w.pos).uuid (w.script w.pos).domainUuid row :
        Except Exn (VmRow × Tables)) with
  | error e => exact turn
  | ok made =>
    obtain ⟨row', db⟩ := made
    split at hx
    · cases hx
    · obtain ⟨rfl, pk⟩ := Tables.createVm_ok hx
      obtain ⟨fields, -⟩ := Tables.createVm_fresh hx
      rw [vms] at pk
      refine ⟨row', ?_, .inl ?_⟩
      · show Table.get (w.next.db.vms ++ [row']) (Table.nextPk t₀.vms) = some row'
        rw [vms]
        exact Table.get_append_new pk
      · rw [fields]
        exact creating

/-- **Whether the INSERT goes through tells what the task leaves behind.** -/
theorem foretells_clone {taskId newName : String} {jobId vm : Nat} {linked : Bool} :
    Foretells World.handle (Unstarted t₀) (insertClone taskId jobId vm newName)
      ((Task.cloneVm vm newName linked).run taskId jobId) (Unstarted t₀) (Started (Table.nextPk t₀.vms)) := by
  have h := routine_withoutInsert
  have h' := routine_afterInsert
  have saved (clone : VmRow) (fields : VmFields) (allowed : fields.status = none ∨ fields.status = some .stopped) :
      Op.afterInsert (.write (.vmSave clone.pk fields)) := .inr allowed
  have failed {φ : Op → Prop} (hφ : Routine φ) (e : Exn) : Obeys (fun _ _ => True) φ (fun _ => True)
      (do onFailure jobId e; throw e : TaskM Unit Unit) :=
    Obeys.bind hφ.onFailure fun _ _ => Obeys.throw
  refine Foretells.handled ?_ (fun e => Raises.bind fun _ => Raises.throw) (fun e => keeps_settled (failed h e))
    fun e => keeps_placed (failed h' e)
  refine Foretells.bind (triple_settled (obeys_save (h.job _ trivial))) fun _ => ?_
  refine Foretells.bind (triple_settled h.getRow) fun job => Foretells.bind (triple_settled h.getRow) fun source => ?_
  refine Foretells.handled ?_ (fun e => Raises.bind fun _ => Raises.throw)
    (fun e => keeps_settled (Q := fun _ => True) h.failAndRaise)
    fun e => keeps_placed (Q := fun _ => True) h'.failAndRaise
  refine (foretells_withLock (foretells_withLock ?_)).andThen fun made => keeps_placed
    (Obeys.bind h'.transition fun _ _ => obeys_swallow h'.emitEvent)
  refine (foretells_jobRun ?_).andThen fun made => keeps_placed (h'.cloneOnto (fun _ _ _ _ _ => trivial)
    (fun _ _ _ => trivial) (fun _ _ => .inr trivial) (fun _ => .inr trivial) (saved made))
  exact (Foretells.same (triple_insertVm rfl)).andThen fun made => keeps_placed
    (Obeys.bind (obeys_save (h'.job _ trivial)) fun _ _ => Obeys.pure trivial (Q := fun _ => True))

end Foretold

/-! ## The job -/

section Success

variable {jobId : Nat} {w : World}

/-- A job that has succeeded is not canceled. -/
theorem succeeded_next (h : w.jobStatus jobId = some .success) : w.next.jobStatus jobId = some .success := by
  obtain ⟨row, found, status⟩ := Option.map_eq_some_iff.mp h
  show (Table.get (w.db.requestCancel (w.script w.pos).now (w.script w.pos).cancel).jobs jobId).map _ = _
  rcases w.db.requestCancel_cases (w.script w.pos).now (w.script w.pos).cancel with same | ⟨k, row', found', was, turned⟩
  · rw [same]
    exact h
  · rw [turned]
    have other : jobId ≠ k := by
      rintro rfl
      rw [found] at found'
      cases found'
      rw [status] at was
      rcases was with was | was <;> cases was
    exact (congrArg (Option.map JobRow.status) (Table.get_modify_ne
      (f := fun r : JobRow => r.transitioned .canceling (some "Cancellation requested") none (w.script w.pos).now)
      (fun _ => rfl) other)).trans h

/-- A clone that returns has succeeded. -/
theorem triple_cloneVm_success {taskId newName : String} {vm : Nat} {linked : Bool} :
    Triple World.handle (fun _ _ => True) ((Task.cloneVm vm newName linked).run taskId jobId)
      (fun _ _ w => w.jobStatus jobId = some .success) fun _ _ _ => True := by
  have any {L α : Type} {x : TaskM L α} : Triple World.handle (fun _ _ => True) x (fun _ _ _ => True)
      fun _ _ _ => True := by
    intro l w _
    split <;> trivial
  have raised {Q : Unit → Unit → World → Prop} {f : TaskM Unit Unit} {e : Exn} :
      Triple World.handle (fun _ _ => True) (do f; throw e) Q fun _ _ _ => True :=
    Triple.bind (Q := fun _ _ _ => True) any fun _ => Triple.throw fun _ _ _ => trivial
  refine Triple.tryCatch (R := fun _ _ _ => True) (Triple.bind (Q := fun _ _ _ => True) any fun _ => ?_)
    fun _ => raised
  refine Triple.getRow_bind (fun _ _ _ => trivial) (fun _ _ _ _ => trivial) fun job ⟨_, _, _, found⟩ => ?_
  obtain rfl : job.pk = jobId := Table.pk_of_get found
  refine Triple.bind (Q := fun _ _ _ => True) any fun source => Triple.tryCatch (R := fun _ _ _ => True) ?_
    fun _ => raised
  refine Triple.bind (Q := fun _ _ _ => True) any fun clone => Triple.bind
    (Q := fun _ _ w => w.jobStatus job.pk = some .success) (Triple.save (fun _ _ _ => trivial) ?_
      fun _ _ _ _ _ => trivial) fun _ => ?_
  · intro l w now uuid db _ written
    simp only [Tables.write] at written
    split at written
    · cases written
    · next row found =>
      split at written
      · cases written
        refine (congrArg (Option.map JobRow.status) (Table.get_modify_self
          (f := fun r : JobRow => r.transitioned .success (some ("Cloned to " ++ newName)) none now)
          fun _ => rfl)).trans ?_
        rw [found]
        rfl
      · cases written
  · have kept : Keeps World.handle (fun _ w => w.jobStatus job.pk = some .success) (fun _ => True)
        (emitVmEvent clone "VM_CLONED" [("source_uuid", .str source.uuid.str)] : TaskM Unit Unit) := by
      refine Keeps.swallow (Keeps.emitEvent (fun _ _ => trivial) fun l w h => ?_)
      rcases World.handle_db (.emit (vmEvent clone "VM_CLONED" [("source_uuid", .str source.uuid.str)])) w with
        same | ⟨x, other, -⟩ | ⟨row, row', other, -⟩
      · exact (congrArg (fun t : Tables => (Table.get t.jobs job.pk).map JobRow.status) same).trans
          (succeeded_next h)
      · cases other
      · cases other
    exact kept.conseq (fun _ _ => id) (fun _ _ _ => id) fun _ _ _ _ => trivial

end Success

/-! ## What a failed clone leaves -/

/-- A clone's job that has failed is that of a task that raised; and **nothing is left half made by a task that
raises exactly if the INSERT was refused**. -/
theorem failed_clone_iff {taskId newName : String} {jobId vm : Nat} {linked : Bool} {w : World}
    (owned : w.db.Owned) :
    (((Task.cloneVm vm newName linked).execute taskId jobId w).jobStatus jobId = some .failed →
      (Task.cloneVm vm newName linked).succeed taskId jobId w = none) ∧
    ((Task.cloneVm vm newName linked).succeed taskId jobId w = none →
      (NothingHalfMade (Table.nextPk w.db.vms) ((Task.cloneVm vm newName linked).execute taskId jobId w).db ↔
        insertRefused taskId jobId vm newName w)) := by
  have success : Triple World.handle (fun _ _ => True) ((Task.cloneVm vm newName linked).run taskId jobId)
      (fun _ _ w => w.jobStatus jobId = some .success) fun _ _ _ => True := triple_cloneVm_success
  have told : Foretells World.handle (Unstarted w.db.settled) (insertClone taskId jobId vm newName)
      ((Task.cloneVm vm newName linked).run taskId jobId) (Unstarted w.db.settled)
      (Started (Table.nextPk w.db.settled.vms)) := foretells_clone
  have ending := success () w trivial
  have told := told () w rfl
  unfold Task.execute Task.succeed insertRefused
  generalize Script.exec World.handle ((Task.cloneVm vm newName linked).run taskId jobId) () w = r at ending told ⊢
  refine ⟨fun failed => ?_, fun raised => ?_⟩
  · rcases r with ⟨e | a, l', w'⟩
    · rfl
    · have succeeded : w'.jobStatus jobId = some .success := ending
      rw [show w'.jobStatus jobId = some .failed from failed] at succeeded
      cases succeeded
  · generalize Script.exec World.handle (insertClone taskId jobId vm newName) () w = q at told ⊢
    rcases q with ⟨e | made, l₁, w₁⟩
    · obtain ⟨e', l', w', rfl, unstarted⟩ := told
      have settled : w'.db.settled = w.db.settled := unstarted
      have vms : w'.db.vms = w.db.vms := (congrArg Tables.vms settled :)
      have disks : w'.db.disks = w.db.disks := (congrArg Tables.disks settled :)
      have nics : w'.db.nics = w.db.nics := (congrArg Tables.nics settled :)
      have absent : Table.get w'.db.vms (Table.nextPk w.db.vms) = none := by
        rw [vms]
        exact Table.get_nextPk w.db.vms
      refine iff_of_true ⟨.inl ⟨absent, fun d hd own => ?_, fun n hn own => ?_⟩, fun row found => ?_⟩ rfl
      · have owner := owned.disks d (disks ▸ hd)
        rw [own, Table.get_nextPk] at owner
        cases owner
      · have owner := owned.nics n (nics ▸ hn)
        rw [own, Table.get_nextPk] at owner
        cases owner
      · rw [absent] at found
        cases found
    · refine iff_of_false ?_ (by simp [Except.isOk, Except.toBool])
      obtain ⟨row, found, status⟩ := told
      have found : Table.get r.2.2.db.vms (Table.nextPk w.db.vms) = some row := found
      rintro ⟨⟨absent, -⟩ | ⟨row', there, error, -⟩, -⟩
      · rw [found] at absent
        cases absent
      · rw [found] at there
        cases there
        rw [error] at status
        rcases status with other | other <;> cases other

/-- The agent is away when the first disk is to be cloned. -/
def awayWorld : World := { webWorld with script := fun i => { cloneChoice i with agent := .notConnected } }

theorem failed_clone_iff_away :
    ((Task.cloneVm 1 "web-2" false).execute "t" 1 awayWorld).jobStatus 1 = some .failed ∧
    (NothingHalfMade 2 ((Task.cloneVm 1 "web-2" false).execute "t" 1 awayWorld).db ↔
      insertRefused "t" 1 1 "web-2" awayWorld) := by
  have owned : awayWorld.db.Owned := ⟨by decide, by decide⟩
  have failed : ((Task.cloneVm 1 "web-2" false).execute "t" 1 awayWorld).jobStatus 1 = some .failed := by
    decide +kernel
  have claim := @failed_clone_iff "t" "web-2" 1 1 false awayWorld owned
  exact ⟨failed, claim.2 (claim.1 failed)⟩

theorem failed_clone_stays : ¬ ∀ (taskId newName : String) (jobId vm : Nat) (linked : Bool) (w : World),
    w.db.Owned → ((Task.cloneVm vm newName linked).execute taskId jobId w).jobStatus jobId = some .failed →
    NothingHalfMade (Table.nextPk w.db.vms) ((Task.cloneVm vm newName linked).execute taskId jobId w).db := by
  intro h
  have owned : awayWorld.db.Owned := ⟨by decide, by decide⟩
  have run : ((Task.cloneVm 1 "web-2" false).execute "t" 1 awayWorld).jobStatus 1 = some .failed ∧
      (Table.get ((Task.cloneVm 1 "web-2" false).execute "t" 1 awayWorld).db.vms 2).map VmRow.status =
        some .creating := by
    decide +kernel
  obtain ⟨row, found, creating⟩ := Option.map_eq_some_iff.mp run.2
  exact (h _ _ _ _ _ _ owned run.1).stays row found creating

end NodePilot
