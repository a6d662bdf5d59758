import NodePilot.Tasks

/-!
# Rules for the statements of a task

One rule a statement: what a run of it keeps, given what the operation under it keeps. The tasks'
invariants are proved with these and never unfold a statement again. An operation raises only
the exceptions of `Exn.ofOperation`, so a rule asks of its exceptions `E` that it has these.
-/

namespace NodePilot

open Lib Lib.Script

/-- The exceptions that an operation itself can raise. -/
def Exn.ofOperation : Exn → Bool
  | .databaseError | .doesNotExist _ | .invalidStateTransition _ | .integrityError _
  | .protectedError _ | .agentUnavailable _ | .agentOperationFailed _ | .attributeError => true
  | _ => false

/-- `LockAcquisitionError` -/
def Exn.isLock (e : Exn) : Prop := ∃ key, e = .lockAcquisition key

/-- What an operation raises is no held lock. -/
theorem Exn.not_isLock_of_operation {e : Exn} (h : e.ofOperation) : ¬ e.isLock := by
  rintro ⟨key, rfl⟩
  cases h

/-! ## What the operations raise -/

/-- Saving a row fails as an operation does. -/
theorem saveRow_error {ρ : Type} [Row ρ] {rows : List ρ} {pk : Nat} {f : ρ → ρ} {e : Exn}
    (h : saveRow rows pk f = .error e) : e.ofOperation := by
  unfold saveRow at h
  split at h
  · cases h; rfl
  · cases h

/-- A row that was saved is changed and no other. -/
theorem saveRow_ok {ρ : Type} [Row ρ] {rows rows' : List ρ} {pk : Nat} {f : ρ → ρ}
    (h : saveRow rows pk f = .ok rows') : rows' = Table.modify rows pk f := by
  unfold saveRow at h
  split at h
  · cases h
  · cases h; rfl

/-- A result that is only wrapped fails as it does. -/
theorem except_bind_error {α β : Type} {x : Except Exn α} {f : α → β} {e : Exn}
    (h : (do let a ← x; return f a : Except Exn β) = .error e) : x = .error e := by
  cases x with
  | error e' => cases h; rfl
  | ok a => cases h

/-- A result that is only wrapped is there. -/
theorem except_bind_ok {α β : Type} {x : Except Exn α} {f : α → β} {b : β}
    (h : (do let a ← x; return f a : Except Exn β) = .ok b) : ∃ a, x = .ok a ∧ b = f a := by
  cases x with
  | error e' => cases h
  | ok a => cases h; exact ⟨a, rfl, rfl⟩

/-- A write fails as an operation does. -/
theorem Tables.write_error {now : Nat} {uuid : Uuid} {t : Tables} {x : Write} {e : Exn}
    (h : t.write now uuid x = .error e) : e.ofOperation := by
  cases x with
  | jobTransition job new message error =>
    simp only [Tables.write] at h
    split at h
    · cases h; rfl
    · split at h
      · cases h
      · cases h; rfl
  | jobProgress | jobResourceId | vmSave | diskSave | diskSize | snapshotSave | backupSave
  | networkStatus | poolStatus | poolInfo => exact saveRow_error (except_bind_error h)
  | diskCreate | networkDelete =>
    simp only [Tables.write] at h
    split at h
    · cases h; rfl
    · cases h
  | nicCreate =>
    simp only [Tables.write] at h
    split at h
    · cases h; rfl
    · split at h
      · cases h; rfl
      · cases h
  | jobLogs | jobCeleryTaskId | vmDelete | diskDelete | nicDelete | snapshotDelete => cases h

/-- A call fails as an operation does. -/
theorem AgentOutcome.result_error {t : Tables} {node : Nat} {r : AgentRequest}
    {o : AgentOutcome} {e : Exn} (h : o.result t node r = .error e) : e.ofOperation := by
  rcases o with _ | _ | _ | _ | _ <;> simp only [AgentOutcome.result] at h
  · cases h; rfl
  · cases h; rfl
  · cases h; rfl
  · split at h <;> cases h <;> rfl
  · cases h

/-- The operations whose answer is a result or an exception raise nothing of their own. -/
theorem World.statement_error {w : World} {c : Choice} {x : Except Exn Tables}
    {entry : Bool → Entry} {e : Exn} (hx : ∀ e, x = .error e → e.ofOperation)
    (h : (w.statement c x entry).1 = .error e) : e.ofOperation := by
  unfold World.statement at h
  split at h
  · cases h
  · next e' he =>
    cases h
    split at he
    · cases he; rfl
    · exact hx _ he

/-- A write to the database fails as an operation does. -/
theorem World.write_error {x : Write} {w : World} {e : Exn}
    (h : (World.handle (.write x) w).1 = .error e) : e.ofOperation :=
  World.statement_error (fun _ => Tables.write_error) h

/-- An event fails as an operation does. -/
theorem World.emit_error {event : Event} {w : World} {e : Exn}
    (h : (World.handle (.emit event) w).1 = .error e) : e.ofOperation :=
  World.statement_error (fun _ he => by cases he) h

/-- A call to an agent fails as an operation does. -/
theorem World.send_error {node : Option Nat} {r : AgentRequest} {timeout : Option Nat} {w : World}
    {e : Exn} (h : (World.handle (.send node r timeout) w).1 = .error e) : e.ofOperation := by
  cases node with
  | none => cases h; rfl
  | some node => exact AgentOutcome.result_error h

/-- An INSERT fails as an operation does. -/
theorem World.createVm_error {row : VmRow} {w : World} {e : Exn}
    (h : (World.handle (.createVm row) w).1 = .error e) : e.ofOperation := by
  simp only [World.handle, World.answer] at h
  split at h
  · cases h
  · next e' he =>
    cases h
    split at he
    · cases he; rfl
    · unfold Tables.createVm at he
      split at he
      · cases he; rfl
      · split at he
        · cases he; rfl
        · cases he

/-! ## What the operations write -/

section Creates

variable {now : Nat} {uuid : Uuid} {t t' : Tables}

/-- A new disk has a fresh identifier and is added. -/
theorem Tables.write_diskCreate {row : DiskRow} (h : t.write now uuid (.diskCreate row) = .ok t') :
    (∀ d ∈ t.disks, d.uuid ≠ uuid) ∧
      t' = { t with disks := t.disks ++ [{ row with pk := Table.nextPk t.disks, uuid := uuid }] } := by
  simp only [Tables.write] at h
  split at h
  · cases h
  · next free =>
    cases h
    exact ⟨by simpa using free, rfl⟩

/-- A new NIC has a fresh address and is added. -/
theorem Tables.write_nicCreate {row : NicRow} (h : t.write now uuid (.nicCreate row) = .ok t') :
    (∀ n ∈ t.nics, n.macAddress ≠ row.macAddress ∧ n.uuid ≠ uuid) ∧
      t' = { t with nics := t.nics ++ [{ row with pk := Table.nextPk t.nics, uuid := uuid }] } := by
  simp only [Tables.write] at h
  split at h
  · cases h
  · next unused =>
    split at h
    · cases h
    · next free =>
      cases h
      simp only [List.any_eq_true, decide_eq_true_eq, not_exists, not_and] at unused free
      exact ⟨fun n hn => ⟨unused n hn, free n hn⟩, rfl⟩

end Creates

/-- A request for cancellation leaves the tables alone, or turns one active job to CANCELING. -/
theorem Tables.requestCancel_cases (now : Nat) (t : Tables) (k : Option Nat) :
    t.requestCancel now k = t ∨ ∃ job row, Table.get t.jobs job = some row ∧
      (row.status = .queued ∨ row.status = .running) ∧
      t.requestCancel now k = { t with
        jobs := Table.modify t.jobs job fun r =>
          r.transitioned .canceling (some "Cancellation requested") none now } := by
  unfold Tables.requestCancel
  split
  · exact .inl rfl
  · next job =>
    split
    · exact .inl rfl
    · next row found =>
      split
      · next active => exact .inr ⟨job, row, found, active, rfl⟩
      · exact .inl rfl

/-- The database after an operation is what it was, a write applied to it, or a new VM row added to
it. -/
theorem World.answer_db (c : Choice) (o : Op) (w : World) :
    (World.answer c o w).2.db = w.db ∨
    (∃ x, o = .write x ∧ w.db.write c.now c.uuid x = .ok (World.answer c o w).2.db) ∨
    (∃ row row', o = .createVm row ∧
      w.db.createVm c.uuid c.domainUuid row = .ok (row', (World.answer c o w).2.db)) := by
  cases o with
  | read | release | now | mac => exact .inl rfl
  | acquire key ttl =>
    simp only [World.answer]
    split <;> exact .inl rfl
  | send node r timeout => cases node <;> exact .inl rfl
  | emit event =>
    simp only [World.answer, World.statement]
    split
    · next he => split at he <;> cases he; exact .inl rfl
    · exact .inl rfl
  | createVm row =>
    simp only [World.answer]
    split
    · next he =>
      split at he
      · cases he
      · exact .inr (.inr ⟨row, _, rfl, he⟩)
    · exact .inl rfl
  | write x =>
    simp only [World.answer, World.statement]
    split
    · next he =>
      split at he
      · cases he
      · exact .inr (.inl ⟨x, rfl, he⟩)
    · exact .inl rfl

/-- Only a write or a new VM changes the tables. -/
theorem World.handle_db (o : Op) (w : World) :
    (World.handle o w).2.db = w.next.db ∨
    (∃ x, o = .write x ∧ w.next.db.write (w.script w.pos).now (w.script w.pos).uuid x =
      .ok (World.handle o w).2.db) ∨
    (∃ row row', o = .createVm row ∧
      w.next.db.createVm (w.script w.pos).uuid (w.script w.pos).domainUuid row =
        .ok (row', (World.handle o w).2.db)) :=
  World.answer_db (w.script w.pos) o w.next

/-! ## What an operation does to the jobs table -/

/-- The job whose row a write rewrites, and what it makes of it. -/
def Write.ofJob (now : Nat) : Write → Option (Nat × (JobRow → JobRow))
  | .jobTransition job new message error =>
    some (job, fun r => r.transitioned new message error now)
  | .jobProgress job progress message =>
    some (job, fun r => { r with progress := progress, message := message })
  | .jobLogs job logs => some (job, fun r => { r with logs := logs })
  | .jobCeleryTaskId job id => some (job, fun r => { r with celeryTaskId := id })
  | .jobResourceId job resourceId => some (job, fun r => { r with resourceId := resourceId })
  | _ => none

/-- The status a write asks a job's row to have. -/
def Write.jobStatus : Write → Option JobStatus
  | .jobTransition _ new _ _ => some new
  | _ => none

section OfJob

variable {now job : Nat} {uuid : Uuid} {t t' : Tables} {x : Write} {f : JobRow → JobRow}

/-- A write to a job keeps its key. -/
theorem Write.ofJob_pk (h : x.ofJob now = some (job, f)) (r : JobRow) : (f r).pk = r.pk := by
  cases x <;> cases h <;> rfl

/-- A write to a job sets its status or keeps it. -/
theorem Write.ofJob_status (h : x.ofJob now = some (job, f)) (r : JobRow) :
    (f r).status = r.status ∨ some (f r).status = x.jobStatus := by
  cases x <;> cases h
  case jobTransition => exact .inr rfl
  all_goals exact .inl rfl

/-- A write leaves the jobs alone, or rewrites one row. -/
theorem Tables.write_jobs (h : t.write now uuid x = .ok t') :
    t'.jobs = t.jobs ∨
      ∃ job f, x.ofJob now = some (job, f) ∧ t'.jobs = Table.modify t.jobs job f := by
  cases x with
  | jobTransition job new message error =>
    simp only [Tables.write] at h
    split at h
    · cases h
    · split at h
      · cases h
        exact .inr ⟨job, _, rfl, rfl⟩
      · cases h
  | jobProgress job | jobResourceId job =>
    obtain ⟨rows, hrows, rfl⟩ := except_bind_ok h
    exact .inr ⟨job, _, rfl, saveRow_ok hrows⟩
  | jobLogs job | jobCeleryTaskId job =>
    cases h
    exact .inr ⟨job, _, rfl, rfl⟩
  | vmSave | diskSave | diskSize | snapshotSave | backupSave | networkStatus | poolStatus
  | poolInfo =>
    obtain ⟨rows, -, rfl⟩ := except_bind_ok h
    exact .inl rfl
  | diskCreate =>
    obtain ⟨-, rfl⟩ := write_diskCreate h
    exact .inl rfl
  | nicCreate =>
    obtain ⟨-, rfl⟩ := write_nicCreate h
    exact .inl rfl
  | networkDelete =>
    simp only [Tables.write] at h
    split at h
    · cases h
    · cases h; exact .inl rfl
  | vmDelete | diskDelete | nicDelete | snapshotDelete => cases h; exact .inl rfl

/-- What a write does to the VMs. -/
def Write.onVms (vms : List VmRow) : Write → List VmRow
  | .vmSave pk fields => Table.modify vms pk fields.apply
  | .vmDelete pk => Table.remove vms pk
  | _ => vms

/-- What a write makes of the VMs. -/
theorem Tables.write_vms {now : Nat} {uuid : Uuid} {t t' : Tables} {x : Write}
    (h : t.write now uuid x = .ok t') : t'.vms = x.onVms t.vms := by
  cases x with
  | vmSave pk fields =>
    obtain ⟨rows, hrows, rfl⟩ := except_bind_ok h
    exact saveRow_ok hrows
  | jobTransition =>
    simp only [Tables.write] at h
    split at h
    · cases h
    · split at h
      · cases h; rfl
      · cases h
  | jobProgress | jobResourceId | diskSave | diskSize | snapshotSave | backupSave | networkStatus
  | poolStatus | poolInfo =>
    obtain ⟨rows, -, rfl⟩ := except_bind_ok h
    rfl
  | diskCreate =>
    obtain ⟨-, rfl⟩ := write_diskCreate h
    rfl
  | nicCreate =>
    obtain ⟨-, rfl⟩ := write_nicCreate h
    rfl
  | networkDelete =>
    simp only [Tables.write] at h
    split at h
    · cases h
    · cases h; rfl
  | vmDelete | jobLogs | jobCeleryTaskId | diskDelete | nicDelete | snapshotDelete =>
    cases h
    rfl

/-- A new VM is added. -/
theorem Tables.createVm_ok {uuid domainUuid : Uuid} {row row' : VmRow}
    (h : t.createVm uuid domainUuid row = .ok (row', t')) :
    t' = { t with vms := t.vms ++ [row'] } ∧ row'.pk = Table.nextPk t.vms := by
  unfold Tables.createVm at h
  split at h
  · cases h
  · split at h
    · cases h
    · cases h
      exact ⟨rfl, rfl⟩

/-- A new VM has a name of its own in its project, and identifiers of its own. -/
theorem Tables.createVm_fresh {uuid domainUuid : Uuid} {row row' : VmRow}
    (h : t.createVm uuid domainUuid row = .ok (row', t')) :
    row' = { row with pk := Table.nextPk t.vms, uuid := uuid, domainUuid := domainUuid } ∧
      ∀ v ∈ t.vms, (v.project = row.project → v.name ≠ row.name) ∧ v.uuid ≠ uuid ∧
        v.domainUuid ≠ domainUuid := by
  unfold Tables.createVm at h
  split at h
  · cases h
  · next named =>
    split at h
    · cases h
    · next drawn =>
      cases h
      simp only [List.any_eq_true, decide_eq_true_eq, not_exists, not_and, not_or] at named drawn
      exact ⟨rfl, fun v hv => ⟨named v hv, drawn v hv⟩⟩

/-- A new VM leaves the jobs. -/
theorem Tables.createVm_jobs {uuid domainUuid : Uuid} {row row' : VmRow}
    (h : t.createVm uuid domainUuid row = .ok (row', t')) : t'.jobs = t.jobs := by
  rw [(Tables.createVm_ok h).1]

end OfJob

/-- The operations that are no agent call. -/
def Op.silent : Op → Prop
  | .send _ _ _ => False
  | _ => True

/-- The operations that leave the locks alone. -/
def Op.lockFree : Op → Prop
  | .acquire _ _ | .release _ => False
  | _ => True

/-- The entry records the operation. -/
def Entry.records (o : Op) : Entry → Prop
  | .call r timeout _ => ∃ node, o = .send node r timeout
  | .write x _ => o = .write x
  | .createVm row _ => o = .createVm row
  | .event e _ => o = .emit e

/-- An operation is recorded once or not at all. -/
theorem World.handle_trace (o : Op) (w : World) :
    (World.handle o w).2.trace = w.trace ∨
      ∃ e : Entry, e.records o ∧ (World.handle o w).2.trace = e :: w.trace := by
  cases o with
  | read | release | now | mac => exact .inl rfl
  | acquire key ttl =>
    simp only [World.handle, World.answer]
    split <;> exact .inl rfl
  | send node r timeout =>
    cases node with
    | none => exact .inl rfl
    | some node => exact .inr ⟨.call r timeout (w.script w.pos).agent, ⟨some node, rfl⟩, rfl⟩
  | write x =>
    simp only [World.handle, World.answer, World.statement]
    split
    · exact .inr ⟨.write x true, rfl, rfl⟩
    · exact .inr ⟨.write x false, rfl, rfl⟩
  | emit event =>
    simp only [World.handle, World.answer, World.statement]
    split
    · exact .inr ⟨.event event true, rfl, rfl⟩
    · exact .inr ⟨.event event false, rfl, rfl⟩
  | createVm row =>
    simp only [World.handle, World.answer]
    split
    · exact .inr ⟨.createVm row true, rfl, rfl⟩
    · exact .inr ⟨.createVm row false, rfl, rfl⟩

/-- Only an agent call sends something. -/
theorem World.handle_calls {o : Op} {w : World} (silent : o.silent) :
    (World.handle o w).2.calls = w.calls := by
  unfold World.calls
  rcases World.handle_trace o w with same | ⟨e, recorded, added⟩
  · rw [same]
  · rw [added]
    cases e with
    | call r timeout out =>
      obtain ⟨node, rfl⟩ := recorded
      exact silent.elim
    | write | createVm | event => rfl

/-- Nothing comes of another operation, as far as the agents are concerned. -/
theorem World.handle_exchanges {o : Op} {w : World} (silent : o.silent) :
    (World.handle o w).2.exchanges = w.exchanges := by
  unfold World.exchanges
  rcases World.handle_trace o w with same | ⟨e, recorded, added⟩
  · rw [same]
  · rw [added]
    cases e with
    | call r timeout out =>
      obtain ⟨node, rfl⟩ := recorded
      exact silent.elim
    | write | createVm | event => rfl

/-- What will happen is decided from the start. -/
theorem World.handle_script (o : Op) (w : World) : (World.handle o w).2.script = w.script := by
  cases o with
  | read | release | now | mac => rfl
  | send node r timeout => cases node <;> rfl
  | acquire | write | emit | createVm =>
    simp only [World.handle, World.answer, World.statement]
    split <;> rfl

/-- Only a lock's operations change the locks. -/
theorem World.handle_busy {o : Op} {w : World} (lockFree : o.lockFree) :
    (World.handle o w).2.busy = w.busy := by
  cases o with
  | read | now | mac => rfl
  | acquire | release => exact lockFree.elim
  | send node r timeout => cases node <;> rfl
  | write | emit =>
    simp only [World.handle, World.answer, World.statement]
    split <;> rfl
  | createVm row =>
    simp only [World.handle, World.answer]
    split <;> rfl

/-! ## Rules -/

section Rules

variable {L α : Type} {I : L → World → Prop} {E : Exn → Prop}

/-- An invariant that an operation keeps, whatever it answers. -/
def OpKeeps (I : L → World → Prop) (o : Op) : Prop :=
  ∀ l w, I l w → I l (World.handle o w).2

/-- A result that may be an exception keeps what its operation keeps. -/
theorem Keeps.orRaise {o : Op} {f : Ans o → Except Exn α} (hI : OpKeeps I o)
    (hE : ∀ w e, f (World.handle o w).1 = .error e → E e) :
    Keeps World.handle I E ((Script.perform o : TaskM L (Ans o)) >>= fun a => orRaise (f a)) := by
  intro l w start
  have after := hI l w start
  have raised := hE w
  rw [exec_bind]
  simp only [exec_perform]
  generalize World.handle o w = r at after raised ⊢
  obtain ⟨a, w'⟩ := r
  cases hf : f a with
  | error e => simpa [NodePilot.orRaise, hf] using ⟨after, raised e hf⟩
  | ok b => simpa [NodePilot.orRaise, hf] using after

variable (ops : ∀ e : Exn, e.ofOperation → E e)

include ops in
/-- The rule of a write. -/
theorem Keeps.save {x : Write} (hI : OpKeeps I (.write x)) :
    Keeps World.handle I E (save x) :=
  Keeps.orRaise (f := id) hI fun _ _ h => ops _ (World.write_error h)

include ops in
/-- The rule of a new VM. -/
theorem Keeps.insertVm {row : VmRow} (hI : OpKeeps I (.createVm row)) :
    Keeps World.handle I E (insertVm row) :=
  Keeps.orRaise (f := id) hI fun _ _ h => ops _ (World.createVm_error h)

include ops in
/-- The rule of a call to an agent. -/
theorem Keeps.sendOperation {node : Option Nat} {r : AgentRequest} {timeout : Option Nat}
    (hI : OpKeeps I (.send node r timeout)) :
    Keeps World.handle I E (sendOperation node r timeout) :=
  Keeps.orRaise (f := id) hI fun _ _ h => ops _ (World.send_error h)

include ops in
/-- The rule of an event. -/
theorem Keeps.emitEvent {event : Event} (hI : OpKeeps I (.emit event)) :
    Keeps World.handle I E (emitEvent event) :=
  Keeps.orRaise (f := id) hI fun _ _ h => ops _ (World.emit_error h)

/-- The rule of a query. -/
theorem Keeps.query (hI : OpKeeps I .read) : Keeps World.handle I E query := Keeps.perform hI

include ops in
/-- The rule of loading a row. -/
theorem Keeps.getRow {model : String} {row : Tables → Option α} (hI : OpKeeps I .read) :
    Keeps World.handle I E (getRow model row) := by
  refine Keeps.bind (Keeps.query hI) fun t => ?_
  split
  · exact Keeps.pure _
  · exact Keeps.throw (ops _ rfl)

/-- The rule of a step under a condition. -/
theorem Keeps.onlyIf {c : Prop} [Decidable c] {x : TaskM L Unit}
    (hx : c → Keeps World.handle I E x) : Keeps World.handle I E (onlyIf c x) :=
  Keeps.ite hx fun _ => Keeps.pure _

/-- The rule of a step whose failure is only logged. -/
theorem Keeps.swallow {x : TaskM L Unit} {E' : Exn → Prop} (hx : Keeps World.handle I E' x) :
    Keeps World.handle I E (swallow x) :=
  Keeps.tryCatch hx fun _ _ => Keeps.pure _

/-! ### Statements with an outcome

`turn` says that the precondition survives the turn of the surroundings; the other hypotheses
start from the state after it. -/

section Outcomes

variable {β : Type} {P : L → World → Prop} {R : Exn → L → World → Prop}
variable (turn : ∀ l w, P l w → P l w.next)

include turn in
/-- A write with what it makes of the tables. -/
theorem Triple.save {x : Write} {Q : Unit → L → World → Prop}
    (hok : ∀ l w now uuid db, P l w → w.db.write now uuid x = .ok db →
      Q () l { w with db := db, trace := .write x true :: w.trace })
    (herr : ∀ l w e, P l w → e.ofOperation → R e l { w with trace := .write x false :: w.trace }) :
    Triple World.handle P (save x) Q R := by
  intro l w start
  have after := turn l w start
  unfold NodePilot.save
  rw [exec_bind]
  simp only [exec_perform, World.handle, World.answer, World.statement]
  cases hx : (if (w.script w.pos).dbFails then .error .databaseError
      else w.next.db.write (w.script w.pos).now (w.script w.pos).uuid x : Except Exn Tables) with
  | ok db =>
    split at hx
    · cases hx
    · exact hok l w.next _ _ db after hx
  | error e =>
    refine herr l w.next e after ?_
    split at hx
    · cases hx; rfl
    · exact Tables.write_error hx

include turn in
/-- A call with its answer. -/
theorem Triple.sendOperation {node : Option Nat} {r : AgentRequest} {timeout : Option Nat}
    {Q : Dict → L → World → Prop}
    (hnone : ∀ l w, P l w → node = none → R .attributeError l w)
    (hok : ∀ l w data, P l w → node.isSome →
      Q data l { w with trace := .call r timeout (.ok data) :: w.trace })
    (herr : ∀ l w o e, P l w → node.isSome → o.confirmed = false → e.ofOperation →
      R e l { w with trace := .call r timeout o :: w.trace }) :
    Triple World.handle P (sendOperation node r timeout) Q R := by
  intro l w start
  have after := turn l w start
  unfold NodePilot.sendOperation
  rw [exec_bind]
  simp only [exec_perform, World.handle]
  generalize w.script w.pos = c
  cases node with
  | none => exact hnone l w.next after rfl
  | some node =>
    simp only [World.answer]
    cases houtcome : c.agent with
    | ok data => exact hok l w.next data after rfl
    | failed error =>
      have raised := fun e => herr l w.next (.failed error) e after rfl rfl
      cases error with
      | none => exact raised _ rfl
      | some error => exact raised _ rfl
    | noAgent | notConnected | timedOut => exact herr l w.next _ _ after rfl rfl rfl

include turn in
/-- An event with its record. -/
theorem Triple.emitEvent {event : Event} {Q : Unit → L → World → Prop}
    (hok : ∀ l w, P l w → Q () l { w with trace := .event event true :: w.trace })
    (herr : ∀ l w e, P l w → e.ofOperation → R e l { w with trace := .event event false :: w.trace }) :
    Triple World.handle P (emitEvent event) Q R := by
  intro l w start
  have after := turn l w start
  unfold NodePilot.emitEvent
  rw [exec_bind]
  simp only [exec_perform, World.handle, World.answer, World.statement]
  cases (w.script w.pos).dbFails
  · exact hok l w.next after
  · exact herr l w.next _ after rfl

end Outcomes

/-- What follows a query may rely on its answer having been the database of a state of the run. -/
theorem Triple.query_bind {β : Type} {f : Tables → TaskM L β} {Q : β → L → World → Prop}
    {R : Exn → L → World → Prop} (hI : OpKeeps I .read)
    (hf : ∀ t, (∃ l w, I l w ∧ w.db = t) → Triple World.handle I (f t) Q R) :
    Triple World.handle I (query >>= f) Q R := by
  intro l w start
  have after : I l w.next := hI l w start
  have read : exec World.handle NodePilot.query l w = (.ok w.next.db, l, w.next) := rfl
  rw [exec_bind, read]
  exact hf w.next.db ⟨l, w.next, after, rfl⟩ l w.next after

/-- What follows a `get` may rely on the row having been in the database of a state of the run. -/
theorem Triple.getRow_bind {β : Type} {model : String} {row : Tables → Option α}
    {f : α → TaskM L β} {Q : β → L → World → Prop} {R : Exn → L → World → Prop}
    (hI : OpKeeps I .read) (hR : ∀ e l w, I l w → R e l w)
    (hf : ∀ a, (∃ l w, I l w ∧ row w.db = some a) → Triple World.handle I (f a) Q R) :
    Triple World.handle I (getRow model row >>= f) Q R := by
  unfold NodePilot.getRow
  rw [bind_assoc]
  refine Triple.query_bind hI fun t ⟨l, w, hw, ht⟩ => ?_
  cases hrow : row t with
  | none =>
    exact Triple.bind (Q := fun _ _ _ => False) (Triple.throw (hR _)) fun _ _ _ h => h.elim
  | some a => rw [pure_bind]; exact hf a ⟨l, w, hw, ht ▸ hrow⟩

/-- A lock that is held refuses its body. -/
theorem exec_withLock_busy {key : LockKey} {ttl : Nat} {body : TaskM L α} {l : L} {w : World}
    (busy : key ∈ w.busy) :
    exec World.handle (withLock key ttl body) l w = (.error (.lockAcquisition key), l, w.next) := by
  have answer : World.handle (.acquire key ttl) w = (false, w.next) := by
    simp only [World.handle, World.answer]
    exact if_pos busy
  unfold withLock
  rw [exec_bind]
  simp only [exec_perform, answer]
  rfl

/-- A free lock is held while its body runs, and released however the body ends. -/
theorem exec_withLock_free {key : LockKey} {ttl : Nat} {body : TaskM L α} {l : L} {w : World}
    (free : key ∉ w.busy) :
    exec World.handle (withLock key ttl body) l w =
      match exec World.handle body l { w.next with busy := key :: w.busy } with
      | (r, l', w') => (r, l', (World.handle (.release key) w').2) := by
  have answer : World.handle (.acquire key ttl) w =
      (true, { w.next with busy := key :: w.busy }) := by
    simp only [World.handle, World.answer]
    exact if_neg free
  unfold withLock
  rw [exec_bind]
  simp only [exec_perform, answer, if_true]
  rw [exec_bind, exec_tryCatch]
  generalize exec World.handle body l _ = r
  rcases r with ⟨e | a, l', w'⟩
  · simp [exec_bind]
  · simp only [exec_bind, exec_perform, exec_pure]

/-- A locked body keeps what it keeps unlocked, if the lock operations keep it too. -/
theorem Keeps.withLock {key : LockKey} {ttl : Nat} {body : TaskM L α}
    (locks : E (.lockAcquisition key)) (hacq : OpKeeps I (.acquire key ttl))
    (hrel : OpKeeps I (.release key)) (hx : Keeps World.handle I E body) :
    Keeps World.handle I E (withLock key ttl body) := by
  refine Keeps.bind (Keeps.perform hacq) fun acquired => Keeps.ite (fun _ => ?_) fun _ =>
    Keeps.throw locks
  refine Keeps.bind (Keeps.tryCatch hx fun e he => ?_) fun a =>
    Keeps.bind (Keeps.perform hrel) fun _ => Keeps.pure a
  exact Keeps.bind (Keeps.perform hrel) fun _ => Keeps.throw he

end Rules

end NodePilot
