import NodePilot.Laws.Cancel
import NodePilot.Laws.Outcomes

/-!
# Executions whose statements are accepted

`At` says where a task stands: the status of its job, the other rows, and what became of the agent
calls so far. While the database accepts every statement, the statements that keep the job's row go
through, and a job that has not ended can be moved to its end: a body that returns makes it succeed,
one that raises makes it fail. A cancellation may be asked for at any time; it changes nothing but
the status of the job.
-/

namespace NodePilot

open Lib Lib.Script

/-- The agent calls of a task, oldest first. -/
abbrev Exchanges : Type := List (AgentRequest × AgentOutcome)

/-! ## The status of the job -/

/-- The job has not ended. -/
def JobStatus.pending (s : JobStatus) : Prop := s = .queued ∨ s = .running ∨ s = .canceling

instance : DecidablePred JobStatus.pending := fun _ => inferInstanceAs (Decidable (_ ∨ _))

/-- The job is under way. -/
def JobStatus.underway (s : JobStatus) : Prop := s = .running ∨ s = .canceling

/-- The job has not succeeded, and was not canceled either. -/
def JobStatus.unsettled (s : JobStatus) : Prop := s.pending ∨ s = .failed

/-- The statuses that a job read in status `old` can have later, as far as others are concerned. -/
def JobStatus.since (old s : JobStatus) : Prop :=
  s = old ∨ (old = .queued ∨ old = .running) ∧ s = .canceling

/-- A request to cancel, where there is one, does not lead out of the statuses. -/
def Enduring (script : Nat → Choice) (st : JobStatus → Prop) : Prop :=
  (∃ i, (script i).cancel ≠ none) → ∀ s, st s → s = .queued ∨ s = .running → st .canceling

theorem enduring_pending {script : Nat → Choice} : Enduring script JobStatus.pending :=
  fun _ _ _ _ => .inr (.inr rfl)

theorem enduring_underway {script : Nat → Choice} : Enduring script JobStatus.underway :=
  fun _ _ _ _ => .inr rfl

theorem enduring_unsettled {script : Nat → Choice} : Enduring script JobStatus.unsettled :=
  fun _ _ _ _ => .inl (.inr (.inr rfl))

/-- What holds of a job after it was loaded lasts. -/
theorem enduring_loaded {script : Nat → Choice} {old : JobStatus} :
    Enduring script fun s => s.pending ∧ old.since s := by
  rintro - s ⟨-, rfl | ⟨-, rfl⟩⟩ turns
  · exact ⟨.inr (.inr rfl), .inr ⟨turns, rfl⟩⟩
  · exact ⟨.inr (.inr rfl), by rcases turns with h | h <;> cases h⟩

/-- Where nobody asks for a cancellation, every status lasts. -/
theorem enduring_of_uncanceled {script : Nat → Choice} {st : JobStatus → Prop}
    (uncanceled : ∀ i, (script i).cancel = none) : Enduring script st :=
  fun ⟨i, asked⟩ => absurd (uncanceled i) asked

theorem enduring_terminal {script : Nat → Choice} {s : JobStatus} (h : s.isTerminal) :
    Enduring script (· = s) := by
  rintro - s rfl (rfl | rfl) <;> cases h

/-- The execution of a task: what the surroundings decide, its job, and the locks that are held. -/
structure Setting where
  script : Nat → Choice
  job : Nat
  busy : List LockKey := []

/-- Where a task stands in an execution. -/
structure At (c : Setting) (st : JobStatus → Prop) (rows : Tables) (calls : Exchanges) (w : World) :
    Prop where
  script : w.script = c.script
  busy : w.busy = c.busy
  job : ∃ row, Table.get w.db.jobs c.job = some row ∧ st row.status
  rows : w.db.settled = rows
  calls : w.exchanges = calls

/-- The task stands somewhere that `K` admits. -/
def Ends (c : Setting) (st : JobStatus → Prop) (K : Tables → Exchanges → Prop) (w : World) : Prop :=
  ∃ rows calls, K rows calls ∧ At c st rows calls w

section At

variable {c : Setting} {st st' : JobStatus → Prop} {rows : Tables} {calls : Exchanges} {w : World}

theorem At.mono (h : At c st rows calls w) (weaker : ∀ s, st s → st' s) :
    At c st' rows calls w :=
  { h with job := h.job.imp fun _ hrow => ⟨hrow.1, weaker _ hrow.2⟩ }

/-- The job after a write to the jobs. -/
theorem job_modify {jobs : List JobRow} {job k : Nat} {f : JobRow → JobRow}
    (hf : ∀ r, (f r).pk = r.pk)
    (h : ∃ row, Table.get jobs job = some row ∧ st row.status)
    (moves : ∀ row, k = job → Table.get jobs job = some row → st row.status → st' (f row).status)
    (others : k ≠ job → ∀ s, st s → st' s) :
    ∃ row, Table.get (Table.modify jobs k f) job = some row ∧ st' row.status := by
  obtain ⟨row, hrow, hst⟩ := h
  by_cases same : job = k
  · subst same
    exact ⟨f row, by rw [Table.get_modify_self hf, hrow]; rfl, moves row rfl hrow hst⟩
  · exact ⟨row, by rw [Table.get_modify_ne hf same, hrow], others (Ne.symm same) _ hst⟩

theorem At.next (h : At c st rows calls w) (enduring : Enduring c.script st) :
    At c st rows calls w.next := by
  refine ⟨h.script, h.busy, ?_, settled_requestCancel.trans h.rows, h.calls⟩
  show ∃ row, Table.get (w.db.requestCancel _ _).jobs c.job = some row ∧ _
  cases asked : (w.script w.pos).cancel with
  | none => exact h.job
  | some k =>
    rcases w.db.requestCancel_cases (w.script w.pos).now (some k) with same | ⟨k', row', found, was, turned⟩
    · rw [same]
      exact h.job
    · rw [turned]
      refine job_modify (fun _ => rfl) h.job (fun row same hrow hst => ?_) fun _ _ => id
      subst same
      rw [hrow] at found
      cases found
      refine enduring ⟨w.pos, ?_⟩ _ hst was
      rw [← h.script, asked]
      exact Option.some_ne_none k

/-- A write to the job's row that keeps its status leaves the task where it stands. -/
theorem At.handle {x : Write} (h : At c st rows calls w) (enduring : Enduring c.script st)
    (onJobs : x.onJobs) (keeps : x.jobStatus = none) :
    At c st rows calls (World.handle (.write x) w).2 := by
  have turn := h.next enduring
  refine ⟨(World.handle_script _ w).trans h.script, ?_, ?_, ?_, ?_⟩
  · exact (World.handle_busy (o := .write x) trivial).trans h.busy
  · rcases World.handle_db (.write x) w with same | ⟨x', same, hx⟩ | ⟨_, _, same, _⟩
    · exact same ▸ turn.job
    · cases same
      rcases Tables.write_jobs hx with same | ⟨k, f, hf, jobs⟩
      · exact same ▸ turn.job
      · rw [jobs]
        refine job_modify (Write.ofJob_pk hf) turn.job (fun row _ _ hst => ?_) fun _ _ => id
        rcases Write.ofJob_status hf row with kept | moved
        · exact kept ▸ hst
        · rw [keeps] at moved
          cases moved
    · cases same
  · exact (World.settled_handle (o := .write x) onJobs w).trans h.rows
  · exact (World.handle_exchanges (o := .write x) trivial).trans h.calls

theorem At.transitioned (h : At c st rows calls w) {new : JobStatus}
    {message error : Option String} {now : Nat} {e : Entry} (quiet : ∀ r t o, e ≠ .call r t o) :
    At c (· = new) rows calls { w with
      db := { w.db with
        jobs := Table.modify w.db.jobs c.job fun r => r.transitioned new message error now }
      trace := e :: w.trace } := by
  let f : JobRow → JobRow := fun r => r.transitioned new message error now
  refine ⟨h.script, h.busy, ?_, ?_, ?_⟩
  · exact @job_modify st (· = new) w.db.jobs c.job c.job f (fun _ => rfl) h.job
      (fun _ _ _ _ => rfl) fun other => absurd rfl other
  · exact (settled_jobs (f := f) fun _ => rfl).trans h.rows
  · rw [← h.calls]
    cases e with
    | call r t o => exact absurd rfl (quiet r t o)
    | write | createVm | event => rfl

end At

/-! ## Statements -/

section Statements

variable {L α : Type} {c : Setting} {st st' : JobStatus → Prop}
variable {rows : Tables} {calls : Exchanges}
variable (accepted : ∀ i, (c.script i).dbFails = false)

include accepted in
/-- A statement that goes through in every state the task can be in. -/
theorem triple_save {P : L → World → Prop} {R : Exn → L → World → Prop} {x : Write}
    {Q : Unit → L → World → Prop} (turn : ∀ l w, P l w → P l w.next)
    (same : ∀ l w, P l w → w.script = c.script)
    (goes : ∀ l w now uuid, P l w → ∃ db, w.db.write now uuid x = .ok db ∧
      Q () l { w with db := db, trace := .write x true :: w.trace }) :
    Triple World.handle P (save x) Q R := by
  intro l w start
  have after := turn l w start
  obtain ⟨db, written, done⟩ := goes l w.next (w.script w.pos).now (w.script w.pos).uuid after
  have calm : (w.script w.pos).dbFails = false := by rw [same l w start]; exact accepted _
  unfold save
  rw [exec_bind]
  simp only [exec_perform, World.handle, World.answer, World.statement, calm, written]
  exact done

include accepted in
/-- A write to the job's row that keeps its status. -/
theorem triple_saveJob {x : Write} {R : Exn → L → World → Prop} (enduring : Enduring c.script st)
    (onJobs : x.onJobs) (keeps : x.jobStatus = none)
    (goes : ∀ (t : Tables) now uuid, (∃ row, Table.get t.jobs c.job = some row) →
      ∃ t', t.write now uuid x = .ok t') :
    Triple World.handle (fun _ => At c st rows calls) (save x)
      (fun _ (_ : L) => At c st rows calls) R := by
  intro l w start
  have after := start.handle enduring onJobs keeps
  obtain ⟨row, hrow, -⟩ := (start.next enduring).job
  obtain ⟨db, written⟩ := goes w.next.db (w.script w.pos).now (w.script w.pos).uuid ⟨row, hrow⟩
  have calm : (w.script w.pos).dbFails = false := by rw [start.script]; exact accepted _
  unfold save
  rw [exec_bind]
  simp only [exec_perform, World.handle, World.answer, World.statement, calm, written] at after ⊢
  exact after

include accepted in
/-- A transition from a status that allows it. -/
theorem triple_transition {j : JobRow} (hj : j.pk = c.job) {new : JobStatus}
    {message error : Option String} {R : Exn → L → World → Prop} (enduring : Enduring c.script st)
    (allowed : ∀ s, st s → new ∈ validTransitions s ∨ new = s) :
    Triple World.handle (fun _ => At c st rows calls) (transition j new message error)
      (fun _ (_ : L) => At c (· = new) rows calls) R := by
  refine triple_save accepted (fun _ _ h => h.next enduring) (fun _ _ h => h.script) ?_
  intro l w now uuid h
  obtain ⟨row, hrow, hst⟩ := h.job
  rw [hj]
  have written : w.db.write now uuid (.jobTransition c.job new message error) = .ok { w.db with
      jobs := Table.modify w.db.jobs c.job fun r => r.transitioned new message error now } := by
    simp only [Tables.write, hrow, if_pos (allowed _ hst)]
  exact ⟨_, written, h.transitioned fun _ _ _ => Entry.noConfusion⟩

/-- A transition that a request to cancel may have overtaken. -/
theorem triple_transition_or {j : JobRow} (hj : j.pk = c.job) {new : JobStatus}
    {message error : Option String} (enduring : Enduring c.script st) :
    Triple World.handle (fun _ => At c st rows calls) (transition j new message error)
      (fun _ (_ : L) => At c (· = new) rows calls)
      (fun e _ w => e.ofOperation ∧ At c st rows calls w) := by
  refine Triple.save (fun _ _ h => h.next enduring) ?_ ?_
  · rintro l w now uuid db h written
    obtain ⟨row, hrow, hst⟩ := h.job
    simp only [Tables.write, hj, hrow] at written
    split at written
    · cases written
      exact h.transitioned fun _ _ _ => Entry.noConfusion
    · cases written
  · rintro l w e h he
    exact ⟨he, h.script, h.busy, h.job, h.rows, h.calls⟩

/-- A query finds the rows as they stand. -/
theorem triple_query (enduring : Enduring c.script st) {R : Exn → L → World → Prop} :
    Triple World.handle (fun _ => At c st rows calls) query
      (fun t (_ : L) w => w.db = t ∧ At c st rows calls w) R :=
  Triple.perform fun _ _ h => ⟨rfl, h.next enduring⟩

/-- The object that `Job.objects.get` loads. -/
theorem triple_getJob (enduring : Enduring c.script st) {R : Exn → L → World → Prop} :
    Triple World.handle (fun _ => At c st rows calls) (getJob c.job)
      (fun j (_ : L) w => j.pk = c.job ∧ st j.status ∧
        At c (fun s => st s ∧ j.status.since s) rows calls w) R := by
  refine Triple.bind (triple_query enduring) fun t l w h => ?_
  obtain ⟨rfl, h⟩ := h
  obtain ⟨row, hrow, hst⟩ := h.job
  dsimp only
  rw [hrow]
  exact ⟨Table.pk_of_get hrow, hst, h.script, h.busy, ⟨row, hrow, hst, .inl rfl⟩, h.rows, h.calls⟩

/-- A row outside the jobs, loaded by its key. -/
theorem triple_getRow {model : String} (row : Tables → Option α) {a : α}
    (enduring : Enduring c.script st) (found : ∀ t : Tables, t.settled = rows → row t = some a)
    {R : Exn → L → World → Prop} :
    Triple World.handle (fun _ => At c st rows calls) (getRow model row)
      (fun b (_ : L) w => b = a ∧ At c st rows calls w) R := by
  refine Triple.bind (triple_query enduring) fun t l w h => ?_
  obtain ⟨rfl, h⟩ := h
  rw [found w.db h.rows]
  exact ⟨rfl, h⟩

include accepted in
theorem triple_setProgress {j : JobRow} (hj : j.pk = c.job) {progress : Int} {message : Option String}
    (enduring : Enduring c.script st) {R : Exn → L → World → Prop} :
    Triple World.handle (fun _ => At c st rows calls) (setProgress j progress message)
      (fun _ (_ : L) => At c st rows calls) R := by
  refine triple_saveJob accepted enduring rfl rfl ?_
  rintro t now uuid ⟨row, hrow⟩
  simp only [Tables.write, saveRow, hj, hrow]
  exact ⟨_, rfl⟩

include accepted in
theorem triple_appendLog {j : JobRow} (hj : j.pk = c.job) {line : String}
    (enduring : Enduring c.script st) {R : Exn → L → World → Prop} :
    Triple World.handle (fun _ => At c st rows calls) (appendLog j line)
      (fun _ (_ : L) => At c st rows calls) R := by
  unfold appendLog
  rw [hj]
  refine Triple.bind (triple_getJob enduring) fun row => ?_
  refine Triple.conseq (P := fun _ => At c st rows calls)
    (triple_saveJob accepted enduring rfl rfl ?_) ?_ (fun _ _ _ => id) fun _ _ _ => id
  · rintro t now uuid -
    exact ⟨_, rfl⟩
  · rintro l w ⟨-, -, h⟩
    exact h.mono fun _ hs => hs.1

/-- What comes of the tasks' silent statements: nothing but in the job's row. -/
theorem triple_swallow_emit {event : Event} (enduring : Enduring c.script st)
    {R : Exn → L → World → Prop} :
    Triple World.handle (fun _ => At c st rows calls) (swallow (emitEvent event))
      (fun _ (_ : L) => At c st rows calls) R :=
  Triple.tryCatch (R := fun _ _ => At c st rows calls)
    (Triple.emitEvent (fun _ _ h => h.next enduring)
      (fun _ _ h => ⟨h.script, h.busy, h.job, h.rows, h.calls⟩)
      fun _ _ _ h _ => ⟨h.script, h.busy, h.job, h.rows, h.calls⟩)
    fun _ => Triple.pure fun _ _ h => h

/-! ### Rows and calls -/

theorem At.ends {K : Tables → Exchanges → Prop} {w : World} (h : At c st rows calls w)
    (hK : K rows calls) : Ends c st K w := ⟨rows, calls, hK, h⟩

theorem Ends.mono {K K' : Tables → Exchanges → Prop} {w : World} (h : Ends c st K w)
    (weaker : ∀ s, st s → st' s) (hK : ∀ rows calls, K rows calls → K' rows calls) :
    Ends c st' K' w := by
  obtain ⟨rows, calls, hold, h⟩ := h
  exact ⟨rows, calls, hK rows calls hold, h.mono weaker⟩

theorem Ends.next {K : Tables → Exchanges → Prop} {w : World} (h : Ends c st K w)
    (enduring : Enduring c.script st) : Ends c st K w.next := by
  obtain ⟨rows, calls, hold, h⟩ := h
  exact ⟨rows, calls, hold, h.next enduring⟩

/-- A rule for every place the task can stand at. -/
theorem triple_ends {K : Tables → Exchanges → Prop} {x : TaskM L α} {Q : α → L → World → Prop}
    {R : Exn → L → World → Prop}
    (h : ∀ rows calls, K rows calls → Triple World.handle (fun _ => At c st rows calls) x Q R) :
    Triple World.handle (fun _ => Ends c st K) x Q R := by
  rintro l w ⟨rows, calls, hK, start⟩
  exact h rows calls hK l w start

/-- The tables after a write to other rows than the jobs. -/
theorem At.written {x : Write} {now : Nat} {uuid : Uuid} {db rows' : Tables} {w : World} {b : Bool}
    (h : At c st rows calls w) (onRows : x.onJobs = false)
    (written : w.db.write now uuid x = .ok db) (settled : rows.write now uuid x = .ok rows') :
    At c st rows' calls { w with db := db, trace := .write x b :: w.trace } := by
  have same : db.settled = rows' := by
    have := settled_write onRows written
    rw [h.rows, settled] at this
    exact (Except.ok.inj this).symm
  refine ⟨h.script, h.busy, ?_, same, h.calls⟩
  rcases Tables.write_jobs written with jobs | ⟨k, f, hf, -⟩
  · exact jobs ▸ h.job
  · cases x with
    | jobTransition | jobProgress | jobLogs | jobCeleryTaskId | jobResourceId => cases onRows
    | _ => cases hf

include accepted in
/-- A write to other rows that goes through. -/
theorem triple_saveRows {x : Write} {K : Tables → Prop} {R : Exn → L → World → Prop}
    (enduring : Enduring c.script st) (onRows : x.onJobs = false)
    (goes : ∀ now uuid, ∃ rows', rows.write now uuid x = .ok rows' ∧ K rows') :
    Triple World.handle (fun _ => At c st rows calls) (save x)
      (fun _ (_ : L) => Ends c st fun rows' calls' => K rows' ∧ calls' = calls) R := by
  refine triple_save accepted (fun _ _ h => h.next enduring) (fun _ _ h => h.script) ?_
  intro l w now uuid h
  obtain ⟨rows', settled, hK⟩ := goes now uuid
  have this : w.db.settled.write now uuid x = (w.db.write now uuid x).map Tables.settled :=
    write_settled onRows
  rw [h.rows, settled] at this
  cases written : w.db.write now uuid x with
  | error e =>
    rw [written] at this
    cases this
  | ok db => exact ⟨db, rfl, rows', calls, ⟨hK, rfl⟩, h.written onRows written settled⟩

/-- A write to other rows, whether it goes through or not. -/
theorem triple_saveRows_or {x : Write} {K : Tables → Prop} (enduring : Enduring c.script st)
    (onRows : x.onJobs = false)
    (goes : ∀ now uuid rows', rows.write now uuid x = .ok rows' → K rows') :
    Triple World.handle (fun _ => At c st rows calls) (save x)
      (fun _ (_ : L) => Ends c st fun rows' calls' => K rows' ∧ calls' = calls)
      (fun e _ w => e.ofOperation ∧ At c st rows calls w) := by
  refine Triple.save (fun _ _ h => h.next enduring) ?_ ?_
  · intro l w now uuid db h written
    have settled := settled_write onRows written
    rw [h.rows] at settled
    exact ⟨db.settled, calls, ⟨goes now uuid _ settled, rfl⟩, h.written onRows written settled⟩
  · intro l w e h he
    exact ⟨he, h.script, h.busy, h.job, h.rows, h.calls⟩

/-- A call, with the outcome that the surroundings decide. -/
theorem triple_send {node : Nat} {r : AgentRequest} {timeout : Option Nat}
    (enduring : Enduring c.script st) :
    Triple World.handle (fun _ => At c st rows calls) (sendOperation (some node) r timeout)
      (fun data (_ : L) w => ∃ i, (c.script i).agent = .ok data ∧
        At c st rows (calls ++ [(r, .ok data)]) w)
      (fun e _ w => e.ofOperation ∧ ∃ i, (c.script i).agent.confirmed = false ∧
        At c st rows (calls ++ [(r, (c.script i).agent)]) w) := by
  have called : Triple World.handle (fun (_ : L) => At c st rows calls)
      (Script.perform (Op.send (some node) r timeout))
      (fun (a : Except Exn Dict) _ w => ∃ i t, a = (c.script i).agent.result t node r ∧
        At c st rows (calls ++ [(r, (c.script i).agent)]) w)
      (fun (e : Exn) _ w => e.ofOperation ∧ ∃ i, (c.script i).agent.confirmed = false ∧
        At c st rows (calls ++ [(r, (c.script i).agent)]) w) := by
    refine Triple.perform fun l w start => ?_
    have after := start.next enduring
    have choice : w.script w.pos = c.script w.pos := by rw [start.script]
    simp only [World.handle, World.answer, choice]
    refine ⟨w.pos, w.next.db, rfl, after.script, after.busy, after.job, after.rows, ?_⟩
    rw [← after.calls]
    simp [World.exchanges]
  refine Triple.bind called fun a => ?_
  rintro l w ⟨i, t, rfl, h⟩
  have lost (e : Exn) (he : e.ofOperation) (hc : (c.script i).agent.confirmed = false) :
      e.ofOperation ∧ ∃ i, (c.script i).agent.confirmed = false ∧
        At c st rows (calls ++ [(r, (c.script i).agent)]) w := ⟨he, i, hc, h⟩
  generalize hagent : (c.script i).agent = o at lost h
  cases o with
  | ok data => exact ⟨i, hagent, h⟩
  | failed error => cases error <;> exact lost _ rfl rfl
  | noAgent | notConnected | timedOut => exact lost _ rfl rfl

/-- Without a node nothing is sent. -/
theorem triple_send_none {r : AgentRequest} {timeout : Option Nat} (enduring : Enduring c.script st)
    {Q : Dict → L → World → Prop} :
    Triple World.handle (fun _ => At c st rows calls) (sendOperation none r timeout) Q
      (fun e _ w => e = .attributeError ∧ At c st rows calls w) :=
  Triple.bind (Q := fun a _ w => a = .error .attributeError ∧ At c st rows calls w)
    (Triple.perform fun _ _ h => ⟨rfl, h.next enduring⟩) fun a => by
      rintro l w ⟨rfl, h⟩
      exact ⟨rfl, h⟩

/-! ### Locks -/

/-- The execution while the task holds the lock too. -/
abbrev Setting.holding (c : Setting) (key : LockKey) : Setting := { c with busy := key :: c.busy }

theorem Ends.release {K : Tables → Exchanges → Prop} {key : LockKey} {w : World}
    (h : Ends (c.holding key) st K w) (enduring : Enduring c.script st) :
    Ends c st K (World.handle (.release key) w).2 := by
  obtain ⟨rows, calls, hold, h⟩ := h
  have after := h.next enduring
  refine ⟨rows, calls, hold, after.script, ?_, after.job, after.rows, after.calls⟩
  show w.next.busy.erase key = c.busy
  rw [after.busy]
  exact List.erase_cons_head key c.busy

/-- A free lock is held while its body runs. -/
theorem triple_withLock {key : LockKey} {ttl : Nat} {body : TaskM L α} {st'' : JobStatus → Prop}
    {Q : α → Tables → Exchanges → Prop} {K : Tables → Exchanges → Prop} {E : Exn → Prop}
    (free : key ∉ c.busy) (enduring : Enduring c.script st) (enduring' : Enduring c.script st')
    (enduring'' : Enduring c.script st'')
    (hbody : Triple World.handle (fun _ => At (c.holding key) st rows calls) body
      (fun a _ => Ends (c.holding key) st' (Q a))
      (fun e _ w => E e ∧ Ends (c.holding key) st'' K w)) :
    Triple World.handle (fun _ => At c st rows calls) (withLock key ttl body)
      (fun a _ => Ends c st' (Q a)) (fun e _ w => E e ∧ Ends c st'' K w) := by
  intro l w start
  have after := start.next enduring
  rw [exec_withLock_free (start.busy ▸ free)]
  have held : At (c.holding key) st rows calls { w.next with busy := key :: w.busy } :=
    ⟨after.script, congrArg (key :: ·) start.busy, after.job, after.rows, after.calls⟩
  have ends := hbody l _ held
  generalize exec World.handle body l { w.next with busy := key :: w.busy } = r at ends ⊢
  rcases r with ⟨e | a, l', w'⟩
  · exact ⟨ends.1, ends.2.release enduring''⟩
  · exact Ends.release ends enduring'

/-- A lock that is held refuses its body. -/
theorem triple_withLock_busy {key : LockKey} {ttl : Nat} {body : TaskM L α}
    {Q : α → L → World → Prop} (busy : key ∈ c.busy) (enduring : Enduring c.script st) :
    Triple World.handle (fun _ => At c st rows calls) (withLock key ttl body) Q
      (fun e _ w => e = .lockAcquisition key ∧ At c st rows calls w) := by
  intro l w start
  rw [exec_withLock_busy (start.busy ▸ busy)]
  exact ⟨rfl, start.next enduring⟩

/-! ### The step and the end of a job -/

include accepted in
/-- The step of a job. A request to cancel stops it before its body. -/
theorem triple_jobRun {j : JobRow} (hj : j.pk = c.job) {step : String} {body : TaskM L α}
    {Q : α → Tables → Exchanges → Prop} {K : Tables → Exchanges → Prop} (early : K rows calls)
    (hbody : Triple World.handle (fun _ => At c JobStatus.underway rows calls) body
      (fun a _ => Ends c JobStatus.underway (Q a))
      (fun e _ w => e.Plain ∧ Ends c JobStatus.underway K w)) :
    Triple World.handle
      (fun _ => At c (fun s => s.pending ∧ j.status.since s) rows calls)
      (jobRun j step body) (fun a _ => Ends c JobStatus.underway (Q a))
      (fun _ _ => Ends c JobStatus.unsettled K) := by
  have started : Triple World.handle
      (fun _ => At c (fun s => s.pending ∧ j.status.since s) rows calls)
      (onlyIf (j.status = .queued) (transition j .running))
      (fun _ (_ : L) => At c JobStatus.underway rows calls)
      (fun _ _ => Ends c JobStatus.unsettled K) := by
    refine Triple.ite (fun queued => ?_) fun started => Triple.pure fun l w h => ?_
    · refine (triple_transition_or hj enduring_loaded).conseq (fun _ _ => id) ?_ ?_
      · exact fun _ l w h => h.mono fun s hs => .inl hs
      · exact fun e l w h => (h.2.mono fun s hs => .inl hs.1).ends early
    · refine h.mono fun s hs => ?_
      rcases hs with ⟨rfl | rfl | rfl, same | ⟨-, other⟩⟩
      · exact absurd same.symm started
      · cases other
      · exact .inl rfl
      · exact .inl rfl
      · exact .inr rfl
      · exact .inr rfl
  have weaken (l : L) (w : World) (h : At c JobStatus.underway rows calls w) :
      Ends c JobStatus.unsettled K w :=
    (h.mono fun s hs => .inl (.inr hs)).ends early
  refine Triple.bind started fun _ => ?_
  refine Triple.bind (Q := fun _ _ => At c JobStatus.underway rows calls)
    (Triple.bind (triple_query enduring_underway) fun t => Triple.pure fun l w h => h.2)
    fun canceling => ?_
  refine Triple.bind (Q := fun _ _ => At c JobStatus.underway rows calls)
    (Triple.ite (fun _ => Triple.throw weaken) fun _ => Triple.pure fun _ _ h => h) fun _ => ?_
  refine Triple.bind (Q := fun _ _ => At c JobStatus.underway rows calls)
    (Triple.ite (fun _ => ?_) fun _ => Triple.pure fun _ _ h => h) fun _ => ?_
  · exact Triple.bind (triple_setProgress accepted hj enduring_underway) fun _ =>
      triple_appendLog accepted hj enduring_underway
  · refine Triple.tryCatch hbody fun exc => ?_
    rintro l w ⟨plain, ends⟩
    have fails : jobRunExcept (L := L) j exc = transition j .failed none (some exc.str) := by
      cases exc <;> first | rfl | exact absurd rfl (plain _)
    rw [fails]
    refine (Triple.bind (Q := fun _ _ => Ends c (· = .failed) K) (triple_ends
      fun rows' calls' hK => ?_) fun _ => Triple.throw fun _ w h => ?_) l w ends
    · refine (triple_transition accepted hj enduring_underway ?_).conseq (fun _ _ => id)
        (fun _ _ _ h => h.ends hK) fun _ _ _ => id
      rintro s (rfl | rfl) <;> exact .inl (by decide)
    · exact h.mono (fun s hs => .inr hs) fun _ _ => id

include accepted in
/-- The step of a job that nobody asks to cancel. -/
theorem triple_jobRun_calm (uncanceled : ∀ i, (c.script i).cancel = none) {j : JobRow}
    (hj : j.pk = c.job) (step : String) {body : TaskM L α} {Q : α → Tables → Exchanges → Prop}
    {K : Tables → Exchanges → Prop} (was : j.status = .queued ∨ j.status = .running)
    (hbody : Triple World.handle (fun _ => At c (· = .running) rows calls) body
      (fun a _ => Ends c (· = .running) (Q a))
      (fun e _ w => e.Plain ∧ Ends c (· = .running) K w)) :
    Triple World.handle (fun _ => At c (· = j.status) rows calls)
      (jobRun j step body) (fun a _ => Ends c (· = .running) (Q a))
      (fun _ _ => Ends c (· = .failed) K) := by
  have enduring {st : JobStatus → Prop} : Enduring c.script st := enduring_of_uncanceled uncanceled
  have started : Triple World.handle (fun _ => At c (· = j.status) rows calls)
      (onlyIf (j.status = .queued) (transition j .running))
      (fun _ (_ : L) => At c (· = .running) rows calls)
      (fun _ _ => Ends c (· = .failed) K) := by
    refine Triple.ite (fun queued => ?_) fun started => Triple.pure fun l w h => ?_
    · refine triple_transition accepted hj enduring fun s hs => .inl ?_
      rw [hs, queued]
      decide
    · exact h.mono fun s hs => hs.trans (was.resolve_left started)
  refine Triple.bind started fun _ => ?_
  refine Triple.bind (Q := fun canceling _ w => canceling = false ∧ At c (· = .running) rows calls w)
    (Triple.bind (triple_query enduring) fun t => Triple.pure ?_) fun canceling => ?_
  · rintro l w ⟨rfl, h⟩
    obtain ⟨row, hrow, running⟩ := h.job
    exact ⟨by simp [hj, hrow, running], h⟩
  refine Triple.bind (Q := fun _ _ => At c (· = .running) rows calls)
    (Triple.ite (fun canceled => Triple.throw ?_) fun _ => Triple.pure fun _ _ h => h.2) fun _ => ?_
  · rintro l w ⟨rfl, -⟩
    cases canceled
  refine Triple.bind (Q := fun _ _ => At c (· = .running) rows calls)
    (Triple.ite (fun _ => ?_) fun _ => Triple.pure fun _ _ h => h) fun _ => ?_
  · exact Triple.bind (triple_setProgress accepted hj enduring) fun _ =>
      triple_appendLog accepted hj enduring
  · refine Triple.tryCatch hbody fun exc => ?_
    rintro l w ⟨plain, ends⟩
    have fails : jobRunExcept (L := L) j exc = transition j .failed none (some exc.str) := by
      cases exc <;> first | rfl | exact absurd rfl (plain _)
    rw [fails]
    refine (Triple.bind (Q := fun _ _ => Ends c (· = .failed) K) (triple_ends
      fun rows' calls' hK => ?_) fun _ => Triple.throw fun _ w h => h) l w ends
    refine (triple_transition accepted hj enduring ?_).conseq (fun _ _ => id)
      (fun _ _ _ h => h.ends hK) fun _ _ _ => id
    rintro s rfl
    exact .inl (by decide)

include accepted in
/-- A job that was read, and fails unless it had ended. -/
theorem triple_failUnlessEnded {j row : JobRow} (hj : j.pk = c.job) {exc : Exn}
    {R : Exn → L → World → Prop} :
    Triple World.handle (fun _ w => row.status.unsettled ∧
        At c (fun s => s.unsettled ∧ row.status.since s) rows calls w)
      (onlyIf (¬ row.isTerminal) (transition j .failed none (some exc.str)))
      (fun _ (_ : L) => At c (· = .failed) rows calls) R := by
  rintro l w ⟨was, h⟩
  rcases was with pending | failed
  · have live : ¬ row.isTerminal := by
      rcases pending with same | same | same <;> simp [JobRow.isTerminal, same, JobStatus.isTerminal]
    rw [show onlyIf (¬ row.isTerminal) (transition j .failed none (some exc.str) : TaskM L Unit) = _
      from if_pos live]
    refine triple_transition accepted hj enduring_unsettled ?_ l w (h.mono fun _ hs => hs.1)
    rintro s ((rfl | rfl | rfl) | rfl) <;> simp [validTransitions]
  · have ended : ¬ ¬ row.isTerminal := by simp [JobRow.isTerminal, failed, JobStatus.isTerminal]
    rw [show onlyIf (¬ row.isTerminal) (transition j .failed none (some exc.str) : TaskM L Unit) = _
      from if_neg ended]
    refine h.mono fun s hs => ?_
    rcases hs.2 with rfl | ⟨turns, -⟩
    · exact failed
    · rw [failed] at turns
      rcases turns with h | h <;> cases h

include accepted in
/-- The end of a task's `except` branch: the job has failed. -/
theorem triple_failAndRaise {j : JobRow} (hj : j.pk = c.job) {exc : Exn} {Q : α → L → World → Prop}
    {K : Tables → Exchanges → Prop} :
    Triple World.handle (fun _ => Ends c JobStatus.unsettled K)
      (do failUnlessTerminal j exc; throw exc) Q
      (fun _ _ => Ends c (· = .failed) K) := by
  refine triple_ends fun rows' calls' hK => ?_
  refine Triple.bind (Q := fun _ _ => At c (· = .failed) rows' calls') ?_ fun _ =>
    Triple.throw fun _ _ h => h.ends hK
  unfold failUnlessTerminal
  rw [hj]
  exact Triple.bind (triple_getJob enduring_unsettled) fun row =>
    (triple_failUnlessEnded accepted hj).conseq (fun _ _ h => h.2) (fun _ _ _ => id) fun _ _ _ => id

include accepted in
/-- What `JobBoundTask` adds to a body: the job fails where the body raises. -/
theorem triple_jobBound (taskId : String) {body : TaskM L Unit} {Q : World → Prop}
    {K : Tables → Exchanges → Prop}
    (enduring : Enduring c.script st)
    (hbody : Triple World.handle (fun _ => At c st rows calls) body
      (fun _ _ => Q) fun _ _ => Ends c JobStatus.unsettled K) :
    Triple World.handle (fun _ => At c st rows calls)
      (jobBound taskId c.job body) (fun _ _ => Q) (fun _ _ => Ends c (· = .failed) K) := by
  refine Triple.tryCatch (Triple.bind (triple_saveJob accepted enduring rfl rfl
    fun _ _ _ _ => ⟨_, rfl⟩) fun _ => hbody) fun exc => ?_
  refine triple_ends fun rows' calls' hK => ?_
  refine Triple.bind (Q := fun _ _ => At c (· = .failed) rows' calls') ?_ fun _ =>
    Triple.throw fun _ _ h => h.ends hK
  refine Triple.bind (triple_query enduring_unsettled) fun t => ?_
  rintro l w ⟨rfl, h⟩
  obtain ⟨row, hrow, was⟩ := h.job
  simp only [hrow]
  exact triple_failUnlessEnded accepted (Table.pk_of_get hrow) l w
    ⟨was, h.script, h.busy, ⟨row, hrow, was, .inl rfl⟩, h.rows, h.calls⟩

end Statements

end NodePilot
