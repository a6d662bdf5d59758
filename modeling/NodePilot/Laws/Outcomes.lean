import NodePilot.Laws.Rules

/-!
# What a task that succeeds has done

Every statement of a task that returns has gone through. What is left of it is a `Ledger`: the rows,
and the calls that the agents confirmed. How far a job is, and which locks are held, is not part of
it. `Yields` relates the ledgers at the two ends of a run that returns, with one inversion a
statement: a sequence yields in both its parts, a job step and a lock what their bodies yield.
-/

namespace NodePilot

open Lib Lib.Script

/-! ## Ledgers -/

/-- A job without what changes while it runs. -/
def JobRow.shape (j : JobRow) : JobRow :=
  { pk := j.pk, uuid := j.uuid, type := j.type, createdBy := j.createdBy }

/-- The tables, with the jobs as they were created. -/
def Tables.settled (t : Tables) : Tables := { t with jobs := t.jobs.map JobRow.shape }

/-- The rows that are not about jobs, and the calls that the agents answered. -/
structure Ledger where
  rows : Tables
  calls : List (AgentRequest × Dict) := []

/-- What a task has achieved so far. -/
def World.ledger (w : World) : Ledger := ⟨w.db.settled, w.confirmed⟩

/-- The writes to the jobs. -/
def Write.onJobs : Write → Bool
  | .jobTransition _ _ _ _ | .jobProgress _ _ _ | .jobLogs _ _ | .jobCeleryTaskId _ _
  | .jobResourceId _ _ => true
  | _ => false

section Settled

variable {t t' : Tables} {now : Nat} {uuid : Uuid} {x : Write}

/-- A change of jobs that keeps their shape settles the same rows. -/
theorem settled_jobs {job : Nat} {f : JobRow → JobRow} (hf : ∀ r, (f r).shape = r.shape) :
    ({ t with jobs := Table.modify t.jobs job f } : Tables).settled = t.settled := by
  unfold Tables.settled
  rw [show (Table.modify t.jobs job f).map JobRow.shape = t.jobs.map JobRow.shape from
    Table.map_modify JobRow.shape hf]

theorem settled_requestCancel {k : Option Nat} : (t.requestCancel now k).settled = t.settled := by
  rcases t.requestCancel_cases now k with same | ⟨job, row, -, -, turned⟩
  · rw [same]
  · rw [turned]
    exact settled_jobs fun _ => rfl

/-- A write to a job settles the same rows. -/
theorem settled_writeJobs (hx : x.onJobs) (h : t.write now uuid x = .ok t') :
    t'.settled = t.settled := by
  cases x with
  | jobTransition =>
    simp only [Tables.write] at h
    split at h
    · cases h
    · split at h
      · cases h
        exact settled_jobs fun _ => rfl
      · cases h
  | jobProgress | jobResourceId =>
    obtain ⟨rows, hrows, rfl⟩ := except_bind_ok h
    rw [saveRow_ok hrows]
    exact settled_jobs fun _ => rfl
  | jobLogs | jobCeleryTaskId =>
    cases h
    exact settled_jobs fun _ => rfl
  | _ => cases hx

/-- Any other write does to the settled tables what it does to the tables. -/
theorem write_settled (hx : x.onJobs = false) :
    t.settled.write now uuid x = (t.write now uuid x).map Tables.settled := by
  have mapped {ρ : Type} (r : Except Exn (List ρ)) (g : List ρ → Tables) :
      (do let rows ← r; return (g rows).settled) = (do let rows ← r; return g rows).map Tables.settled := by
    cases r <;> rfl
  cases x with
  | jobTransition | jobProgress | jobLogs | jobCeleryTaskId | jobResourceId => cases hx
  | vmSave => exact mapped _ fun vms => { t with vms := vms }
  | diskSave | diskSize => exact mapped _ fun disks => { t with disks := disks }
  | snapshotSave => exact mapped _ fun snapshots => { t with snapshots := snapshots }
  | backupSave => exact mapped _ fun backups => { t with backups := backups }
  | networkStatus => exact mapped _ fun networks => { t with networks := networks }
  | poolStatus | poolInfo => exact mapped _ fun pools => { t with pools := pools }
  | diskCreate | nicCreate | networkDelete =>
    simp only [Tables.write, apply_ite (Except.map Tables.settled)]
    rfl
  | vmDelete | diskDelete | nicDelete | snapshotDelete => rfl

/-- A write to any other row settles as it writes. -/
theorem settled_write (hx : x.onJobs = false) (h : t.write now uuid x = .ok t') :
    t.settled.write now uuid x = .ok t'.settled := by
  rw [write_settled hx, h]
  rfl

/-- A new VM settles as it is made. -/
theorem settled_createVm {domainUuid : Uuid} {row row' : VmRow}
    (h : t.createVm uuid domainUuid row = .ok (row', t')) :
    t.settled.createVm uuid domainUuid row = .ok (row', t'.settled) := by
  unfold Tables.createVm at h ⊢
  split at h
  · cases h
  · next named =>
    split at h
    · cases h
    · next drawn =>
      cases h
      exact (if_neg named).trans (if_neg drawn)

end Settled

/-- The operations that leave nothing in a ledger. -/
def Op.unrecorded : Op → Bool
  | .write x => x.onJobs
  | .send _ _ _ | .createVm _ => false
  | _ => true

theorem World.ledger_next (w : World) : w.next.ledger = w.ledger :=
  congrArg (Ledger.mk · _) settled_requestCancel

theorem World.settled_handle {o : Op} (unrecorded : o.unrecorded) (w : World) :
    (World.handle o w).2.db.settled = w.db.settled := by
  have turn : w.next.db.settled = w.db.settled := settled_requestCancel
  rcases World.handle_db o w with same | ⟨x, rfl, hx⟩ | ⟨row, row', rfl, -⟩
  · rw [same, turn]
  · rw [settled_writeJobs unrecorded hx, turn]
  · cases unrecorded

/-- An unrecorded operation leaves the ledger. -/
theorem World.ledger_handle {o : Op} (unrecorded : o.unrecorded) (w : World) :
    (World.handle o w).2.ledger = w.ledger := by
  have calls : (World.handle o w).2.confirmed = w.confirmed := by
    unfold World.confirmed
    rcases World.handle_trace o w with same | ⟨e, recorded, added⟩
    · rw [same]
    · rw [added]
      cases e with
      | call r timeout out =>
        obtain ⟨node, rfl⟩ := recorded
        cases unrecorded
      | write | createVm | event => rfl
  exact congrArg₂ Ledger.mk (World.settled_handle unrecorded w) calls

/-! ## Runs that return -/

section Yields

variable {L α β : Type} {l l' : L} {s s' : Ledger} {a : α} {b : β}

/-- A run of `x` that returns `a` and leads from one ledger to the other. -/
def Yields (x : TaskM L α) (l : L) (s : Ledger) (a : α) (l' : L) (s' : Ledger) : Prop :=
  ∃ w w', exec World.handle x l w = (.ok a, l', w') ∧ w.ledger = s ∧ w'.ledger = s'

/-- A body that never returns. -/
def Raises (x : TaskM L α) : Prop := ∀ l w, ∃ e l' w', exec World.handle x l w = (.error e, l', w')

/-- A body that leaves nothing in a ledger, however it ends. -/
def Unrecorded (x : TaskM L α) : Prop :=
  ∀ l s, Keeps World.handle (fun l' w => l' = l ∧ w.ledger = s) (fun _ => True) x

/-- A script that returns did so in both its parts. -/
theorem Yields.bind {x : TaskM L α} {f : α → TaskM L β} (h : Yields (x >>= f) l s b l' s') :
    ∃ a l₁ s₁, Yields x l s a l₁ s₁ ∧ Yields (f a) l₁ s₁ b l' s' := by
  obtain ⟨w, w', run, rfl, rfl⟩ := h
  rw [exec_bind] at run
  rcases first : exec World.handle x l w with ⟨e | a, l₁, w₁⟩
  · rw [first] at run
    cases run
  · rw [first] at run
    exact ⟨a, l₁, w₁.ledger, ⟨w, w₁, first, rfl, rfl⟩, ⟨w₁, w', run, rfl, rfl⟩⟩

theorem Yields.pure {a' : α} (h : Yields (pure a') l s a l' s') : a = a' ∧ l' = l ∧ s' = s := by
  obtain ⟨w, w', run, rfl, rfl⟩ := h
  cases run
  exact ⟨rfl, rfl, rfl⟩

theorem Yields.get {a : L} (h : Yields get l s a l' s') : a = l ∧ l' = l ∧ s' = s := by
  obtain ⟨w, w', run, rfl, rfl⟩ := h
  cases run
  exact ⟨rfl, rfl, rfl⟩

theorem Yields.modify {f : L → L} {u : PUnit} (h : Yields (modify f) l s u l' s') :
    l' = f l ∧ s' = s := by
  obtain ⟨w, w', run, rfl, rfl⟩ := h
  cases run
  exact ⟨rfl, rfl⟩

/-- The locals of a scope end with it. -/
theorem Yields.scope {L' : Type} {l₀ : L'} {x : TaskM L' α}
    (h : Yields (Script.scope l₀ x : TaskM L α) l s a l' s') :
    l' = l ∧ ∃ l₁, Yields x l₀ s a l₁ s' := by
  obtain ⟨w, w', run, rfl, rfl⟩ := h
  rw [exec_scope] at run
  rcases inner : exec World.handle x l₀ w with ⟨e | a', l₁, w₁⟩
  · rw [inner] at run
    cases run
  · rw [inner] at run
    cases run
    exact ⟨rfl, l₁, w, w₁, inner, rfl, rfl⟩

theorem Raises.throw {e : Exn} : Raises (throw e : TaskM L α) := fun l w => ⟨e, l, w, rfl⟩

theorem Raises.bind {x : TaskM L α} {f : α → TaskM L β} (hf : ∀ a, Raises (f a)) :
    Raises (x >>= f) := by
  intro l w
  rw [exec_bind]
  rcases exec World.handle x l w with ⟨e | a, l₁, w₁⟩
  · exact ⟨e, l₁, w₁, rfl⟩
  · exact hf a l₁ w₁

/-- What always raises never returns. -/
theorem Raises.yields {x : TaskM L α} (hx : Raises x) : ¬ Yields x l s a l' s' := by
  rintro ⟨w, w', run, -, -⟩
  obtain ⟨e, l₁, w₁, raised⟩ := hx l w
  rw [raised] at run
  cases run

/-- What returns through a handler that always raises has not met it. -/
theorem Yields.tryCatch {x : TaskM L α} {f : Exn → TaskM L α} (hf : ∀ e, Raises (f e))
    (h : Yields (tryCatch x f) l s a l' s') : Yields x l s a l' s' := by
  obtain ⟨w, w', run, rfl, rfl⟩ := h
  rw [exec_tryCatch] at run
  rcases body : exec World.handle x l w with ⟨e | a', l₁, w₁⟩
  · rw [body] at run
    obtain ⟨e', l₂, w₂, raised⟩ := hf e l₁ w₁
    simp only [raised] at run
    cases run
  · rw [body] at run
    cases run
    exact ⟨w, w', body, rfl, rfl⟩

/-- What the rules say of a body holds where it returns. -/
theorem Yields.triple {x : TaskM L α} {Q : α → L → Ledger → Prop} (h : Yields x l s a l' s')
    (rule : Triple World.handle (fun l₀ w => l₀ = l ∧ w.ledger = s) x
      (fun a l' w => Q a l' w.ledger) fun _ _ _ => True) : Q a l' s' := by
  obtain ⟨w, w', run, start, rfl⟩ := h
  have ends := rule l w ⟨rfl, start⟩
  rw [run] at ends
  exact ends

/-- What leaves nothing changes neither the locals nor the ledger. -/
theorem Unrecorded.yields {x : TaskM L α} (hx : Unrecorded x) (h : Yields x l s a l' s') :
    l' = l ∧ s' = s :=
  h.triple (Q := fun _ l' s' => l' = l ∧ s' = s)
    ((hx l s).conseq (fun _ _ => id) (fun _ _ _ => id) fun _ _ _ _ => trivial)

/-! ### Statements -/

theorem turn_ledger (l : L) (s : Ledger) (l' : L) (w : World) (h : l' = l ∧ w.ledger = s) :
    l' = l ∧ w.next.ledger = s := ⟨h.1, w.ledger_next.trans h.2⟩

/-- A statement that returns has written its row, at some time. -/
theorem Yields.save {x : Write} {u : Unit} (hx : x.onJobs = false)
    (h : Yields (save x) l s u l' s') :
    l' = l ∧ ∃ now uuid t, s.rows.write now uuid x = .ok t ∧ s' = { s with rows := t } := by
  refine h.triple (Q := fun _ l' s' => l' = l ∧ ∃ now uuid t, s.rows.write now uuid x = .ok t ∧
    s' = { s with rows := t }) (Triple.save (turn_ledger l s) ?_ fun _ _ _ _ _ => trivial)
  rintro l₀ w now uuid db ⟨rfl, rfl⟩ hdb
  exact ⟨rfl, now, uuid, db.settled, settled_write hx hdb, rfl⟩

/-- A call that returns was answered, and its answer is recorded. -/
theorem Yields.sendOperation {node : Option Nat} {r : AgentRequest} {timeout : Option Nat}
    {data : Dict} (h : Yields (sendOperation node r timeout) l s data l' s') :
    l' = l ∧ s' = { s with calls := s.calls ++ [(r, data)] } := by
  refine h.triple (Q := fun data l' s' => l' = l ∧ s' = { s with calls := s.calls ++ [(r, data)] })
    (Triple.sendOperation (turn_ledger l s) (fun _ _ _ _ => trivial) ?_ fun _ _ _ _ _ _ _ _ => trivial)
  rintro l₀ w data ⟨rfl, rfl⟩ -
  refine ⟨rfl, congrArg (Ledger.mk _) ?_⟩
  simp [World.confirmed, World.ledger]

/-- A query that returns read the rows as they are. -/
theorem Yields.query {t : Tables} (h : Yields query l s t l' s') :
    t.settled = s.rows ∧ l' = l ∧ s' = s := by
  obtain ⟨w, w', run, rfl, rfl⟩ := h
  cases run
  exact ⟨settled_requestCancel, rfl, w.ledger_next⟩

/-- A row that was loaded was there. -/
theorem Yields.getRow {model : String} {row : Tables → Option α}
    (h : Yields (getRow model row) l s a l' s') :
    (∃ t, t.settled = s.rows ∧ row t = some a) ∧ l' = l ∧ s' = s := by
  obtain ⟨t, l₁, s₁, read, found⟩ := h.bind
  obtain ⟨ht, rfl, rfl⟩ := read.query
  split at found
  · next hrow =>
    obtain ⟨rfl, rfl, rfl⟩ := found.pure
    exact ⟨⟨t, ht, hrow⟩, rfl, rfl⟩
  · exact absurd found Raises.throw.yields

/-- A VM that was inserted is there, with identifiers drawn for it. -/
theorem Yields.insertVm {row row' : VmRow} (h : Yields (insertVm row) l s row' l' s') :
    l' = l ∧ ∃ uuid domainUuid t, s.rows.createVm uuid domainUuid row = .ok (row', t) ∧
      s' = { s with rows := t } := by
  obtain ⟨w, w', run, rfl, rfl⟩ := h
  unfold NodePilot.insertVm at run
  rw [exec_bind] at run
  simp only [exec_perform, World.handle, World.answer] at run
  split at run
  · next row₁ db created =>
    obtain ⟨rfl, rfl, rfl⟩ : row₁ = row' ∧ l = l' ∧ _ = w' := by simpa [NodePilot.orRaise] using run
    split at created
    · cases created
    · have turn : w.next.db.settled = w.db.settled := settled_requestCancel
      have settled := settled_createVm created
      rw [turn] at settled
      exact ⟨rfl, _, _, db.settled, settled, rfl⟩
  · cases run

/-! ### What leaves nothing -/

/-- An unrecorded operation keeps the locals and the ledger. -/
theorem Op.unrecorded.opKeeps {o : Op} (unrecorded : o.unrecorded) (l : L) (s : Ledger) :
    OpKeeps (fun l' w => l' = l ∧ w.ledger = s) o :=
  fun _ w h => ⟨h.1, (World.ledger_handle unrecorded w).trans h.2⟩

theorem unrecorded_save {x : Write} (hx : x.onJobs) : Unrecorded (save x : TaskM L Unit) :=
  fun l s => Keeps.save (fun _ _ => trivial) (Op.unrecorded.opKeeps (o := .write x) hx l s)

/-- A job transition leaves nothing in the ledger. -/
theorem unrecorded_transition {job : JobRow} {new : JobStatus} {message error : Option String} :
    Unrecorded (transition job new message error : TaskM L Unit) := unrecorded_save rfl

/-- An event leaves nothing in the ledger. -/
theorem unrecorded_emitEvent {event : Event} : Unrecorded (emitEvent event : TaskM L Unit) :=
  fun l s => Keeps.emitEvent (fun _ _ => trivial) (Op.unrecorded.opKeeps rfl l s)

theorem unrecorded_emitVmEvent {vm : VmRow} {type : String} {metadata : Dict} :
    Unrecorded (emitVmEvent vm type metadata : TaskM L Unit) :=
  fun l s => Keeps.swallow (unrecorded_emitEvent l s)

theorem unrecorded_onlyIf {c : Prop} [Decidable c] {x : TaskM L Unit} (hx : Unrecorded x) :
    Unrecorded (onlyIf c x) := fun l s => Keeps.onlyIf fun _ => hx l s

theorem unrecorded_query : Unrecorded (query : TaskM L Tables) :=
  fun l s => Keeps.query (Op.unrecorded.opKeeps rfl l s)

/-- What leaves nothing can be followed by what leaves nothing. -/
theorem unrecorded_bind {x : TaskM L α} {f : α → TaskM L β} (hx : Unrecorded x) (hf : ∀ a, Unrecorded (f a)) :
    Unrecorded (x >>= f) := fun l s => Keeps.bind (hx l s) fun a => hf a l s

theorem unrecorded_appendLog {job : JobRow} {line : String} : Unrecorded (appendLog job line : TaskM L Unit) :=
  unrecorded_bind (fun l s => Keeps.getRow (fun _ _ => trivial) (Op.unrecorded.opKeeps rfl l s)) fun _ =>
    unrecorded_save rfl

theorem unrecorded_isCancelRequested {job : Nat} : Unrecorded (isCancelRequested job : TaskM L Bool) :=
  unrecorded_bind unrecorded_query fun _ _ _ => Keeps.pure _

/-! ### Job steps, locks and tasks -/

/-- A job step that returns did what its body does. -/
theorem Yields.jobRun {job : JobRow} {step : String} {body : TaskM L α}
    (h : Yields (jobRun job step body) l s a l' s') : Yields body l s a l' s' := by
  obtain ⟨_, l₁, s₁, running, h₁⟩ := h.bind
  obtain ⟨rfl, rfl⟩ := (unrecorded_onlyIf unrecorded_transition).yields running
  obtain ⟨canceling, l₂, s₂, asked, h₂⟩ := h₁.bind
  obtain ⟨rfl, rfl⟩ := unrecorded_isCancelRequested.yields asked
  obtain ⟨_, l₃, s₃, checked, h₃⟩ := h₂.bind
  obtain ⟨rfl, rfl⟩ := (unrecorded_onlyIf fun l s => Keeps.throw trivial).yields checked
  obtain ⟨_, l₄, s₄, logged, h₄⟩ := h₃.bind
  obtain ⟨rfl, rfl⟩ := (unrecorded_onlyIf (unrecorded_bind (unrecorded_save rfl) fun _ =>
    unrecorded_appendLog)).yields logged
  exact h₄.tryCatch fun _ => Raises.bind fun _ => Raises.throw

/-- What returns under a lock did what it does without. -/
theorem Yields.withLock {key : LockKey} {ttl : Nat} {body : TaskM L α}
    (h : Yields (withLock key ttl body) l s a l' s') : Yields body l s a l' s' := by
  have leaves : ∀ o : Op, o.unrecorded → Unrecorded (Script.perform o : TaskM L (Ans o)) :=
    fun o ho l s => Keeps.perform (Op.unrecorded.opKeeps ho l s)
  obtain ⟨acquired, l₁, s₁, asked, h₁⟩ := h.bind
  obtain ⟨rfl, rfl⟩ := (leaves _ rfl).yields asked
  split at h₁
  · obtain ⟨b, l₂, s₂, held, h₂⟩ := h₁.bind
    obtain ⟨_, l₃, s₃, released, h₃⟩ := h₂.bind
    obtain ⟨rfl, rfl⟩ := (leaves _ rfl).yields released
    obtain ⟨rfl, rfl, rfl⟩ := h₃.pure
    exact held.tryCatch fun _ => Raises.bind fun _ => Raises.throw
  · exact absurd h₁ Raises.throw.yields

/-- A task that returns did what its body does. -/
theorem Yields.jobBound {taskId : String} {job : Nat} {body : TaskM L Unit} {u : Unit}
    (h : Yields (jobBound taskId job body) l s u l' s') : Yields body l s u l' s' := by
  have inner := h.tryCatch fun _ => Raises.bind fun _ => Raises.throw
  obtain ⟨_, l₁, s₁, started, rest⟩ := inner.bind
  obtain ⟨rfl, rfl⟩ := (unrecorded_save rfl).yields started
  exact rest

/-- A step under a condition was either taken or not. -/
theorem Yields.onlyIf {c : Prop} [Decidable c] {x : TaskM L Unit} {u : Unit}
    (h : Yields (onlyIf c x) l s u l' s') :
    (c ∧ Yields x l s u l' s') ∨ (¬ c ∧ l' = l ∧ s' = s) := by
  unfold NodePilot.onlyIf at h
  split at h
  · next hc => exact .inl ⟨hc, h⟩
  · next hc => exact .inr ⟨hc, h.pure.2⟩

/-- What every round of a loop adds to, a loop that returns has added to. The induction is on the
list it walks. -/
theorem Yields.forM {γ : Type} {f : γ → TaskM L PUnit} {P : List γ → L → Ledger → L → Ledger → Prop}
    (nil : ∀ l s, P [] l s l s)
    (cons : ∀ x xs l s u l₁ s₁ l' s', Yields (f x) l s u l₁ s₁ → P xs l₁ s₁ l' s' →
      P (x :: xs) l s l' s')
    {xs : List γ} {u : PUnit} (h : Yields (xs.forM f) l s u l' s') : P xs l s l' s' := by
  induction xs generalizing l s with
  | nil =>
    obtain ⟨-, rfl, rfl⟩ := h.pure
    exact nil _ _
  | cons x xs ih =>
    obtain ⟨u₁, l₁, s₁, first, rest⟩ := Yields.bind (x := f x) h
    exact cons x xs l s u₁ l₁ s₁ l' s' first (ih rest)

/-- A job that was loaded was there. -/
theorem Yields.getJob {jobId : Nat} {job : JobRow} (h : Yields (getJob jobId) l s job l' s') :
    Table.get s.rows.jobs jobId = some job.shape ∧ l' = l ∧ s' = s := by
  obtain ⟨⟨t, ht, found⟩, same⟩ := h.getRow
  refine ⟨?_, same⟩
  rw [← ht, Tables.settled]
  exact (Table.get_map JobRow.shape fun _ => rfl).trans (congrArg (Option.map _) found)

/-- A VM that was loaded was there. -/
theorem Yields.getVm {vm : Nat} {v : VmRow} (h : Yields (getVm vm) l s v l' s') :
    Table.get s.rows.vms vm = some v ∧ l' = l ∧ s' = s := by
  obtain ⟨⟨t, ht, found⟩, same⟩ := h.getRow
  exact ⟨ht ▸ found, same⟩

/-! ## Lifecycle tasks -/

/-- The tables after a save of some fields of a VM. -/
def Tables.vmSaved (t : Tables) (vm : Nat) (fields : VmFields) : Tables :=
  { t with vms := Table.modify t.vms vm fields.apply }

theorem get_vmSaved_self {t : Tables} {vm : Nat} {fields : VmFields} :
    Table.get (t.vmSaved vm fields).vms vm = (Table.get t.vms vm).map fields.apply :=
  Table.get_modify_self fun _ => rfl

/-- A save that returns has written the VM. -/
theorem Yields.vmSave {vm : Nat} {fields : VmFields} {u : Unit}
    (h : Yields (NodePilot.save (.vmSave vm fields)) l s u l' s') :
    l' = l ∧ s' = { s with rows := s.rows.vmSaved vm fields } := by
  obtain ⟨rfl, now, uuid, t, written, rfl⟩ := h.save rfl
  obtain ⟨vms, saved, rfl⟩ := except_bind_ok written
  rw [saveRow_ok saved]
  exact ⟨rfl, rfl⟩

/-- A lifecycle task that returns had its operation confirmed and the VM's status written. -/
theorem Yields.simpleLifecycleTask {jobId vm : Nat} {operation : OperationType}
    {runningStatus : VMStatus} {stepMessage eventType : String} {u : Unit}
    (h : Yields (NodePilot.simpleLifecycleTask jobId vm operation runningStatus stepMessage
      eventType) l s u l' s') :
    ∃ v job data, Table.get s.rows.vms vm = some v ∧
      Table.get s.rows.jobs jobId = some (JobRow.shape job) ∧
      s' = ⟨s.rows.vmSaved vm { status := some runningStatus },
        s.calls ++ [(vmRequest v operation, data)]⟩ := by
  obtain ⟨job, l₁, s₁, gotJob, h₁⟩ := h.bind
  obtain ⟨foundJob, rfl, rfl⟩ := gotJob.getJob
  obtain ⟨v, l₂, s₂, gotVm, h₂⟩ := h₁.bind
  obtain ⟨found, rfl, rfl⟩ := gotVm.getVm
  have body := h₂.tryCatch fun _ => Raises.bind fun _ => Raises.bind fun _ => Raises.throw
  obtain ⟨_, l₃, s₃, locked, h₃⟩ := body.bind
  obtain ⟨_, l₄, s₄, succeeded, h₄⟩ := h₃.bind
  obtain ⟨rfl, rfl⟩ := unrecorded_transition.yields succeeded
  obtain ⟨rfl, rfl⟩ := unrecorded_emitVmEvent.yields h₄
  obtain ⟨data, l₅, s₅, sent, saved⟩ := locked.withLock.jobRun.bind
  obtain ⟨rfl, rfl⟩ := sent.sendOperation
  obtain ⟨rfl, rfl⟩ := saved.vmSave
  obtain rfl : v.pk = vm := Table.pk_of_get found
  exact ⟨v, job, data, found, foundJob, rfl⟩

/-! ## Provisioning -/

/-- A VM without what its tasks change. -/
def VmRow.shape (v : VmRow) : VmRow :=
  { v with status := .creating, provisioningState := .requested, lastError := "" }

/-- Some calls about a VM were made, and its row has been saved in between. -/
structure OnVm (v : VmRow) (s : Ledger) (v' : VmRow) (s' : Ledger)
    (calls : List (AgentRequest × Dict)) : Prop where
  shape : v'.shape = v.shape
  row : (Table.get s'.rows.vms v.pk).map VmRow.shape = (Table.get s.rows.vms v.pk).map VmRow.shape
  calls : s'.calls = s.calls ++ calls

theorem VmRow.shape_pk {v v' : VmRow} (h : v'.shape = v.shape) : v'.pk = v.pk :=
  (congrArg VmRow.pk h : v'.shape.pk = v.shape.pk)

/-- Nothing happened to the VM. -/
theorem OnVm.refl (v : VmRow) (s : Ledger) : OnVm v s v s [] := ⟨rfl, rfl, by simp⟩

/-- What happened to the VM happened in two parts. -/
theorem OnVm.trans {v v₁ v₂ : VmRow} {s s₁ s₂ : Ledger} {calls calls' : List (AgentRequest × Dict)}
    (h : OnVm v s v₁ s₁ calls) (h' : OnVm v₁ s₁ v₂ s₂ calls') :
    OnVm v s v₂ s₂ (calls ++ calls') := by
  refine ⟨h'.shape.trans h.shape, ?_, ?_⟩
  · rw [← VmRow.shape_pk h.shape, h'.row, VmRow.shape_pk h.shape, h.row]
  · rw [h'.calls, h.calls, List.append_assoc]

/-- One call, and no row. -/
theorem OnVm.sent (v : VmRow) (s : Ledger) (call : AgentRequest × Dict) :
    OnVm v s v { s with calls := s.calls ++ [call] } [call] := ⟨rfl, rfl, rfl⟩

section Provision

variable {v v' : VmRow}

/-- Saving a VM's fields changes no VM's shape. -/
theorem get_modify_shape {vms : List VmRow} {vm k : Nat} {fields : VmFields} :
    (Table.get (Table.modify vms vm fields.apply) k).map VmRow.shape =
      (Table.get vms k).map VmRow.shape := by
  rw [Table.get_modify (f := fields.apply) fun _ => rfl]
  split
  · rw [Option.map_map]
    rfl
  · rfl

/-- Saving the VM is seen on that VM only. -/
theorem Yields.vmSaveOn {vm : Nat} {fields : VmFields} {u : Unit}
    (h : Yields (NodePilot.save (.vmSave vm fields)) v s u v' s') : OnVm v s v' s' [] ∧ v' = v := by
  obtain ⟨rfl, rfl⟩ := h.vmSave
  exact ⟨⟨rfl, get_modify_shape, (List.append_nil _).symm⟩, rfl⟩

/-- Entering a state is seen on that VM only. -/
theorem Yields.enter {state : ProvisioningState} {u : Unit}
    (h : Yields (NodePilot.enter state) v s u v' s') : OnVm v s v' s' [] := by
  obtain ⟨_, v₁, s₁, modified, h₁⟩ := h.bind
  obtain ⟨rfl, rfl⟩ := modified.modify
  obtain ⟨got, v₂, s₂, read, h₂⟩ := h₁.bind
  obtain ⟨rfl, rfl, rfl⟩ := read.get
  obtain ⟨saved, rfl⟩ := h₂.vmSaveOn
  exact ⟨rfl, saved.row, saved.calls⟩

/-- A disk that was made was asked for and confirmed. -/
theorem Yields.createDisk {vm : VmRow} {d : DiskRow} {p : PoolRow} {image : Option ImageRow}
    {u : Unit} (h : Yields (NodePilot.createDisk vm d p image) v s u v' s') :
    ∃ data, OnVm v s v' s' [(createDiskRequest vm d p image, data)] := by
  obtain ⟨data, v₁, s₁, sent, saved⟩ := h.bind
  obtain ⟨rfl, rfl⟩ := sent.sendOperation
  obtain ⟨rfl, now, uuid, t, written, rfl⟩ := saved.save rfl
  obtain ⟨disks, -, rfl⟩ := except_bind_ok written
  exact ⟨data, rfl, rfl, rfl⟩

/-- Every call for the disks is a CREATE_DISK. -/
theorem Yields.createDisks {vm : VmRow} {u : Unit}
    (h : Yields (NodePilot.createDisks vm) v s u v' s') :
    ∃ calls, OnVm v s v' s' calls ∧ ∀ c ∈ calls, c.1.operation = .createDisk := by
  obtain ⟨t, v₁, s₁, read, loop⟩ := h.bind
  obtain ⟨-, rfl, rfl⟩ := read.query
  refine loop.forM (P := fun _ v s v' s' => ∃ calls, OnVm v s v' s' calls ∧
    ∀ c ∈ calls, c.1.operation = .createDisk) (fun v s => ⟨[], .refl v s, by simp⟩) ?_
  rintro d ds v s u v₂ s₂ v₃ s₃ first ⟨calls, rest, created⟩
  obtain ⟨data, made⟩ := first.createDisk
  exact ⟨_, made.trans rest, List.forall_mem_cons.mpr ⟨rfl, created⟩⟩

/-- A domain that was made was asked for with the rows of that moment. -/
theorem Yields.createDomain {u : Unit} (h : Yields NodePilot.createDomain v s u v' s') :
    ∃ disks nics data, OnVm v s v' s' [(createVmRequest v disks nics, data)] := by
  obtain ⟨vm, v₁, s₁, got, h₁⟩ := h.bind
  obtain ⟨rfl, rfl, rfl⟩ := got.get
  obtain ⟨request, v₂, s₂, built, h₂⟩ := h₁.bind
  obtain ⟨t, v₃, s₃, readDisks, built₁⟩ := built.bind
  obtain ⟨-, rfl, rfl⟩ := readDisks.query
  obtain ⟨t', v₄, s₄, readNics, built₂⟩ := built₁.bind
  obtain ⟨-, rfl, rfl⟩ := readNics.query
  obtain ⟨rfl, rfl, rfl⟩ := built₂.pure
  obtain ⟨data, v₅, s₅, sent, entered⟩ := h₂.bind
  obtain ⟨rfl, rfl⟩ := sent.sendOperation
  exact ⟨_, _, data, (OnVm.sent _ _ _).trans entered.enter⟩

/-- The status of the object in memory is saved. -/
theorem Yields.saveStatusAndState {u : Unit}
    (h : Yields NodePilot.saveStatusAndState v s u v' s') :
    OnVm v s v' s' [] ∧ v' = v ∧
      ∀ row ∈ Table.get s'.rows.vms v.pk, row.status = v.status := by
  obtain ⟨vm, v₁, s₁, got, saved⟩ := h.bind
  obtain ⟨rfl, rfl, rfl⟩ := got.get
  refine ⟨saved.vmSaveOn.1, saved.vmSaveOn.2, ?_⟩
  obtain ⟨rfl, rfl⟩ := saved.vmSave
  intro row found
  rw [Option.mem_def, get_vmSaved_self] at found
  obtain ⟨old, -, rfl⟩ := Option.map_eq_some_iff.mp found
  rfl

/-- A VM with `autostart` is started, and is running in memory then. -/
theorem Yields.startOrStop {job : JobRow} {vm : VmRow} {u : Unit}
    (h : Yields (NodePilot.startOrStop job vm) v s u v' s') :
    ∃ calls, OnVm v s v' s' calls ∧
      ((vm.autostart ∧ v'.status = .running ∧ ∃ data, calls = [(vmRequest v .startVm, data)]) ∨
        (¬ vm.autostart ∧ v'.status = .stopped ∧ calls = [])) := by
  unfold NodePilot.startOrStop at h
  split at h
  · next autostart =>
    obtain ⟨got, v₁, s₁, read, h₁⟩ := h.jobRun.bind
    obtain ⟨rfl, rfl, rfl⟩ := read.get
    obtain ⟨data, v₂, s₂, sent, h₂⟩ := h₁.bind
    obtain ⟨rfl, rfl⟩ := sent.sendOperation
    obtain ⟨_, v₃, s₃, modified, h₃⟩ := h₂.bind
    obtain ⟨rfl, rfl⟩ := modified.modify
    obtain ⟨saved, rfl, -⟩ := h₃.saveStatusAndState
    refine ⟨_, ⟨rfl, saved.row, ?_⟩, .inl ⟨autostart, rfl, data, rfl⟩⟩
    exact saved.calls.trans (List.append_nil _)
  · next autostart =>
    obtain ⟨rfl, rfl⟩ := h.modify
    exact ⟨[], ⟨rfl, rfl, (List.append_nil _).symm⟩, .inr ⟨autostart, rfl, rfl⟩⟩

/-- The calls of a provisioning: the volumes, the domain, its cloud-init image, its start. -/
theorem Yields.provisionSteps {job : JobRow} {u : Unit}
    (h : Yields (NodePilot.provisionSteps job) v s u v' s') :
    ∃ v₁ v₂ made disks nics data cloud started,
      OnVm v s v' s' (made ++ ([(createVmRequest v₁ disks nics, data)] ++ (cloud ++ started))) ∧
      v₁.shape = v.shape ∧ v₂.shape = v.shape ∧
      (∀ c ∈ made, c.1.operation = .createDisk) ∧
      (∀ c ∈ cloud, c.1.operation = .generateCloudInit) ∧
      ((v.autostart ∧ v'.status = .running ∧ ∃ data, started = [(vmRequest v₂ .startVm, data)]) ∨
        (¬ v.autostart ∧ v'.status = .stopped ∧ started = [])) ∧
      ∀ row ∈ Table.get s'.rows.vms v.pk, row.status = v'.status := by
  obtain ⟨vm, v, s, got, h₁⟩ := h.bind
  obtain ⟨rfl, rfl, rfl⟩ := got.get
  obtain ⟨_, v₁, s₁, allocated, h₂⟩ := h₁.bind
  have allocating := allocated.jobRun.enter
  obtain ⟨_, v₂, s₂, disked, h₃⟩ := h₂.bind
  obtain ⟨_, v₃, s₃, created, entered⟩ := disked.jobRun.bind
  obtain ⟨made, making, madeDisks⟩ := created.createDisks
  obtain ⟨_, v₄, s₄, networked, h₄⟩ := h₃.bind
  have before := ((allocating.trans making).trans entered.enter).trans networked.jobRun.enter
  obtain ⟨_, v₅, s₅, defined, h₅⟩ := h₄.bind
  obtain ⟨disks, nics, data, defining⟩ := defined.jobRun.createDomain
  obtain ⟨_, v₆, s₆, attached, h₆⟩ := h₅.bind
  have cloudInit : ∃ cloud, OnVm v₅ s₅ v₆ s₆ cloud ∧ ∀ c ∈ cloud, c.1.operation = .generateCloudInit := by
    rcases attached.onlyIf with ⟨-, run⟩ | ⟨-, rfl, rfl⟩
    · obtain ⟨data, _, _, sent, done⟩ := run.jobRun.bind
      obtain ⟨rfl, rfl⟩ := sent.sendOperation
      obtain ⟨-, rfl, rfl⟩ := done.pure
      exact ⟨_, OnVm.sent _ _ _, by simp [generateCloudInitRequest, vmRequest]⟩
    · exact ⟨[], .refl _ _, by simp⟩
  obtain ⟨cloud, attaching, isCloud⟩ := cloudInit
  obtain ⟨_, v₇, s₇, ready, h₇⟩ := h₆.bind
  obtain ⟨_, v₈, s₈, startedOr, h₈⟩ := h₇.bind
  obtain ⟨started, starting, outcome⟩ := startedOr.startOrStop
  obtain ⟨_, v₉, s₉, modified, last⟩ := h₈.bind
  obtain ⟨rfl, rfl⟩ := modified.modify
  obtain ⟨saved, rfl, status⟩ := last.saveStatusAndState
  have attached := (before.trans defining).trans (attaching.trans ready.enter)
  have after := attached.trans starting
  have pk : v₈.pk = v.pk := VmRow.shape_pk after.shape
  refine ⟨v₄, v₇, made, disks, nics, data, cloud, started, ⟨after.shape, ?_, ?_⟩, before.shape,
    attached.shape, madeDisks, isCloud, outcome, pk ▸ status⟩
  · rw [← after.row, ← pk]
    exact saved.row
  · rw [saved.calls, after.calls]
    simp

/-- What provisioning has done to a VM. -/
theorem Yields.provisionVm {jobId vm : Nat} {u : Unit}
    (h : Yields (NodePilot.provisionVm jobId vm) l s u l' s') :
    ∃ v v₁ v₂ v' made disks nics data cloud started, Table.get s.rows.vms vm = some v ∧
      OnVm v s v' s' (made ++ ([(createVmRequest v₁ disks nics, data)] ++ (cloud ++ started))) ∧
      v₁.shape = v.shape ∧ v₂.shape = v.shape ∧
      (∀ c ∈ made, c.1.operation = .createDisk) ∧
      (∀ c ∈ cloud, c.1.operation = .generateCloudInit) ∧
      ((v.autostart ∧ v'.status = .running ∧ ∃ data, started = [(vmRequest v₂ .startVm, data)]) ∨
        (¬ v.autostart ∧ v'.status = .stopped ∧ started = [])) ∧
      ∀ row ∈ Table.get s'.rows.vms v.pk, row.status = v'.status := by
  obtain ⟨job, l₁, s₁, gotJob, h₁⟩ := h.bind
  obtain ⟨-, rfl, rfl⟩ := gotJob.getJob
  obtain ⟨v, l₂, s₂, gotVm, h₂⟩ := h₁.bind
  obtain ⟨found, rfl, rfl⟩ := gotVm.getVm
  obtain ⟨rfl, v', body⟩ := h₂.scope
  have inner := body.tryCatch fun _ => Raises.bind fun _ => Raises.throw
  obtain ⟨vm', _, _, got, h₃⟩ := inner.bind
  obtain ⟨rfl, rfl, rfl⟩ := got.get
  obtain ⟨_, v₃, s₃, locked, h₄⟩ := h₃.bind
  obtain ⟨_, v₄, s₄, succeeded, h₅⟩ := h₄.bind
  obtain ⟨rfl, rfl⟩ := unrecorded_transition.yields succeeded
  obtain ⟨vm'', v₅, s₅, got', emitted⟩ := h₅.bind
  obtain ⟨rfl, rfl, rfl⟩ := got'.get
  obtain ⟨rfl, rfl⟩ := unrecorded_emitVmEvent.yields emitted
  obtain ⟨v₁, v₂, made, disks, nics, data, cloud, started, rest⟩ := locked.withLock.provisionSteps
  exact ⟨_, v₁, v₂, _, made, disks, nics, data, cloud, started, found, rest⟩

end Provision

/-! ## Snapshots -/

section Snapshots

variable {jobId snapshot : Nat} {u : Unit}

/-- A snapshot that was loaded was there, with its VM. -/
theorem Yields.getSnapshot {x : SnapshotRow × VmRow}
    (h : Yields (NodePilot.getSnapshot snapshot) l s x l' s') :
    s.rows.loadSnapshot snapshot = some x ∧ l' = l ∧ s' = s := by
  obtain ⟨⟨t, ht, found⟩, same⟩ := h.getRow
  exact ⟨ht ▸ found, same⟩

/-- A task that has loaded its job and its snapshot. -/
theorem Yields.bindSnapshot {f : JobRow → SnapshotRow × VmRow → TaskM L Unit}
    (h : Yields (NodePilot.getJob jobId >>= fun job => NodePilot.getSnapshot snapshot >>= f job)
      l s u l' s') :
    ∃ job x, s.rows.loadSnapshot snapshot = some x ∧ Yields (f job x) l s u l' s' := by
  obtain ⟨job, _, _, gotJob, h₁⟩ := h.bind
  obtain ⟨-, rfl, rfl⟩ := gotJob.getJob
  obtain ⟨x, _, _, got, h₂⟩ := h₁.bind
  obtain ⟨found, rfl, rfl⟩ := got.getSnapshot
  exact ⟨job, x, found, h₂⟩

/-- A save that returns has written the snapshot. -/
theorem Yields.snapshotSave {fields : SnapshotFields}
    (h : Yields (NodePilot.save (.snapshotSave snapshot fields)) l s u l' s') :
    l' = l ∧ s'.rows.vms = s.rows.vms ∧ s'.calls = s.calls := by
  obtain ⟨rfl, now, uuid, t, written, rfl⟩ := h.save rfl
  obtain ⟨snapshots, -, rfl⟩ := except_bind_ok written
  exact ⟨rfl, rfl, rfl⟩

/-- A snapshot whose task returns was confirmed by the agent. -/
theorem Yields.createSnapshotTask
    (h : Yields (NodePilot.createSnapshotTask jobId snapshot) l s u l' s') :
    ∃ x v data, s.rows.loadSnapshot snapshot = some (x, v) ∧ s'.rows.vms = s.rows.vms ∧
      s'.calls = s.calls ++ [(createSnapshotRequest v x, data)] := by
  obtain ⟨job, ⟨x, v⟩, found, loaded⟩ := Yields.bindSnapshot h
  have body := loaded.tryCatch fun _ => Raises.bind fun _ => Raises.bind fun _ => Raises.throw
  obtain ⟨_, l₁, s₁, locked, h₃⟩ := body.bind
  obtain ⟨_, _, _, succeeded, emitted⟩ := h₃.bind
  obtain ⟨rfl, rfl⟩ := unrecorded_transition.yields succeeded
  obtain ⟨rfl, rfl⟩ := unrecorded_emitEvent.yields emitted
  obtain ⟨data, _, _, sent, saved⟩ := locked.withLock.jobRun.bind
  obtain ⟨rfl, rfl⟩ := sent.sendOperation
  obtain ⟨-, vms, calls⟩ := saved.snapshotSave
  exact ⟨x, v, data, found, vms, calls⟩

/-- A deletion whose task returns was confirmed by the agent. -/
theorem Yields.deleteSnapshotTask
    (h : Yields (NodePilot.deleteSnapshotTask jobId snapshot) l s u l' s') :
    ∃ x v data, s.rows.loadSnapshot snapshot = some (x, v) ∧ s'.rows.vms = s.rows.vms ∧
      s'.calls = s.calls ++ [(deleteSnapshotRequest v x, data)] := by
  obtain ⟨job, ⟨x, v⟩, found, loaded⟩ := Yields.bindSnapshot h
  have body := loaded.tryCatch fun _ => Raises.bind fun _ => Raises.bind fun _ => Raises.throw
  obtain ⟨_, l₁, s₁, locked, h₃⟩ := body.bind
  obtain ⟨_, l₂, s₂, deleted, succeeded⟩ := h₃.bind
  obtain ⟨rfl, rfl⟩ := unrecorded_transition.yields succeeded
  obtain ⟨_, l₃, s₃, marked, h₄⟩ := locked.withLock.jobRun.bind
  obtain ⟨rfl, vms, calls⟩ := marked.snapshotSave
  obtain ⟨data, _, _, sent, done⟩ := h₄.bind
  obtain ⟨rfl, rfl⟩ := sent.sendOperation
  obtain ⟨-, rfl, rfl⟩ := done.pure
  obtain ⟨rfl, now, uuid, t, written, rfl⟩ := deleted.save rfl
  cases written
  exact ⟨x, v, data, found, vms, congrArg (· ++ _) calls⟩

/-- A rollback whose task returns was confirmed by the agent. -/
theorem Yields.rollbackSnapshotTask
    (h : Yields (NodePilot.rollbackSnapshotTask jobId snapshot) l s u l' s') :
    ∃ x v data, s.rows.loadSnapshot snapshot = some (x, v) ∧ s'.rows.vms = s.rows.vms ∧
      s'.calls = s.calls ++ [(rollbackSnapshotRequest v x, data)] := by
  obtain ⟨job, ⟨x, v⟩, found, loaded⟩ := Yields.bindSnapshot h
  have body := loaded.tryCatch fun _ => Raises.bind fun _ => Raises.bind fun _ => Raises.throw
  obtain ⟨_, l₁, s₁, locked, h₃⟩ := body.bind
  obtain ⟨_, _, _, succeeded, emitted⟩ := h₃.bind
  obtain ⟨rfl, rfl⟩ := unrecorded_transition.yields succeeded
  obtain ⟨rfl, rfl⟩ := unrecorded_emitEvent.yields emitted
  obtain ⟨_, l₃, s₃, marked, h₄⟩ := locked.withLock.withLock.jobRun.bind
  obtain ⟨rfl, vms, calls⟩ := marked.snapshotSave
  obtain ⟨data, _, _, sent, saved⟩ := h₄.bind
  obtain ⟨rfl, rfl⟩ := sent.sendOperation
  obtain ⟨-, vms', calls'⟩ := saved.snapshotSave
  exact ⟨x, v, data, found, vms'.trans vms, calls'.trans (congrArg (· ++ _) calls)⟩

end Snapshots

/-- An execution that succeeds is a run of the task's body that returns. -/
theorem Task.succeed_yields {taskId : String} {jobId : Nat} {task : Task} {w w' : World}
    (h : task.succeed taskId jobId w = some w') :
    Yields (task.body jobId) () w.ledger () () w'.ledger := by
  unfold Task.succeed at h
  split at h
  · next u l' w₁ run =>
    cases h
    exact Yields.jobBound ⟨w, w', run, rfl, rfl⟩
  · cases h

end Yields

end NodePilot
