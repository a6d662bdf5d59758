import NodePilot.Lib.Rely
import NodePilot.Webhooks

/-!
# Deliveries of committed events

The queue knows nothing of transactions. Outside of one, the row of a delivery is committed before its
task is enqueued; inside, the task may be started before the commit, or after a rollback. So what has to
be excluded is one step: a `WebhookDelivery` row that is created while its caller has a transaction open.
-/

namespace NodePilot.Webhooks

open Lib Lib.Script

/-- Whoever starts a task finds a committed row, and nothing is enqueued or delivered for a row that was
rolled back. -/
structure Transactional (s : State) : Prop where
  visible : ∀ x ∈ s.started, x.2 = true
  enqueued : ∀ delivery ∈ s.rolledBack, delivery ∉ s.enqueued
  attempted : ∀ delivery ∈ s.rolledBack, delivery ∉ s.attempted

/-- The operation puts a task into the queue. -/
def HookOp.enqueues : HookOp → Bool
  | .delay _ => true
  | _ => false

abbrev Callers : Type := Pool Caller HookOp HookAns (Except Exn Unit × Unit) State

/-- The caller is about to create the row of a delivery. -/
def creates (p : Callers) (i : Nat) : Bool :=
  match p.threads[i]? with
  | some ⟨_, .vis (.createDelivery _ _ _) _⟩ => true
  | _ => false

/-- The row of a delivery is created outside of a transaction. -/
def careful : Label Choice Step → Callers → Prop
  | .act i _, p => creates p i = true → p.shared.inTransaction i = false
  | .env _, _ => True

instance (l : Label Choice Step) (p : Callers) : Decidable (careful l p) := by
  cases l <;> unfold careful <;> infer_instance

/-! ## The invariant -/

namespace State

variable {s s' : State} {i : Nat}

/-- **The invariant**: tasks are for committed rows only, and no transaction has written one. -/
structure Clean (s : State) : Prop where
  started : ∀ x ∈ s.started, x.2 = true
  queue : ∀ delivery ∈ s.queue, s.committed delivery = true
  pending : ∀ j, s.pending j = []
  saved : ∀ j, ∀ part ∈ (s.txs.of j).savepoints, part.writes = []
  rolledBack : s.rolledBack = []

/-- Committed rows stay. -/
def Grows (s s' : State) : Prop := ∀ delivery, s.committed delivery = true → s'.committed delivery = true

theorem Grows.of_same (h : s'.deliveries = s.deliveries) : Grows s s' := by
  intro delivery there
  unfold committed at *
  rw [h]
  exact there

theorem Clean.transactional (h : Clean s) : Transactional s where
  visible := h.started
  enqueued _ mem := by
    rw [h.rolledBack] at mem
    cases mem
  attempted _ mem := by
    rw [h.rolledBack] at mem
    cases mem

/-- The transactions change, and hold nothing still. -/
theorem Clean.of_txs (h : Clean s) {txs : Transactions (List Delivery) Empty}
    (pending : (txs.of i).current.writes = []) (saved : ∀ part ∈ (txs.of i).savepoints, part.writes = [])
    (others : Transactions.Others i s.txs txs) : Clean { s with txs := txs } where
  started := h.started
  queue := h.queue
  pending j := by
    by_cases own : j = i
    · rw [own]
      exact pending
    · show (txs.of j).current.writes = []
      rw [others.of j own]
      exact h.pending j
  saved j part mem := by
    by_cases own : j = i
    · rw [own] at mem
      exact saved part mem
    · rw [show _ = _ from others.of j own] at mem
      exact h.saved j part mem
  rolledBack := h.rolledBack

/-- A statement other than the enqueueing of a task. -/
theorem Clean.act {c : Choice} {o : HookOp} {a : HookAns o} (h : Clean s)
    (plain : o.enqueues = false)
    (outside : ∀ w t p, o = .createDelivery w t p → s.inTransaction i = false)
    (hact : State.act c i o s = some (a, s')) : Clean s' ∧ Grows s s' := by
  cases o with
  | enter =>
    cases hact
    refine ⟨h.of_txs (i := i) ?_ ?_ Transactions.others_set, .of_same rfl⟩
    · simpa [Transactions.enter, State.pending] using h.pending i
    · intro part mem
      rcases List.mem_cons.mp (by simpa [Transactions.enter] using mem) with rfl | old
      · exact h.pending i
      · exact h.saved i part old
  | leave =>
    simp only [State.act] at hact
    split at hact
    · cases hact
      refine ⟨h.of_txs (i := i) ?_ ?_ Transactions.others_set, .of_same rfl⟩
      · simpa [Transactions.release, State.pending] using h.pending i
      · intro part mem
        refine h.saved i part (List.mem_of_mem_tail ?_)
        simpa [Transactions.release] using mem
    · have finished : Clean { s with txs := s.txs.finish i [] } := by
        refine h.of_txs (i := i) ?_ ?_ Transactions.others_finish
        · simp [Transactions.finish]
        · intro part mem
          simp [Transactions.finish] at mem
      have none := h.pending i
      simp only [commit, none, List.map_nil, List.append_nil] at hact
      split at hact
      · cases hact
        exact ⟨finished, .of_same rfl⟩
      · cases hact
        exact ⟨finished, .of_same rfl⟩
  | rollback =>
    cases hact
    have nothing : s.discarded i = [] := by
      unfold discarded
      split
      · rfl
      · rw [h.pending i, List.take_nil]
    have back : Clean { s with txs := s.txs.rollback i } := by
      unfold Transactions.rollback
      split
      · exact h
      · next part rest saved =>
        refine h.of_txs (i := i) ?_ ?_ (Transactions.others_set.trans Transactions.others_free)
        · simpa using h.saved i part (saved ▸ List.mem_cons_self)
        · intro part' mem
          refine h.saved i part' (saved ▸ List.mem_cons_of_mem part ?_)
          simpa using mem
    simp only [nothing, List.map_nil, List.append_nil]
    exact ⟨back, .of_same rfl⟩
  | createEvent organization event =>
    cases hact
    exact ⟨h, .of_same rfl⟩
  | webhooks organization =>
    cases hact
    exact ⟨h, .of_same rfl⟩
  | createDelivery webhook eventType payload =>
    simp only [State.act] at hact
    split at hact
    · cases hact
      exact ⟨h, .of_same rfl⟩
    · rw [outside webhook eventType payload rfl] at hact
      cases hact
      have grows : Grows s { s with
          nextPk := s.nextPk + 1
          deliveries := s.deliveries ++ [⟨s.nextPk, webhook, eventType, payload⟩] } := by
        intro delivery there
        unfold committed at *
        simp [there]
      exact ⟨⟨h.started, fun d mem => grows d (h.queue d mem), h.pending, h.saved, h.rolledBack⟩, grows⟩
  | delay delivery => cases plain
  | other =>
    cases hact
    exact ⟨h, .of_same rfl⟩

/-- A task for a committed row is enqueued. -/
theorem Clean.delay {c : Choice} {delivery : Nat} {a : HookAns (.delay delivery)} (h : Clean s)
    (there : s.committed delivery = true) (hact : State.act c i (.delay delivery) s = some (a, s')) :
    Clean s' ∧ Grows s s' := by
  simp only [State.act] at hact
  split at hact
  · cases hact
    exact ⟨h, .of_same rfl⟩
  · cases hact
    refine ⟨⟨h.started, ?_, h.pending, h.saved, h.rolledBack⟩, .of_same rfl⟩
    intro d mem
    rcases List.mem_append.mp mem with old | new
    · exact h.queue d old
    · rw [List.mem_singleton.mp new]
      exact there

/-- A worker starts a task. -/
theorem Clean.startTask {index : Nat} {retries : Bool} (h : Clean s)
    (started : s.startTask index retries = some s') : Clean s' ∧ Grows s s' := by
  obtain ⟨delivery, found, rfl⟩ := Option.map_eq_some_iff.mp started
  have there := h.queue delivery (List.mem_of_getElem? found)
  simp only [there, if_true]
  refine ⟨⟨?_, ?_, h.pending, h.saved, h.rolledBack⟩, .of_same rfl⟩
  · rintro x mem
    rcases List.mem_cons.mp mem with rfl | old
    · rfl
    · exact h.started x old
  · intro d mem
    have rest : d ∈ s.queue.eraseIdx index ∨ d = delivery := by
      cases retries with
      | false => exact .inl mem
      | true => simpa using mem
    rcases rest with old | rfl
    · exact h.queue d (List.mem_of_mem_eraseIdx old)
    · exact there

end State

open State

/-! ## Callers -/

/-- What the callers do to each other. -/
def discipline : Discipline system where
  ok _ i o s := ∀ w t p, o = .createDelivery w t p → s.inTransaction i = false
  inv := Clean
  rely _ := Grows
  guar _ := Grows
  rely_refl _ _ _ := id
  rely_trans _ _ _ _ h h' delivery there := h' delivery (h delivery there)
  guar_rely _ _ _ _ _ := id

variable {i : Nat} {α : Type}

/-- The script keeps to the discipline, however it ends. -/
abbrev Keeps (i : Nat) (x : HookM α) (Q : α → State → Prop) : Prop :=
  Script.Safe discipline i (fun _ => True) x Q fun _ _ => True

theorem keeps_perform {o : HookOp} (plain : o.enqueues = false) :
    Keeps i (Script.perform o) fun _ _ => True := by
  refine Safe.perform (fun _ _ _ _ => trivial) fun s c a s' _ inv ok hact => ?_
  obtain ⟨clean, grows⟩ := inv.act plain ok hact
  exact ⟨clean, grows, trivial⟩

theorem keeps_statement {x : HookM (Except Exn α)} {Q : Except Exn α → State → Prop}
    (hx : Keeps i x Q) : Keeps i (statement x) fun a => Q (.ok a) := by
  refine Safe.bind hx fun r => ?_
  cases r with
  | ok a => exact Safe.pure fun _ h => h
  | error e => exact Safe.throw fun _ _ => trivial

theorem keeps_createDelivery {webhook : Nat} {eventType : String} {payload : Dict} :
    Keeps i (Script.perform (HookOp.createDelivery webhook eventType payload))
      fun (r : Except Exn Nat) s => ∀ delivery, r = .ok delivery → s.committed delivery = true := by
  refine Safe.perform (fun _ _ _ _ => trivial) fun s c a s' _ inv ok hact => ?_
  obtain ⟨clean, grows⟩ := inv.act rfl ok hact
  refine ⟨clean, grows, ?_⟩
  rintro delivery rfl
  have outside := ok webhook eventType payload rfl
  simp only [system, State.act] at hact
  split at hact
  · cases hact
  · rw [outside] at hact
    cases hact
    simp [committed]

/-- What was committed stays so while the script runs. -/
theorem keeps_framed {x : HookM α} {Q : α → State → Prop} {F : State → Prop}
    (grows : ∀ s s', Grows s s' → F s → F s') (hx : Keeps i x Q) :
    Script.Safe discipline i F x (fun a s => Q a s ∧ F s) fun _ _ => True :=
  (Safe.frame (D := discipline) (i := i) grows grows hx).conseq (fun _ h => ⟨trivial, h⟩)
    (fun _ _ h => h) fun _ _ h => h

theorem keeps_createDeliveries (eventType : String) (payload : Dict) (webhooks : List Webhook) :
    Keeps i (createDeliveries eventType payload webhooks)
      fun ds s => ∀ d ∈ ds, s.committed d = true := by
  induction webhooks with
  | nil => exact Safe.pure fun _ _ d mem => absurd mem List.not_mem_nil
  | cons webhook rest ih =>
    unfold createDeliveries
    split
    · refine Safe.bind (keeps_statement keeps_createDelivery) fun delivery => ?_
      have rest := keeps_framed (F := fun s => s.committed delivery = true)
        (fun _ _ grows => grows delivery) ih
      refine Safe.bind (rest.conseq (fun _ h => h delivery rfl) (fun _ _ h => h) fun _ _ h => h)
        fun ds => Safe.pure fun s h d mem => ?_
      rcases List.mem_cons.mp mem with rfl | mem
      · exact h.2
      · exact h.1 d mem
    · exact ih

theorem keeps_delays (ds : List Nat) :
    Script.Safe discipline i (fun s => ∀ d ∈ ds, s.committed d = true)
      (ds.forM fun delivery => statement (Script.perform (HookOp.delay delivery)))
      (fun _ _ => True) fun _ _ => True := by
  have stable (ds : List Nat) (s s' : State) (grows : Grows s s') (h : ∀ d ∈ ds, s.committed d = true) :
      ∀ d ∈ ds, s'.committed d = true := fun d mem => grows d (h d mem)
  induction ds with
  | nil => exact Safe.pure fun _ _ => trivial
  | cons d ds ih =>
    refine Safe.bind (Q := fun _ s => ∀ d ∈ ds, s.committed d = true) ?_ fun _ => ih
    refine Safe.bind (Q := fun _ s => ∀ d ∈ ds, s.committed d = true) ?_ fun r => ?_
    · refine Safe.perform (stable (d :: ds)) fun s c a s' there inv _ hact => ?_
      obtain ⟨clean, grows⟩ := inv.delay (i := i) (there d List.mem_cons_self) hact
      exact ⟨clean, grows, stable ds s s' grows fun e mem => there e (List.mem_cons_of_mem d mem)⟩
    · cases r with
      | ok a => exact Safe.pure fun _ h => h
      | error e => exact Safe.throw fun _ _ => trivial

theorem keeps_emitEvent (organization : Nat) (event : Event) :
    Keeps i (emitEvent organization event) fun _ _ => True := by
  refine Safe.bind (keeps_statement (keeps_perform (o := .createEvent organization event) rfl)) fun _ => ?_
  refine Safe.tryCatch (R := fun _ _ => True) ?_ fun _ => Safe.pure fun _ _ => trivial
  refine Safe.bind (keeps_perform rfl) fun webhooks => ?_
  exact Safe.bind (keeps_createDeliveries _ _ webhooks) fun ds => keeps_delays ds

theorem keeps_atomic {body : HookM Unit} (h : Keeps i body fun _ _ => True) :
    Keeps i (atomic body) fun _ _ => True := by
  refine Safe.bind (keeps_perform rfl) fun _ => ?_
  refine Safe.bind (Safe.tryCatch h fun e => ?_) fun _ =>
    keeps_statement (keeps_perform (o := .leave) rfl)
  exact Safe.bind (keeps_perform rfl) fun _ => Safe.throw fun _ _ => trivial

/-- **Every caller keeps to the discipline.** -/
theorem keeps_script (caller : Caller) : Keeps i caller.script fun _ _ => True := by
  induction caller with
  | emit organization event => exact keeps_emitEvent organization event
  | other => exact keeps_statement (keeps_perform (o := .other) rfl)
  | seq first second ih ih' => exact Safe.bind ih fun _ => ih'
  | atomic body ih => exact keeps_atomic ih
  | swallow body ih => exact Safe.tryCatch (R := fun _ _ => True) ih fun _ => Safe.pure fun _ _ => trivial

/-! ## Runs -/

def start (webhooks : List Webhook) : Callers := ⟨[], { webhooks := webhooks }⟩

variable {p p' : Callers}

theorem threaded_step {l : Label Choice Step} (h : discipline.Threaded p) (ok : careful l p)
    (next : system.step l p = some p') : discipline.Threaded p' := by
  cases l with
  | act i c =>
    refine Discipline.keeps_act i h next ?_
    rintro tag o k hi w t pl rfl
    exact ok (by simp [creates, hi])
  | env e =>
    refine Discipline.keeps_env h next fun ts s henv => ?_
    cases e with
    | call caller =>
      cases henv
      refine ⟨h.inv, fun _ _ there => there, fun j t mem => ?_⟩
      have only : t = ⟨caller, caller.script.prog ()⟩ := by
        cases j with
        | zero => exact (Option.some.inj mem).symm
        | succ j => simp at mem
      rw [only]
      exact (keeps_script caller () p.shared trivial).mono fun _ _ _ => trivial
    | start index retries =>
      obtain ⟨s', started, same⟩ := Option.map_eq_some_iff.mp henv
      cases same
      obtain ⟨clean, grows⟩ := h.inv.startTask started
      exact ⟨clean, fun _ => grows, fun j t mem => by simp at mem⟩
    | setWebhooks webhooks =>
      cases henv
      have inv := h.inv
      exact ⟨⟨inv.started, inv.queue, inv.pending, inv.saved, inv.rolledBack⟩, fun _ => .of_same rfl,
        fun j t mem => by simp at mem⟩

theorem threaded_start (webhooks : List Webhook) : discipline.Threaded (start webhooks) where
  inv := ⟨fun _ h => absurd h List.not_mem_nil, fun _ h => absurd h List.not_mem_nil, fun _ => rfl,
    fun _ _ h => absurd h List.not_mem_nil, rfl⟩
  safe j t h := by simp [Webhooks.start] at h

/-- **In a run in which the rows of deliveries are created outside of transactions, tasks are enqueued
for committed events only.** -/
theorem transactional_always (webhooks : List Webhook) (ls : List (Label Choice Step))
    (ok : Along system.step careful ls (start webhooks)) :
    ∀ p ∈ visited system.step ls (start webhooks), Transactional p.shared := by
  intro p hp
  have threaded := visited_keeps (I := discipline.Threaded)
    (fun _ _ _ h ok next => threaded_step h ok next) (threaded_start webhooks) ok hp
  exact threaded.inv.transactional

/-! ## Two runs -/

/-- A webhook for everything. -/
def everything : List Webhook := [⟨1, 1, ["*"], true⟩]

def nodeOnline : Event :=
  { type := "NODE_ONLINE", severity := "INFO", resourceType := "Node", resourceId := "n"
    metadata := [] }

/-- The caller emits an event, and the task is started after `n` of its statements. -/
def emitted (caller : Caller) (n : Nat) : List (Label Choice Step) :=
  .env (.call caller) :: List.replicate n (.act 0 {}) ++ [.env (.start 0 false)]

theorem transactional_always_autocommit :
    (visited system.step (emitted (.emit 1 nodeOnline) 4) (start everything)).length = 7 ∧
    ∀ p ∈ visited system.step (emitted (.emit 1 nodeOnline) 4) (start everything),
      Transactional p.shared :=
  ⟨by decide +kernel, transactional_always everything _ (by decide +kernel)⟩

/-- A heartbeat that finds its node offline emits NODE_ONLINE before it commits; the task is started in
between and finds no row. -/
theorem started_too_early : ¬ ∀ (webhooks : List Webhook) (ls : List (Label Choice Step)),
    ∀ p ∈ visited system.step ls (start webhooks), Transactional p.shared := by
  intro always
  have visible : ∀ p ∈ visited system.step (emitted (recordHeartbeat 1 nodeOnline) 6) (start everything),
      ∀ x ∈ p.shared.started, x.2 = true :=
    fun p hp => (always everything (emitted (recordHeartbeat 1 nodeOnline) 6) p hp).visible
  revert visible
  decide +kernel

end NodePilot.Webhooks
