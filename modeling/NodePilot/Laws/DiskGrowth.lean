import NodePilot.Laws.PhantomDevices
import NodePilot.Resizes

/-!
# Disks grow

`resize_disk` compares with the size that the view has loaded, and a task sends the size that its message names. So
nothing makes a disk smaller as long as a request finds the disk as it is on the host and no other request or run is
under way, and only the newest message is given to a worker.
-/

namespace NodePilot.Resizes

open Lib Lib.Script Devices

/-! ## Disks that only grow -/

/-- No smaller size than the host's was sent, and the row's sizes have not decreased. -/
structure Grown (disk : Nat) (s : State) : Prop where
  sent : ∀ x ∈ s.sent, x.2 ≤ x.1
  sizes : s.sizes.Pairwise (· ≥ ·)
  row : ∀ size, rowSize disk s.desk.world.db = some size → s.sizes.head? = some size

abbrev ResizePool : Type := Pool Part Devices.Op Devices.Ans (Except Exn Unit × Unit) State

def ended (t : Worker) : Bool :=
  match t.rest with
  | .ret _ => true
  | .vis _ _ => false

/-- No request and no run is under way. -/
def idle (p : ResizePool) : Bool := p.threads.all ended

/-- A request finds the disk at rest, as large in its row as it is on the host; and a message is given to a worker
at rest, and only as long as no newer request was accepted. -/
def Careful (disk : Nat) : Label Devices.Choice Event → ResizePool → Prop
  | .env (.request _ _), p => idle p ∧ ∀ size ∈ rowSize disk p.shared.desk.world.db, size = p.shared.host
  | .env (.deliver message _), p => idle p ∧ message + 1 = p.shared.desk.queue.length
  | _, _ => True

instance (disk : Nat) : (l : Label Devices.Choice Event) → (p : ResizePool) → Decidable (Careful disk l p)
  | .env (.request _ _), _ => inferInstanceAs (Decidable (_ ∧ _))
  | .env (.deliver _ _), _ => inferInstanceAs (Decidable (_ ∧ _))
  | .env (.elsewhere _), _ | .act _ _, _ => isTrue trivial

/-! ## What the parts do -/

section Parts

variable {disk : Nat}

/-- What a request does that has found the disk at a size. -/
def requesting (disk size : Nat) : Devices.Op → Prop
  | .service (.task (.write x)) => x.onJobs
  | .service (.task (.send _ _ _)) | .service (.task (.createVm _)) => False
  | .delay _ task => ∃ n, task = .resizeDisk disk n ∧ size < n
  | .leave | .rollback | .insertDisk _ | .insertNic _ => False
  | _ => True

/-- What a run of a message to a size does. -/
def resizing (disk n : Nat) : Devices.Op → Prop
  | .service (.task o) => o.within (fun r => r.operation = .resizeDisk ∧ r.payload.getInt "new_size_bytes" 0 = n)
      (fun x => x = .diskSize disk n) False
  | _ => False

/-- A request keeps to that. -/
theorem obeys_request {vm : VmRow} {d : DiskRow} {newSizeGb : Int} {requestedBy : Option Nat} (key : d.pk = disk) :
    Obeys (fun _ _ => True) (requesting disk d.sizeBytes) (fun _ => True)
      (requestScript vm d newSizeGb requestedBy) := by
  have routine : ServiceRoutine fun o => requesting disk d.sizeBytes (.service o) :=
    { task := ⟨trivial, fun _ _ => trivial, fun _ => trivial, fun _ => trivial, trivial, fun _ hx => hx.onJobs⟩
      createJob := fun _ => trivial
      checkAndReserve := fun _ => trivial }
  have fallible {α : Type} {x : DeviceM (Except Exn α)}
      (hx : Obeys (fun _ _ => True) (requesting disk d.sizeBytes) (fun _ => True) x) :
      Obeys (fun _ _ => True) (requesting disk d.sizeBytes) (fun _ => True) (statement x) := by
    refine Obeys.bind hx fun r _ => ?_
    cases r with
    | ok a => exact Obeys.pure trivial
    | error e => exact Obeys.throw
  refine Obeys.bind (Q := fun _ => True) (Obeys.ite (fun _ => Obeys.throw) fun grows => ?_) fun _ _ =>
    Obeys.pure trivial
  refine Obeys.bind (fallible (Obeys.perform (o := Op.reserve vm _) trivial fun _ _ => trivial)) fun _ _ => ?_
  refine Obeys.bind (Q := fun _ => True)
    (Obeys.translate (Obeys.bind routine.precheck fun _ _ => routine.newJob)) fun job _ => ?_
  have larger : d.sizeBytes < (newSizeGb * 1024 ^ 3).toNat := by omega
  exact Obeys.bind (fallible (Obeys.perform
    (o := Op.delay job.pk (.resizeDisk d.pk (newSizeGb * 1024 ^ 3).toNat)) ⟨_, key ▸ rfl, larger⟩
    fun _ _ => trivial)) fun _ _ => Obeys.pure trivial

/-- A run keeps to that. -/
theorem obeys_run {taskId : String} {job n : Nat} :
    Obeys (fun _ _ => True) (resizing disk n) (fun _ => True) (runScript taskId job (.resizeDisk disk n)) := by
  have routine : Routine fun o => resizing disk n (.service (.task o)) := routine_within
  have sized (vm : VmRow) (d : DiskRow) (p : PoolRow) :
      (resizeDiskRequest vm d p n).payload.getInt "new_size_bytes" 0 = n := rfl
  exact Obeys.translate (obeys_ofTask (routine.jobBound
    (routine.resizeDiskTask (fun _ vm d p _ _ => ⟨rfl, sized vm d p⟩) (.inr rfl))))

/-! ## One operation -/

variable {c : Devices.Choice} {i : Nat} {o : Devices.Op} {a : Devices.Ans o} {s s' : State} {n z : Nat}

theorem requesting_quiet (ho : requesting disk z o) : o.quiet := by
  cases o with
  | service o =>
    cases o with
    | task o => cases o <;> first | exact ho | exact ho.elim
    | createJob | checkAndReserve => exact trivial
  | leave | rollback | insertDisk | insertNic => exact ho.elim
  | enter | reserve | delay => exact trivial

/-- Only an enqueued message changes the queue. -/
theorem queue_answer {d : Desk} : (Desk.answer c o d).2.queue = d.queue ∨
    ∃ job task, o = .delay job task ∧ (Desk.answer c o d).2.queue = d.queue ++ [(job, task)] := by
  cases o with
  | service o =>
    cases o with
    | task o => exact .inl rfl
    | createJob row =>
      simp only [Desk.answer]
      split <;> exact .inl rfl
    | checkAndReserve vm =>
      simp only [Desk.answer]
      split <;> exact .inl rfl
  | enter | rollback => exact .inl rfl
  | leave =>
    simp only [Desk.answer]
    split <;> exact .inl rfl
  | reserve vm storageGb =>
    simp only [Desk.answer]
    split <;> exact .inl rfl
  | insertDisk row | insertNic row =>
    simp only [Desk.answer, Desk.insert]
    split <;> exact .inl rfl
  | delay job task =>
    simp only [Desk.answer]
    split
    · exact .inl rfl
    · exact .inr ⟨job, task, rfl, rfl⟩

theorem rowSize_of_disks {t t' : Tables} (h : t'.disks = t.disks) : rowSize disk t' = rowSize disk t := by
  rw [rowSize, rowSize, h]

theorem note_requesting {outcome : AgentOutcome} (ho : requesting disk z o) : s.note disk outcome o a = s := by
  cases o with
  | service o =>
    cases o with
    | task o =>
      cases o with
      | send node r timeout => exact ho.elim
      | write x =>
        cases x with
        | diskSize => cases ho
        | _ => rfl
      | _ => rfl
    | createJob | checkAndReserve => rfl
  | _ => rfl

/-- A request leaves the disk alone, and asks for a larger size. -/
theorem act_requesting (ho : requesting disk z o) (h : act disk c i o s = some (a, s')) :
    s'.sizes = s.sizes ∧ s'.host = s.host ∧ s'.sent = s.sent ∧
      rowSize disk s'.desk.world.db = rowSize disk s.desk.world.db ∧
      (s'.desk.queue = s.desk.queue ∨
        ∃ job n, s'.desk.queue = s.desk.queue ++ [(job, .resizeDisk disk n)] ∧ z < n) := by
  cases h
  rw [note_requesting ho]
  refine ⟨rfl, rfl, rfl, rowSize_of_disks (quiet_answer (requesting_quiet ho)).1, ?_⟩
  rcases queue_answer (o := o) (c := c) (d := s.desk) with same | ⟨job, task, rfl, added⟩
  · exact .inl same
  · obtain ⟨n, rfl, larger⟩ := ho
    exact .inr ⟨job, n, added, larger⟩

/-- A run sends the size of its message, and writes it to the row. -/
theorem act_resizing (ho : resizing disk n o) (h : act disk c i o s = some (a, s')) :
    s'.desk.queue = s.desk.queue ∧
      (s'.sent = s.sent ∧ s'.host = s.host ∨
        s'.sent = (n, s.host) :: s.sent ∧ (s'.host = s.host ∨ s'.host = max s.host n)) ∧
      (s'.sizes = s.sizes ∧ rowSize disk s'.desk.world.db = rowSize disk s.desk.world.db ∨
        s'.sizes = n :: s.sizes ∧ ∀ size, rowSize disk s'.desk.world.db = some size → size = n) := by
  cases h
  cases o with
  | service o =>
    cases o with
    | task o =>
      refine ⟨rfl, ?_⟩
      have still (quiet : (Op.service (.task o)).quiet) :
          rowSize disk (Desk.answer c (.service (.task o)) s.desk).2.world.db = rowSize disk s.desk.world.db :=
        rowSize_of_disks (quiet_answer quiet).1
      cases o with
      | send node r timeout =>
        cases node with
        | none => exact ⟨.inl ⟨rfl, rfl⟩, .inl ⟨rfl, still trivial⟩⟩
        | some node =>
          obtain ⟨operation, size⟩ := ho
          simp only [State.note, operation, if_true, size, Int.toNat_natCast, State.send]
          split
          · refine ⟨.inr ⟨rfl, ?_⟩, .inl ⟨rfl, still trivial⟩⟩
            show (if _ then _ else _) = _ ∨ (if _ then _ else _) = _
            split
            · exact .inr rfl
            · exact .inl rfl
          · exact ⟨.inl ⟨rfl, rfl⟩, .inl ⟨rfl, still trivial⟩⟩
      | write x =>
        rcases ho with onJobs | rfl
        · have noted (r : Except Exn Unit) : s.note disk c.agent (.service (.task (.write x))) r = s := by
            cases x with
            | diskSize => cases onJobs
            | _ => rfl
          rw [noted]
          exact ⟨.inl ⟨rfl, rfl⟩, .inl ⟨rfl, still onJobs⟩⟩
        · clear still
          simp only [Desk.answer, World.answer, World.statement]
          split
          · next db written =>
            split at written
            · cases written
            · obtain ⟨rows, hrows, rfl⟩ := except_bind_ok written
              have noted : s.note disk c.agent (.service (.task (.write (.diskSize disk n)))) (.ok ()) =
                  { s with sizes := n :: s.sizes } := by simp [State.note]
              rw [noted]
              refine ⟨.inl ⟨rfl, rfl⟩, .inr ⟨rfl, fun size found => ?_⟩⟩
              rw [saveRow_ok hrows] at found
              have saved := Table.get_modify_self (t := s.desk.world.db.disks) (k := disk)
                (f := fun r => { r with sizeBytes := n }) fun _ => rfl
              rw [rowSize, saved, Option.map_map] at found
              obtain ⟨d, -, same⟩ := Option.map_eq_some_iff.mp found
              exact same.symm
          · refine ⟨.inl ⟨rfl, rfl⟩, .inl ⟨rfl, rfl⟩⟩
      | createVm row => exact ho.elim
      | read | acquire | release | emit | now | mac =>
        exact ⟨.inl ⟨rfl, rfl⟩, .inl ⟨rfl, still trivial⟩⟩
    | createJob | checkAndReserve => exact ho.elim
  | _ => exact ho.elim

/-! ## The invariant -/

/-- A thread that is under way: a request that has found the disk as it is, or a run of the newest message. -/
def Fine (disk : Nat) (s : State) (t : Worker) : Prop :=
  (∃ z, s.sizes.head? = some z ∧ s.host = z ∧
    t.rest.Obeys (fun _ _ => True) (requesting disk z) fun _ => True) ∨
  ∃ job n, s.desk.queue.getLast? = some (job, .resizeDisk disk n) ∧
    t.rest.Obeys (fun _ _ => True) (resizing disk n) fun _ => True

structure Inv (disk : Nat) (p : ResizePool) : Prop where
  grown : Grown disk p.shared
  nonempty : p.shared.sizes ≠ []
  queue : ∀ m ∈ p.shared.desk.queue, ∃ n, m.2 = .resizeDisk disk n
  newest : ∀ job n, p.shared.desk.queue.getLast? = some (job, .resizeDisk disk n) →
    (∀ z ∈ p.shared.sizes.head?, z ≤ n) ∧ p.shared.host ≤ n
  threads : ∀ (i : Nat) t, p.threads[i]? = some t → ended t ∨ Fine disk p.shared t ∧
    ∀ (j : Nat) u, p.threads[j]? = some u → j ≠ i → ended u

/-- What one operation keeps. -/
theorem Grown.requesting (h : Grown disk s) (ho : requesting disk z o) (taken : act disk c i o s = some (a, s')) :
    Grown disk s' := by
  obtain ⟨sizes, host, sent, row, -⟩ := act_requesting ho taken
  exact ⟨sent ▸ h.sent, sizes ▸ h.sizes, fun size found => sizes ▸ h.row size (row ▸ found)⟩

theorem Grown.resizing (h : Grown disk s) (top : ∀ z ∈ s.sizes.head?, z ≤ n) (host : s.host ≤ n)
    (ho : resizing disk n o) (taken : act disk c i o s = some (a, s')) : Grown disk s' := by
  obtain ⟨-, sending, sizing⟩ := act_resizing ho taken
  refine ⟨?_, ?_, ?_⟩
  · rcases sending with ⟨sent, -⟩ | ⟨sent, -⟩
    · exact sent ▸ h.sent
    · rw [sent]
      exact List.forall_mem_cons.mpr ⟨host, h.sent⟩
  · rcases sizing with ⟨sizes, -⟩ | ⟨sizes, -⟩
    · exact sizes ▸ h.sizes
    · rw [sizes]
      refine List.pairwise_cons.mpr ⟨fun z hz => ?_, h.sizes⟩
      cases all : s.sizes with
      | nil => simp [all] at hz
      | cons y ys =>
        have least : y ≤ n := top y (by simp [all])
        have ordered := h.sizes
        rw [all] at hz ordered
        rcases List.mem_cons.mp hz with rfl | later
        · exact least
        · exact Nat.le_trans ((List.pairwise_cons.mp ordered).1 z later) least
  · rcases sizing with ⟨sizes, row⟩ | ⟨sizes, row⟩
    · exact fun size found => sizes ▸ h.row size (row ▸ found)
    · intro size found
      rw [sizes, row size found]
      rfl

/-- A thread that has taken a step, among threads that have ended. -/
theorem threads_set {ts : List Worker} {t t' : Worker} (there : ts[i]? = some t)
    (others : ∀ (j : Nat) u, ts[j]? = some u → j ≠ i → ended u) (fine : Fine disk s' t') :
    ∀ (j : Nat) u, (ts.set i t')[j]? = some u → ended u ∨ Fine disk s' u ∧
      ∀ (k : Nat) v, (ts.set i t')[k]? = some v → k ≠ j → ended v := by
  have rest (j : Nat) (u : Worker) (hu : (ts.set i t')[j]? = some u) (other : j ≠ i) : ended u := by
    rw [List.getElem?_set_ne (Ne.symm other)] at hu
    exact others j u hu other
  intro j u hu
  by_cases same : j = i
  · subst same
    have inside : j < ts.length := (List.getElem?_eq_some_iff.mp there).1
    rw [List.getElem?_set_self inside] at hu
    cases hu
    exact .inr ⟨fine, rest⟩
  · exact .inl (rest j u hu same)

variable {p p' : ResizePool} {l : Label Devices.Choice Event}

theorem act_keeps (h : Inv disk p) (taken : (system disk).step (.act i c) p = some p') : Inv disk p' := by
  obtain ⟨tag, o, k, a, s', there, acted, rfl⟩ := System.step_act taken
  rcases h.threads i _ there with ended | ⟨fine, others⟩
  · cases ended
  rcases fine with ⟨z, top, host, obeys⟩ | ⟨job, n, newest, obeys⟩
  · obtain ⟨ho, rest⟩ := obeys
    obtain ⟨sizes, host', sent, row, queue⟩ := act_requesting (i := i) ho acted
    have top' : s'.sizes.head? = some z := sizes ▸ top
    refine ⟨h.grown.requesting (i := i) ho acted, sizes ▸ h.nonempty, ?_, ?_,
      threads_set there others (.inl ⟨z, top', host'.trans host, rest a trivial⟩)⟩
    · rcases queue with same | ⟨job, n, added, -⟩
      · exact same ▸ h.queue
      · rw [added]
        exact List.forall_mem_append.mpr ⟨h.queue, by simp⟩
    · intro job n last
      rcases queue with same | ⟨job', m, added, larger⟩
      · rw [same] at last
        rw [sizes, host']
        exact h.newest job n last
      · rw [added, List.getLast?_append_of_ne_nil _ (by simp)] at last
        simp only [List.getLast?_singleton, Option.some.injEq, Prod.mk.injEq, Task.resizeDisk.injEq, true_and] at last
        obtain ⟨-, rfl⟩ := last
        rw [top', host', host]
        refine ⟨fun y hy => ?_, Nat.le_of_lt larger⟩
        cases hy
        exact Nat.le_of_lt larger
  · obtain ⟨ho, rest⟩ := obeys
    obtain ⟨top, host⟩ := h.newest job n newest
    obtain ⟨queue, sending, sizing⟩ := act_resizing (i := i) ho acted
    have newest' : s'.desk.queue.getLast? = some (job, .resizeDisk disk n) := queue ▸ newest
    refine ⟨h.grown.resizing (i := i) top host ho acted, ?_, queue ▸ h.queue, fun job' n' last => ?_,
      threads_set there others (.inr ⟨job, n, newest', rest a trivial⟩)⟩
    · rcases sizing with ⟨sizes, -⟩ | ⟨sizes, -⟩
      · exact sizes ▸ h.nonempty
      · simp [sizes]
    · rw [newest'] at last
      cases last
      refine ⟨?_, ?_⟩
      · rcases sizing with ⟨sizes, -⟩ | ⟨sizes, -⟩
        · exact sizes ▸ top
        · rw [sizes]
          intro y hy
          cases hy
          exact Nat.le_refl n
      · rcases sending with ⟨-, same⟩ | ⟨-, same | grown⟩
        · exact same ▸ host
        · exact same ▸ host
        · rw [grown]
          exact Nat.max_le.mpr ⟨host, Nat.le_refl n⟩

/-- A thread that is started while no other is under way. -/
theorem Inv.started {t : Worker} (h : Inv disk p) (rest : idle p) (fine : Fine disk p.shared t) :
    Inv disk ⟨p.threads ++ [t], p.shared⟩ := by
  have idle (i : Nat) (u : Worker) (hu : p.threads[i]? = some u) : ended u :=
    List.all_eq_true.mp rest u (List.mem_of_getElem? hu)
  refine ⟨h.grown, h.nonempty, h.queue, h.newest, fun i u hu => ?_⟩
  have places (j : Nat) (v : Worker) (hv : (p.threads ++ [t])[j]? = some v) :
      ended v ∨ j = p.threads.length ∧ v = t := by
    by_cases inside : j < p.threads.length
    · rw [List.getElem?_append_left inside] at hv
      exact .inl (idle j v hv)
    · rw [List.getElem?_append_right (Nat.le_of_not_lt inside), List.getElem?_singleton] at hv
      split at hv
      · cases hv
        exact .inr ⟨by omega, rfl⟩
      · cases hv
  rcases places i u hu with done | ⟨rfl, rfl⟩
  · exact .inl done
  · refine .inr ⟨fine, fun j v hv other => ?_⟩
    rcases places j v hv with done | ⟨same, -⟩
    · exact done
    · exact absurd same other

theorem env_keeps {e : Event} (h : Inv disk p) (careful : Careful disk (.env e) p)
    (taken : (system disk).step (.env e) p = some p') : Inv disk p' := by
  obtain ⟨ts, s', moved, rfl⟩ := System.step_env taken
  cases e with
  | request newSizeGb requestedBy =>
    obtain ⟨rest, asLarge⟩ := careful
    obtain ⟨d, found, moved⟩ := Option.bind_eq_some_iff.mp moved
    obtain ⟨vm, -, moved⟩ := Option.bind_eq_some_iff.mp moved
    cases moved
    have size : rowSize disk p.shared.desk.world.db = some d.sizeBytes := by
      rw [rowSize, found]
      rfl
    refine h.started rest (.inl ⟨d.sizeBytes, h.grown.row d.sizeBytes size, (asLarge d.sizeBytes size).symm, ?_⟩)
    exact (obeys_request (Table.pk_of_get found) ()).mono (fun _ => id) fun _ _ => trivial
  | deliver message taskId =>
    obtain ⟨rest, latest⟩ := careful
    obtain ⟨⟨job, task⟩, found, moved⟩ := Option.bind_eq_some_iff.mp moved
    cases moved
    obtain ⟨n, rfl⟩ := h.queue _ (List.mem_of_getElem? found)
    have newest : p.shared.desk.queue.getLast? = some (job, .resizeDisk disk n) := by
      rw [List.getLast?_eq_getElem?, ← latest]
      exact found
    refine h.started rest (.inr ⟨job, n, newest, ?_⟩)
    exact (obeys_run ()).mono (fun _ => id) fun _ _ => trivial
  | elsewhere db =>
    have moved : env disk (.elsewhere db) p.shared = some (ts, s') := moved
    simp only [env] at moved
    split at moved
    · next kept =>
      cases moved
      rw [List.append_nil]
      refine ⟨⟨h.grown.sent, h.grown.sizes, fun size found => ?_⟩, h.nonempty, h.queue, h.newest, h.threads⟩
      have found : rowSize disk db = some size := found
      rcases kept with gone | same
      · rw [gone] at found
        cases found
      · exact h.grown.row size (same ▸ found)
    · cases moved

/-- **No disk shrinks** in a run whose requests find the disk at rest, as large in its row as on the host, and whose
workers are given the newest message, with nothing else under way. -/
theorem disks_grow {world : World} {size : Nat} (there : rowSize disk world.db = some size)
    {ls : List (Label Devices.Choice Event)} (careful : Along (system disk).step (Careful disk) ls ⟨[], start world size⟩) :
    ∀ p ∈ visited (system disk).step ls ⟨[], start world size⟩, Grown disk p.shared := by
  intro p hp
  have begin : Inv disk ⟨[], start world size⟩ := by
    refine ⟨⟨by simp [start], by simp [start], fun z found => ?_⟩, by simp [start], by simp [start],
      fun job n last => ?_, fun i t ht => ?_⟩
    · rw [show rowSize disk (start world size).desk.world.db = some size from there] at found
      exact found
    · simp [start] at last
    · simp at ht
  refine (visited_keeps (I := Inv disk) (fun l p p' inv met taken => ?_) begin careful hp).grown
  cases l with
  | act i c => exact act_keeps inv taken
  | env e => exact env_keeps inv met taken

end Parts

/-- A VM with a disk of 20 GiB. -/
def smallDisk : World :=
  { db := { webTables with disks := [{ pk := 1, uuid := ⟨4⟩, vm := 1, storage := 1, name := "root"
                                       volumeId := "tank/root", sizeBytes := 20 * 1024 ^ 3 }] }
    script := fun _ => {} }

/-- The next operations of a thread. All go through. -/
def acts (thread count : Nat) : List (Label Devices.Choice Event) :=
  (List.range count).map fun i => .act thread { uuid := ⟨100 * thread + i + 10⟩, agent := .ok [] }

def grownOnce : List (Label Devices.Choice Event) :=
  .env (.request 40 none) :: acts 0 5 ++ .env (.deliver 0 "a") :: acts 1 13

/-- 40 GiB and then 30 GiB are asked for before a worker is free. -/
def shrunk : List (Label Devices.Choice Event) :=
  .env (.request 40 none) :: acts 0 5 ++ .env (.request 30 none) :: acts 1 5 ++
    .env (.deliver 0 "a") :: acts 2 13 ++ .env (.deliver 1 "b") :: acts 3 13

theorem disks_grow_once : ∃ p ∈ visited (system 1).step grownOnce ⟨[], start smallDisk (20 * 1024 ^ 3)⟩,
    p.shared.sizes = [40 * 1024 ^ 3, 20 * 1024 ^ 3] ∧ Grown 1 p.shared := by
  have run : (runFrom (system 1).step grownOnce ⟨[], start smallDisk (20 * 1024 ^ 3)⟩).any fun p =>
      p.shared.sizes = [40 * 1024 ^ 3, 20 * 1024 ^ 3] := by decide +kernel
  obtain ⟨p, ended, sizes⟩ := (Option.any_eq_true _ _).mp run
  have visits := mem_visited ended
  exact ⟨p, visits, of_decide_eq_true sizes, disks_grow (by decide) (by decide +kernel) p visits⟩

theorem disks_shrink : ¬ ∀ (ls : List (Label Devices.Choice Event)) (world : World) (size : Nat),
    rowSize 1 world.db = some size →
    ∀ p ∈ visited (system 1).step ls ⟨[], start world size⟩, Grown 1 p.shared := by
  intro h
  have run : (runFrom (system 1).step shrunk ⟨[], start smallDisk (20 * 1024 ^ 3)⟩).any fun p =>
      (30 * 1024 ^ 3, 40 * 1024 ^ 3) ∈ p.shared.sent := by decide +kernel
  obtain ⟨p, ended, sent⟩ := (Option.any_eq_true _ _).mp run
  have small := (h shrunk smallDisk _ (by decide) p (mem_visited ended)).sent _ (of_decide_eq_true sent)
  simp at small

end NodePilot.Resizes
