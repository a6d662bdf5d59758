import NodePilot.Laws.Footprints

/-!
# The status a lifecycle operation runs on

`_start_lifecycle_job` looks at the status of a VM once, when the request arrives, and its task
never looks again. What the task finds when it sends its operation is what the tasks in between
have left. A request is safe beside another one if whatever the first may leave is a status the
second may start from; `Compatible` asks this, both ways, of every request that is admitted while
another one may still act.

The threads are followed by what they may do, whatever they are answered (`Obeys`): a thread writes
no status of the VM but the ones in `leaves`.
-/

namespace NodePilot

open Lib Lib.Script

/-! ## Compatible requests -/

namespace LifecycleRequest

/-- The statuses that the task of a request may give to the VM, `none` for a row that is gone. -/
def leaves : LifecycleRequest → List (Option VMStatus)
  | start | reboot _ | resume => [some .running]
  | stop _ => [some .stopped]
  | pause => [some .paused]
  | delete => [some .deleting, some .error, none]
  | clone _ _ => []

/-- `_ALLOWED_FROM` for the job of a request. -/
def allowed (r : LifecycleRequest) : List VMStatus := (allowedFrom r.jobType).getD []

/-- Whatever `a` leaves, `b` may start from. -/
def admits (a b : LifecycleRequest) : Prop := ∀ st ∈ a.leaves, ∃ s ∈ b.allowed, st = some s

/-- Each admits the other. -/
def compatible (a b : LifecycleRequest) : Prop := a.admits b ∧ b.admits a

instance (a b : LifecycleRequest) : Decidable (a.admits b) :=
  inferInstanceAs (Decidable (∀ st ∈ a.leaves, ∃ s ∈ b.allowed, st = some s))

instance (a b : LifecycleRequest) : Decidable (a.compatible b) :=
  inferInstanceAs (Decidable (_ ∧ _))

/-- A request is forbidden outside the statuses it allows. -/
theorem forbidden_iff (r : LifecycleRequest) (st : VMStatus) :
    forbidden r.jobType st = true ↔ st ∉ r.allowed := by
  rcases r with _ | force | force | _ | _ | _ | _
  all_goals first | cases force | skip
  all_goals simp [forbidden, allowed, allowedFrom, jobType]

end LifecycleRequest

/-! ## What the bodies of the tasks may write -/

/-- The key of a new VM is not the one the requests are about. -/
def freshRow (vm : Nat) : (o : Op) → Ans o → Prop
  | .createVm _, .ok row => row.pk ≠ vm
  | _, _ => True

/-- The operation gives the VM no status outside `S`. Only a thread that gives it none creates
another VM. -/
def Op.writesOnly (vm : Nat) (S : List (Option VMStatus)) : Op → Prop
  | .write x => ∀ st, x.vmStatus vm = some st → st ∈ S
  | .createVm _ => S = []
  | _ => True

section Footprints

variable {L α β : Type} {vm : Nat} {S : List (Option VMStatus)} {Q : α → Prop}

/-- The script gives the VM no status outside `S`. -/
abbrev Fits (vm : Nat) (S : List (Option VMStatus)) (Q : α → Prop) (x : TaskM L α) : Prop :=
  Obeys (freshRow vm) (Op.writesOnly vm S) Q x

/-- Routine sets no status. -/
theorem routine_writesOnly : Routine (Op.writesOnly vm S) where
  read := trivial
  acquire _ _ := trivial
  release _ := trivial
  emit _ := trivial
  mac := trivial
  job x hx st h := by
    rw [hx.vmStatus vm] at h
    cases h

/-- A save that gives a VM a status in `S`. -/
theorem writesOnly_status {pk : Nat} {status : VMStatus} {error : Option String}
    (hS : some status ∈ S) :
    Op.writesOnly vm S (.write (.vmSave pk { status := some status, lastError := error })) := by
  intro st h
  simp only [Write.vmStatus] at h
  split at h
  · cases h
    exact hS
  · cases h

/-- A save that gives a VM no status. -/
theorem writesOnly_silent {pk : Nat} {fields : VmFields} (silent : fields.status = none ∨ pk ≠ vm) :
    Op.writesOnly vm S (.write (.vmSave pk fields)) := by
  intro st h
  simp only [Write.vmStatus] at h
  split at h
  · next same =>
    rcases silent with none | other
    · rw [none] at h
      cases h
    · exact absurd same other
  · cases h

/-- A lifecycle task writes its one status. -/
theorem fits_simpleLifecycleTask {jobId : Nat} {operation : OperationType} {status : VMStatus}
    {step event : String} (hS : some status ∈ S) :
    Fits (L := L) vm S (fun _ => True) (simpleLifecycleTask jobId vm operation status step event) :=
  routine_writesOnly.simpleLifecycleTask (fun _ _ _ _ => trivial) (fun _ => writesOnly_status hS)
    fun _ _ => writesOnly_silent (.inl rfl)

/-- `delete_vm_task` writes DELETING, ERROR or nothing. -/
theorem fits_deleteVmTask {jobId : Nat} (hdeleting : some .deleting ∈ S) (herror : some .error ∈ S)
    (hgone : none ∈ S) : Fits (L := L) vm S (fun _ => True) (deleteVmTask jobId vm) := by
  refine routine_writesOnly.deleteVmTask (fun _ => trivial) (fun _ _ _ _ _ _ _ => trivial)
    (fun _ => writesOnly_status hdeleting) (fun _ _ => writesOnly_status herror) fun pk st hst => ?_
  simp only [Write.vmStatus] at hst
  split at hst
  · cases hst
    exact hgone
  · cases hst

/-- `clone_vm_task` leaves the status of its source. -/
theorem fits_cloneVmTask {jobId : Nat} {newName : String} {linked : Bool} :
    Fits (L := L) vm [] (fun _ => True) (cloneVmTask jobId vm newName linked) := by
  refine routine_writesOnly.cloneVmTask (C := fun row => row.pk ≠ vm) (fun _ _ _ _ => rfl)
    (fun _ _ h => h) (fun _ _ _ _ _ _ _ _ => trivial) (fun _ _ _ => trivial) (fun _ _ _ _ => ?_)
    (fun _ => ?_) fun clone fields other _ => writesOnly_silent (.inr other)
  all_goals
    intro st h
    cases h

/-- The task of a request gives the VM no status but those it leaves. -/
theorem fits_run (r : LifecycleRequest) (taskId : String) (jobId : Nat) :
    Fits vm r.leaves (fun _ => True) ((r.task vm).run taskId jobId) := by
  refine routine_writesOnly.jobBound ?_
  cases r with
  | start | pause | resume => exact fits_simpleLifecycleTask (List.mem_singleton_self _)
  | stop force =>
    exact routine_writesOnly.stopVmTask (fun _ _ _ _ => trivial)
      (fun _ => writesOnly_status (List.mem_singleton_self _)) fun _ _ => writesOnly_silent (.inl rfl)
  | reboot force =>
    exact routine_writesOnly.rebootVmTask (fun _ _ _ _ => trivial)
      (fun _ => writesOnly_status (List.mem_singleton_self _)) fun _ _ => writesOnly_silent (.inl rfl)
  | delete => exact fits_deleteVmTask (by decide) (by decide) (by decide)
  | clone newName linked => exact fits_cloneVmTask

end Footprints

/-! ## A request and its task -/

/-- The key of a new VM is not the one the requests are about. -/
def freshAnswer (vm : Nat) : (o : ServiceOp) → ServiceAns o → Prop
  | .task o, a => freshRow vm o a
  | _, _ => True

/-- The request's statements write no other status to the VM. -/
def ServiceOp.writesOnly (vm : Nat) (S : List (Option VMStatus)) : ServiceOp → Prop
  | .task o => o.writesOnly vm S
  | _ => True

/-- The operations that depend on the VM's status or change it. -/
def ServiceOp.touches (vm : Nat) : ServiceOp → Prop
  | .task (.send _ _ _) => True
  | .task (.write x) => x.vmStatus vm ≠ none
  | .task (.createVm _) => True
  | _ => False

/-- Whatever the thread is answered, it will neither send an operation nor write the VM's status nor
create another VM. -/
def Idle {ρ : Type} (vm : Nat) (p : Prog ServiceOp ServiceAns ρ) : Prop :=
  p.Obeys (fun _ _ => True) (fun o => ¬ o.touches vm) fun _ => True

section Threads

variable {vm : Nat} {r : LifecycleRequest} {row : VmRow} {taskId : String} {requestedBy : Option Nat}
variable {S : List (Option VMStatus)}

/-- Routine of a request sets no status. -/
theorem routine_service : ServiceRoutine (ServiceOp.writesOnly vm S) where
  task := routine_writesOnly
  createJob _ := trivial
  checkAndReserve _ := trivial

/-- A thread gives the VM no status but those its request leaves. -/
theorem obeys_script (hrow : row.pk = vm) :
    Obeys (freshAnswer vm) (ServiceOp.writesOnly vm r.leaves) (fun _ => True)
      (r.script taskId requestedBy row) := by
  refine Obeys.bind routine_service.service fun job _ => obeys_ofTask ?_
  rw [hrow]
  exact fits_run r taskId job.pk

/-- A request that is not admitted raises at once. -/
theorem idle_rejected (h : row.status ∉ r.allowed) :
    Idle vm ((r.script taskId requestedBy row).prog ()) := by
  obtain ⟨e, raised⟩ : ∃ e, r.service row requestedBy = throw e := by
    have no := (r.forbidden_iff row.status).mpr h
    cases r with
    | clone newName linked => exact ⟨_, if_pos no⟩
    | start | stop | reboot | pause | resume | delete => exact ⟨_, if_pos no⟩
  unfold LifecycleRequest.script
  rw [raised]
  exact trivial

end Threads

/-! ## The status in the row -/

section Row

variable {vm : Nat}

/-- A write that sets no status leaves the VM's status. -/
theorem Tables.write_vmStatus (vm : Nat) {now : Nat} {uuid : Uuid} {t t' : Tables} {x : Write}
    (h : t.write now uuid x = .ok t') :
    (Table.get t'.vms vm).map VmRow.status =
      (x.vmStatus vm).getD ((Table.get t.vms vm).map VmRow.status) := by
  cases x with
  | vmSave pk fields =>
    obtain ⟨rows, hrows, rfl⟩ := except_bind_ok h
    unfold saveRow at hrows
    split at hrows
    · cases hrows
    · next found hfound =>
      cases hrows
      have keeps : ∀ v : VmRow, Row.pk (fields.apply v) = Row.pk v := fun _ => rfl
      rw [Table.get_modify keeps]
      by_cases same : pk = vm
      · subst same
        cases hstatus : fields.status <;> simp [Write.vmStatus, hfound, VmFields.apply, hstatus]
      · have other : ¬ vm = pk := fun e => same e.symm
        simp [Write.vmStatus, same, other]
  | vmDelete pk =>
    cases h
    by_cases same : pk = vm
    · subst same
      simp [Write.vmStatus, Table.get_remove_self]
    · have other : vm ≠ pk := fun e => same e.symm
      simp [Write.vmStatus, same, Table.get_remove_ne other]
  | _ =>
    rw [Tables.write_vms h]
    rfl

/-- An INSERT leaves the VMs that were there. -/
theorem Tables.createVm_vms {uuid domainUuid : Uuid} {t t' : Tables} {row row' : VmRow}
    (h : t.createVm uuid domainUuid row = .ok (row', t')) :
    t'.vms = t.vms ++ [row'] ∧ row'.pk = Table.nextPk t.vms := by
  obtain ⟨rfl, key⟩ := Tables.createVm_ok h
  exact ⟨rfl, key⟩

/-- One operation leaves the status alone and no mark, or it is a write that gives the status it
marks. -/
theorem rowStatus_answer {c : Choice} {o : Op} {w : World} (thread : Nat)
    (fresh : freshRow vm o (World.answer c o w).1) :
    (Site.mark vm thread o (World.answer c o w).1 = [] ∧
      Site.rowStatus vm (World.answer c o w).2 = Site.rowStatus vm w) ∨
    ∃ x st, o = .write x ∧ x.vmStatus vm = some st ∧
      Site.mark vm thread o (World.answer c o w).1 = [(some thread, st)] ∧
      Site.rowStatus vm (World.answer c o w).2 = st := by
  cases o with
  | read | release | now | mac => exact .inl ⟨rfl, rfl⟩
  | acquire key ttl =>
    simp only [World.answer]
    split <;> exact .inl ⟨rfl, rfl⟩
  | send node r timeout => cases node <;> exact .inl ⟨rfl, rfl⟩
  | emit event =>
    refine .inl ⟨rfl, ?_⟩
    simp only [World.answer, World.statement]
    split
    · next he => split at he <;> cases he; rfl
    · rfl
  | createVm row =>
    refine .inl ⟨rfl, ?_⟩
    simp only [World.answer] at fresh ⊢
    cases made : if c.dbFails = true then .error .databaseError
        else w.db.createVm c.uuid c.domainUuid row with
    | error e => rfl
    | ok r =>
      obtain ⟨row', db⟩ := r
      rw [made] at fresh
      split at made
      · cases made
      · obtain ⟨vms, -⟩ := Tables.createVm_vms made
        have other : row'.pk ≠ vm := fresh
        show (Table.get db.vms vm).map _ = _
        rw [vms, Table.get_append_ne other]
        rfl
  | write x =>
    simp only [World.answer, World.statement]
    split
    · next db he =>
      split at he
      · cases he
      · have status := Tables.write_vmStatus vm he
        cases hx : x.vmStatus vm with
        | none =>
          rw [hx] at status
          exact .inl ⟨by simp [Site.mark, hx], status⟩
        | some st =>
          rw [hx] at status
          exact .inr ⟨x, st, rfl, hx, by simp [Site.mark, hx], status⟩
    · exact .inl ⟨rfl, rfl⟩

/-- While the VM has a row, a new VM gets another key. -/
theorem freshRow_of_row {o : Op} {w : World} {status : VMStatus}
    (h : Site.rowStatus vm w = some status) (c : Choice) : freshRow vm o (World.answer c o w).1 := by
  cases o with
  | createVm row =>
    obtain ⟨found, hfound, -⟩ := Option.map_eq_some_iff.mp h
    simp only [World.answer]
    split
    · next row' db made =>
      split at made
      · cases made
      · obtain ⟨-, hpk⟩ := Tables.createVm_vms made
        show row'.pk ≠ vm
        rw [hpk]
        exact Table.nextPk_ne hfound
    · trivial
  | read | write | send | acquire | release | emit | now | mac => exact trivial

/-- A request to cancel leaves the VMs. -/
theorem requestCancel_vms {now : Nat} {t : Tables} {job : Option Nat} :
    (t.requestCancel now job).vms = t.vms := by
  rcases t.requestCancel_cases now job with same | ⟨job, row, -, -, turned⟩
  · rw [same]
  · rw [turned]

end Row

/-! ## Threads side by side -/

namespace Site

/-- The threads about a VM. -/
abbrev Threads : Type :=
  Pool LifecycleRequest ServiceOp ServiceAns (Except Exn Unit × Unit) Site

/-- A request that is admitted is compatible with every thread that is not idle. -/
def Compatible (vm : Nat) : Label ServiceChoice Event → Threads → Prop
  | .env (.request r _ _), p => ∀ status ∈ r.allowed, rowStatus vm p.shared.world = some status →
      ∀ t ∈ p.threads, ¬ Idle vm t.rest → r.compatible t.tag
  | _, _ => True

/-- **The invariant.** The row has the status marked last, every mark is one its thread leaves, every
thread obeys, and the threads that are not idle may start from what the others left them and are
compatible with each other. -/
structure Settled (vm : Nat) (p : Threads) : Prop where
  row : ∃ m rest, p.shared.marks = m :: rest ∧ rowStatus vm p.shared.world = m.2
  authors : ∀ m ∈ p.shared.marks, ∀ i, m.1 = some i →
    ∃ t, p.threads[i]? = some t ∧ m.2 ∈ t.tag.leaves
  obeys : ∀ t ∈ p.threads,
    t.rest.Obeys (freshAnswer vm) (ServiceOp.writesOnly vm t.tag.leaves) fun _ => True
  allowed : ∀ i t, p.threads[i]? = some t → ¬ Idle vm t.rest →
    ∃ st ∈ t.tag.allowed, p.shared.leftTo i = some st
  apart : ∀ (i j : Nat) (t u : Worker), i ≠ j → p.threads[i]? = some t → p.threads[j]? = some u →
    ¬ Idle vm t.rest → ¬ Idle vm u.rest → t.tag.compatible u.tag

variable {vm : Nat} {s s' : Site} {i j : Nat}

/-- What a thread writes itself does not change what is left to it. -/
theorem leftTo_self {w : World} {st : Option VMStatus} :
    leftTo ⟨w, (some i, st) :: s.marks⟩ i = leftTo s i := by
  simp [leftTo]

/-- What a thread has written is what the others are left. -/
theorem leftTo_other {w : World} {st : Option VMStatus} (h : j ≠ i) :
    leftTo ⟨w, (some i, st) :: s.marks⟩ j = st := by
  have other : ¬ i = j := fun e => h e.symm
  simp [leftTo, other]

/-- A thread that has written nothing is left the status in the row. -/
theorem leftTo_unwritten {p : Threads} (h : Settled vm p)
    (unwritten : ∀ m ∈ p.shared.marks, m.1 ≠ some i) :
    p.shared.leftTo i = rowStatus vm p.shared.world := by
  obtain ⟨m, rest, marks, status⟩ := h.row
  have head : m.1 ≠ some i := unwritten m (marks ▸ List.mem_cons_self)
  rw [status, leftTo, marks, List.find?_cons_of_pos (by simpa using head)]
  rfl

/-- A thread that comes to an operation which touches the VM is not idle. -/
theorem not_idle {o : ServiceOp} {k : ServiceAns o → Prog ServiceOp ServiceAns (Except Exn Unit × Unit)}
    (h : o.touches vm) : ¬ Idle vm (.vis o k) := fun idle => idle.1 h

/-- Whoever has something to do is not idle. -/
theorem not_idle_of_rest {o : ServiceOp} {a : ServiceAns o}
    {k : ServiceAns o → Prog ServiceOp ServiceAns (Except Exn Unit × Unit)}
    (h : ¬ Idle vm (k a)) : ¬ Idle vm (.vis o k) := fun idle => h (idle.2 a trivial)

/-- Marks of a thread stay marks of that thread when some thread moves on. -/
theorem Settled.author_moves {p : Threads} (h : Settled vm p) {t : Worker} {rest : _}
    (hi : p.threads[i]? = some t) {m : Option Nat × Option VMStatus} (hm : m ∈ p.shared.marks)
    (hj : m.1 = some j) :
    ∃ u, (p.threads.set i ⟨t.tag, rest⟩)[j]? = some u ∧ m.2 ∈ u.tag.leaves := by
  obtain ⟨u, hu, leaves⟩ := h.authors m hm j hj
  by_cases same : i = j
  · subst same
    obtain rfl : t = u := Option.some.inj (hi.symm.trans hu)
    exact ⟨_, List.getElem?_set_self (List.getElem?_eq_some_iff.mp hi).1, leaves⟩
  · exact ⟨u, by rw [List.getElem?_set_ne same]; exact hu, leaves⟩

/-- A new VM's key is not the VM's: a thread that creates one has written no status, so the row
is there. -/
theorem Settled.fresh {p : Threads} (h : Settled vm p) {tag : LifecycleRequest} {o : Op}
    {k : Ans o → Prog ServiceOp ServiceAns (Except Exn Unit × Unit)}
    (hi : p.threads[i]? = some ⟨tag, .vis (.task o) k⟩) (c : Choice) :
    freshRow vm o (World.answer c o p.shared.world).1 := by
  cases o with
  | createVm row =>
    have silent : tag.leaves = [] := (h.obeys _ (List.mem_of_getElem? hi)).1
    have unwritten : ∀ m ∈ p.shared.marks, m.1 ≠ some i := by
      intro m hm hmi
      obtain ⟨t, ht, leaves⟩ := h.authors m hm i hmi
      obtain rfl := Option.some.inj (hi.symm.trans ht)
      rw [silent] at leaves
      cases leaves
    obtain ⟨st, -, left⟩ := h.allowed i _ hi (not_idle trivial)
    rw [leftTo_unwritten h unwritten] at left
    exact freshRow_of_row left c
  | read | write | send | acquire | release | emit | now | mac => exact trivial

section Moves

variable {p : Threads} {tag : LifecycleRequest} {o : ServiceOp} {a : ServiceAns o} {w : World}
variable {k : ServiceAns o → Prog ServiceOp ServiceAns (Except Exn Unit × Unit)}

/-- Every thread after a move was there before, and was not idle if it is not. -/
theorem thread_before (vm : Nat) (hi : p.threads[i]? = some ⟨tag, .vis o k⟩) {u : Worker}
    (hj : (p.threads.set i ⟨tag, k a⟩)[j]? = some u) :
    ∃ u', p.threads[j]? = some u' ∧ u'.tag = u.tag ∧ (¬ Idle vm u.rest → ¬ Idle vm u'.rest) := by
  by_cases same : i = j
  · subst same
    rw [List.getElem?_set_self (List.getElem?_eq_some_iff.mp hi).1] at hj
    cases hj
    exact ⟨_, hi, rfl, not_idle_of_rest⟩
  · rw [List.getElem?_set_ne same] at hj
    exact ⟨u, hj, rfl, id⟩

/-- After its statement a thread still does what it may. -/
theorem Settled.obeys_set (h : Settled vm p) (hi : p.threads[i]? = some ⟨tag, .vis o k⟩)
    (fresh : freshAnswer vm o a) : ∀ t ∈ p.threads.set i ⟨tag, k a⟩,
      t.rest.Obeys (freshAnswer vm) (ServiceOp.writesOnly vm t.tag.leaves) fun _ => True := by
  intro t ht
  rcases List.mem_or_eq_of_mem_set ht with ht | rfl
  · exact h.obeys t ht
  · exact (h.obeys _ (List.mem_of_getElem? hi)).2 a fresh

/-- After its statement a thread is still compatible with the others. -/
theorem Settled.apart_set (h : Settled vm p) (hi : p.threads[i]? = some ⟨tag, .vis o k⟩) :
    ∀ (j l : Nat) (t u : Worker), j ≠ l → (p.threads.set i ⟨tag, k a⟩)[j]? = some t →
      (p.threads.set i ⟨tag, k a⟩)[l]? = some u → ¬ Idle vm t.rest → ¬ Idle vm u.rest →
      t.tag.compatible u.tag := by
  intro j l t u hne ht hu hti hui
  obtain ⟨t', ht', tagt, idlet⟩ := thread_before vm hi ht
  obtain ⟨u', hu', tagu, idleu⟩ := thread_before vm hi hu
  have apart := h.apart j l t' u' hne ht' hu' (idlet hti) (idleu hui)
  rw [tagt, tagu] at apart
  exact apart

/-- A move that leaves the status alone. -/
theorem Settled.quiet (h : Settled vm p) (hi : p.threads[i]? = some ⟨tag, .vis o k⟩)
    (fresh : freshAnswer vm o a) (status : rowStatus vm w = rowStatus vm p.shared.world) :
    Settled vm ⟨p.threads.set i ⟨tag, k a⟩, ⟨w, p.shared.marks⟩⟩ where
  row := by
    obtain ⟨m, rest, marks, hm⟩ := h.row
    exact ⟨m, rest, marks, status.trans hm⟩
  authors := fun m hm j hj => h.author_moves hi hm hj
  obeys := h.obeys_set hi fresh
  allowed := by
    intro j u hu hidle
    obtain ⟨u', hu', tags, before⟩ := thread_before vm hi hu
    obtain ⟨st, hst, left⟩ := h.allowed j u' hu' (before hidle)
    exact ⟨st, tags ▸ hst, left⟩
  apart := h.apart_set hi

/-- A move that writes the status. Whoever is not idle is compatible with the writer. -/
theorem Settled.write (h : Settled vm p) (hi : p.threads[i]? = some ⟨tag, .vis o k⟩)
    (fresh : freshAnswer vm o a) {st : Option VMStatus} (touches : o.touches vm)
    (leaves : st ∈ tag.leaves) (status : rowStatus vm w = st) :
    Settled vm ⟨p.threads.set i ⟨tag, k a⟩, ⟨w, (some i, st) :: p.shared.marks⟩⟩ where
  row := ⟨_, _, rfl, status⟩
  authors := by
    intro m hm j hj
    rcases List.mem_cons.mp hm with rfl | hm
    · cases hj
      exact ⟨_, List.getElem?_set_self (List.getElem?_eq_some_iff.mp hi).1, leaves⟩
    · exact h.author_moves hi hm hj
  obeys := h.obeys_set hi fresh
  allowed := by
    intro j u hu hidle
    obtain ⟨u', hu', tags, before⟩ := thread_before vm hi hu
    by_cases same : j = i
    · subst same
      obtain ⟨st', hst', left⟩ := h.allowed j u' hu' (before hidle)
      exact ⟨st', tags ▸ hst', leftTo_self.trans left⟩
    · have compatible := h.apart i j _ u' (fun e => same e.symm) hi hu' (not_idle touches)
        (before hidle)
      obtain ⟨st', hst', rfl⟩ := compatible.1 st leaves
      exact ⟨st', tags ▸ hst', leftTo_other same⟩
  apart := h.apart_set hi

end Moves

/-- A statement keeps the threads settled. -/
theorem Settled.act {p p' : Threads} {c : ServiceChoice} (h : Settled vm p)
    (hstep : (system vm).step (.act i c) p = some p') : Settled vm p' := by
  obtain ⟨tag, o, k, a, s, hi, hact, rfl⟩ := System.step_act hstep
  cases o with
  | task o =>
    have fresh := h.fresh hi c.toChoice
    cases hact
    rcases rowStatus_answer i fresh with ⟨mark, status⟩ | ⟨x, st, rfl, hx, mark, status⟩
    · rw [mark]
      exact h.quiet hi fresh status
    · rw [mark]
      have leaves : st ∈ tag.leaves := (h.obeys _ (List.mem_of_getElem? hi)).1 st hx
      have touches : ServiceOp.touches vm (.task (.write x)) := by
        simp [ServiceOp.touches, hx]
      exact h.write hi fresh touches leaves status
  | createJob row =>
    simp only [system, Site.act] at hact
    split at hact
    · cases hact
      exact h.quiet hi trivial rfl
    · cases hact
      exact h.quiet hi trivial rfl
  | checkAndReserve row =>
    simp only [system, Site.act] at hact
    split at hact
    · cases hact
      exact h.quiet hi trivial rfl
    · cases hact
      exact h.quiet hi trivial rfl

/-- A request that arrives starts a thread that has written nothing. -/
theorem Settled.request {p : Threads} {r : LifecycleRequest} {requestedBy : Option Nat}
    {taskId : String} {row : VmRow} (h : Settled vm p)
    (hrow : Table.get p.shared.world.db.vms vm = some row)
    (compatible : Compatible vm (.env (.request r requestedBy taskId)) p) :
    Settled vm ⟨p.threads ++ [⟨r, (r.script taskId requestedBy row).prog ()⟩], p.shared⟩ := by
  have loaded : rowStatus vm p.shared.world = some row.status := by simp [rowStatus, hrow]
  have old {j : Nat} {u : Worker}
      (hj : (p.threads ++ [⟨r, (r.script taskId requestedBy row).prog ()⟩])[j]? = some u) :
      p.threads[j]? = some u ∨
        (j = p.threads.length ∧ u = ⟨r, (r.script taskId requestedBy row).prog ()⟩) := by
    rw [List.getElem?_append] at hj
    split at hj
    · exact .inl hj
    · next ge =>
      obtain ⟨hlt, hu⟩ := List.getElem?_eq_some_iff.mp hj
      have : j - p.threads.length = 0 := by simpa using hlt
      refine .inr ⟨by omega, ?_⟩
      simpa [this] using hu.symm
  have admitted (hidle : ¬ Idle vm ((r.script taskId requestedBy row).prog ())) :
      row.status ∈ r.allowed := by
    by_contra rejected
    exact hidle (idle_rejected rejected)
  refine ⟨h.row, ?_, ?_, ?_, ?_⟩
  · intro m hm j hj
    obtain ⟨t, ht, leaves⟩ := h.authors m hm j hj
    exact ⟨t, List.getElem?_append_left (List.getElem?_eq_some_iff.mp ht).1 ▸ ht, leaves⟩
  · intro t ht
    rcases List.mem_append.mp ht with ht | ht
    · exact h.obeys t ht
    · rw [List.mem_singleton.mp ht]
      refine (obeys_script (Table.pk_of_get hrow) ()).mono (fun _ => id) fun _ _ => trivial
  · intro j u hu hidle
    rcases old hu with hu | ⟨rfl, rfl⟩
    · exact h.allowed j u hu hidle
    · have unwritten : ∀ m ∈ p.shared.marks, m.1 ≠ some p.threads.length := by
        intro m hm hmi
        obtain ⟨t, ht, -⟩ := h.authors m hm _ hmi
        have := (List.getElem?_eq_some_iff.mp ht).1
        omega
      have left := leftTo_unwritten h unwritten
      exact ⟨row.status, admitted hidle, left.trans loaded⟩
  · intro j l t u hne ht hu hti hui
    rcases old ht with ht | ⟨rfl, rfl⟩
    · rcases old hu with hu | ⟨rfl, rfl⟩
      · exact h.apart j l t u hne ht hu hti hui
      · exact (compatible row.status (admitted hui) loaded t (List.mem_of_getElem? ht) hti).symm
    · rcases old hu with hu | ⟨rfl, rfl⟩
      · exact compatible row.status (admitted hti) loaded u (List.mem_of_getElem? hu) hui
      · exact absurd rfl hne

/-- So does every step. -/
theorem Settled.step {l : Label ServiceChoice Event} {p p' : Threads} (h : Settled vm p)
    (compatible : Compatible vm l p) (hstep : (system vm).step l p = some p') : Settled vm p' := by
  cases l with
  | act thread c => exact h.act hstep
  | env event =>
    obtain ⟨ts, s, henv, rfl⟩ := System.step_env hstep
    cases event with
    | request r requestedBy taskId =>
      obtain ⟨row, hrow, same⟩ := Option.map_eq_some_iff.mp henv
      cases same
      exact h.request hrow compatible
    | cancel job now =>
      cases henv
      obtain ⟨m, rest, marks, status⟩ := h.row
      refine ⟨⟨m, rest, marks, ?_⟩, ?_, ?_, ?_, ?_⟩
      · rw [← status]
        show (Table.get (p.shared.world.db.requestCancel now (some job)).vms vm).map _ = _
        rw [requestCancel_vms]
        rfl
      · simpa using h.authors
      · simpa using h.obeys
      · intro i t ht hidle
        exact h.allowed i t (by simpa using ht) hidle
      · simpa using h.apart

/-- Every thread that is about to send an operation finds the VM, as the others have left it, in a
status its job may start from. -/
def Prepared (p : Threads) : Prop :=
  ∀ i tag node request timeout k,
    p.threads[i]? = some ⟨tag, .vis (.task (.send node request timeout)) k⟩ →
    ∃ allowed, allowedFrom tag.jobType = some allowed ∧
      ∃ st ∈ allowed, p.shared.leftTo i = some st

/-- What a request allows is what the source's table says. -/
theorem LifecycleRequest.allowedFrom_eq (r : LifecycleRequest) :
    allowedFrom r.jobType = some r.allowed := by
  rcases r with _ | force | force | _ | _ | _ | _
  all_goals first | cases force | skip
  all_goals rfl

/-- **Compatible requests find what they were admitted for.** In every run of requests about a VM
and their tasks, however they interleave and whatever they are answered: if every request is
compatible with those that may still act when it is admitted, then whenever a task sends an
operation the VM's status, as the other tasks have left it, is in `_ALLOWED_FROM` of its job. -/
theorem compatible_prepared (vm : Nat) (w : World) (ls : List (Label ServiceChoice Event))
    (p : Threads) (run : runFrom (system vm).step ls ⟨[], start vm w⟩ = some p)
    (compatible : Along (system vm).step (Compatible vm) ls ⟨[], start vm w⟩) : Prepared p := by
  have first : Settled vm ⟨[], start vm w⟩ := by
    refine ⟨⟨_, _, rfl, rfl⟩, ?_, ?_, ?_, ?_⟩
    · intro m hm i hi
      rw [List.mem_singleton.mp hm] at hi
      cases hi
    · intro t ht
      cases ht
    · intro i t ht
      simp at ht
    · intro i j t u _ ht
      simp at ht
  have ends : Settled vm p :=
    runFrom_keeps (I := Settled vm) (fun _ _ _ h hc hs => h.step hc hs) first compatible run
  intro i tag node request timeout k hi
  obtain ⟨st, hst, left⟩ := ends.allowed i _ hi (not_idle trivial)
  exact ⟨tag.allowed, LifecycleRequest.allowedFrom_eq tag, st, hst, left⟩

/-- A VM that nobody works on. -/
def oneVm (status : VMStatus) : World where
  db :=
    { vms := [{ pk := 1, uuid := ⟨1⟩, domainUuid := ⟨2⟩, organization := 1, project := 1,
                node := some 1, name := "web", status := status }]
      nodes := [{ pk := 1, name := "n1" }] }
  script := fun _ => {}

/-- The next `n` operations of a thread. -/
def acts (thread n : Nat) : List (Label ServiceChoice Event) := List.replicate n (.act thread {})

/-- Two requests arrive, both are accepted, and then their tasks run for a while. -/
def twoRequests (a b : LifecycleRequest) (n m : Nat) : List (Label ServiceChoice Event) :=
  [.env (.request a none "a"), .env (.request b none "b")] ++
    (acts 0 3 ++ acts 1 3 ++ acts 0 n ++ acts 1 m)

/-- Two reboots of a running VM are compatible, and each finds it running. -/
theorem compatible_prepared_reboots :
    ∃ p, runFrom (system 1).step (twoRequests (.reboot false) (.reboot true) 11 4)
      ⟨[], start 1 (oneVm .running)⟩ = some p ∧ Prepared p := by
  have operations : ∀ l ∈ acts 0 3 ++ acts 1 3 ++ acts 0 11 ++ acts 1 4,
      ∀ p, Compatible 1 l p := by
    intro l hl p
    simp only [acts, List.mem_append, List.mem_replicate] at hl
    rcases hl with ((⟨-, rfl⟩ | ⟨-, rfl⟩) | ⟨-, rfl⟩) | ⟨-, rfl⟩ <;> trivial
  refine ⟨_, rfl, compatible_prepared 1 (oneVm .running)
    (twoRequests (.reboot false) (.reboot true) 11 4) _ rfl
    ⟨?_, ?_, Along.of_forall operations _⟩⟩
  · intro status _ _ t ht
    cases ht
  · intro status _ _ t ht _
    rw [List.mem_singleton.mp ht]
    decide

/-- A start and a deletion are both accepted on a stopped VM. The start completes, and DELETE_VM is
sent for a VM that is running. -/
theorem startThenDelete_unprepared :
    ∃ p, runFrom (system 1).step (twoRequests .start .delete 14 11)
      ⟨[], start 1 (oneVm .stopped)⟩ = some p ∧
      (∃ node request timeout k, request.operation = .deleteVm ∧
        p.threads[1]? = some ⟨.delete, .vis (.task (.send node request timeout)) k⟩) ∧
      p.shared.leftTo 1 = some .running ∧ ¬ Prepared p := by
  refine ⟨_, rfl, ⟨_, _, _, _, rfl, rfl⟩, rfl, ?_⟩
  intro prepared
  obtain ⟨allowed, hallowed, st, hst, left⟩ := prepared 1 _ _ _ _ _ rfl
  cases hallowed
  cases left
  revert hst
  decide

end Site

end NodePilot
