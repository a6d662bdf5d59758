import NodePilot.Deletion
import NodePilot.Laws.Accepted

/-!
# Which VMs can be deleted

`delete_vm_task` sends DELETE_VM and then DELETE_DISK for each volume that is recorded, and gives up at
the first one that fails. The agent finds the domain by the VM's `uuid`, and fails where there is none;
so it does for a logical volume or a dataset that is gone. `deletable_iff` says from which states the
deletion gets through.
-/

namespace NodePilot.Deletion

open Lib Lib.Script Agent

/-! ## What is promised, and when -/

/-- The disks of a VM whose volumes are recorded, with their pools. -/
def volumes (t : Tables) (v : VmRow) : List (DiskRow × PoolRow) :=
  (t.disksWithStorage v.pk).filter fun d => d.1.volumeId ≠ ""

/-- The backend that a disk is on. -/
def backend (d : DiskRow × PoolRow) : Option Backend := getBackend d.2.type.value d.2.path

/-- The volume that is recorded of a disk. -/
def volume (d : DiskRow × PoolRow) : Option Volume :=
  (backend d).map fun b => ⟨b.kind, d.1.volumeId⟩

/-- The agent can remove the disk's volume. -/
def removes (s : Storage) (d : DiskRow × PoolRow) : Prop :=
  ∃ b ∈ backend d, b.owns s d.2.path d.1.volumeId ∧
    (b = .directory ∨ (⟨b.kind, d.1.volumeId⟩ : Volume) ∈ s.volumes)

/-- The volumes of the two are one, and not a file. -/
def shared (d d' : DiskRow × PoolRow) : Prop :=
  ∃ v ∈ volume d, v.kind ≠ .file ∧ volume d' = some v

instance (s : Storage) (d : DiskRow × PoolRow) : Decidable (removes s d) :=
  inferInstanceAs (Decidable (∃ b ∈ backend d, _))

instance (d d' : DiskRow × PoolRow) : Decidable (shared d d') :=
  inferInstanceAs (Decidable (∃ v ∈ volume d, _))

/-- The condition: a domain under the VM's `uuid`, and every recorded volume in its place. -/
structure Removable (h : VmHost) (t : Tables) (v : VmRow) : Prop where
  defined : h.domains v.uuid.chars ≠ none
  present : ∀ d ∈ volumes t v, removes h.storage d
  apart : (volumes t v).Pairwise fun d d' => ¬ shared d d'

/-- An agent has answered. -/
def answered : AgentOutcome → Prop
  | .ok _ | .failed _ => True
  | .noAgent | .notConnected | .timedOut _ => False

/-- An execution of which the agents perform each operation, and that nothing else stands in the way
of. -/
structure Undisturbed (x : Attempt) : Prop where
  accepted : ∀ i, (x.script i).dbFails = false
  uncanceled : ∀ i, (x.script i).cancel = none
  answered : ∀ i, answered (x.script i).agent
  works : ∀ n, x.tools n = .work
  free : x.busy = []

/-- A deletion for a queued job, with the answers that the host gives. -/
def Deletes (workdir : Text) (x : Attempt) (s : State) : Prop :=
  x.operation = .delete ∧ (∃ job ∈ Table.get s.db.jobs x.jobId, job.status = .queued) ∧
    (step workdir x s).isSome

instance (workdir : Text) (x : Attempt) (s : State) : Decidable (Deletes workdir x s) :=
  inferInstanceAs (Decidable (_ ∧ _))

/-- The VM's row is deleted, and the job is SUCCESS. -/
def Deleted (x : Attempt) (s : State) : Prop :=
  Table.get (x.world s).db.vms x.vm = none ∧ (x.world s).jobStatus x.jobId = some .success

instance (x : Attempt) (s : State) : Decidable (Deleted x s) := inferInstanceAs (Decidable (_ ∧ _))

/-! ## Removing volumes one after the other -/

section Host

variable {workdir : Text} {v : VmRow} {h h' : VmHost} {d d' : DiskRow × PoolRow}

/-- The operations of a deletion. -/
def requests (t : Tables) (v : VmRow) : List AgentRequest :=
  deleteVmRequest v true :: (volumes t v).map fun d => deleteDiskRequest v d.1 d.2

/-- The host after operations that all get through. -/
def carry (workdir : Text) : List AgentRequest → VmHost → Option VmHost
  | [], h => some h
  | r :: rest, h => (h.serve workdir r).bind fun done => carry workdir rest done.2

theorem serve_deleteDisk : h.serve workdir (deleteDiskRequest v d.1 d.2) =
    h.stored ((backend d).bind fun b =>
      (h.storage.deleteVolume b d.2.path d.1.volumeId).map fun s => ([], s)) := by
  simp [VmHost.serve, deleteDiskRequest, vmRequest, Storage.deleteDisk, backend, Dict.getStr,
    Dict.get?, List.lookup_cons, Option.map_eq_bind]

/-- DELETE_DISK gets through where the agent can remove the volume. -/
theorem serve_deleteDisk_eq_some {done : Dict × VmHost} :
    h.serve workdir (deleteDiskRequest v d.1 d.2) = some done ↔
      ∃ b ∈ backend d, b.owns h.storage d.2.path d.1.volumeId ∧
        (b = .directory ∨ (⟨b.kind, d.1.volumeId⟩ : Volume) ∈ h.storage.volumes) ∧
        ([], { h with storage := h.storage.remove ⟨b.kind, d.1.volumeId⟩ }) = done := by
  rw [serve_deleteDisk]
  cases backend d with
  | none => simp [VmHost.stored]
  | some b =>
    by_cases can : b.owns h.storage d.2.path d.1.volumeId ∧
        (b = .directory ∨ (⟨b.kind, d.1.volumeId⟩ : Volume) ∈ h.storage.volumes)
    · have deleted : h.storage.deleteVolume b d.2.path d.1.volumeId =
          some (h.storage.remove ⟨b.kind, d.1.volumeId⟩) := if_pos can
      simp [VmHost.stored, deleted, can.1, can.2]
    · have refused : h.storage.deleteVolume b d.2.path d.1.volumeId = none := if_neg can
      have never : ¬ (b.owns h.storage d.2.path d.1.volumeId ∧
          (b = .directory ∨ (⟨b.kind, d.1.volumeId⟩ : Volume) ∈ h.storage.volumes) ∧
          ([], { h with storage := h.storage.remove ⟨b.kind, d.1.volumeId⟩ }) = done) :=
        fun all => can ⟨all.1, all.2.1⟩
      simpa [VmHost.stored, refused] using never

/-- A volume that is removed is missing where another disk has it too, but for a file. -/
theorem removes_remove {s : Storage} {vol : Volume} (hd : volume d = some vol) :
    removes (s.remove vol) d' ↔ removes s d' ∧ ¬ shared d d' := by
  constructor
  · rintro ⟨b, hb, owns, present⟩
    refine ⟨⟨b, hb, owns, present.imp id fun mem => (List.mem_filter.mp mem).1⟩, ?_⟩
    rintro ⟨vol', hvol, notFile, same⟩
    rw [hd] at hvol
    cases hvol
    have here : (⟨b.kind, d'.1.volumeId⟩ : Volume) = vol := by
      rw [volume, hb] at same
      exact Option.some.inj same
    rcases present with rfl | mem
    · exact notFile (here ▸ rfl)
    · simpa [here] using (List.mem_filter.mp mem).2
  · rintro ⟨⟨b, hb, owns, present⟩, apart⟩
    refine ⟨b, hb, owns, ?_⟩
    by_cases file : b = .directory
    · exact .inl file
    · refine .inr (List.mem_filter.mpr ⟨present.resolve_left file, ?_⟩)
      have notFile : b.kind ≠ .file := by cases b <;> simp_all [Backend.kind]
      have other : (⟨b.kind, d'.1.volumeId⟩ : Volume) ≠ vol := by
        rintro rfl
        exact apart ⟨_, hd, notFile, by rw [volume, hb]; rfl⟩
      simpa using other

/-- The volumes of a list of disks are removed where each is in its place, and none is there twice. -/
theorem carry_volumes_iff (ds : List (DiskRow × PoolRow)) :
    (carry workdir (ds.map fun d => deleteDiskRequest v d.1 d.2) h).isSome ↔
      (∀ d ∈ ds, removes h.storage d) ∧ ds.Pairwise fun d d' => ¬ shared d d' := by
  induction ds generalizing h with
  | nil => simp [carry]
  | cons d ds ih =>
    rw [List.forall_mem_cons, List.pairwise_cons, List.map_cons, carry]
    by_cases can : removes h.storage d
    · obtain ⟨b, hb, owns, present⟩ := can
      have vol : volume d = some ⟨b.kind, d.1.volumeId⟩ := by rw [volume, hb]; rfl
      rw [serve_deleteDisk_eq_some.mpr ⟨b, hb, owns, present, rfl⟩, Option.bind_some, ih]
      simp only [removes_remove vol, imp_and, forall_and]
      constructor
      · rintro ⟨⟨others, apart⟩, rest⟩
        exact ⟨⟨⟨b, hb, owns, present⟩, others⟩, apart, rest⟩
      · rintro ⟨⟨-, others⟩, apart, rest⟩
        exact ⟨⟨others, apart⟩, rest⟩
    · have refused : h.serve workdir (deleteDiskRequest v d.1 d.2) = none := by
        by_contra some'
        obtain ⟨done, hdone⟩ := Option.ne_none_iff_exists'.mp some'
        obtain ⟨b, hb, owns, present, -⟩ := serve_deleteDisk_eq_some.mp hdone
        exact can ⟨b, hb, owns, present⟩
      rw [refused]
      simpa using fun here _ => absurd here can

/-- **The operations of a deletion get through exactly where the condition holds.** -/
theorem carry_requests_iff {t : Tables} :
    (carry workdir (requests t v) h).isSome ↔ Removable h t v := by
  have uuid : v.uuid.str.toList = v.uuid.chars := String.toList_ofList
  have undefines : h.serve workdir (deleteVmRequest v true) =
      (h.domains v.uuid.chars).map fun _ =>
        ([], { h with domains := Function.update h.domains v.uuid.chars none }) := by
    have calls : libvirtCalls workdir (deleteVmRequest v true) =
        .ok [.undefineDomain v.uuid.chars true] := by rw [← uuid]; rfl
    have perform : Hypervisor.serve workdir h.domains (deleteVmRequest v true) =
        (h.domains v.uuid.chars).map fun _ => Function.update h.domains v.uuid.chars none := by
      rw [Hypervisor.serve, calls]
      cases hd : h.domains v.uuid.chars <;>
        simp [List.foldlM, LibvirtCall.perform, hd]
    show (Hypervisor.serve workdir h.domains (deleteVmRequest v true)).map _ = _
    rw [perform, Option.map_map]
    rfl
  rw [requests, carry, undefines]
  cases found : h.domains v.uuid.chars with
  | none =>
    rw [Option.map_none, Option.bind_none]
    exact iff_of_false Bool.false_ne_true fun removable => removable.defined found
  | some domain =>
    rw [Option.map_some, Option.bind_some, carry_volumes_iff]
    exact ⟨fun ⟨present, apart⟩ => ⟨by simp [found], present, apart⟩,
      fun removable => ⟨removable.present, removable.apart⟩⟩

end Host

/-! ## How far the calls get -/

/-- The calls of the requests, one after the other: to the end, or up to one that the agent reports a
failure of. -/
inductive Sent : List AgentRequest → Exchanges → Bool → Prop
  | done : Sent [] [] true
  | stop {r : AgentRequest} {rest : List AgentRequest} {error : Option String} :
    Sent (r :: rest) [(r, .failed error)] false
  | next {r : AgentRequest} {rest : List AgentRequest} {data : Dict} {calls : Exchanges} {all : Bool}
    (later : Sent rest calls all) : Sent (r :: rest) ((r, .ok data) :: calls) all

/-- Where the answers are those of the hosts, the calls get as far as the operations do. -/
theorem Sent.carry {workdir : Text} {x : Attempt} {reqs : List AgentRequest} {calls : Exchanges}
    {all : Bool} (sent : Sent reqs calls all) (works : ∀ n, x.tools n = .work) {n : Nat} {h h' : VmHost}
    (served : x.serve workdir n calls h = some h') : (carry workdir reqs h).isSome = all := by
  induction sent generalizing n h with
  | done => rfl
  | @stop r rest error =>
    rw [Attempt.serve, works] at served
    cases carried : h.serve workdir r with
    | none => simp [Deletion.carry, carried]
    | some done => simp [VmHost.run, carried, AgentOutcome.settle] at served
  | @next r rest data calls all later ih =>
    rw [Attempt.serve, works] at served
    cases carried : h.serve workdir r with
    | none => simp [VmHost.run, carried, AgentOutcome.settle] at served
    | some done =>
      simp only [VmHost.run, carried, AgentOutcome.settle, Option.bind_some] at served
      split at served
      · rw [Deletion.carry, carried, Option.bind_some]
        exact ih served
      · cases served

/-! ## The task -/

section Task

variable {c : Setting} {rows : Tables} {v : VmRow} {node : Nat}
variable (accepted : ∀ i, (c.script i).dbFails = false)
variable (uncanceled : ∀ i, (c.script i).cancel = none)
variable (replied : ∀ i, answered (c.script i).agent)

include uncanceled replied in
/-- A call that the agent answers. -/
theorem send_ends {L : Type} {st : JobStatus → Prop} {r : AgentRequest} {calls : Exchanges} :
    Triple World.handle (fun _ => At c st rows calls) (sendOperation (some node) r)
      (fun data (_ : L) => At c st rows (calls ++ [(r, .ok data)]))
      (fun e _ w => e.Plain ∧ ∃ error, At c st rows (calls ++ [(r, .failed error)]) w) := by
  refine (triple_send (enduring_of_uncanceled uncanceled)).conseq (fun _ _ => id) ?_ ?_
  · rintro data l w ⟨i, -, h⟩
    exact h
  · rintro e l w ⟨he, i, lost, h⟩
    refine ⟨Exn.plain_of_operation he, ?_⟩
    have said := replied i
    generalize (c.script i).agent = o at said lost h
    cases o with
    | failed error => exact ⟨error, h⟩
    | ok data => cases lost
    | noAgent | notConnected | timedOut => cases said

/-- The calls go on for the rest of the requests. -/
def Onward (reqs : List AgentRequest) (calls : Exchanges) (all : Bool) (_ : Tables) (calls' : Exchanges) :
    Prop := ∃ more, Sent reqs more all ∧ calls' = calls ++ more

theorem Onward.next {r : AgentRequest} {reqs : List AgentRequest} {calls calls' : Exchanges} {all : Bool}
    {t : Tables} {data : Dict} (h : Onward reqs (calls ++ [(r, .ok data)]) all t calls') :
    Onward (r :: reqs) calls all t calls' := by
  obtain ⟨more, sent, rfl⟩ := h
  exact ⟨(r, .ok data) :: more, .next sent, by simp⟩

include uncanceled replied in
theorem removeVolumes_ends {L : Type} {st : JobStatus → Prop} (ds : List (DiskRow × PoolRow))
    (calls : Exchanges) :
    Triple World.handle (fun _ => At c st rows calls)
      (ds.forM fun d => do let _ ← sendOperation (some node) (deleteDiskRequest v d.1 d.2))
      (fun _ (_ : L) => Ends c st (Onward (ds.map fun d => deleteDiskRequest v d.1 d.2) calls true))
      (fun e _ w => e.Plain ∧
        Ends c st (Onward (ds.map fun d => deleteDiskRequest v d.1 d.2) calls false) w) := by
  induction ds generalizing calls with
  | nil => exact Triple.pure fun l w h => h.ends ⟨[], .done, by simp⟩
  | cons d ds ih =>
    refine Triple.bind (Q := fun _ _ w => ∃ data,
      At c st rows (calls ++ [(deleteDiskRequest v d.1 d.2, .ok data)]) w)
      (Triple.bind ((send_ends uncanceled replied).conseq (fun _ _ => id) (fun _ _ _ => id) ?_)
        fun data => Triple.pure fun l w h => ⟨data, h⟩) fun _ => ?_
    · rintro e l w ⟨plain, error, h⟩
      exact ⟨plain, h.ends ⟨_, .stop, rfl⟩⟩
    · rintro l w ⟨data, h⟩
      refine (ih (calls ++ [(deleteDiskRequest v d.1 d.2, .ok data)])).conseq (fun _ _ => id)
        (fun _ l w h => h.mono (fun _ => id) fun _ _ => Onward.next) ?_ l w h
      exact fun e l w h => ⟨h.1, h.2.mono (fun _ => id) fun _ _ => Onward.next⟩

/-- What has become of the calls of the task. -/
def Reached (rows : Tables) (v : VmRow) (all : Bool) (_ : Tables) (calls : Exchanges) : Prop :=
  v.node = none ∧ all = false ∨ v.node.isSome ∧ Sent (requests rows v) calls all

include accepted uncanceled replied in
theorem deleteVmStep_ends {L : Type} (found : Table.get rows.vms v.pk = some v) :
    Triple World.handle (fun _ => At c (· = .running) rows []) (deleteVmStep v)
      (fun _ (_ : L) => Ends c (· = .running) (Reached rows v true))
      (fun e _ w => e.Plain ∧ Ends c (· = .running) (Reached rows v false) w) := by
  have enduring {st : JobStatus → Prop} : Enduring c.script st := enduring_of_uncanceled uncanceled
  refine Triple.bind (triple_saveRows accepted enduring rfl
    (K := fun t => volumes t v = volumes rows v) ?_) fun _ => triple_ends fun t calls hK => ?_
  · intro now uuid
    let deleting : VmFields := { status := some .deleting }
    have saved : saveRow rows.vms v.pk deleting.apply =
        .ok (Table.modify rows.vms v.pk deleting.apply) := by rw [saveRow, found]
    have written : rows.write now uuid (.vmSave v.pk deleting) =
        .ok { rows with vms := Table.modify rows.vms v.pk deleting.apply } := by
      rw [Tables.write, saved]
      rfl
    exact ⟨_, written, rfl⟩
  obtain ⟨same, rfl⟩ := hK
  cases hnode : v.node with
  | none =>
    refine Triple.bind (Q := fun _ _ _ => False) ((triple_send_none enduring).conseq (fun _ _ => id)
      (fun _ _ _ => id) ?_) fun _ _ _ never => never.elim
    rintro e l w ⟨rfl, h⟩
    exact ⟨fun _ => Exn.noConfusion, h.ends (.inl ⟨hnode, rfl⟩)⟩
  | some node =>
    have some' : v.node.isSome := by simp [hnode]
    refine Triple.bind ((send_ends uncanceled replied).conseq (fun _ _ => id) (fun _ _ _ => id) ?_)
      fun data => ?_
    · rintro e l w ⟨plain, error, h⟩
      exact ⟨plain, h.ends (.inr ⟨some', .stop⟩)⟩
    refine Triple.bind (Q := fun ds _ w => ds = volumes rows v ∧
      At c (· = .running) t [(deleteVmRequest v true, .ok data)] w)
      (Triple.bind (triple_query enduring) fun t' => Triple.pure ?_) fun ds => Triple.fact fun same' => ?_
    · rintro l w ⟨rfl, h⟩
      exact ⟨(congrArg (volumes · v) h.rows).trans same, h⟩
    · subst same'
      refine (removeVolumes_ends uncanceled replied _ _).conseq (fun _ _ => id) ?_ ?_
      · rintro - l w h
        refine h.mono (fun _ => id) ?_
        rintro _ _ ⟨more, sent, calls⟩
        exact .inr ⟨some', calls ▸ .next sent⟩
      · rintro e l w ⟨plain, h⟩
        refine ⟨plain, h.mono (fun _ => id) ?_⟩
        rintro _ _ ⟨more, sent, calls⟩
        exact .inr ⟨some', calls ▸ .next sent⟩

include accepted uncanceled replied in
/-- **A deletion that nothing disturbs deletes the row if all its calls are confirmed, and fails where one
of them fails.** -/
theorem deleteVmTask_ends {L : Type} (found : Table.get rows.vms v.pk = some v)
    (lifecycle : .lifecycle v.uuid ∉ c.busy) (storage : .storage v.uuid ∉ c.busy) :
    Triple World.handle (fun _ => At c (· = .queued) rows []) (deleteVmTask c.job v.pk)
      (fun _ (_ : L) => Ends c (· = .success) fun t calls =>
        Table.get t.vms v.pk = none ∧ Reached rows v true t calls)
      (fun _ _ => Ends c JobStatus.unsettled (Reached rows v false)) := by
  have enduring {st : JobStatus → Prop} : Enduring c.script st := enduring_of_uncanceled uncanceled
  refine Triple.bind (triple_getJob enduring) fun j => ?_
  rintro l w ⟨hj, was, h⟩
  replace h : At c (· = j.status) rows [] w := h.mono fun s hs => hs.1.trans was.symm
  refine (Triple.bind (triple_getRow (fun t => Table.get t.vms v.pk) (a := v) enduring ?_)
    fun v' => Triple.fact fun same => ?_) l w h
  · rintro t rfl
    exact found
  subst same
  refine Triple.tryCatch (R := fun _ _ => Ends c JobStatus.unsettled (Reached rows v' false))
    (Triple.bind (Q := fun _ _ => Ends c (· = .running) (Reached rows v' true)) ?_ fun _ => ?_)
    fun exc => ?_
  · let held : Setting := (c.holding (.lifecycle v'.uuid)).holding (.storage v'.uuid)
    have step : Triple World.handle (fun _ => At held (· = j.status) rows [])
        (jobRun j "Deleting VM" (deleteVmStep v'))
        (fun _ (_ : L) => Ends held (· = .running) (Reached rows v' true))
        (fun _ _ => Ends held (· = .failed) (Reached rows v' false)) :=
      triple_jobRun_calm (c := held) accepted uncanceled hj _ (.inl was)
        (deleteVmStep_ends (c := held) accepted uncanceled replied found)
    have free : LockKey.storage v'.uuid ∉ (c.holding (.lifecycle v'.uuid)).busy := by
      simpa using storage
    refine (triple_withLock (E := fun _ => True) lifecycle enduring enduring enduring
      (triple_withLock (E := fun _ => True) free enduring enduring enduring
        (step.conseq (fun _ _ => id) (fun _ _ _ => id) fun _ _ _ h => ⟨trivial, h⟩))).conseq
      (fun _ _ => id) (fun _ _ _ => id) ?_
    exact fun e l w h => h.2.mono (fun s hs => .inr hs) fun _ _ => id
  · refine triple_ends fun t calls hK => ?_
    refine Triple.bind ((triple_saveRows accepted enduring rfl
      (K := fun t => Table.get t.vms v'.pk = none) ?_)) fun _ => triple_ends fun t' calls' hK' => ?_
    · exact fun now uuid => ⟨_, rfl, Table.get_remove_self⟩
    · obtain ⟨gone, rfl⟩ := hK'
      refine Triple.bind (triple_transition accepted hj enduring ?_) fun _ => ?_
      · rintro s rfl
        exact .inl (by decide)
      · exact (triple_swallow_emit enduring).conseq (fun _ _ => id)
          (fun _ _ _ h => h.ends ⟨gone, hK⟩) fun _ _ _ => id
  · refine Triple.bind (triple_ends fun t calls hK => ?_) fun _ =>
      (triple_failAndRaise accepted hj).conseq (fun _ _ => id) (fun _ _ _ => id) fun _ _ _ h =>
        h.mono (fun _ hs => .inr hs) fun _ _ => id
    refine (triple_saveRows_or enduring_unsettled rfl (K := fun _ => True)
      fun _ _ _ _ => trivial).conseq (fun _ _ => id) ?_ ?_
    · rintro - l w h
      exact h.mono (fun _ => id) fun _ _ hK' => hK'.2 ▸ hK
    · exact fun e l w h => h.2.ends hK

end Task

/-! ## Runs -/

section Run

variable {workdir : Text} {x : Attempt} {s : State} {v : VmRow}

/-- An undisturbed deletion has deleted the VM, or has failed, as its calls were confirmed or not. -/
theorem execution_ends (h : Undisturbed x) (deletes : Deletes workdir x s)
    (found : Table.get s.db.vms x.vm = some v) :
    ∃ all, Reached s.db v all s.db (x.world s).exchanges ∧ (Deleted x s ↔ all = true) := by
  have key : x.vm = v.pk := (Table.pk_of_get found).symm
  obtain ⟨delete, ⟨job, hjob, queued⟩, -⟩ := deletes
  have start : At ⟨x.script, x.jobId, x.busy⟩ (· = .queued) s.db.settled []
      { db := s.db, busy := x.busy, script := x.script } := ⟨rfl, rfl, ⟨job, hjob, queued⟩, rfl, rfl⟩
  have free (k : LockKey) : k ∉ x.busy := by simp [h.free]
  have row : Table.get s.db.settled.vms v.pk = some v := key ▸ found
  have ends := triple_jobBound h.accepted x.taskId (enduring_of_uncanceled h.uncanceled)
    (deleteVmTask_ends (c := ⟨x.script, x.jobId, x.busy⟩) h.accepted h.uncanceled h.answered row
      (free _) (free _)) () _ start
  have world : x.world s = (exec World.handle (jobBound x.taskId x.jobId (deleteVmTask x.jobId v.pk)) ()
      { db := s.db, busy := x.busy, script := x.script }).2.2 := by
    rw [Attempt.world, delete, key]
    rfl
  unfold Deleted World.jobStatus
  rw [world, key]
  generalize exec World.handle (jobBound x.taskId x.jobId (deleteVmTask x.jobId v.pk)) ()
    { db := s.db, busy := x.busy, script := x.script } = r at ends ⊢
  obtain ⟨outcome, l, w⟩ := r
  cases outcome with
  | ok =>
    obtain ⟨t, calls, ⟨gone, reached⟩, stands⟩ := ends
    obtain ⟨row', hrow, success⟩ := stands.job
    refine ⟨true, stands.calls ▸ reached, iff_of_true ⟨?_, ?_⟩ rfl⟩
    · rw [← stands.rows] at gone
      exact gone
    · exact hrow ▸ congrArg some success
  | error e =>
    obtain ⟨t, calls, reached, stands⟩ := ends
    obtain ⟨row', hrow, failed⟩ := stands.job
    refine ⟨false, stands.calls ▸ reached, iff_of_false (fun deleted => ?_) Bool.false_ne_true⟩
    have success := deleted.2
    rw [hrow, Option.map_some, failed] at success
    cases success

theorem deleted_iff (h : Undisturbed x) (deletes : Deletes workdir x s)
    (found : Table.get s.db.vms x.vm = some v) :
    Deleted x s ↔ ∃ host ∈ s.host v, Removable host s.db v := by
  obtain ⟨all, reached, deleted⟩ := execution_ends h deletes found
  obtain ⟨-, -, agrees⟩ := deletes
  rw [deleted]
  rcases reached with ⟨none, rfl⟩ | ⟨some', sent⟩
  · simp [State.host, none]
  · obtain ⟨node, hnode⟩ := Option.isSome_iff_exists.mp some'
    have served : ∃ host, x.serve workdir 0 (x.world s).exchanges (s.hosts node) = some host := by
      simp only [step, found, Option.bind_some, hnode] at agrees
      cases h : x.serve workdir 0 (x.world s).exchanges (s.hosts node) with
      | none => simp [h] at agrees
      | some host => exact ⟨host, rfl⟩
    obtain ⟨host, hhost⟩ := served
    have carried := sent.carry h.works hhost
    rw [← carried, carry_requests_iff]
    simp [State.host, hnode]

end Run

/-- **In every run of attempts, a deletion that the agents carry out as their hosts have it deletes the
VM exactly where its domain is defined under its `uuid` and its recorded volumes are there.** -/
theorem deletable_iff (workdir : Text) (xs : List Attempt) (s : State) :
    Along (step workdir) (fun x s => Undisturbed x → Deletes workdir x s →
      ∀ v ∈ Table.get s.db.vms x.vm, (Deleted x s ↔ ∃ h ∈ s.host v, Removable h s.db v)) xs s :=
  Along.of_forall (fun _ _ _ h deletes _ found => deleted_iff h deletes found) s

/-! ## Two runs -/

/-- A VM with one disk on a volume group, and a job to delete it. -/
def requested (v : VmRow) (volumeId : String) : Tables where
  jobs := [{ pk := 1, uuid := ⟨1⟩, type := .vmCreate }, { pk := 2, uuid := ⟨2⟩, type := .vmDelete }]
  vms := [v]
  nodes := [{ pk := 1, name := "node-1" }]
  pools := [{ pk := 1, uuid := ⟨3⟩, node := 1, name := "vg-data", type := .lvm, path := "vg-data" }]
  disks := [{ pk := 1, uuid := ⟨4⟩, vm := 1, storage := 1, name := "root", volumeId := volumeId
              sizeBytes := 1 }]

/-- A VM as `create_vm` leaves it. -/
def created : VmRow :=
  { pk := 1, uuid := ⟨10⟩, domainUuid := ⟨11⟩, organization := 1, project := 1, node := some 1
    name := "web" }

/-- The provisioning of the VM, with what becomes of each of its calls. -/
def provision (outcome : AgentOutcome) : Attempt :=
  { jobId := 1, operation := .provision, vm := 1, script := fun _ => { agent := outcome } }

/-- The deletion of the VM, with what the agent answers to each of its calls. -/
def deletion (outcome : AgentOutcome) : Attempt :=
  { jobId := 2, operation := .delete, vm := 1, script := fun _ => { agent := outcome } }

theorem deletion_undisturbed {outcome : AgentOutcome} (h : answered outcome) :
    Undisturbed (deletion outcome) :=
  ⟨fun _ => rfl, fun _ => rfl, fun _ => h, fun _ => rfl, rfl⟩

/-- A VM in ERROR whose domain has its `uuid`, on a host that has its volume. -/
def defined : State where
  db := requested { created with domainUuid := ⟨10⟩, status := .error } "vg-data/root"
  hosts := fun _ =>
    { domains := Function.update (fun _ => none) created.uuid.chars (some {})
      storage := { volumes := [⟨.logicalVolume, "vg-data/root"⟩] } }

/-- A VM whose domain and volume are there is deleted. -/
theorem deletable_iff_defined : Deleted (deletion (.ok [])) defined := by
  have deletes : Deletes [] (deletion (.ok [])) defined := by decide +kernel
  refine ((deletable_iff [] [deletion (.ok [])] defined).1 (deletion_undisturbed trivial) deletes _
    rfl).mpr ⟨_, rfl, ?_, ?_, ?_⟩
  · exact fun none => absurd (congrArg Option.isSome none) (by decide +kernel)
  · decide +kernel
  · decide +kernel

/-- A VM whose provisioning has failed before its domain was defined cannot be deleted. -/
theorem undefined_undeletable :
    ¬ ∀ (workdir : Text) (xs : List Attempt) (s : State),
      Along (step workdir) (fun x s => Undisturbed x → Deletes workdir x s →
        ∀ v ∈ Table.get s.db.vms x.vm, ¬ forbidden .vmDelete v.status → Deleted x s) xs s := by
  intro always
  have along := always [] [provision .notConnected, deletion (.failed none)]
    ⟨requested created "", fun _ => {}⟩
  have deletes : Along (step []) (fun x s => Deletes [] x s →
      ∀ v ∈ Table.get s.db.vms x.vm, ¬ forbidden .vmDelete v.status → Deleted x s)
      [provision .notConnected, deletion (.failed none)] ⟨requested created "", fun _ => {}⟩ := by
    have kinds : Along (step []) (fun x _ => x.operation = .provision ∨ Undisturbed x)
        [provision .notConnected, deletion (.failed none)] ⟨requested created "", fun _ => {}⟩ := by
      refine Along.of_forall (fun x hx _ => ?_) _
      rcases List.mem_pair.mp hx with rfl | rfl
      · exact .inl rfl
      · exact .inr (deletion_undisturbed trivial)
    refine (kinds.and along).implies (I := fun _ => True) (fun _ _ _ _ _ _ => trivial)
      (fun x s _ both deletes => ?_) trivial
    rcases both.1 with provision | calm
    · cases provision.symm.trans deletes.1
    · exact both.2 calm deletes
  exact absurd deletes (by decide +kernel)

end NodePilot.Deletion
