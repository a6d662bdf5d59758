import NodePilot.Laws.Rollback.Record

/-!
# A domain from before the run

A second delivery of `provision_vm` meets the domain that the first one defined. The cleanup does
not know of that domain until the run has sent its own CREATE_VM, so it may take the volumes away
under it. `Accounted` says when it does not: the run gets as far as changing the domain itself, or
no call of it reaches the agent, or there is no volume to take. For the last case `Spared` is the
invariant: until a volume is made there is none to delete.
-/

namespace NodePilot

open Lib Lib.Script

/-- The VM has no volume: the row of no disk named one when the run began, and the run made none. -/
def Volumeless (vmId : Nat) (t : Tables) (trace : List Entry) : Prop :=
  (∀ d ∈ t.disks, d.vm = vmId → d.volumeId = "") ∧ ∀ e ∈ trace, e.created = none

/-- What the run did accounts for a domain that was there before it. -/
def Accounted (vmId : Nat) (t : Tables) (trace : List Entry) : Prop :=
  (∃ e ∈ trace, e.performed .createVm ∨ e.performed .deleteVm) ∨
    (∀ e ∈ trace, e.reached = false) ∨ Volumeless vmId t trace

/-- Once the host has carried out a call about the domain, what was there before it does not
matter. -/
theorem domainDefined_of_performed {trace : List Entry} {there : Bool}
    (h : ∃ e ∈ trace, e.performed .createVm ∨ e.performed .deleteVm) :
    domainDefined there trace = domainDefined false trace := by
  induction trace with
  | nil =>
    obtain ⟨e, he, -⟩ := h
    cases he
  | cons e before ih =>
    by_cases created : e.performed .createVm
    · simp [domainDefined, created]
    by_cases deleted : e.performed .deleteVm
    · simp [domainDefined, created, deleted]
    · obtain ⟨e', he', performed⟩ := h
      have earlier : e' ∈ before := by
        rcases List.mem_cons.mp he' with rfl | earlier
        · exact absurd performed (not_or.mpr ⟨created, deleted⟩)
        · exact earlier
      simp [domainDefined, created, deleted, ih ⟨e', earlier, performed⟩]

/-- A call that left the controller reached the agent, and is a call of its operation. -/
theorem Entry.sent_elim {e : Entry} {op : OperationType} (h : e.sent op) :
    e.reached ∧ e.operation = some op := by
  unfold Entry.sent at h
  split at h
  · obtain ⟨hop, hsent⟩ := of_decide_eq_true h
    exact ⟨hsent, congrArg some hop⟩
  · cases h

/-! ## Nothing is deleted before a volume is made -/

/-- The run has made a volume. -/
def Making (w : World) : Prop := ∃ e ∈ w.trace, e.created ≠ none

/-- Until the run makes a volume, the rows of the VM's disks name none and no volume is deleted. -/
def Spared (vmId : Nat) (w : World) : Prop :=
  Making w ∨ (∀ d ∈ w.db.disks, d.vm = vmId → d.volumeId = "") ∧
    ∀ e ∈ w.trace, e.operation ≠ some .deleteDisk

/-- `Spared`, with the VM in memory. -/
def Sparing (vmId : Nat) (l : VmRow) (w : World) : Prop := l.pk = vmId ∧ Spared vmId w

section Spared

variable {vmId : Nat} {w : World}

theorem making_handle {o : Op} (h : Making w) : Making (World.handle o w).2 := by
  obtain ⟨e, he, hcreated⟩ := h
  rcases World.handle_trace o w with same | ⟨e', -, added⟩
  · exact ⟨e, same ▸ he, hcreated⟩
  · exact ⟨e, added ▸ List.mem_cons_of_mem e' he, hcreated⟩

theorem Spared.plain {w' : World} (step : PlainStep w w') (h : Spared vmId w) : Spared vmId w' := by
  rcases h with ⟨e, he, hcreated⟩ | ⟨bare, spared⟩
  · refine .inl ⟨e, ?_, hcreated⟩
    rcases step.trace with same | ⟨e', added, -⟩
    · exact same ▸ he
    · exact added ▸ List.mem_cons_of_mem e' he
  · refine .inr ⟨step.disks ▸ bare, ?_⟩
    exact forall_trace_plain step spared fun _ plain => plain.operation_ne rfl

theorem sparing_stable : Stable (Sparing vmId) := fun _ _ _ step h => ⟨h.1, h.2.plain step⟩

/-- One entry more, of an operation that is not DELETE_DISK. -/
theorem Spared.cons {e : Entry} (h : Spared vmId w) (he : e.operation ≠ some .deleteDisk) :
    Spared vmId { w with trace := e :: w.trace } :=
  h.imp (fun ⟨e', mem, hcreated⟩ => ⟨e', List.mem_cons_of_mem e mem, hcreated⟩)
    fun ⟨bare, spared⟩ => ⟨bare, List.forall_mem_cons.mpr ⟨he, spared⟩⟩

/-- A call of another operation than DELETE_DISK. -/
theorem sparing_send {node : Option Nat} {r : AgentRequest} {timeout : Option Nat}
    (other : r.operation ≠ .deleteDisk) :
    Keeps World.handle (Sparing vmId) (fun _ => True) (sendOperation node r timeout) := by
  have added : ∀ {o : AgentOutcome} {l : VmRow} {w : World}, Sparing vmId l w →
      Sparing vmId l { w with trace := .call r timeout o :: w.trace } :=
    fun h => ⟨h.1, h.2.cons fun same => other (Option.some.inj same)⟩
  exact Triple.sendOperation sparing_stable.turn (fun _ _ h _ => ⟨h, trivial⟩)
    (fun _ _ _ h _ => added h) fun _ _ _ _ h _ _ _ => ⟨added h, trivial⟩

theorem sparing_save {x : Write} (plain : x.plain) :
    Keeps World.handle (Sparing vmId) (fun _ => True) (save x) :=
  Keeps.save (fun _ _ => trivial) (sparing_stable.opKeeps plain)

theorem sparing_query : Keeps World.handle (Sparing vmId) (fun _ => True) query :=
  Keeps.query (sparing_stable.opKeeps trivial)

theorem sparing_transition {j : JobRow} {new : JobStatus} {message error : Option String} :
    Keeps World.handle (Sparing vmId) (fun _ => True) (transition j new message error) :=
  sparing_save rfl

theorem sparing_failUnlessTerminal {j : JobRow} {exc : Exn} :
    Keeps World.handle (Sparing vmId) (fun _ => True) (failUnlessTerminal j exc) :=
  Keeps.bind (Keeps.getRow (fun _ _ => trivial) (sparing_stable.opKeeps trivial)) fun _ =>
    Keeps.onlyIf fun _ => sparing_transition

theorem sparing_emitVmEvent {vm : VmRow} {type : String} {metadata : Dict} :
    Keeps World.handle (Sparing vmId) (fun _ => True) (emitVmEvent vm type metadata) :=
  Keeps.swallow (Keeps.emitEvent (fun _ _ => trivial) (sparing_stable.opKeeps trivial))

theorem sparing_jobRun {α : Type} {j : JobRow} {step : String} {body : TaskM VmRow α}
    (hbody : Keeps World.handle (Sparing vmId) (fun _ => True) body) :
    Keeps World.handle (Sparing vmId) (fun _ => True) (jobRun j step body) := by
  refine Keeps.bind (Keeps.onlyIf fun _ => sparing_transition) fun _ => ?_
  refine Keeps.bind (Keeps.bind sparing_query fun _ => Keeps.pure _) fun _ => ?_
  refine Keeps.bind (Keeps.onlyIf fun _ => Keeps.throw trivial) fun _ => ?_
  refine Keeps.bind (Keeps.onlyIf fun _ => Keeps.bind (sparing_save rfl) fun _ => ?_) fun _ => ?_
  · exact Keeps.bind (Keeps.getRow (fun _ _ => trivial) (sparing_stable.opKeeps trivial)) fun _ =>
      sparing_save rfl
  · refine Keeps.tryCatch hbody fun exc _ => Keeps.bind ?_ fun _ => Keeps.throw trivial
    cases exc <;> exact sparing_transition

theorem sparing_enter {state : ProvisioningState} :
    Keeps World.handle (Sparing vmId) (fun _ => True) (enter state) :=
  Keeps.bind (Keeps.modify fun _ _ h => ⟨h.1, h.2⟩) fun _ => Keeps.bind Keeps.get fun _ =>
    sparing_save rfl

theorem sparing_saveStatusAndState :
    Keeps World.handle (Sparing vmId) (fun _ => True) saveStatusAndState :=
  Keeps.bind Keeps.get fun _ => sparing_save rfl

/-- A round of "Creating disks" names a volume in a row only after it has made one. -/
theorem sparing_createDisk {vm : VmRow} {d : DiskRow} {p : PoolRow} {image : Option ImageRow} :
    Keeps World.handle (Sparing vmId) (fun _ => True) (createDisk vm d p image) := by
  refine Triple.bind (Q := fun _ l w => l.pk = vmId ∧ Making w) (Triple.sendOperation
    sparing_stable.turn (fun _ _ h _ => ⟨h, trivial⟩) (fun l w data h _ => ?_)
    fun l w o e h _ _ _ => ?_) fun data => Triple.save (fun _ _ h => h) ?_ ?_
  · exact ⟨h.1, _, List.mem_cons_self, nofun⟩
  · exact ⟨⟨h.1, h.2.cons nofun⟩, trivial⟩
  · rintro l w now uuid db ⟨pk, e, he, hcreated⟩ -
    exact ⟨pk, .inl ⟨e, List.mem_cons_of_mem _ he, hcreated⟩⟩
  · rintro l w exc ⟨pk, e, he, hcreated⟩ -
    exact ⟨⟨pk, .inl ⟨e, List.mem_cons_of_mem _ he, hcreated⟩⟩, trivial⟩

theorem sparing_createDomain : Keeps World.handle (Sparing vmId) (fun _ => True) createDomain := by
  refine Keeps.bind Keeps.get fun vm => ?_
  unfold buildDomainRequest
  simp only [bind_assoc, pure_bind]
  refine Keeps.bind sparing_query fun disks => Keeps.bind sparing_query fun nics => ?_
  exact Keeps.bind (sparing_send nofun) fun _ => sparing_enter

theorem sparing_provisionSteps {j : JobRow} :
    Keeps World.handle (Sparing vmId) (fun _ => True) (provisionSteps j) := by
  refine Keeps.bind Keeps.get fun vm => ?_
  refine Keeps.bind (sparing_jobRun sparing_enter) fun _ => ?_
  refine Keeps.bind (sparing_jobRun (Keeps.bind (Keeps.bind sparing_query fun t => Keeps.forM fun d _ =>
    sparing_createDisk) fun _ => sparing_enter)) fun _ => ?_
  refine Keeps.bind (sparing_jobRun sparing_enter) fun _ => ?_
  refine Keeps.bind (sparing_jobRun sparing_createDomain) fun _ => ?_
  refine Keeps.bind (Keeps.onlyIf fun _ => sparing_jobRun (Keeps.bind (sparing_send nofun) fun _ =>
    Keeps.pure _)) fun _ => ?_
  refine Keeps.bind sparing_enter fun _ => Keeps.bind (Keeps.ite (fun _ => sparing_jobRun ?_) fun _ =>
    Keeps.modify fun _ _ h => ⟨h.1, h.2⟩) fun _ => ?_
  · refine Keeps.bind Keeps.get fun vm => Keeps.bind (sparing_send nofun) fun _ => ?_
    exact Keeps.bind (Keeps.modify fun _ _ h => ⟨h.1, h.2⟩) fun _ => sparing_saveStatusAndState
  · exact Keeps.bind (Keeps.modify fun _ _ h => ⟨h.1, h.2⟩) fun _ => sparing_saveStatusAndState

/-! ### The cleanup -/

/-- The volumes of the rows are none, unless the run has made one. -/
theorem triple_volumesOf_sparing {vm : VmRow} (hvm : vm.pk = vmId) :
    Triple World.handle (Sparing vmId) (volumesOf vm)
      (fun volumes l w => Sparing vmId l w ∧ (volumes = [] ∨ Making w)) fun _ _ _ => False := by
  refine Triple.bind (Q := fun t l w => Sparing vmId l w ∧ w.db = t)
    (Triple.perform fun l w h => ⟨sparing_stable.turn l w h, rfl⟩) fun t => ?_
  rintro l w ⟨h, rfl⟩
  refine ⟨h, h.2.symm.imp_left fun ⟨bare, _⟩ => List.filter_eq_nil_iff.mpr fun d hd named => ?_⟩
  obtain ⟨mem, ofVm, -⟩ := Tables.mem_disksWithStorage.mp hd
  rw [bare d.1 mem (ofVm.trans hvm)] at named
  cases named

theorem sparing_cleanupVolumes (vm : VmRow) (volumes : List (DiskRow × PoolRow)) :
    Keeps (L := VmRow) World.handle (fun l w => l.pk = vmId ∧ Making w) (fun _ => True)
      (cleanupVolumes vm volumes) := by
  induction volumes with
  | nil => exact Keeps.pure _
  | cons d rest ih =>
    have call : Keeps (L := VmRow) World.handle (fun l w => l.pk = vmId ∧ Making w) (fun _ => True)
        (sendOperation vm.node (deleteDiskRequest vm d.1 d.2)) :=
      Keeps.sendOperation (fun _ _ => trivial) fun _ _ h => ⟨h.1, making_handle h.2⟩
    refine Keeps.bind (Keeps.tryCatch (Keeps.bind call fun _ => Keeps.pure _) fun _ _ =>
      Keeps.pure _) fun _ => ?_
    exact Keeps.bind ih fun _ => Keeps.pure _

theorem sparing_cleanupPartialVm {vm : VmRow} (hvm : vm.pk = vmId) :
    Keeps World.handle (Sparing vmId) (fun _ => True) (cleanupPartialVm vm) := by
  refine Keeps.bind (Keeps.ite (fun _ => ?_) fun _ => Keeps.pure _) fun domain => ?_
  · exact Keeps.tryCatch (Keeps.bind (sparing_send nofun) fun _ => Keeps.pure _) fun _ _ =>
      Keeps.pure _
  refine Triple.bind (Triple.conseq (triple_volumesOf_sparing hvm) (fun _ _ => id)
    (fun _ _ _ => id) fun _ _ _ => False.elim) fun volumes => ?_
  refine Triple.bind (Q := fun _ => Sparing vmId) ?_ fun more =>
    Keeps.onlyIf fun _ => sparing_emitVmEvent
  rintro l w ⟨h, rfl | making⟩
  · exact h
  · have kept := sparing_cleanupVolumes vm volumes l w ⟨h.1, making⟩
    generalize exec World.handle (cleanupVolumes vm volumes) l w = r at kept ⊢
    rcases r with ⟨e | problems, l', w'⟩
    · exact ⟨⟨kept.1.1, .inl kept.1.2⟩, trivial⟩
    · exact ⟨kept.1, .inl kept.2⟩

theorem sparing_provisionExcept {j : JobRow} {exc : Exn} :
    Keeps World.handle (Sparing vmId) (fun _ => True) (provisionExcept j exc) := by
  unfold provisionExcept
  split
  · exact Keeps.onlyIf fun _ => sparing_transition
  · refine Triple.get_bind fun vm ⟨_, h⟩ => ?_
    refine Keeps.bind (sparing_cleanupPartialVm h.1) fun _ => ?_
    exact Keeps.bind (sparing_save rfl) fun _ => sparing_failUnlessTerminal

theorem sparing_provisionBody {j : JobRow} :
    Keeps World.handle (Sparing vmId) (fun _ => True) (provisionBody j) := by
  refine Keeps.tryCatch (E := fun _ => True) (Keeps.bind Keeps.get fun vm => ?_) fun exc _ =>
    Keeps.bind sparing_provisionExcept fun _ => Keeps.throw trivial
  refine Keeps.bind (Keeps.withLock trivial (sparing_stable.opKeeps trivial)
    (sparing_stable.opKeeps trivial) sparing_provisionSteps) fun _ => ?_
  exact Keeps.bind sparing_transition fun _ => Keeps.bind Keeps.get fun _ => sparing_emitVmEvent

end Spared

end NodePilot
