import NodePilot.Laws.Rules

/-!
# The record of a provisioning run

What the trace of a run says the host has done: the volumes that were made and deleted, and whether
a domain is defined. `RolledBack` says what the record shows when nothing is left over silently, and
`FairTrace` is the condition on the entries of a record. The invariants of provisioning relate the
record to what the rows know of it.
-/

namespace NodePilot

open Lib Lib.Script

/-! ## The record of a run -/

namespace Entry

/-- The operation of an agent call. -/
def operation : Entry → Option OperationType
  | .call r _ _ => some r.operation
  | _ => none

/-- The volume that a confirmed CREATE_DISK made, with the name of its disk. -/
def created : Entry → Option (String × String)
  | .call r _ (.ok data) =>
    if r.operation = .createDisk then
      some (data.getStr "volume_id" "", r.payload.getStr "name" "")
    else none
  | _ => none

/-- A call of any operation that left the controller. -/
def reached : Entry → Bool
  | .call _ _ o => o.sent
  | _ => false

/-- A call of the operation that left the controller. -/
def sent (op : OperationType) : Entry → Bool
  | .call r _ o => r.operation = op ∧ o.sent
  | _ => false

/-- A call of the operation that the host carried out. -/
def performed (op : OperationType) : Entry → Bool
  | .call r _ o => r.operation = op ∧ o.performed
  | _ => false

/-- A call of the operation that the agent confirmed. -/
def confirmed (op : OperationType) : Entry → Bool
  | .call r _ o => r.operation = op ∧ o.confirmed
  | _ => false

/-- A DELETE_DISK for the volume left the controller. -/
def deletes (volume : String) : Entry → Bool
  | .call r _ o => r.operation = .deleteDisk ∧ o.sent ∧ r.payload.getStr "volume_id" "" = volume
  | _ => false

/-- A stored VM_CLEANUP_INCOMPLETE event with a problem about `what`. -/
def names (what : String) : Entry → Prop
  | .event e true => e.type = "VM_CLEANUP_INCOMPLETE" ∧ ∃ problems reason,
      e.metadata.get? "problems" = some (.arr problems) ∧ .str (what ++ ": " ++ reason) ∈ problems
  | _ => False

end Entry

/-- The domain is defined on the host: the last CREATE_VM or DELETE_VM it carried out is a
CREATE_VM. The record is read newest first, and `there` says whether the host had a domain of the VM
before the run: a second delivery of the task finds the one of the first. -/
def domainDefined (there : Bool) : List Entry → Bool
  | [] => there
  | e :: before =>
    if e.performed .createVm then true
    else if e.performed .deleteVm then false
    else domainDefined there before

/-- Nothing is left over silently, and no volume was taken from a domain that stays. -/
structure RolledBack (there : Bool) (trace : List Entry) : Prop where
  volumes : ∀ e ∈ trace, ∀ volume name, e.created = some (volume, name) →
    (∃ e' ∈ trace, e'.deletes volume) ∨ ∃ e' ∈ trace, e'.names ("disk " ++ name)
  domain : (∃ e ∈ trace, e.confirmed .createVm) →
    (∃ e' ∈ trace, e'.sent .deleteVm) ∨ ∃ e' ∈ trace, e'.names "domain cleanup"
  order : domainDefined there trace → ∀ e ∈ trace, ¬ e.sent .deleteDisk

/-- The confirmation of a CREATE_DISK names the volume. -/
def AgentOutcome.namesVolume : AgentOutcome → Bool
  | .ok data => data.getStr "volume_id" "" ≠ ""
  | _ => true

/-- The host carried the operation out and the controller does not know. -/
def AgentOutcome.unnoticed : AgentOutcome → Bool
  | .timedOut performed => performed
  | _ => false

/-- The writes on whose success the cleanup depends: the row of a disk whose volume was made, and
all that follows once the state in memory is READY. -/
def Write.critical : Write → Bool
  | .diskSave _ _ _ _ => true
  | .vmSave _ fields => fields.provisioningState = some .ready
  | .jobTransition _ new _ _ => new = .success
  | _ => false

/-- The step that left this entry met none of the gaps of the cleanup. For a call the last of them
is that the agent answers again after the host has not carried out a DELETE_VM. -/
def Entry.Fair (before : List Entry) : Entry → Prop
  | .call r _ o =>
    (r.operation = .createDisk → o.namesVolume) ∧
    (r.operation = .createVm → o.unnoticed = false) ∧
    (o.sent → ∀ e ∈ before, e.operation = some .deleteVm → e.performed .deleteVm)
  | .write x done => x.critical → done
  | .event e done => e.type = "VM_CLEANUP_INCOMPLETE" → done
  | .createVm _ _ => True

instance (before : List Entry) : (e : Entry) → Decidable (e.Fair before)
  | .call _ _ _ => inferInstanceAs (Decidable (_ ∧ _ ∧ _))
  | .write x done => inferInstanceAs (Decidable (x.critical → done))
  | .event e done => inferInstanceAs (Decidable (e.type = "VM_CLEANUP_INCOMPLETE" → done))
  | .createVm _ _ => isTrue trivial

/-- Every step of a run met none of the gaps of the cleanup. -/
def FairTrace : List Entry → Prop
  | [] => True
  | e :: before => e.Fair before ∧ FairTrace before

instance : (trace : List Entry) → Decidable (FairTrace trace)
  | [] => isTrue trivial
  | e :: before =>
    have := instDecidableFairTrace before
    inferInstanceAs (Decidable (e.Fair before ∧ FairTrace before))

/-! ## Plain steps

Most operations of a run are neither about disks nor about the domain. -/

/-- The operations whose calls the rollback is about. -/
def OperationType.tracked : OperationType → Bool
  | .createDisk | .createVm | .deleteVm | .deleteDisk => true
  | _ => false

/-- An entry that the rollback is not about. -/
def Entry.plain (e : Entry) : Prop := ∀ op, e.operation = some op → op.tracked = false

/-- An entry that is no agent call is plain. -/
theorem Entry.plain_of_silent {e : Entry} (silent : e.operation = none) : e.plain := by
  intro op hop
  rw [silent] at hop
  cases hop

/-- A step that leaves the disks and pools alone and records at most one plain entry. -/
structure PlainStep (w w' : World) : Prop where
  disks : w'.db.disks = w.db.disks
  pools : w'.db.pools = w.db.pools
  trace : w'.trace = w.trace ∨ ∃ e : Entry, w'.trace = e :: w.trace ∧ e.plain

/-- The write leaves the disks. -/
def Write.plain : Write → Bool
  | .jobTransition _ _ _ _ | .jobProgress _ _ _ | .jobLogs _ _ | .jobCeleryTaskId _ _
  | .vmSave _ _ => true
  | _ => false

/-- The operation leaves the disks and sends nothing that is tracked. -/
def Op.plain : Op → Prop
  | .write x => x.plain
  | .send _ r _ => r.operation.tracked = false
  | .createVm _ => False
  | _ => True

/-- A request to cancel leaves the disks. -/
theorem requestCancel_disks {now : Nat} {k : Option Nat} {t : Tables} :
    (t.requestCancel now k).disks = t.disks ∧ (t.requestCancel now k).pools = t.pools := by
  rcases t.requestCancel_cases now k with same | ⟨job, row, -, -, turned⟩
  · rw [same]
    exact ⟨rfl, rfl⟩
  · rw [turned]
    exact ⟨rfl, rfl⟩

/-- Time passing is plain. -/
theorem plainStep_next (w : World) : PlainStep w w.next :=
  ⟨requestCancel_disks.1, requestCancel_disks.2, .inl rfl⟩

/-- A plain write leaves the disks. -/
theorem write_plain {now : Nat} {uuid : Uuid} {t t' : Tables} {x : Write} (hx : x.plain)
    (h : t.write now uuid x = .ok t') : t'.disks = t.disks ∧ t'.pools = t.pools := by
  cases x with
  | jobTransition =>
    simp only [Tables.write] at h
    split at h
    · cases h
    · split at h
      · cases h; exact ⟨rfl, rfl⟩
      · cases h
  | jobProgress | vmSave =>
    obtain ⟨rows, -, rfl⟩ := except_bind_ok h
    exact ⟨rfl, rfl⟩
  | jobLogs | jobCeleryTaskId => cases h; exact ⟨rfl, rfl⟩
  | _ => cases hx

/-- A plain operation makes a plain step. -/
theorem plainStep_handle {o : Op} (ho : o.plain) (w : World) :
    PlainStep w (World.handle o w).2 := by
  have turn := plainStep_next w
  have db : (World.handle o w).2.db.disks = w.db.disks ∧
      (World.handle o w).2.db.pools = w.db.pools := by
    rcases World.handle_db o w with same | ⟨x, rfl, hx⟩ | ⟨row, row', rfl, -⟩
    · rw [same]; exact ⟨turn.disks, turn.pools⟩
    · obtain ⟨disks, pools⟩ := write_plain ho hx
      exact ⟨disks.trans turn.disks, pools.trans turn.pools⟩
    · exact ho.elim
  refine ⟨db.1, db.2, (World.handle_trace o w).imp_right ?_⟩
  rintro ⟨e, recorded, added⟩
  refine ⟨e, added, ?_⟩
  cases e with
  | call r timeout out =>
    obtain ⟨node, rfl⟩ := recorded
    intro op hop
    cases hop
    exact ho
  | write | createVm | event => exact Entry.plain_of_silent rfl

/-- A predicate that no plain step can falsify. -/
def Stable {L : Type} (I : L → World → Prop) : Prop := ∀ l w w', PlainStep w w' → I l w → I l w'

/-- What is stable is kept by plain operations. -/
theorem Stable.opKeeps {L : Type} {I : L → World → Prop} (hI : Stable I) {o : Op}
    (ho : o.plain) : OpKeeps I o := fun l w => hI l w _ (plainStep_handle ho w)

/-- What is stable is kept while time passes. -/
theorem Stable.turn {L : Type} {I : L → World → Prop} (hI : Stable I) (l : L) (w : World) :
    I l w → I l w.next := hI l w _ (plainStep_next w)

section Plain

variable {w w' : World} (step : PlainStep w w')

include step in
/-- A plain step has no part in what is fair. -/
theorem fairTrace_plain (fair : FairTrace w'.trace) : FairTrace w.trace := by
  rcases step.trace with same | ⟨e, added, -⟩
  · rwa [same] at fair
  · rw [added] at fair
    exact fair.2

/-- A plain entry names no volume. -/
theorem Entry.plain.created {e : Entry} (h : e.plain) : e.created = none := by
  unfold Entry.created
  split
  · next r timeout data =>
    refine if_neg fun hop => ?_
    have untracked := h r.operation rfl
    rw [hop] at untracked
    cases untracked
  · rfl

/-- A plain entry performs nothing that is tracked. -/
theorem Entry.plain.performed {e : Entry} (h : e.plain) {op : OperationType} (hop : op.tracked) :
    e.performed op = false := by
  unfold Entry.performed
  split
  · next r timeout o =>
    refine decide_eq_false fun hperformed => ?_
    have untracked := h r.operation rfl
    rw [hperformed.1, hop] at untracked
    cases untracked
  · rfl

theorem Entry.plain.operation_ne {e : Entry} (h : e.plain) {op : OperationType}
    (hop : op.tracked) : e.operation ≠ some op := by
  intro he
  have untracked := h op he
  rw [hop] at untracked
  cases untracked

include step in
/-- What holds of every entry and of every plain one holds of every entry after a plain step. -/
theorem forall_trace_plain {p : Entry → Prop} (h : ∀ e ∈ w.trace, p e)
    (hp : ∀ e : Entry, e.plain → p e) : ∀ e ∈ w'.trace, p e := by
  intro e he
  rcases step.trace with same | ⟨e', added, plain⟩
  · exact h e (same ▸ he)
  · rw [added] at he
    rcases List.mem_cons.mp he with rfl | he
    · exact hp e plain
    · exact h e he

end Plain

/-! ## The invariants of provisioning -/

/-- A disk row without what CREATE_DISK fills in. -/
def DiskRow.shape (d : DiskRow) : DiskRow := { d with volumeId := "", device := "", format := "" }

/-- The shape of a disk has its key, its VM, its name and its pool. -/
theorem DiskRow.of_shape {d d' : DiskRow} (h : d'.shape = d.shape) :
    d'.pk = d.pk ∧ d'.vm = d.vm ∧ d'.name = d.name ∧ d'.storage = d.storage := by
  refine ⟨?_, ?_, ?_, ?_⟩
  · exact (congrArg DiskRow.pk h : d'.shape.pk = d.shape.pk)
  · exact (congrArg DiskRow.vm h : d'.shape.vm = d.shape.vm)
  · exact (congrArg DiskRow.name h : d'.shape.name = d.shape.name)
  · exact (congrArg DiskRow.storage h : d'.shape.storage = d.shape.storage)

/-- The object in memory is still the VM that was loaded, and no disk has come or gone. -/
structure Base (vm₀ : VmRow) (t₀ : Tables) (l : VmRow) (w : World) : Prop where
  pk : l.pk = vm₀.pk
  node : l.node = vm₀.node
  disks : w.db.disks.map DiskRow.shape = t₀.disks.map DiskRow.shape
  pools : w.db.pools = t₀.pools

/-- Every volume made so far is in the row of a disk of the VM. -/
def Recorded (vm₀ : VmRow) (among : DiskRow → Prop) (w : World) : Prop :=
  ∀ e ∈ w.trace, ∀ volume name, e.created = some (volume, name) →
    ∃ d ∈ w.db.disks, d.vm = vm₀.pk ∧ (Table.get w.db.pools d.storage).isSome ∧ among d ∧
      d.volumeId = volume ∧ d.name = name

/-- Nothing has been deleted. -/
def Undeleted (w : World) : Prop :=
  ∀ e ∈ w.trace, e.operation ≠ some .deleteVm ∧ e.operation ≠ some .deleteDisk

/-- The host has defined no domain. -/
def Undefined (w : World) : Prop := ∀ e ∈ w.trace, e.performed .createVm = false

section Stability

variable {vm₀ : VmRow} {t₀ : Tables} {among : DiskRow → Prop} {w w' : World}
variable (step : PlainStep w w')

include step in
theorem Base.plain {l : VmRow} (h : Base vm₀ t₀ l w) : Base vm₀ t₀ l w' :=
  ⟨h.pk, h.node, by rw [step.disks]; exact h.disks, by rw [step.pools]; exact h.pools⟩

include step in
theorem Recorded.plain (h : Recorded vm₀ among w) : Recorded vm₀ among w' := by
  intro e he
  rw [step.disks, step.pools]
  refine forall_trace_plain step h (fun e plain volume name hcreated => ?_) e he
  rw [plain.created] at hcreated
  cases hcreated

include step in
theorem Undeleted.plain (h : Undeleted w) : Undeleted w' :=
  forall_trace_plain step h fun _ plain => ⟨plain.operation_ne rfl, plain.operation_ne rfl⟩

include step in
theorem Undefined.plain (h : Undefined w) : Undefined w' :=
  forall_trace_plain step h fun _ plain => plain.performed rfl

end Stability

section OneEntry

variable {vm₀ : VmRow} {among : DiskRow → Prop} {w : World} {e : Entry}

/-- An entry that names no volume leaves every volume recorded. -/
theorem Recorded.cons (h : Recorded vm₀ among w) (he : e.created = none) :
    Recorded vm₀ among { w with trace := e :: w.trace } := by
  intro e' he' volume name hcreated
  rcases List.mem_cons.mp he' with rfl | he'
  · rw [he] at hcreated
    cases hcreated
  · exact h e' he' volume name hcreated

/-- An entry that deletes nothing leaves everything undeleted. -/
theorem Undeleted.cons (h : Undeleted w)
    (he : e.operation ≠ some .deleteVm ∧ e.operation ≠ some .deleteDisk) :
    Undeleted { w with trace := e :: w.trace } := by
  intro e' he'
  rcases List.mem_cons.mp he' with rfl | he'
  · exact he
  · exact h e' he'

/-- An entry that defines nothing leaves no domain defined. -/
theorem Undefined.cons (h : Undefined w) (he : e.performed .createVm = false) :
    Undefined { w with trace := e :: w.trace } := by
  intro e' he'
  rcases List.mem_cons.mp he' with rfl | he'
  · exact he
  · exact h e' he'

end OneEntry

section Phases

variable (vm₀ : VmRow) (t₀ : Tables)

/-- Before the domain: the disks of `done` have their volumes. -/
def Early (done : DiskRow → Prop) (l : VmRow) (w : World) : Prop :=
  Base vm₀ t₀ l w ∧ (FairTrace w.trace → Recorded vm₀ done w ∧ Undeleted w ∧ Undefined w)

/-- The host may have defined the domain, and the state in memory does not say so yet, or no
longer. -/
def Between (l : VmRow) (w : World) : Prop :=
  Base vm₀ t₀ l w ∧ (FairTrace w.trace → Recorded vm₀ (fun _ => True) w ∧ Undeleted w)

/-- The state in memory says that there is a domain. -/
def Late (l : VmRow) (w : World) : Prop := Between vm₀ t₀ l w ∧ l.provisioningState.hasDomain

/-- What the cleanup can rely on: if there is a domain, the state in memory says so. -/
def Raised (l : VmRow) (w : World) : Prop :=
  Base vm₀ t₀ l w ∧ (FairTrace w.trace → Recorded vm₀ (fun _ => True) w ∧ Undeleted w ∧
    (Undefined w ∨ l.provisioningState.hasDomain))

variable {vm₀ t₀} {done : DiskRow → Prop}

/-- Plain steps keep what holds while disks are made. -/
theorem early_stable : Stable (Early vm₀ t₀ done) := fun _ _ _ step h =>
  ⟨h.1.plain step, fun fair =>
    have old := h.2 (fairTrace_plain step fair)
    ⟨old.1.plain step, old.2.1.plain step, old.2.2.plain step⟩⟩

/-- Plain steps keep what holds before the domain is made. -/
theorem between_stable : Stable (Between vm₀ t₀) := fun _ _ _ step h =>
  ⟨h.1.plain step, fun fair =>
    have old := h.2 (fairTrace_plain step fair)
    ⟨old.1.plain step, old.2.plain step⟩⟩

/-- Plain steps keep what holds once it is made. -/
theorem late_stable : Stable (Late vm₀ t₀) := fun l w w' step h =>
  ⟨between_stable l w w' step h.1, h.2⟩

/-- Plain steps keep what holds after an exception. -/
theorem raised_stable : Stable (Raised vm₀ t₀) := fun _ _ _ step h =>
  ⟨h.1.plain step, fun fair =>
    have old := h.2 (fairTrace_plain step fair)
    ⟨old.1.plain step, old.2.1.plain step, old.2.2.imp_left (Undefined.plain step)⟩⟩

/-- What is recorded among some disks is recorded among all. -/
theorem Recorded.all {w : World} (h : Recorded vm₀ done w) : Recorded vm₀ (fun _ => True) w :=
  fun e he volume name hcreated =>
    have ⟨d, hd, hvm, hpool, _, hvolume, hname⟩ := h e he volume name hcreated
    ⟨d, hd, hvm, hpool, trivial, hvolume, hname⟩

/-- What holds while disks are made is enough for the cleanup. -/
theorem Early.raised {l : VmRow} {w : World} (h : Early vm₀ t₀ done l w) : Raised vm₀ t₀ l w :=
  ⟨h.1, fun fair => have ok := h.2 fair; ⟨ok.1.all, ok.2.1, .inl ok.2.2⟩⟩

/-- What holds once the domain is made is enough for the cleanup. -/
theorem Late.raised {l : VmRow} {w : World} (h : Late vm₀ t₀ l w) : Raised vm₀ t₀ l w :=
  ⟨h.1.1, fun fair => have ok := h.1.2 fair; ⟨ok.1, ok.2, .inr h.2⟩⟩

end Phases

end NodePilot
