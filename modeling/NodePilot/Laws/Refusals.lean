import NodePilot.EntryPoints
import NodePilot.Laws.Outcomes

/-!
# What a refused call leaves

A check that refuses comes before the first row of its entry point, or in the transaction that is undone. What it
raises has the code that the check names, but for the two checks that give the constructor a keyword which it does
not take.
-/

namespace NodePilot.EntryPoints

open Lib Lib.Script

/-! ## What a refusal leaves -/

/-- No row has come, and none is changed but the request to cancel a job. -/
structure SameRows (before after : Tables) : Prop where
  jobs : after.jobs.map JobRow.shape = before.jobs.map JobRow.shape
  vms : after.vms = before.vms
  disks : after.disks = before.disks
  nics : after.nics = before.nics
  snapshots : after.snapshots = before.snapshots
  backups : after.backups = before.backups

/-- The exception is one of the API, with the code that the check names. -/
def Construction.typed (c : Construction) : Prop :=
  ∃ statusCode message details, c.raised = .api statusCode c.code message details

/-- The call meets a check that gives the constructor the keyword `status_code`. -/
def Call.misbuilt (s : Site) : Call → Prop
  | .restoreBackup backup vm => backup.status = .completed ∧ vm.status ≠ .stopped
  | .finalizeUpload _ => s.store.partPath = none
  | _ => False

instance (s : Site) : (call : Call) → Decidable (call.misbuilt s)
  | .restoreBackup _ _ => inferInstanceAs (Decidable (_ ∧ _))
  | .finalizeUpload _ => inferInstanceAs (Decidable (_ = none))
  | .createVm _ | .lifecycle _ _ | .attachDisk _ _ _ _ | .detachDisk _ _ | .resizeDisk _ _ _
  | .attachNic _ _ _ _ _ | .createSnapshot _ _ | .deleteSnapshot _ | .rollbackSnapshot _
  | .createBackup _ _ _ | .writeChunk _ _ _ => isFalse id

/-- An exception is of the type it was meant to be unless it is given a status code. -/
theorem Construction.typed_iff (c : Construction) : c.typed ↔ c.statusCode = none := by
  unfold Construction.typed Construction.raised
  cases c.statusCode with
  | none => simp
  | some n => simp

/-- Tables that settle alike have the same rows. -/
theorem SameRows.of_settled {before after : Tables} (same : after.settled = before.settled) :
    SameRows before after where
  jobs := (congrArg Tables.jobs same :)
  vms := (congrArg Tables.vms same :)
  disks := (congrArg Tables.disks same :)
  nics := (congrArg Tables.nics same :)
  snapshots := (congrArg Tables.snapshots same :)
  backups := (congrArg Tables.backups same :)

/-! ## One operation -/

section Operations

variable {script : Nat → Choice} {t : Tables} {inside : Bool}

/-- The committed rows are those of `t`, and a transaction is open, or none is. -/
def Aside (t : Tables) (inside : Bool) (_ : Unit) (s : Office) : Prop :=
  s.pending.isSome = inside ∧ s.db.settled = t

/-- The operation neither begins nor ends a transaction, and inserts no row. -/
def Op.looks : Op → Bool
  | .read | .acquire _ _ | .release _ | .reserve _ _ _ | .selectNode _ _ _ _ | .findExisting _ _ | .unsupported _
  | .generateMacAddress | .delay _ _ => true
  | _ => false

/-- The operations that add a row. -/
def Op.inserts : Op → Bool
  | .insertVm _ | .insertDisk _ | .insertNic _ | .insertSnapshot _ | .insertBackup _ | .insertJob _ => true
  | _ => false

/-- The turn of the surroundings leaves the settled rows. -/
theorem aside_turn {l : Unit} {s : Office} (start : Aside t inside l s) (c : Choice) :
    Aside t inside l { s with db := s.db.requestCancel c.now c.cancel, pos := s.pos + 1 } :=
  ⟨start.1, settled_requestCancel.trans start.2⟩

/-- An operation that only looks leaves the committed rows. -/
theorem aside_looks {o : Op} (looks : o.looks) {l : Unit} {s : Office} (start : Aside t inside l s) :
    Aside t inside l (Office.handle script o s).2 := by
  have turn := aside_turn start (script s.pos)
  cases o with
  | acquire key _ =>
    simp only [Office.handle, Office.answer]
    split
    · exact turn
    · exact turn
  | delay =>
    simp only [Office.handle, Office.answer]
    split
    · exact turn
    · exact turn
  | read | release | reserve | selectNode | findExisting | unsupported | generateMacAddress => exact turn
  | _ => cases looks

/-- In a transaction a row is only set aside. -/
theorem aside_insert {ρ : Type} {row : ρ} {put : Tables} (c : Choice) {l : Unit} {s : Office}
    (start : Aside t true l s) : Aside t true l (s.insert c row put).2 := by
  obtain ⟨pending, here⟩ := Option.isSome_iff_exists.mp start.1
  unfold Office.insert
  rw [here]
  split
  · exact start
  · exact ⟨rfl, start.2⟩

/-- A row that is inserted in a transaction is not committed. -/
theorem aside_inserts {o : Op} (inserts : o.inserts) {l : Unit} {s : Office} (start : Aside t true l s) :
    Aside t true l (Office.handle script o s).2 := by
  have turn := aside_turn start (script s.pos)
  cases o with
  | insertVm | insertDisk | insertNic | insertSnapshot | insertBackup | insertJob => exact aside_insert _ turn
  | _ => cases inserts

end Operations

/-! ## Entry points -/

section Scripts

variable {script : Nat → Choice} {t : Tables} {inside : Bool} {α β : Type}

/-- A failure at a check is one that the constructor can raise. -/
def Proper (e : Failure) : Prop := ∀ c, e = .check c → c.statusCode = none

/-- The failure is not at a check. -/
def Unchecked (e : Failure) : Prop := ∀ c, e ≠ .check c

/-- A failure that is no check's is proper. -/
theorem Unchecked.proper {e : Failure} (unchecked : Unchecked e) : Proper e :=
  fun c refused => absurd refused (unchecked c)

/-- The part raises nothing at a check. -/
def Passes (script : Nat → Choice) (x : EntryM α) : Prop :=
  Keeps (Office.handle script) (fun _ _ => True) Unchecked x

/-- The part leaves the committed rows, and refuses properly. -/
def Looks (script : Nat → Choice) (t : Tables) (inside : Bool) (x : EntryM α) : Prop :=
  Keeps (Office.handle script) (Aside t inside) Proper x

/-- Outside of a transaction: where a check refuses it does so properly, over the rows as they were. -/
def Refuses (script : Nat → Choice) (t : Tables) (x : EntryM α) : Prop :=
  Triple (Office.handle script) (Aside t false) x (fun _ _ _ => True)
    fun e _ s => ∀ c, e = .check c → c.statusCode = none ∧ s.db.settled = t

theorem Passes.perform (o : Op) : Passes script (Script.perform o) := Keeps.perform fun _ _ => id

/-- What an operation raises is not a check's. -/
theorem keeps_statement {I : Unit → Office → Prop} {x : EntryM (Except Exn α)}
    (hx : Keeps (Office.handle script) I Unchecked x) : Keeps (Office.handle script) I Unchecked (statement x) := by
  refine Keeps.bind hx fun r => ?_
  cases r with
  | ok a => exact Keeps.pure a
  | error e => exact Keeps.throw nofun

/-- A single look. -/
theorem Looks.op {o : Op} (looks : o.looks) : Looks script t inside (Script.perform o) :=
  Keeps.perform fun _ _ => aside_looks looks

/-- What only looks can be followed by what only looks. -/
theorem Looks.bind {x : EntryM α} {f : α → EntryM β} (hx : Looks script t inside x)
    (hf : ∀ a, Looks script t inside (f a)) : Looks script t inside (x >>= f) :=
  Keeps.bind hx hf

theorem Looks.pure (a : α) : Looks script t inside (pure a) := Keeps.pure a

/-- A refusal writes nothing. -/
theorem Looks.refuse {c : Construction} (built : c.statusCode = none) :
    Looks script t inside (refuse c : EntryM α) :=
  Keeps.throw fun _ refused => Failure.check.inj refused ▸ built

/-- A statement of a transaction that only looks. -/
theorem Looks.statement {x : EntryM (Except Exn α)}
    (hx : Keeps (Office.handle script) (Aside t inside) Unchecked x) : Looks script t inside (statement x) :=
  (keeps_statement hx).imp fun _ => Unchecked.proper

/-- A row that is added inside a transaction. -/
theorem keeps_insert {o : Op} (inserts : o.inserts) :
    Keeps (Office.handle script) (Aside t true) Unchecked (Script.perform o) :=
  Keeps.perform fun _ _ => aside_inserts inserts

/-- Nothing is checked in the part. -/
theorem Passes.ends {x : EntryM α} {P : Unit → Office → Prop} (hx : Passes script x) :
    Triple (Office.handle script) P x (fun _ _ _ => True)
      fun e _ s => ∀ c, e = .check c → c.statusCode = none ∧ s.db.settled = t :=
  hx.conseq (fun _ _ _ => trivial) (fun _ _ _ _ => trivial) fun _ _ _ ends c refused => absurd refused (ends.2 c)

/-- A part that leaves the rows comes first. -/
theorem Refuses.after {x : EntryM α} {f : α → EntryM β} (hx : Looks script t false x)
    (hf : ∀ a, Refuses script t (f a)) : Refuses script t (x >>= f) :=
  Triple.bind (hx.conseq (fun _ _ => id) (fun _ _ _ => id)
    fun _ _ _ ends c refused => ⟨ends.2 c refused, ends.1.2⟩) hf

/-- What follows is not checked any more. -/
theorem Refuses.andThen {x : EntryM α} {f : α → EntryM β} (hx : Refuses script t x)
    (hf : ∀ a, Passes script (f a)) : Refuses script t (x >>= f) :=
  Triple.bind hx fun a => (hf a).ends

/-- What only looks refuses without a trace. -/
theorem Refuses.of_looks {x : EntryM α} (hx : Looks script t false x) : Refuses script t x :=
  hx.conseq (fun _ _ => id) (fun _ _ _ _ => trivial) fun _ _ _ ends c refused => ⟨ends.2 c refused, ends.1.2⟩

/-- A transaction that fails has left the rows. -/
theorem Refuses.atomic {body : EntryM α} (hb : Looks script t true body) : Refuses script t (atomic body) := by
  refine Triple.bind (Q := fun _ => Aside t true) ?_ fun _ => Triple.bind (Q := fun _ _ _ => True) ?_ fun a => ?_
  · exact Triple.perform fun l s start => ⟨rfl, (aside_turn start (script s.pos)).2⟩
  · refine Triple.tryCatch (hb.conseq (fun _ _ => id) (fun _ _ _ _ => trivial) fun _ _ _ => id) fun e => ?_
    refine Triple.bind (Q := fun _ l s => Aside t false l s ∧ Proper e) ?_ fun _ => ?_
    · exact Triple.perform fun l s start => ⟨⟨rfl, (aside_turn start.1 (script s.pos)).2⟩, start.2⟩
    · exact Triple.throw fun _ _ start c refused => ⟨start.2 c refused, start.1.2⟩
  · exact Triple.bind (Passes.ends (keeps_statement (Passes.perform Op.leave))) fun _ => Triple.pure fun _ _ => id

/-- The check of the lock writes no row. -/
theorem looks_precheck {key : LockKey} {ttlSeconds : Nat} {message : String} :
    Looks script t inside (precheck key ttlSeconds message) := by
  refine Looks.bind (Looks.op rfl) fun acquired => ?_
  cases acquired with
  | true => exact Looks.op rfl
  | false => exact Looks.refuse rfl

/-- The check of the quota writes no row. -/
theorem looks_checkAndReserve {organization project : Nat} {a : Quotas.Additional} :
    Looks script t inside (checkAndReserve organization project a) := by
  refine Looks.bind (Looks.op rfl) fun exceeded => ?_
  cases exceeded with
  | none => exact Looks.pure _
  | some e => exact Looks.refuse rfl

/-- A job is made inside the transaction. -/
theorem looks_createJob {type : JobType} {resourceId : String} {createdBy : Option Nat} :
    Looks script t true (createJob type resourceId createdBy) :=
  Looks.statement (keeps_insert rfl)

/-- Making a job refuses nothing. -/
theorem passes_createJob {type : JobType} {resourceId : String} {createdBy : Option Nat} :
    Passes script (createJob type resourceId createdBy) :=
  keeps_statement (Passes.perform _)

/-- Handing the task to the broker refuses nothing. -/
theorem passes_delay {job : JobRow} {task : Task} : Passes script (delay job task) :=
  keeps_statement (Passes.perform _)

/-- The job and its message, after the checks. -/
theorem passes_hand {type : JobType} {resourceId : String} {createdBy : Option Nat} {task : Task} :
    Passes script (do
      let job ← createJob type resourceId createdBy
      delay job task
      return job) :=
  Keeps.bind passes_createJob fun _ => Keeps.bind passes_delay fun _ => Keeps.pure _

theorem looks_startStorageJob {vm : VmRow} {type : JobType} {requestedBy : Option Nat} :
    Looks script t true (startStorageJob vm type requestedBy) :=
  Looks.bind looks_precheck fun _ => looks_createJob

theorem refuses_startStorageJob {vm : VmRow} {type : JobType} {requestedBy : Option Nat} :
    Refuses script t (startStorageJob vm type requestedBy) :=
  Refuses.after looks_precheck fun _ => passes_createJob.ends

/-! ### VMs -/

section Vms

variable {vm : VmRow} {requestedBy : Option Nat}

/-- A refused lifecycle request leaves the rows. -/
theorem refuses_startLifecycleJob {type : JobType} {task : Task} :
    Refuses script t (startLifecycleJob vm type task requestedBy) :=
  Triple.ite (fun _ => Refuses.of_looks (Looks.refuse rfl)) fun _ =>
    Refuses.after looks_precheck fun _ => passes_hand.ends

/-- A refused clone leaves the rows. -/
theorem refuses_cloneVm {newName : String} {linked : Bool} :
    Refuses script t (cloneVm vm newName linked requestedBy) :=
  Triple.ite (fun _ => Refuses.of_looks (Looks.refuse rfl)) fun _ =>
    Refuses.after (Looks.op rfl) fun _ => Refuses.after looks_checkAndReserve fun _ => passes_hand.ends

theorem refuses_lifecycle {r : LifecycleRequest} : Refuses script t (lifecycle vm requestedBy r) := by
  cases r with
  | clone => exact refuses_cloneVm
  | _ => exact refuses_startLifecycleJob

/-- Looking for a node writes no row. -/
theorem looks_placeVm {spec : Creation.NewVm} : Looks script t inside (placeVm spec) := by
  unfold placeVm
  split
  · exact Looks.pure _
  · refine Looks.bind (Looks.op rfl) fun selected => ?_
    cases selected with
    | some node => exact Looks.pure node
    | none => exact Looks.refuse rfl

theorem looks_createDisk {pk index : Nat} {spec : Creation.DiskSpec} :
    Looks script t true (createDisk pk spec index) := by
  unfold createDisk
  split
  · exact Keeps.throw nofun
  · exact Looks.bind (Looks.statement (keeps_insert rfl)) fun _ => Looks.pure _

theorem looks_createNic {pk index : Nat} {spec : Creation.NicSpec} :
    Looks script t true (createNic pk spec index) := by
  refine Looks.bind ?_ fun _ => Looks.bind (Looks.statement (keeps_insert rfl)) fun _ => Looks.pure _
  unfold macAddressOf
  split
  · exact Looks.pure _
  · exact Looks.op rfl

/-- The rows of a VM are made inside the transaction. -/
theorem looks_insertRows {spec : Creation.NewVm} {node : Nat} : Looks script t true (insertRows spec node) :=
  Looks.bind (Looks.statement (keeps_insert rfl)) fun _ =>
    Looks.bind (Keeps.forM fun _ _ => looks_createDisk) fun _ =>
      Looks.bind (Keeps.forM fun _ _ => looks_createNic) fun _ =>
        Looks.bind looks_createJob fun _ => Looks.pure _

theorem looks_returnExisting {spec : Creation.NewVm} : Looks script t inside (returnExisting spec) :=
  Triple.ite (fun _ => Looks.pure _) fun _ => Looks.bind (Looks.op rfl) fun _ =>
    Triple.ite (fun _ => Keeps.throw nofun) fun _ => Looks.pure _

/-- A refused creation leaves the rows. -/
theorem refuses_createVm {spec : Creation.NewVm} : Refuses script t (createVm spec) :=
  Refuses.andThen
    (Refuses.atomic (Looks.bind looks_returnExisting fun _ => Looks.bind looks_checkAndReserve fun _ =>
      Looks.bind looks_placeVm fun _ => looks_insertRows))
    fun _ => Keeps.bind passes_delay fun _ => Keeps.pure _

end Vms

/-! ### Disks and NICs -/

section Devices

variable {vm : VmRow} {disk : DiskRow} {requestedBy : Option Nat}

/-- A refused disk leaves the rows. -/
theorem refuses_attachDisk {storage sizeGb : Nat} {bus : DiskBus} :
    Refuses script t (attachDisk vm storage sizeGb bus requestedBy) :=
  Refuses.andThen
    (Refuses.atomic (Looks.bind looks_checkAndReserve fun _ => Looks.bind (Looks.op rfl) fun _ =>
      Looks.bind (Looks.op rfl) fun _ => Looks.bind (Looks.statement (keeps_insert rfl)) fun _ =>
        Looks.bind looks_startStorageJob fun _ => Looks.pure _))
    fun _ => Keeps.bind passes_delay fun _ => Keeps.pure _

theorem refuses_detachDisk : Refuses script t (detachDisk vm disk requestedBy) :=
  Triple.ite (fun _ => Refuses.of_looks (Looks.refuse rfl)) fun _ =>
    Refuses.andThen refuses_startStorageJob fun _ => Keeps.bind passes_delay fun _ => Keeps.pure _

/-- A refused size leaves the rows. -/
theorem refuses_resizeDisk {newSizeGb : Int} : Refuses script t (resizeDisk vm disk newSizeGb requestedBy) :=
  Triple.ite (fun _ => Refuses.of_looks (Looks.refuse rfl)) fun _ =>
    Refuses.after looks_checkAndReserve fun _ =>
      Refuses.andThen refuses_startStorageJob fun _ => Keeps.bind passes_delay fun _ => Keeps.pure _

/-- A refused NIC leaves the rows. -/
theorem refuses_attachNic {network : Nat} {model : NicModel} {vlan rateLimitMbps : Option Nat} :
    Refuses script t (attachNic vm network model vlan rateLimitMbps requestedBy) :=
  Refuses.andThen
    (Refuses.atomic (Looks.bind (Looks.op rfl) fun _ => Looks.bind (Looks.op rfl) fun _ =>
      Looks.bind (Looks.statement (keeps_insert rfl)) fun _ => Looks.bind looks_startStorageJob fun _ =>
        Looks.pure _))
    fun _ => Keeps.bind passes_delay fun _ => Keeps.pure _

end Devices

/-! ### Snapshots and backups -/

section Snapshots

variable {vm : VmRow} {snapshot : SnapshotRow} {requestedBy : Option Nat}

theorem looks_assertSnapshotCapable : Looks script t inside (assertSnapshotCapable vm) :=
  Looks.bind (Looks.op rfl) fun _ => Triple.ite (fun _ => Looks.refuse rfl) fun _ => Looks.pure _

/-- A refused snapshot leaves the rows. -/
theorem refuses_createSnapshot {name : String} : Refuses script t (createSnapshot vm name requestedBy) :=
  Refuses.andThen
    (Refuses.atomic (Looks.bind looks_assertSnapshotCapable fun _ => Looks.bind looks_checkAndReserve fun _ =>
      Looks.bind looks_precheck fun _ => Looks.bind (Looks.statement (keeps_insert rfl)) fun _ =>
        Looks.bind looks_createJob fun _ => Looks.pure _))
    fun _ => Keeps.bind passes_delay fun _ => Keeps.pure _

theorem refuses_deleteSnapshot : Refuses script t (deleteSnapshot snapshot requestedBy) :=
  Triple.ite (fun _ => Refuses.of_looks (Looks.refuse rfl)) fun _ => passes_hand.ends

theorem refuses_rollbackSnapshot : Refuses script t (rollbackSnapshot snapshot requestedBy) :=
  Triple.ite (fun _ => Refuses.of_looks (Looks.refuse rfl)) fun _ => passes_hand.ends

/-- A refused backup leaves the rows. -/
theorem refuses_createBackup {target : Nat} {type : BackupType} :
    Refuses script t (createBackup vm target type requestedBy) :=
  Refuses.after looks_precheck fun _ => Passes.ends
    (Keeps.bind (keeps_statement (Passes.perform _)) fun _ => passes_hand)

/-- The check that the VM is stopped is the one that is built wrong. -/
theorem refuses_restoreBackup {backup : BackupRow}
    (stopped : ¬ (backup.status = .completed ∧ vm.status ≠ .stopped)) :
    Refuses script t (restoreBackup backup vm requestedBy) :=
  Triple.ite (fun _ => Refuses.of_looks (Looks.refuse rfl)) fun completed => Triple.ite
    (fun running => absurd ⟨not_not.mp completed, running⟩ stopped) fun _ =>
      Refuses.after looks_precheck fun _ => passes_hand.ends

end Snapshots

end Scripts

/-! ## Uploads -/

section Files

variable {files : Nat → Uploads.Choice}

/-- Some other failure than that there is no `.part` file. -/
def Ordinary (e : Uploads.Exn) : Prop := e ≠ .uploadEmpty

/-- An ordinary failure of an upload is proper. -/
theorem uploadFailure_proper {e : Uploads.Exn} (ordinary : Ordinary e) : Proper (uploadFailure e) := by
  intro c refused
  cases e with
  | uploadEmpty => exact absurd rfl ordinary
  | outOfOrder | sizeMismatch | checksumMismatch =>
    cases refused
    rfl
  | _ => cases refused

/-- The exception that an operation on the files reports. -/
def reported : (o : Uploads.UploadOp) → Uploads.UploadAns o → Option Uploads.Exn
  | .openPart _, .error e => some e
  | .write _ _, .error e => some e
  | .saveCounters _ _ _, .error e => some e
  | .partSize, .error e => some e
  | .openRead, .error e => some e
  | .replace, .error e => some e
  | _, _ => none

/-- No operation on the files finds that the upload is empty. -/
theorem ordinary_of_act {o : Uploads.UploadOp} {a : Uploads.UploadAns o} {c : Uploads.Choice} {i : Nat}
    {s s' : Uploads.Store} (done : Uploads.Store.act c i o s = some (a, s')) : ∀ e ∈ reported o a, Ordinary e := by
  cases o with
  | openPart append =>
    simp only [Uploads.Store.act] at done
    split at done <;> cases done <;> simp [reported, Ordinary]
  | write handle block =>
    simp only [Uploads.Store.act] at done
    split at done <;> cases done <;> simp [reported, Ordinary]
  | saveCounters received next chunk =>
    simp only [Uploads.Store.act] at done
    split at done <;> cases done <;> simp [reported, Ordinary]
  | partSize | openRead =>
    simp only [Uploads.Store.act, Uploads.Store.partInode] at done
    split at done <;> cases done <;> simp [reported, Ordinary, Except.map]
  | replace =>
    simp only [Uploads.Store.act] at done
    split at done
    · cases done
      simp [reported, Ordinary]
    · split at done <;> cases done <;> simp [reported, Ordinary]
  | _ => simp [reported]

/-- A handler that is alone does to the files what it does among others. -/
theorem act_fileHandle (o : Uploads.UploadOp) (s : Uploads.Store × Nat) :
    Uploads.Store.act (files s.2) 0 o s.1 = some ((fileHandle files o s).1, (fileHandle files o s).2.1) := by
  simp [fileHandle]

/-- The part ends with no other failure than an ordinary one. -/
def Ends (files : Nat → Uploads.Choice) {α : Type} (x : Uploads.UploadM α) : Prop :=
  Keeps (fileHandle files) (fun _ _ => True) Ordinary x

/-- An operation on files reports ordinary failures only. -/
theorem reports_perform {o : Uploads.UploadOp} :
    Triple (fileHandle files) (fun _ _ => True) (Script.perform o : Uploads.UploadM (Uploads.UploadAns o))
      (fun a _ _ => ∀ e ∈ reported o a, Ordinary e) fun e _ _ => Ordinary e :=
  Triple.perform fun _ s _ => ordinary_of_act (act_fileHandle o s)

/-- A call whose failures are ordinary ends so. -/
theorem ends_call {α : Type} {x : Uploads.UploadM (Except Uploads.Exn α)}
    {report : Except Uploads.Exn α → Option Uploads.Exn}
    (hx : Triple (fileHandle files) (fun _ _ => True) x (fun r _ _ => ∀ e ∈ report r, Ordinary e)
      fun e _ _ => Ordinary e)
    (sees : ∀ e, report (.error e) = some e) : Ends files (Uploads.call x) := by
  refine Triple.bind (hx.conseq (fun _ _ => id) (fun _ _ _ => id) fun _ _ _ ends => ⟨trivial, ends⟩) fun r => ?_
  cases r with
  | ok a => exact Triple.pure fun _ _ _ => trivial
  | error e => exact Triple.throw fun _ _ ordinary => ⟨trivial, ordinary e (sees e)⟩

/-- Writing blocks ends with an ordinary failure at worst. -/
theorem ends_writeBlocks {handle : Nat} (blocks : List Uploads.Bytes) :
    Ends files (Uploads.writeBlocks handle blocks) := by
  induction blocks with
  | nil => exact Keeps.pure _
  | cons block rest ih => exact Keeps.bind (ends_call reports_perform fun _ => rfl) fun _ => ih

/-- Writing a chunk ends with an ordinary failure at worst. -/
theorem ends_writeChunk {session : Uploads.Session} {index : Int} {blocks : List Uploads.Bytes} :
    Ends files (Uploads.writeChunk session index blocks) :=
  Triple.ite (fun _ => Keeps.throw nofun) fun _ =>
    Keeps.bind (Keeps.perform fun _ _ => id) fun _ =>
      Keeps.bind (ends_call reports_perform fun _ => rfl) fun _ => Keeps.bind (ends_writeBlocks blocks) fun _ =>
        Keeps.bind (ends_call reports_perform fun _ => rfl) fun _ => Keeps.pure _

variable {sha256 : Uploads.Bytes → String} {session : Uploads.Session}

/-- Where there is a `.part` file, `finalize_upload` does not find the upload empty. -/
theorem ends_finalizeUpload :
    Triple (fileHandle files) (fun _ s => s.1.partPath ≠ none) (Uploads.finalizeUpload sha256 session)
      (fun _ _ _ => True) fun e _ _ => Ordinary e := by
  refine Triple.bind (Q := fun there _ _ => there = true) ?_ fun there => ?_
  · exact Triple.perform fun _ s start => Option.isSome_iff_ne_none.mpr start
  · have sized : Ends files (do
        let actualSize ← Uploads.call (Script.perform Uploads.UploadOp.partSize)
        if actualSize ≠ session.totalSizeBytes then
          throw (.sizeMismatch session.totalSizeBytes actualSize)
        else
          let handle ← Uploads.call (Script.perform Uploads.UploadOp.openRead)
          let content : Uploads.Bytes ← Script.perform (Uploads.UploadOp.readAll handle)
          let checksum := sha256 content
          if session.expectedSha256 ≠ "" ∧ session.expectedSha256.toLower ≠ checksum then
            throw (.checksumMismatch session.expectedSha256 checksum)
          else
            let _ : Uploads.Image ← Script.perform Uploads.UploadOp.loadImage
            Uploads.call (Script.perform Uploads.UploadOp.replace)
            return (checksum, actualSize)) :=
      Keeps.bind (ends_call reports_perform fun _ => rfl) fun _ => Triple.ite (fun _ => Keeps.throw nofun) fun _ =>
        Keeps.bind (ends_call reports_perform fun _ => rfl) fun _ => Keeps.bind (Keeps.perform fun _ _ => id) fun _ =>
          Triple.ite (fun _ => Keeps.throw nofun) fun _ => Keeps.bind (Keeps.perform fun _ _ => id) fun _ =>
            Keeps.bind (ends_call reports_perform fun _ => rfl) fun _ => Keeps.pure _
    cases there with
    | true => exact sized.conseq (fun _ _ _ => trivial) (fun _ _ _ => id) fun _ _ _ ends => ends.2
    | false => exact fun _ _ here => nomatch here

/-- Without one it does. -/
theorem finalizeUpload_empty {s : Uploads.Store × Nat} (missing : s.1.partPath = none) :
    Script.exec (fileHandle files) (Uploads.finalizeUpload sha256 session) () s =
      (.error .uploadEmpty, (), s.1, s.2 + 1) := by
  have there : (fileHandle files .partExists s) = (false, s.1, s.2 + 1) := by
    simp [fileHandle, Uploads.Store.act, missing]
  unfold Uploads.finalizeUpload
  rw [exec_bind, exec_perform, there]
  rfl

end Files

/-! ## Calls -/

section Calls

variable {u : Surroundings} {requestedBy : Option Nat} {s : Site} {c : Construction} {α : Type}

/-- What a service refuses properly is typed, and the rows are as they were. -/
theorem runService_refused {x : EntryM α} (refuses : ∀ t, Refuses u.script t x)
    (refused : (runService u x s).1 = some (.check c)) :
    c.typed ∧ SameRows s.office.db (runService u x s).2.office.db := by
  have ends := refuses s.office.db.settled () { s.office with pending := none, pos := 0 } ⟨rfl, rfl⟩
  unfold runService at refused ⊢
  generalize exec (Office.handle u.script) x () _ = r at refused ends ⊢
  rcases r with ⟨e | a, l, office⟩
  · obtain ⟨built, same⟩ := ends c (Option.some.inj refused)
    exact ⟨c.typed_iff.mpr built, SameRows.of_settled same⟩
  · cases refused

/-- An upload's end leaves the rows. -/
theorem runUpload_rows {x : Uploads.UploadM α} : (runUpload u x s).2.office = s.office := by
  unfold runUpload
  split
  · rfl
  · rfl

/-- A refused upload leaves the tables. -/
theorem runUpload_refused {x : Uploads.UploadM α} {P : Unit → Uploads.Store × Nat → Prop}
    (ends : Triple (fileHandle u.files) P x (fun _ _ _ => True) fun e _ _ => Ordinary e) (start : P () (s.store, 0))
    (refused : (runUpload u x s).1 = some (.check c)) :
    c.typed ∧ SameRows s.office.db (runUpload u x s).2.office.db := by
  refine ⟨?_, SameRows.of_settled (congrArg (fun o => o.db.settled) runUpload_rows)⟩
  have ends := ends () (s.store, 0) start
  unfold runUpload at refused
  generalize exec (fileHandle u.files) x () _ = r at refused ends
  rcases r with ⟨e | a, l, store⟩
  · exact c.typed_iff.mpr (uploadFailure_proper ends c (Option.some.inj refused))
  · cases refused

/-- A call that meets one of the two checks is refused, but not with the code. -/
theorem misbuilt_untyped {call : Call} (misbuilt : call.misbuilt s)
    (refused : (call.run u requestedBy s).1 = some (.check c)) : ¬ c.typed := by
  rw [Construction.typed_iff]
  cases call with
  | restoreBackup backup vm =>
    obtain ⟨completed, running⟩ := misbuilt
    simp only [Call.run, restoreBackup, if_neg (not_not.mpr completed), if_pos running] at refused
    cases refused
    nofun
  | finalizeUpload session =>
    simp only [Call.run, runUpload, finalizeUpload_empty (s := (s.store, 0)) misbuilt] at refused
    cases refused
    nofun
  | _ => cases misbuilt

end Calls

/-- A call that a check of its entry point refuses ends in the API's exception with the code that the check names,
and leaves the rows as they were; except where the check is one of the two that give the constructor the keyword
`status_code`. -/
theorem refused_iff (u : Surroundings) (requestedBy : Option Nat) (call : Call) (s : Site) (c : Construction)
    (refused : (call.run u requestedBy s).1 = some (.check c)) :
    c.typed ∧ SameRows s.office.db (call.run u requestedBy s).2.office.db ↔ ¬ call.misbuilt s := by
  constructor
  · intro held misbuilt
    exact misbuilt_untyped misbuilt refused held.1
  · intro built
    cases call with
    | createVm => exact runService_refused (fun _ => refuses_createVm) refused
    | lifecycle => exact runService_refused (fun _ => refuses_lifecycle) refused
    | attachDisk => exact runService_refused (fun _ => refuses_attachDisk) refused
    | detachDisk => exact runService_refused (fun _ => refuses_detachDisk) refused
    | resizeDisk => exact runService_refused (fun _ => refuses_resizeDisk) refused
    | attachNic => exact runService_refused (fun _ => refuses_attachNic) refused
    | createSnapshot => exact runService_refused (fun _ => refuses_createSnapshot) refused
    | deleteSnapshot => exact runService_refused (fun _ => refuses_deleteSnapshot) refused
    | rollbackSnapshot => exact runService_refused (fun _ => refuses_rollbackSnapshot) refused
    | createBackup => exact runService_refused (fun _ => refuses_createBackup) refused
    | restoreBackup => exact runService_refused (fun _ => refuses_restoreBackup built) refused
    | writeChunk => exact runUpload_refused (ends_writeChunk.conseq (fun _ _ => id) (fun _ _ _ => id)
        fun _ _ _ ends => ends.2) trivial refused
    | finalizeUpload => exact runUpload_refused ends_finalizeUpload built refused

/-! ### A VM that is running -/

/-- A VM that is running. -/
def webVm : VmRow :=
  { pk := 1, uuid := ⟨1⟩, domainUuid := ⟨2⟩, organization := 1, project := 1, node := some 1, name := "web"
    status := .running, provisioningState := .ready }

/-- Its boot disk. -/
def bootDisk : DiskRow :=
  { pk := 1, uuid := ⟨3⟩, vm := 1, storage := 1, name := "web-disk0", sizeBytes := 1073741824, bootable := true }

/-- A completed backup of it. -/
def nightly : BackupRow := { pk := 1, uuid := ⟨4⟩, vm := 1, target := 1, status := .completed }

/-- The site with that VM. -/
def webSite : Site :=
  { office := { db := { vms := [webVm], disks := [bootDisk], backups := [nightly] } }
    store := { session := { totalSizeBytes := 1 } } }

/-- Nobody else does anything. -/
def undisturbed : Surroundings := { sha256 := fun _ => "", script := fun _ => {}, files := fun _ => {} }

theorem refused_iff_bootDisk : ∃ c : Construction,
    ((Call.detachDisk webVm bootDisk).run undisturbed (some 1) webSite).1 = some (.check c) ∧
      c.typed ∧ SameRows webSite.office.db
        ((Call.detachDisk webVm bootDisk).run undisturbed (some 1) webSite).2.office.db :=
  ⟨_, rfl, (refused_iff undisturbed (some 1) (.detachDisk webVm bootDisk) webSite _ rfl).mpr id⟩

/-- A completed backup that is to be restored onto the running VM: the constructor is given `status_code`, so a
`TypeError` is raised in place of `VM_NOT_STOPPED`. -/
theorem restore_raises_typeError : ¬ ∀ (u : Surroundings) (requestedBy : Option Nat) (call : Call) (s : Site)
    (c : Construction), (call.run u requestedBy s).1 = some (.check c) →
      c.typed ∧ SameRows s.office.db (call.run u requestedBy s).2.office.db := by
  intro h
  have typed := (h undisturbed (some 1) (.restoreBackup nightly webVm) webSite _ rfl).1
  rw [Construction.typed_iff] at typed
  cases typed

end NodePilot.EntryPoints
