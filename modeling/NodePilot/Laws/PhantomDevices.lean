import NodePilot.Devices
import NodePilot.Laws.CloneFidelity
import NodePilot.Laws.Footprints

/-!
# What a failed hot-plug leaves behind

`attach_disk` and `attach_nic` commit the row of the device with the job. The task works on the row and removes it in
no case, so a device whose task has failed stays in the tables, whatever the step it failed at.
-/

namespace NodePilot.Devices

open Lib Lib.Script

/-- The VM has the same disks and NICs in both. -/
structure SameDevices (t t' : Tables) (vm : Nat) : Prop where
  disks : ∀ d : DiskRow, d.vm = vm → (d ∈ t.disks ↔ d ∈ t'.disks)
  nics : ∀ n : NicRow, n.vm = vm → (n ∈ t.nics ↔ n ∈ t'.nics)

/-- What a request attaches. -/
inductive HotPlug
  | disk (storage sizeGb : Nat) (bus : DiskBus)
  | nic (network : Nat) (model : NicModel) (vlan rateLimitMbps : Option Nat)

namespace HotPlug

/-- The request, with the key of its device and of its job. -/
def request (vm : VmRow) (requestedBy : Option Nat) : HotPlug → DeviceM (Nat × Nat)
  | disk storage sizeGb bus => do
    let (row, job) ← attachDisk vm storage sizeGb bus requestedBy
    return (row.pk, job.pk)
  | nic network model vlan rateLimitMbps => do
    let (row, job) ← attachNic vm network model vlan rateLimitMbps requestedBy
    return (row.pk, job.pk)

/-- The task that the request enqueues. -/
def task (device : Nat) : HotPlug → Task
  | disk _ _ _ => .attachDisk device
  | nic _ _ _ _ => .attachNic device

/-- The device is there, as one of the VM. -/
def There (vm device : Nat) (disks : List DiskRow) (nics : List NicRow) : HotPlug → Prop
  | disk _ _ _ => ∃ d ∈ disks, d.pk = device ∧ d.vm = vm
  | nic _ _ _ _ => ∃ n ∈ nics, n.pk = device ∧ n.vm = vm

/-- The device is not there. -/
def Fresh (device : Nat) (disks : List DiskRow) (nics : List NicRow) : HotPlug → Prop
  | disk _ _ _ => device = Table.nextPk disks
  | nic _ _ _ _ => device = Table.nextPk nics

end HotPlug

/-! ## The request -/

/-- An operation that leaves the tables of devices alone. -/
def Op.quiet : Op → Prop
  | .service (.task (.write x)) => x.onJobs
  | .service (.task (.createVm _)) => False
  | .leave | .rollback | .insertDisk _ | .insertNic _ => False
  | _ => True

section Request

variable {script : Nat → Choice} {α : Type} {o : Op} {d : Desk} {vm : VmRow} {requestedBy : Option Nat}

theorem turn_devices (t : Tables) (now : Nat) (job : Option Nat) :
    (t.requestCancel now job).disks = t.disks ∧ (t.requestCancel now job).nics = t.nics := by
  have settled : (t.requestCancel now job).settled = t.settled := settled_requestCancel
  exact ⟨(congrArg Tables.disks settled :), (congrArg Tables.nics settled :)⟩

theorem quiet_task {o : NodePilot.Op} {c : NodePilot.Choice} {w : World} (ho : (Op.service (.task o)).quiet) :
    (World.answer c o w).2.db.settled = w.db.settled := by
  cases o with
  | read | release | now | mac => rfl
  | createVm => exact ho.elim
  | write x =>
    simp only [World.answer, World.statement]
    split
    · next made =>
      split at made
      · cases made
      · exact settled_writeJobs ho made
    · rfl
  | send node r timeout => cases node <;> rfl
  | acquire key ttl =>
    simp only [World.answer]
    split <;> rfl
  | emit event =>
    simp only [World.answer, World.statement]
    split
    · next made =>
      split at made
      · cases made
      · cases made
        rfl
    · rfl

theorem quiet_answer {c : Choice} (ho : o.quiet) : (Desk.answer c o d).2.world.db.disks = d.world.db.disks ∧
    (Desk.answer c o d).2.world.db.nics = d.world.db.nics := by
  cases o with
  | service o =>
    cases o with
    | task o =>
      have db : (World.answer c.toChoice o d.world).2.db.settled = _ := quiet_task ho
      exact ⟨(congrArg Tables.disks db :), (congrArg Tables.nics db :)⟩
    | createJob row =>
      simp only [Desk.answer]
      split <;> exact ⟨rfl, rfl⟩
    | checkAndReserve vm =>
      simp only [Desk.answer]
      split <;> exact ⟨rfl, rfl⟩
  | enter => exact ⟨rfl, rfl⟩
  | reserve vm storageGb =>
    simp only [Desk.answer]
    split <;> exact ⟨rfl, rfl⟩
  | delay job task =>
    simp only [Desk.answer]
    split <;> exact ⟨rfl, rfl⟩
  | leave | rollback | insertDisk | insertNic => exact ho.elim

theorem quiet_handle (ho : o.quiet) : (Desk.handle script o d).2.world.db.disks = d.world.db.disks ∧
    (Desk.handle script o d).2.world.db.nics = d.world.db.nics := by
  have turn := turn_devices d.world.db (script d.pos).now (script d.pos).cancel
  rw [← turn.1, ← turn.2]
  exact quiet_answer ho

/-- What is true of the devices stays so while nothing is done to them. -/
theorem triple_quiet {P : List DiskRow → List NicRow → Prop} {Q : α → Prop} {x : DeviceM α}
    (hx : Obeys (fun _ _ => True) Op.quiet Q x) :
    Triple (Desk.handle script) (fun _ d => P d.world.db.disks d.world.db.nics) x
      (fun _ _ d => P d.world.db.disks d.world.db.nics) fun _ _ _ => True := by
  have keeps : Keeps (Desk.handle script) (fun _ d => P d.world.db.disks d.world.db.nics) (fun _ => True) x :=
    hx.keeps fun o d ho h => by
      have same : (Desk.handle script o d).2.world.db.disks = _ ∧ (Desk.handle script o d).2.world.db.nics = _ :=
        quiet_handle ho
      rw [same.1, same.2]
      exact ⟨trivial, h⟩
  exact keeps.conseq (fun _ _ => id) (fun _ _ _ => id) fun _ _ _ _ => trivial

theorem quiet_statement {x : DeviceM (Except Exn α)} (hx : Obeys (fun _ _ => True) Op.quiet (fun _ => True) x) :
    Obeys (fun _ _ => True) Op.quiet (fun _ => True) (statement x) := by
  refine Obeys.bind hx fun r _ => ?_
  cases r with
  | ok a => exact Obeys.pure trivial
  | error e => exact Obeys.throw

theorem quiet_startStorageJob {type : JobType} :
    Obeys (fun _ _ => True) Op.quiet (fun _ => True) (startStorageJob vm type requestedBy) := by
  have routine : ServiceRoutine fun o => (Op.service o).quiet :=
    { task := ⟨trivial, fun _ _ => trivial, fun _ => trivial, fun _ => trivial, trivial, fun _ hx => hx.onJobs⟩
      createJob := fun _ => trivial
      checkAndReserve := fun _ => trivial }
  exact Obeys.translate (Obeys.bind routine.precheck fun _ _ => routine.newJob)

/-- What is true of the devices at the end of a transaction is so after its commit. -/
theorem triple_atomic {P : List DiskRow → List NicRow → Prop} {Q : α → List DiskRow → List NicRow → Prop}
    {body : DeviceM α} (hbody : Triple (Desk.handle script) (fun _ d => P d.world.db.disks d.world.db.nics) body
      (fun a _ d => Q a d.world.db.disks d.world.db.nics) fun _ _ _ => True) :
    Triple (Desk.handle script) (fun _ d => P d.world.db.disks d.world.db.nics) (atomic body)
      (fun a _ d => Q a d.world.db.disks d.world.db.nics) fun _ _ _ => True := by
  have entered : Obeys (fun _ _ => True) Op.quiet (fun _ => True) (Script.perform Op.enter : DeviceM Unit) :=
    Obeys.perform (o := Op.enter) trivial fun _ _ => trivial
  refine Triple.bind (triple_quiet entered) fun _ => ?_
  refine Triple.bind (Triple.tryCatch hbody fun e => ?_) fun a => ?_
  · exact Triple.bind (Q := fun _ _ _ => True) (Triple.perform fun _ _ _ => trivial) fun _ =>
      Triple.throw fun _ _ _ => trivial
  · refine Triple.bind (Q := fun _ _ d => Q a d.world.db.disks d.world.db.nics) ?_ fun _ => Triple.pure fun _ _ => id
    refine Triple.bind (Q := fun r _ d => r = .ok () → Q a d.world.db.disks d.world.db.nics) ?_ fun r => ?_
    · refine Triple.perform fun _ d h made => ?_
      obtain ⟨disks, nics⟩ := turn_devices d.world.db (script d.pos).now (script d.pos).cancel
      simp only [Desk.handle, Desk.answer] at made ⊢
      split at made
      · cases made
      · next accepted =>
        rw [if_neg accepted]
        show Q a (d.world.db.requestCancel _ _).disks (d.world.db.requestCancel _ _).nics
        rw [disks, nics]
        exact h
    · cases r with
      | ok => exact Triple.pure fun _ _ h => h rfl
      | error e => exact Triple.throw fun _ _ _ => trivial

/-- An insertion adds the row under a new key. -/
theorem triple_insertDisk {ds : List DiskRow} {row : DiskRow} :
    Triple (Desk.handle script) (fun _ d => d.world.db.disks = ds)
      (statement (Script.perform (Op.insertDisk row)))
      (fun made _ d => made.pk = Table.nextPk ds ∧ ∃ row' ∈ d.world.db.disks, row'.pk = made.pk ∧ row'.vm = row.vm)
      fun _ _ _ => True := by
  refine Triple.bind (Q := fun r _ d => ∀ made, r = .ok made → made.pk = Table.nextPk ds ∧
    ∃ row' ∈ d.world.db.disks, row'.pk = made.pk ∧ row'.vm = row.vm) (Triple.perform fun _ d before made done => ?_)
    fun r => ?_
  · have disks := (turn_devices d.world.db (script d.pos).now (script d.pos).cancel).1
    rw [before] at disks
    simp only [Desk.handle, Desk.answer, Desk.insert] at done ⊢
    split at done
    · next db written =>
      cases done
      split at written
      · cases written
      · obtain ⟨-, rfl⟩ := Tables.write_diskCreate written
        refine ⟨congrArg Table.nextPk disks, _, List.mem_append_right _ List.mem_cons_self, rfl, rfl⟩
    · cases done
  · cases r with
    | ok made => exact Triple.pure fun _ _ h => h made rfl
    | error e => exact Triple.throw fun _ _ _ => trivial

theorem triple_insertNic {ns : List NicRow} {row : NicRow} :
    Triple (Desk.handle script) (fun _ d => d.world.db.nics = ns)
      (statement (Script.perform (Op.insertNic row)))
      (fun made _ d => made.pk = Table.nextPk ns ∧ ∃ row' ∈ d.world.db.nics, row'.pk = made.pk ∧ row'.vm = row.vm)
      fun _ _ _ => True := by
  refine Triple.bind (Q := fun r _ d => ∀ made, r = .ok made → made.pk = Table.nextPk ns ∧
    ∃ row' ∈ d.world.db.nics, row'.pk = made.pk ∧ row'.vm = row.vm) (Triple.perform fun _ d before made done => ?_)
    fun r => ?_
  · have nics := (turn_devices d.world.db (script d.pos).now (script d.pos).cancel).2
    rw [before] at nics
    simp only [Desk.handle, Desk.answer, Desk.insert] at done ⊢
    split at done
    · next db written =>
      cases done
      split at written
      · cases written
      · obtain ⟨-, rfl⟩ := Tables.write_nicCreate written
        refine ⟨congrArg Table.nextPk nics, _, List.mem_append_right _ List.mem_cons_self, rfl, rfl⟩
    · cases done
  · cases r with
    | ok made => exact Triple.pure fun _ _ h => h made rfl
    | error e => exact Triple.throw fun _ _ _ => trivial

theorem quiet_query : Obeys (fun _ _ => True) Op.quiet (fun _ => True) query :=
  Obeys.perform (o := Op.service (.task .read)) trivial fun _ _ => trivial

/-- A device of the VM that was not there before. -/
def HotPlug.Made (plug : HotPlug) (vm : Nat) (ds : List DiskRow) (ns : List NicRow) (device : Nat)
    (disks : List DiskRow) (nics : List NicRow) : Prop :=
  plug.Fresh device ds ns ∧ plug.There vm device disks nics

/-- **A request that is accepted leaves a device that was not there before.** -/
theorem triple_request {plug : HotPlug} {ds : List DiskRow} {ns : List NicRow} :
    Triple (Desk.handle script) (fun _ d => d.world.db.disks = ds ∧ d.world.db.nics = ns)
      (plug.request vm requestedBy)
      (fun made _ d => plug.Made vm.pk ds ns made.1 d.world.db.disks d.world.db.nics) fun _ _ _ => True := by
  have quiet {β : Type} (P : List DiskRow → List NicRow → Prop) {x : DeviceM β}
      (hx : Obeys (fun _ _ => True) Op.quiet (fun _ => True) x) :
      Triple (Desk.handle script) (fun _ d => P d.world.db.disks d.world.db.nics) x
        (fun _ _ d => P d.world.db.disks d.world.db.nics) fun _ _ _ => True := triple_quiet hx
  -- the transaction, the message to the broker, and the answer
  have request {ρ : Type} {insert : DeviceM (ρ × JobRow)} (pk : ρ → Nat) (enqueue : ρ × JobRow → Task)
      (inserts : Triple (Desk.handle script) (fun _ d => d.world.db.disks = ds ∧ d.world.db.nics = ns) insert
        (fun made _ d => plug.Made vm.pk ds ns (pk made.1) d.world.db.disks d.world.db.nics) fun _ _ _ => True) :
      Triple (Desk.handle script) (fun _ d => d.world.db.disks = ds ∧ d.world.db.nics = ns)
        (insert >>= fun made => statement (Script.perform (Op.delay made.2.pk (enqueue made))) >>= fun _ =>
          pure made) (fun made _ d => plug.Made vm.pk ds ns (pk made.1) d.world.db.disks d.world.db.nics)
        fun _ _ _ => True :=
    Triple.bind inserts fun made => Triple.bind (quiet (plug.Made vm.pk ds ns (pk made.1)) (quiet_statement
      (Obeys.perform (o := Op.delay made.2.pk (enqueue made)) trivial fun _ _ => trivial))) fun _ =>
      Triple.pure fun _ _ => id
  have before {β : Type} {x : DeviceM β} (hx : Obeys (fun _ _ => True) Op.quiet (fun _ => True) x) :=
    quiet (fun disks nics => disks = ds ∧ nics = ns) hx
  cases plug with
  | disk storage sizeGb bus =>
    refine Triple.bind (request DiskRow.pk (fun made => .attachDisk made.1.pk) ?_) fun made => Triple.pure fun _ _ => id
    have counted : Obeys (fun _ _ => True) Op.quiet (fun _ => True) (diskCount vm.pk) :=
      Obeys.bind quiet_query fun _ _ => Obeys.pure trivial
    refine triple_atomic (P := fun disks nics => disks = ds ∧ nics = ns)
      (Q := fun made : DiskRow × JobRow => HotPlug.Made (.disk storage sizeGb bus) vm.pk ds ns made.1.pk) ?_
    refine Triple.bind (before (quiet_statement
      (Obeys.perform (o := Op.reserve vm sizeGb) trivial fun _ _ => trivial))) fun _ => ?_
    refine Triple.bind (before counted) fun named => Triple.bind (before counted) fun index => ?_
    refine Triple.bind (triple_insertDisk.conseq (fun _ _ h => h.1) (fun _ _ _ => id) fun _ _ _ => id) fun made => ?_
    exact Triple.bind (quiet (HotPlug.Made (.disk storage sizeGb bus) vm.pk ds ns made.pk) quiet_startStorageJob)
      fun job => Triple.pure fun _ _ => id
  | nic network model vlan rateLimitMbps =>
    refine Triple.bind (request NicRow.pk (fun made => .attachNic made.1.pk) ?_) fun made => Triple.pure fun _ _ => id
    have counted : Obeys (fun _ _ => True) Op.quiet (fun _ => True) (nicCount vm.pk) :=
      Obeys.bind quiet_query fun _ _ => Obeys.pure trivial
    have drawn : Obeys (fun _ _ => True) Op.quiet (fun _ => True)
        (Script.perform (Op.service (.task .mac)) : DeviceM String) :=
      Obeys.perform (o := Op.service (.task .mac)) trivial fun _ _ => trivial
    refine triple_atomic (P := fun disks nics => disks = ds ∧ nics = ns)
      (Q := fun made : NicRow × JobRow =>
        HotPlug.Made (.nic network model vlan rateLimitMbps) vm.pk ds ns made.1.pk) ?_
    refine Triple.bind (before drawn) fun macAddress => Triple.bind (before counted) fun index => ?_
    refine Triple.bind (triple_insertNic.conseq (fun _ _ h => h.2) (fun _ _ _ => id) fun _ _ _ => id) fun made => ?_
    exact Triple.bind (quiet (HotPlug.Made (.nic network model vlan rateLimitMbps) vm.pk ds ns made.pk)
      quiet_startStorageJob) fun job => Triple.pure fun _ _ => id

end Request

/-! ## The task -/

section Task

variable {plug : HotPlug} {vm device jobId : Nat} {t t' : Tables} {now : Nat} {uuid : Uuid}

/-- Recording the volume of a disk removes nothing. -/
theorem there_diskSave {disk : Nat} {volumeId dev format : String} (h : plug.There vm device t.disks t.nics)
    (hw : t.write now uuid (.diskSave disk volumeId dev format) = .ok t') :
    plug.There vm device t'.disks t'.nics := by
  obtain ⟨rows, hrows, rfl⟩ := except_bind_ok hw
  rw [saveRow_ok hrows]
  cases plug with
  | nic => exact h
  | disk =>
    obtain ⟨d, hd, key, own⟩ := h
    refine ⟨_, List.mem_map_of_mem hd, ?_, ?_⟩
    all_goals split <;> assumption

/-- What the tasks do. -/
def attaching : NodePilot.Op → Prop :=
  NodePilot.Op.within (fun _ => True) (fun x => ∃ disk volumeId dev format, x = .diskSave disk volumeId dev format)
    False

/-- The task removes no device, however it ends. -/
theorem there_execute {taskId : String} {w : World} (h : plug.There vm device w.db.disks w.db.nics) :
    plug.There vm device ((plug.task device).execute taskId jobId w).db.disks
      ((plug.task device).execute taskId jobId w).db.nics := by
  have routine : Routine attaching := routine_within
  have keeps : Obeys (answersIn (fun t => plug.There vm device t.disks t.nics) fun _ => True) attaching
      (fun _ => True) ((plug.task device).body jobId) := by
    cases plug with
    | disk =>
      have saved (volumeId dev format : String) : attaching (.write (.diskSave device volumeId dev format)) :=
        .inr ⟨_, _, _, _, rfl⟩
      exact routine.attachDiskTask (fun _ _ _ => trivial) saved fun _ _ _ => trivial
    | nic => exact routine.attachNicTask fun _ _ _ => trivial
  have saves (x : Write) (now : Nat) (uuid : Uuid) (t t' : Tables)
      (hx : ∃ disk volumeId dev format, x = .diskSave disk volumeId dev format)
      (there : plug.There vm device t.disks t.nics) (hw : t.write now uuid x = .ok t') :
      plug.There vm device t'.disks t'.nics := by
    obtain ⟨disk, volumeId, dev, format, rfl⟩ := hx
    exact there_diskSave there hw
  exact (execute_within saves (fun _ _ _ _ _ refused => refused.elim) taskId keeps ⟨h, fun _ _ _ _ => trivial, rfl⟩).tables

/-- A device that is there is none of those before. -/
theorem HotPlug.Made.new {t₀ : Tables} (made : plug.Fresh device t₀.disks t₀.nics)
    (there : plug.There vm device t.disks t.nics) : ¬ SameDevices t₀ t vm := by
  intro same
  cases plug with
  | disk =>
    obtain ⟨d, hd, key, own⟩ := there
    have older : d.pk < Table.nextPk t₀.disks := Table.lt_nextPk ((same.disks d own).mpr hd)
    exact Nat.ne_of_lt older (key.trans made)
  | nic =>
    obtain ⟨n, hn, key, own⟩ := there
    have older : n.pk < Table.nextPk t₀.nics := Table.lt_nextPk ((same.nics n own).mpr hn)
    exact Nat.ne_of_lt older (key.trans made)

theorem HotPlug.There.same (there : plug.There vm device t.disks t.nics) (same : SameDevices t t' vm) :
    plug.There vm device t'.disks t'.nics := by
  cases plug with
  | disk =>
    obtain ⟨d, hd, key, own⟩ := there
    exact ⟨d, (same.disks d own).mp hd, key, own⟩
  | nic =>
    obtain ⟨n, hn, key, own⟩ := there
    exact ⟨n, (same.nics n own).mp hn, key, own⟩

end Task

/-! ## What a failed hot-plug leaves -/

/-- **A hot-plug that fails always leaves its device behind**, as long as nobody else touches the devices of the VM
between the request and its task. -/
theorem failed_hot_plug {script : Nat → Choice} {plug : HotPlug} {vm : VmRow} {requestedBy : Option Nat}
    {d d' : Desk} {device jobId : Nat} {w : World} {taskId : String}
    (accepted : Desk.accept script (plug.request vm requestedBy) d = some ((device, jobId), d'))
    (meanwhile : SameDevices d'.world.db w.db vm.pk) :
    ((plug.task device).execute taskId jobId w).jobStatus jobId = some .failed →
      ¬ SameDevices d.world.db ((plug.task device).execute taskId jobId w).db vm.pk := by
  intro _
  have requested := (triple_request : Triple (Desk.handle script) _ (plug.request vm requestedBy) _ _) () d
    ⟨rfl, rfl⟩
  unfold Desk.accept at accepted
  generalize Script.exec (Desk.handle script) (plug.request vm requestedBy) () d = r at accepted requested
  rcases r with ⟨e | made, l, d₁⟩
  · cases accepted
  · cases accepted
    obtain ⟨fresh, there⟩ := requested
    exact HotPlug.Made.new fresh (there_execute (HotPlug.There.same there meanwhile))

/-- A disk and a NIC for the VM, while the agent of its node is away. -/
def webDesk : Desk := { world := { webWorld with script := fun i => { cloneChoice i with agent := .notConnected } } }

def webChoice (i : Nat) : Choice := { uuid := ⟨100 + i⟩, mac := "52:54:00:00:00:09" }

def webDisk : HotPlug := .disk 1 10 .virtio

def webNic : HotPlug := .nic 1 .virtio none none

theorem failed_hot_plug_away : ∃ device jobId d',
    Desk.accept webChoice (webDisk.request webVm none) webDesk = some ((device, jobId), d') ∧
    ((webDisk.task device).execute "t" jobId d'.world).jobStatus jobId = some .failed ∧
    ¬ SameDevices webDesk.world.db ((webDisk.task device).execute "t" jobId d'.world).db 1 := by
  have run : (Desk.accept webChoice (webDisk.request webVm none) webDesk).any fun r =>
      ((webDisk.task r.1.1).execute "t" r.1.2 r.2.world).jobStatus r.1.2 = some .failed := by
    decide +kernel
  obtain ⟨⟨⟨device, jobId⟩, d'⟩, accepted, failed⟩ := (Option.any_eq_true _ _).mp run
  have failed := of_decide_eq_true failed
  exact ⟨device, jobId, d', accepted, failed,
    failed_hot_plug accepted ⟨fun _ _ => Iff.rfl, fun _ _ => Iff.rfl⟩ failed⟩

theorem hot_plug_stays :
    (¬ ∀ (d' : Desk) (device jobId : Nat),
      Desk.accept webChoice (webDisk.request webVm none) webDesk = some ((device, jobId), d') →
      ((webDisk.task device).execute "t" jobId d'.world).jobStatus jobId = some .failed →
      SameDevices webDesk.world.db ((webDisk.task device).execute "t" jobId d'.world).db 1) ∧
    ¬ ∀ (d' : Desk) (device jobId : Nat),
      Desk.accept webChoice (webNic.request webVm none) webDesk = some ((device, jobId), d') →
      ((webNic.task device).execute "t" jobId d'.world).jobStatus jobId = some .failed →
      SameDevices webDesk.world.db ((webNic.task device).execute "t" jobId d'.world).db 1 := by
  constructor
  · intro h
    have run : (Desk.accept webChoice (webDisk.request webVm none) webDesk).any fun r =>
        ((webDisk.task r.1.1).execute "t" r.1.2 r.2.world).jobStatus r.1.2 = some .failed ∧
          ((webDisk.task r.1.1).execute "t" r.1.2 r.2.world).db.disks.any fun d => d.pk = 2 ∧ d.vm = 1 := by
      decide +kernel
    obtain ⟨⟨⟨device, jobId⟩, d'⟩, accepted, ended⟩ := (Option.any_eq_true _ _).mp run
    obtain ⟨failed, there⟩ := of_decide_eq_true ended
    obtain ⟨d, hd, key⟩ := List.any_eq_true.mp there
    have fresh : webDisk.Fresh 2 webDesk.world.db.disks webDesk.world.db.nics := rfl
    exact HotPlug.Made.new fresh ⟨d, hd, of_decide_eq_true key⟩ (h d' device jobId accepted failed)
  · intro h
    have run : (Desk.accept webChoice (webNic.request webVm none) webDesk).any fun r =>
        ((webNic.task r.1.1).execute "t" r.1.2 r.2.world).jobStatus r.1.2 = some .failed ∧
          ((webNic.task r.1.1).execute "t" r.1.2 r.2.world).db.nics.any fun n => n.pk = 2 ∧ n.vm = 1 := by
      decide +kernel
    obtain ⟨⟨⟨device, jobId⟩, d'⟩, accepted, ended⟩ := (Option.any_eq_true _ _).mp run
    obtain ⟨failed, there⟩ := of_decide_eq_true ended
    obtain ⟨n, hn, key⟩ := List.any_eq_true.mp there
    have fresh : webNic.Fresh 2 webDesk.world.db.disks webDesk.world.db.nics := rfl
    exact HotPlug.Made.new fresh ⟨n, hn, of_decide_eq_true key⟩ (h d' device jobId accepted failed)

end NodePilot.Devices
