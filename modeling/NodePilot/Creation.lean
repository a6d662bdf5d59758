import Mathlib.Algebra.GroupWithZero.Nat
import NodePilot.Effects
import NodePilot.Lib.Pool

/-!
# VMs under a key

`create_vm` (`apps/virtual_machines/services.py`), with the unique constraints of the tables it writes. The
calls are transactions side by side. A query sees what is committed when it runs, and what its own
transaction has written. A row that a unique index could not take beside a row of another transaction
waits for the end of that one.

What `check_and_reserve` and the scheduler answer is left open: it may depend on the rows in any way. The
lock on a quota is not held here, so the calls come in more orders than they really do.
-/

namespace NodePilot.Creation

open Lib

/-! ## Rows -/

/-- A row of the VMs, with its template. -/
structure VirtualMachine extends VmRow where
  template : Option Nat := none
  idempotencyKey : String := ""

/-- A row of the jobs, with what it is about. -/
structure Job extends JobRow where
  resourceType : String
  organization : Nat
  node : Option Nat := none
  idempotencyKey : String := ""
  timeoutSeconds : Nat := 600

/-- The rows of the tables that `create_vm` writes. -/
structure Rows where
  vms : List VirtualMachine := []
  disks : List DiskRow := []
  nics : List NicRow := []
  jobs : List Job := []

instance : Append Rows :=
  ⟨fun a b => ⟨a.vms ++ b.vms, a.disks ++ b.disks, a.nics ++ b.nics, a.jobs ++ b.jobs⟩⟩

/-- A VM of the user under the key. -/
def VirtualMachine.under (user : Nat) (key : String) (vm : VirtualMachine) : Bool :=
  vm.createdBy = some user ∧ vm.idempotencyKey = key

/-- A VM_CREATE job of the user under the key. -/
def Job.under (user : Nat) (key : String) (job : Job) : Bool :=
  job.createdBy = some user ∧ job.type = .vmCreate ∧ job.idempotencyKey = key

/-! ## Unique constraints -/

/-- A unique constraint, with the pairs of rows that it rules out. -/
structure Unique (ρ : Type) where
  name : String
  clash : ρ → ρ → Bool

/-- The tables that are written. -/
inductive TableName
  | virtualMachines | vmDisks | vmNics | jobs
deriving DecidableEq

/-- A table with its name. -/
structure Table (ρ : Type) where
  name : TableName
  rows : Rows → List ρ
  rows_empty : rows {} = [] := by rfl
  /-- The row alone. -/
  single : ρ → Rows
  constraints : List (Unique ρ) := []

/-- `unique_vm_idempotency_key_per_user`. NULL is not equal to itself. -/
def uniqueVmKey : Unique VirtualMachine where
  name := "unique_vm_idempotency_key_per_user"
  clash a b := a.createdBy ≠ none ∧ a.createdBy = b.createdBy ∧
    a.idempotencyKey ≠ "" ∧ a.idempotencyKey = b.idempotencyKey

/-- The VMs. -/
def virtualMachines : Table VirtualMachine where
  name := .virtualMachines
  rows := Rows.vms
  single vm := { vms := [vm] }
  constraints := [⟨"unique_vm_name_per_project", fun a b => a.project = b.project ∧ a.name = b.name⟩,
    uniqueVmKey]

/-- The disks. -/
def vmDisks : Table DiskRow where
  name := .vmDisks
  rows := Rows.disks
  single disk := { disks := [disk] }

/-- The NICs. -/
def vmNics : Table NicRow where
  name := .vmNics
  rows := Rows.nics
  single nic := { nics := [nic] }
  constraints := [⟨"vm_nics_mac_address_key", fun a b => a.macAddress = b.macAddress⟩]

/-- `unique_job_idempotency_key_per_user_type` -/
def uniqueJobKey : Unique Job where
  name := "unique_job_idempotency_key_per_user_type"
  clash a b := a.createdBy ≠ none ∧ a.createdBy = b.createdBy ∧ a.type = b.type ∧
    a.idempotencyKey ≠ "" ∧ a.idempotencyKey = b.idempotencyKey

/-- The jobs. -/
def jobs : Table Job where
  name := .jobs
  rows := Rows.jobs
  single job := { jobs := [job] }
  constraints := [uniqueJobKey]

/-- The indexes are asked one after the other. The first constraint that the row breaks, if any, or `none`
while the row has to wait for one of another transaction. -/
def brokenBy {ρ : Type} (row : ρ) (seen others : List ρ) : List (Unique ρ) → Option (Option String)
  | [] => some none
  | u :: rest =>
    if seen.any (u.clash row) then some (some u.name)
    else if others.any (u.clash row) then none
    else brokenBy row seen others rest

/-! ## Statements -/

/-- The statements of a call. -/
inductive Op
  /-- `BEGIN`, `COMMIT` and `ROLLBACK` of `transaction.atomic`. -/
  | enter
  | leave
  | rollback
  /-- A query of the tables. -/
  | read
  /-- `check_and_reserve(organization, project, additional_vms=1, ...)` -/
  | reserve (organization project vcpu memoryMb storageGb : Nat)
  /-- `get_scheduler().select_node(...)` -/
  | selectNode (organization cpuCount memoryMb diskGb : Nat)
  | insertVm (row : VirtualMachine)
  | insertDisk (row : DiskRow)
  | insertNic (row : NicRow)
  | insertJob (row : Job)
  | generateMacAddress
  /-- `provision_vm.delay(job, vm)` -/
  | delay (job vm : Nat)

/-- What a statement returns. -/
@[reducible]
def Ans : Op → Type
  | .enter | .rollback => Unit
  | .leave | .reserve _ _ _ _ _ | .delay _ _ => Except Exn Unit
  | .read => Rows
  | .selectNode _ _ _ _ => Except Exn Nat
  | .insertVm _ => Except Exn VirtualMachine
  | .insertDisk _ => Except Exn DiskRow
  | .insertNic _ => Except Exn NicRow
  | .insertJob _ => Except Exn Job
  | .generateMacAddress => String

/-- A call. -/
abbrev CallM (α : Type) : Type := Script Op Ans Exn Unit α

/-- A statement that may fail. -/
def statement {α : Type} (x : CallM (Except Exn α)) : CallM α := do
  match ← x with
  | .ok a => return a
  | .error e => throw e

/-- `transaction.atomic` -/
def atomic {α : Type} (body : CallM α) : CallM α := do
  Script.perform Op.enter
  let a ← tryCatch body fun e => do
    Script.perform Op.rollback
    throw e
  statement (Script.perform Op.leave)
  return a

/-! ## `create_vm` -/

/-- An entry of `disks`. -/
structure DiskSpec where
  storage : Option Nat
  sizeBytes : Nat
  sourceImage : Option Nat := none
  name : Option String := none
  bus : DiskBus := .virtio
  format : String := "qcow2"
  bootable : Option Bool := none
  readonly : Bool := false
  discard : Bool := true
  iothread : Bool := false

/-- An entry of `nics`. -/
structure NicSpec where
  network : Nat
  macAddress : Option String := none
  model : NicModel := .virtio
  vlan : Option Nat := none
  rateLimitMbps : Option Nat := none
  bootable : Option Bool := none

/-- The arguments. -/
structure NewVm where
  organization : Nat
  project : Nat
  name : String
  createdBy : Nat
  node : Option Nat := none
  template : Option Nat := none
  cpuCount : Nat := 1
  memoryMb : Nat := 2048
  disks : List DiskSpec := []
  nics : List NicSpec := []
  osType : String := "linux"
  firmware : FirmwareType := .bios
  bootOrder : List String := []
  ballooningEnabled : Bool := true
  cloudInitEnabled : Bool := false
  cloudInitConfig : Dict := []
  autostart : Bool := false
  idempotencyKey : String := ""

/-- The call is for the user under the key. -/
def NewVm.under (user : Nat) (key : String) (spec : NewVm) : Bool :=
  spec.createdBy = user ∧ spec.idempotencyKey = key

/-- `disks or [...]` -/
def NewVm.diskSpecs (spec : NewVm) : List DiskSpec :=
  match spec.disks with
  | [] => [{ name := some "root", sizeBytes := 20 * 1024 ^ 3, storage := none, bootable := some true }]
  | disks => disks

/-- `total_disk_gb` -/
def NewVm.totalDiskGb (spec : NewVm) : Nat :=
  (spec.diskSpecs.map DiskSpec.sizeBytes).sum / 1024 ^ 3

/-- The row of the VM. Keys and uuids are given by the database. -/
def NewVm.vmRow (spec : NewVm) (node : Nat) : VirtualMachine where
  pk := 0
  uuid := ⟨0⟩
  domainUuid := ⟨0⟩
  organization := spec.organization
  project := spec.project
  node := some node
  template := spec.template
  createdBy := some spec.createdBy
  name := spec.name
  osType := spec.osType
  firmware := spec.firmware
  cpuCount := spec.cpuCount
  cpuSockets := 1
  cpuCores := spec.cpuCount
  cpuThreads := 1
  memoryMb := spec.memoryMb
  bootOrder := spec.bootOrder
  ballooningEnabled := spec.ballooningEnabled
  cloudInitEnabled := spec.cloudInitEnabled
  cloudInitConfig := spec.cloudInitConfig
  autostart := spec.autostart
  idempotencyKey := spec.idempotencyKey
  status := .creating
  provisioningState := .requested

/-- The row of a disk. -/
def DiskSpec.row (spec : DiskSpec) (vm storage index : Nat) : DiskRow where
  pk := 0
  uuid := ⟨0⟩
  vm := vm
  storage := storage
  sourceImage := spec.sourceImage
  name := spec.name.getD ("disk-" ++ toString index)
  bus := spec.bus
  sizeBytes := spec.sizeBytes
  format := spec.format
  bootable := spec.bootable.getD (index == 0)
  readonly := spec.readonly
  discard := spec.discard
  iothread := spec.iothread
  bootIndex := index

/-- The row of a NIC. -/
def NicSpec.row (spec : NicSpec) (vm : Nat) (macAddress : String) (index : Nat) : NicRow where
  pk := 0
  uuid := ⟨0⟩
  vm := vm
  network := spec.network
  macAddress := macAddress
  model := spec.model
  vlan := spec.vlan
  rateLimitMbps := spec.rateLimitMbps
  bootable := spec.bootable.getD (index == 0)
  bootIndex := index

/-- The row of the job, as `create_job` writes it. -/
def NewVm.jobRow (spec : NewVm) (node : Nat) (vm : VirtualMachine) : Job where
  pk := 0
  uuid := ⟨0⟩
  type := .vmCreate
  resourceType := "VirtualMachine"
  resourceId := vm.uuid.str
  organization := spec.organization
  node := some node
  createdBy := some spec.createdBy
  idempotencyKey := spec.idempotencyKey
  status := .queued

/-- The VM that was created under the key before. -/
def findExisting (spec : NewVm) : CallM (Option VirtualMachine) := do
  if spec.idempotencyKey = "" then return none
  else
    let rows : Rows ← Script.perform Op.read
    return rows.vms.find? (VirtualMachine.under spec.createdBy spec.idempotencyKey)

/-- The node that was asked for, or else the scheduler's. -/
def placeVm (spec : NewVm) : CallM Nat :=
  match spec.node with
  | some node => return node
  | none => statement (Script.perform
      (Op.selectNode spec.organization spec.cpuCount spec.memoryMb spec.totalDiskGb))

/-- A disk without a storage pool is not taken by its table. -/
def createDisk (vm : Nat) (spec : DiskSpec) (index : Nat) : CallM Unit :=
  match spec.storage with
  | none => throw (.integrityError "vm_disks_storage_id")
  | some storage => do
    let _ ← statement (Script.perform (Op.insertDisk (spec.row vm storage index)))

/-- `nic_spec.get("mac_address") or generate_mac_address()` -/
def macAddressOf (spec : NicSpec) : CallM String :=
  match spec.macAddress.filter (· ≠ "") with
  | some macAddress => return macAddress
  | none => Script.perform Op.generateMacAddress

/-- `VMNic.objects.create(...)` -/
def createNic (vm : Nat) (spec : NicSpec) (index : Nat) : CallM Unit := do
  let macAddress ← macAddressOf spec
  let _ ← statement (Script.perform (Op.insertNic (spec.row vm macAddress index)))

/-- The rows of a new VM. -/
def insertRows (spec : NewVm) (node : Nat) : CallM (VirtualMachine × Job) := do
  let vm ← statement (Script.perform (Op.insertVm (spec.vmRow node)))
  spec.diskSpecs.zipIdx.forM fun d => createDisk vm.pk d.1 d.2
  spec.nics.zipIdx.forM fun n => createNic vm.pk n.1 n.2
  let job ← statement (Script.perform (Op.insertJob (spec.jobRow node vm)))
  return (vm, job)

/-- The transaction of `create_vm`. -/
def transaction (spec : NewVm) : CallM (VirtualMachine × Job) := do
  match ← findExisting spec with
  -- the VM is to be returned with its latest job, but no model calls its rows of a VM `jobs`
  | some _ => throw .attributeError
  | none =>
    statement (Script.perform (Op.reserve spec.organization spec.project spec.cpuCount spec.memoryMb
      spec.totalDiskGb))
    let node ← placeVm spec
    insertRows spec node

/-- `create_vm`. What `on_commit` was given runs after the commit. -/
def createVm (spec : NewVm) : CallM (VirtualMachine × Job) := do
  let made ← atomic (transaction spec)
  statement (Script.perform (Op.delay made.2.pk made.1.pk))
  return made

/-! ## The database -/

/-- What the surroundings decide at one statement. -/
structure Choice where
  /-- A statement that writes fails, or the broker takes no task. -/
  fails : Option Exn := none
  /-- The next value of the sequence. -/
  pk : Nat := 0
  uuid : Uuid := ⟨0⟩
  domainUuid : Uuid := ⟨0⟩
  macAddress : String := ""
  /-- What `check_and_reserve` raises, by the rows it sees. -/
  exceeds : Rows → Option Exn := fun _ => none
  /-- What `select_node` answers, by the rows it sees. -/
  node : Rows → Except Exn Nat := fun _ => .ok 0

/-- What has become of a call. -/
inductive Entry
  | committed (rows : Rows)
  /-- `provision_vm` is enqueued. -/
  | enqueued (job vm : Nat)

/-- The database, with what is pending in each call. -/
structure Db where
  /-- What is committed. -/
  rows : Rows := {}
  /-- What each call has inserted in its transaction. -/
  pending : Nat → Rows := fun _ => {}
  /-- The values that the sequences have given. -/
  drawn : List (TableName × Nat) := []
  /-- The calls so far. -/
  calls : List NewVm := []
  /-- What the calls have done, each entry with its call. -/
  log : List (Nat × Entry) := []

namespace Db

/-- The rows that a call sees. -/
def seen (s : Db) (i : Nat) : Rows := s.rows ++ s.pending i

/-- What is pending for a call is replaced. -/
def setPending (s : Db) (i : Nat) (rows : Rows) : Db :=
  { s with pending := fun j => if j = i then rows else s.pending j }

/-- The rows of the table in the transactions of the other calls. -/
def elsewhere {ρ : Type} (s : Db) (i : Nat) (t : Table ρ) : List ρ :=
  ((List.range s.calls.length).filter (· ≠ i)).flatMap fun j => t.rows (s.pending j)

/-- `INSERT`, `none` while it has to wait. -/
def insert {ρ : Type} (s : Db) (c : Choice) (i : Nat) (t : Table ρ) (row : ρ) :
    Option (Except Exn ρ × Db) :=
  match c.fails with
  | some e => some (.error e, s)
  | none =>
    if (t.name, c.pk) ∈ s.drawn then none
    else
      let s := { s with drawn := (t.name, c.pk) :: s.drawn }
      match brokenBy row (t.rows (s.seen i)) (s.elsewhere i t) t.constraints with
      | none => none
      | some (some constraint) => some (.error (.integrityError constraint), s)
      | some none => some (.ok row, s.setPending i (s.pending i ++ t.single row))

/-- One statement of a call. -/
def act (c : Choice) (i : Nat) : (o : Op) → Db → Option (Ans o × Db)
  | .enter, s => some ((), s.setPending i {})
  | .leave, s =>
    match c.fails with
    | some e => some (.error e, s.setPending i {})
    | none => some (.ok (), { s.setPending i {} with
        rows := s.seen i, log := s.log ++ [(i, .committed (s.pending i))] })
  | .rollback, s => some ((), s.setPending i {})
  | .read, s => some (s.seen i, s)
  | .reserve _ _ _ _ _, s =>
    match c.exceeds (s.seen i) with
    | some e => some (.error e, s)
    | none => some (.ok (), s)
  | .selectNode _ _ _ _, s => some (c.node (s.seen i), s)
  | .insertVm row, s => s.insert c i virtualMachines
      { row with pk := c.pk, uuid := c.uuid, domainUuid := c.domainUuid }
  | .insertDisk row, s => s.insert c i vmDisks { row with pk := c.pk, uuid := c.uuid }
  | .insertNic row, s => s.insert c i vmNics { row with pk := c.pk, uuid := c.uuid }
  | .insertJob row, s => s.insert c i jobs { row with pk := c.pk, uuid := c.uuid }
  | .generateMacAddress, s => some (c.macAddress, s)
  | .delay job vm, s =>
    match c.fails with
    | some e => some (.error e, s)
    | none => some (.ok (), { s with log := s.log ++ [(i, .enqueued job vm)] })

end Db

/-- What the rest of the program does to the tables: it may remove and change rows, and add some, but none
under a key. -/
structure Elsewhere where
  change : Rows → Rows
  vms : ∀ rows user key, key ≠ "" →
    (((change rows).vms.filter (VirtualMachine.under user key)).map (·.pk)).Sublist
      ((rows.vms.filter (VirtualMachine.under user key)).map (·.pk))
  jobs : ∀ rows user key, key ≠ "" →
    (((change rows).jobs.filter (Job.under user key)).map (·.pk)).Sublist
      ((rows.jobs.filter (Job.under user key)).map (·.pk))

/-- What happens besides the calls' own statements. -/
inductive Event
  | call (spec : NewVm)
  | elsewhere (e : Elsewhere)

/-- A call under way, and how it ends. -/
abbrev Call : Type := Thread NewVm Op Ans (Except Exn (VirtualMachine × Job) × Unit)

/-- What such an event makes of the database. -/
def env : Event → Db → Option (List Call × Db)
  | .call spec, s => some ([⟨spec, (createVm spec).prog ()⟩], { s with calls := s.calls ++ [spec] })
  | .elsewhere e, s => some ([], { s with rows := e.change s.rows })

/-- The calls side by side. -/
def system : System NewVm Op Ans (Except Exn (VirtualMachine × Job) × Unit) Db Choice Event :=
  ⟨Db.act, env⟩

end NodePilot.Creation
