import NodePilot.Effects
import NodePilot.Lib.Pool
import NodePilot.Lib.Transaction
import Mathlib.Algebra.GroupWithZero.Nat

/-!
# Quotas

`apps/organizations/services.py`, and the three services that reserve resources in the transaction
that creates them: `create_vm`, `attach_disk` and `create_snapshot`. A query sees what is committed
when it runs, and what its own transaction has written (READ COMMITTED). The row lock of
`select_for_update` is held until the transaction ends, however many `atomic` blocks it was taken in.

`current_usage` counts from three queries, one a table. Only the columns that it counts and the ones
that the services look at are kept. The database may reject any statement that writes, for a
constraint or otherwise.
-/

namespace NodePilot.Quotas

open Lib

/-! ## Rows -/

structure Quota where
  pk : Nat
  organization : Nat
  project : Option Nat := none
  maxVms : Nat := 100
  maxVcpu : Nat := 500
  maxMemoryMb : Nat := 2 * 1024 * 1024
  maxStorageGb : Nat := 20 * 1024
  maxSnapshots : Nat := 500
deriving DecidableEq

structure VirtualMachine where
  pk : Nat
  organization : Nat
  project : Nat
  node : Option Nat := none
  createdBy : Nat
  name : String
  status : VMStatus := .creating
  cpuCount : Nat := 1
  memoryMb : Nat := 2048
  idempotencyKey : String := ""

/-- `StorageCapability` -/
inductive StorageCapability
  | vmDisk | iso | backup | snapshot | template
deriving DecidableEq

structure StoragePool where
  name : String
  capabilities : List StorageCapability := []

structure VMDisk where
  pk : Nat
  vm : Nat
  storage : StoragePool
  name : String
  sizeBytes : Nat
  bootIndex : Nat := 0

structure Snapshot where
  pk : Nat
  vm : Nat
  name : String
  description : String := ""

/-- The rows that are counted. -/
structure Rows where
  vms : List VirtualMachine := []
  disks : List VMDisk := []
  snapshots : List Snapshot := []

instance : Append Rows :=
  ⟨fun a b => ⟨a.vms ++ b.vms, a.disks ++ b.disks, a.snapshots ++ b.snapshots⟩⟩

/-- What a query sees. -/
structure View where
  rows : Rows
  quotas : List Quota

/-- `1024**3` -/
def gib : Nat := 1024 ^ 3

/-! ## Usage -/

structure QuotaUsage where
  vms : Nat
  vcpu : Nat
  memoryMb : Nat
  storageGb : Nat
  snapshots : Nat

/-- `additional_vms`, ... -/
structure Additional where
  vms : Nat := 0
  vcpu : Nat := 0
  memoryMb : Nat := 0
  storageGb : Nat := 0
  snapshots : Nat := 0

/-- The VMs that `current_usage` goes through. -/
def counted (organization : Nat) (project : Option Nat) (vms : List VirtualMachine) :
    List VirtualMachine :=
  vms.filter fun v => v.organization = organization ∧ v.status ≠ .deleting ∧
    ∀ p ∈ project, v.project = p

/-- The bytes of the VM's disks. -/
def diskBytes (disks : List VMDisk) (vm : Nat) : Nat :=
  ((disks.filter (·.vm = vm)).map VMDisk.sizeBytes).sum

/-- `vm.snapshots.count()` -/
def snapshotCount (snapshots : List Snapshot) (vm : Nat) : Nat :=
  (snapshots.filter (·.vm = vm)).length

/-- The totals of `current_usage` over the VMs `vms`. -/
def totals (vms : List VirtualMachine) (disks : List VMDisk) (snapshots : List Snapshot) :
    QuotaUsage where
  vms := vms.length
  vcpu := (vms.map VirtualMachine.cpuCount).sum
  memoryMb := (vms.map VirtualMachine.memoryMb).sum
  storageGb := (vms.map fun v => diskBytes disks v.pk).sum / gib
  snapshots := (vms.map fun v => snapshotCount snapshots v.pk).sum

/-- `current_usage`, of rows that do not change in between. -/
def Rows.usage (r : Rows) (organization : Nat) (project : Option Nat) : QuotaUsage :=
  totals (counted organization project r.vms) r.disks r.snapshots

/-- `details` of `QuotaExceeded`, with what its message says of them. -/
structure Exceeded where
  field : String
  limit : Nat
  projected : Nat
  label : String

def Exceeded.message (e : Exceeded) : String :=
  "This operation would use " ++ toString e.projected ++ " " ++ e.label ++
    ", exceeding the quota of " ++ toString e.limit ++ "."

/-- `checks`, each with its limit. -/
def Quota.checks (quota : Quota) (usage : QuotaUsage) (a : Additional) : List Exceeded :=
  [⟨"max_vms", quota.maxVms, usage.vms + a.vms, "VMs"⟩,
    ⟨"max_vcpu", quota.maxVcpu, usage.vcpu + a.vcpu, "vCPUs"⟩,
    ⟨"max_memory_mb", quota.maxMemoryMb, usage.memoryMb + a.memoryMb, "MB of memory"⟩,
    ⟨"max_storage_gb", quota.maxStorageGb, usage.storageGb + a.storageGb, "GB of storage"⟩,
    ⟨"max_snapshots", quota.maxSnapshots, usage.snapshots + a.snapshots, "snapshots"⟩]

/-- `Quota.objects.filter(organization=..., project=...).first()` -/
def quotaOf (quotas : List Quota) (organization : Nat) (project : Option Nat) : Option Quota :=
  quotas.find? fun q => q.organization = organization ∧ q.project = project

/-- `_effective_quota`, of quotas that do not change in between. -/
def effectiveQuota (quotas : List Quota) (organization : Nat) (project : Option Nat) :
    Option Quota :=
  match project with
  | some p => (quotaOf quotas organization (some p)).or (quotaOf quotas organization none)
  | none => quotaOf quotas organization none

/-! ## Statements of a transaction -/

inductive TxOp
  /-- The beginning of an `atomic` block. -/
  | enter
  /-- The end of an `atomic` block: the commit, for the outermost. -/
  | leave
  /-- An exception has left an `atomic` block. -/
  | rollback
  | read
  /-- `Quota.objects.select_for_update().get(pk=...)` -/
  | lockQuota (quota : Nat)
  | insertVm (row : VirtualMachine)
  | insertDisk (row : VMDisk)
  | insertSnapshot (row : Snapshot)
  /-- `VMNic.objects.create(...)` -/
  | insertNic (vm network : Nat)
  /-- `create_job(...)` -/
  | createJob (type : JobType)
  /-- `storage_lock(vm).acquire(blocking=False)` -/
  | acquire (vm : Nat)
  | release (vm : Nat)
  /-- `get_scheduler().select_node(...)` -/
  | selectNode (organization cpuCount memoryMb diskGb : Nat)

@[reducible]
def TxAns : TxOp → Type
  | .enter | .rollback | .release _ => Unit
  | .leave | .insertNic _ _ | .createJob _ => Except Exn Unit
  | .read => View
  | .lockQuota _ => Except Exn Quota
  | .insertVm _ => Except Exn VirtualMachine
  | .insertDisk _ => Except Exn VMDisk
  | .insertSnapshot _ => Except Exn Snapshot
  | .acquire _ => Bool
  | .selectNode _ _ _ _ => Except Exn Nat

abbrev TxM (α : Type) : Type := Script TxOp TxAns Exn Unit α

/-- A statement that may be rejected. -/
def statement {α : Type} (x : TxM (Except Exn α)) : TxM α := do
  match ← x with
  | .ok a => return a
  | .error e => throw e

/-- One query. -/
def query : TxM View := Script.perform TxOp.read

/-- `transaction.atomic` -/
def atomic {α : Type} (body : TxM α) : TxM α := do
  Script.perform TxOp.enter
  let a ← tryCatch body fun e => do
    Script.perform TxOp.rollback
    throw e
  statement (Script.perform TxOp.leave)
  return a

/-! ## `check_and_reserve` -/

section Reserve

variable (organization : Nat) (project : Option Nat)

/-- `_effective_quota` -/
def findQuota : TxM (Option Quota) := do
  match project with
  | some p =>
    match quotaOf (← query).quotas organization (some p) with
    | some own => return some own
    | none => return quotaOf (← query).quotas organization none
  | none => return quotaOf (← query).quotas organization none

/-- `locked_quota_for` -/
def lockedQuotaFor : TxM (Option Quota) := do
  match ← findQuota organization project with
  | none => return none
  | some quota =>
    let locked ← statement (Script.perform (TxOp.lockQuota quota.pk))
    return some locked

/-- `current_usage`: the VMs, and then the disks and the snapshots of those. -/
def currentUsage : TxM QuotaUsage := do
  let vms := (← query).rows.vms
  let disks := (← query).rows.disks
  let snapshots := (← query).rows.snapshots
  return totals (counted organization project vms) disks snapshots

/-- `assert_quota_available` -/
def assertQuotaAvailable (a : Additional) : TxM Unit := do
  match ← findQuota organization project with
  | none => return ()
  | some quota =>
    let usage ← currentUsage organization project
    match (quota.checks usage a).find? fun c => c.limit < c.projected with
    | some exceeded => throw (.api "QUOTA_EXCEEDED" exceeded.message)
    | none => return ()

/-- `check_and_reserve` -/
def checkAndReserve (a : Additional) : TxM Unit :=
  atomic do
    let _ ← lockedQuotaFor organization project
    assertQuotaAvailable organization project a

end Reserve

/-! ## Services -/

/-- A disk of `create_vm`. The views take sizes in GiB. -/
structure DiskSpec where
  storage : Option StoragePool
  name : Option String := none
  sizeBytes : Nat
  whole : gib ∣ sizeBytes

/-- What `create_vm` is called with. -/
structure NewVm where
  organization : Nat
  project : Nat
  name : String
  createdBy : Nat
  node : Option Nat := none
  cpuCount : Nat := 1
  memoryMb : Nat := 2048
  disks : List DiskSpec := []
  /-- The networks of its NICs. -/
  nics : List Nat := []
  idempotencyKey : String := ""

/-- `disks or [...]` -/
def NewVm.diskSpecs (spec : NewVm) : List DiskSpec :=
  if spec.disks = [] then [⟨none, some "root", 20 * gib, 20, Nat.mul_comm 20 gib⟩] else spec.disks

/-- `total_disk_gb` -/
def NewVm.totalDiskGb (spec : NewVm) : Nat := (spec.diskSpecs.map DiskSpec.sizeBytes).sum / gib

/-- The node that was asked for, or else the scheduler's. -/
def placeVm (spec : NewVm) : TxM Nat :=
  match spec.node with
  | some node => return node
  | none => statement (Script.perform
      (TxOp.selectNode spec.organization spec.cpuCount spec.memoryMb spec.totalDiskGb))

/-- A disk without a storage pool is not taken by its table. -/
def createDiskRow (vm : Nat) (spec : DiskSpec) (index : Nat) : TxM Unit :=
  match spec.storage with
  | none => throw (.integrityError "vm_disks_storage_id")
  | some storage => do
    let _ ← statement (Script.perform (TxOp.insertDisk
      { pk := 0, vm := vm, storage := storage
        name := spec.name.getD ("disk-" ++ toString index), sizeBytes := spec.sizeBytes
        bootIndex := index }))

/-- The VM that was created for the idempotency key before. -/
def findExisting (spec : NewVm) : TxM (Option VirtualMachine) := do
  if spec.idempotencyKey = "" then return none
  else
    return (← query).rows.vms.find? fun vm =>
      vm.createdBy = spec.createdBy ∧ vm.idempotencyKey = spec.idempotencyKey

/-- The rows of a new VM. -/
def insertVmRows (spec : NewVm) (node : Nat) : TxM VirtualMachine := do
  let vm ← statement (Script.perform (TxOp.insertVm
    { pk := 0, organization := spec.organization, project := spec.project, node := some node
      createdBy := spec.createdBy, name := spec.name, status := .creating
      cpuCount := spec.cpuCount, memoryMb := spec.memoryMb
      idempotencyKey := spec.idempotencyKey }))
  spec.diskSpecs.zipIdx.forM fun d => createDiskRow vm.pk d.1 d.2
  spec.nics.forM fun network => statement (Script.perform (TxOp.insertNic vm.pk network))
  statement (Script.perform (TxOp.createJob .vmCreate))
  return vm

/-- `create_vm` -/
def createVm (spec : NewVm) : TxM VirtualMachine :=
  atomic do
    match ← findExisting spec with
    -- the VM is to be returned with its job, but it has no `jobs`
    | some _ => throw .attributeError
    | none =>
      checkAndReserve spec.organization (some spec.project)
        { vms := 1, vcpu := spec.cpuCount, memoryMb := spec.memoryMb
          storageGb := spec.totalDiskGb }
      let node ← placeVm spec
      insertVmRows spec node

/-- The look of the services at the storage lock. -/
def precheckStorage (vm : VirtualMachine) (message : String) : TxM Unit := do
  let acquired : Bool ← Script.perform (TxOp.acquire vm.pk)
  if acquired then Script.perform (TxOp.release vm.pk)
  else throw (.resourceLocked ("VM " ++ vm.name ++ message))

/-- `_start_storage_job` -/
def startStorageJob (vm : VirtualMachine) (type : JobType) : TxM Unit := do
  precheckStorage vm " has another storage operation in progress."
  statement (Script.perform (TxOp.createJob type))

/-- `vm.disks.count()` -/
def diskCount (vm : Nat) : TxM Nat := do
  return ((← query).rows.disks.filter (·.vm = vm)).length

/-- `attach_disk` -/
def attachDisk (vm : VirtualMachine) (storage : StoragePool) (sizeGb : Nat) : TxM VMDisk :=
  atomic do
    checkAndReserve vm.organization (some vm.project) { storageGb := sizeGb }
    let number ← diskCount vm.pk
    let index ← diskCount vm.pk
    let disk ← statement (Script.perform (TxOp.insertDisk
      { pk := 0, vm := vm.pk, storage := storage, name := "disk-" ++ toString (number + 1)
        sizeBytes := sizeGb * gib, bootIndex := index }))
    startStorageJob vm .diskAttach
    return disk

/-- `_assert_snapshot_capable` -/
def assertSnapshotCapable (vm : VirtualMachine) : TxM Unit := do
  let disks := (← query).rows.disks.filter (·.vm = vm.pk)
  let unsupported := (disks.filter fun d => .snapshot ∉ d.storage.capabilities).map
    fun d => d.storage.name
  if unsupported ≠ [] then
    throw (.api "STORAGE_CAPABILITY_UNSUPPORTED"
      ("The following disks live on storage that does not support snapshots: " ++
        ", ".intercalate unsupported))
  else return ()

/-- `create_snapshot` -/
def createSnapshot (vm : VirtualMachine) (name description : String) : TxM Unit :=
  atomic do
    assertSnapshotCapable vm
    checkAndReserve vm.organization (some vm.project) { snapshots := 1 }
    precheckStorage vm " has a storage operation in progress."
    let _ ← statement (Script.perform (TxOp.insertSnapshot
      { pk := 0, vm := vm.pk, name := name, description := description }))
    statement (Script.perform (TxOp.createJob .snapshotCreate))

/-! ## The database -/

/-- What the surroundings decide at one statement. -/
structure Choice where
  /-- The database rejects a statement that writes. -/
  rejected : Bool := false
  /-- The storage lock is taken. -/
  busy : Bool := false
  /-- The node that the scheduler selects, if there is one. -/
  node : Option Nat := none

/-- The committed rows, and the transactions under way. -/
structure Db where
  rows : Rows := {}
  quotas : List Quota := []
  /-- The next key of a new row. -/
  sequence : Nat
  txs : Transactions Rows Nat := ⟨fun _ => ⟨⟨{}, []⟩, []⟩, fun _ => none⟩

namespace Db

/-- What a transaction has inserted so far. -/
def pending (s : Db) (i : Nat) : Rows := (s.txs.of i).current.writes

/-- A row is inserted under a new key. -/
def insert {ρ : Type} (s : Db) (c : Choice) (i : Nat) (row : ρ) (rows : ρ → Rows → Rows) :
    Except Exn ρ × Db :=
  if c.rejected then (.error .databaseError, s)
  else (.ok row, { s with sequence := s.sequence + 1, txs := s.txs.write i (rows row) })

/-- The end of the outermost block. -/
def commit (s : Db) (c : Choice) (i : Nat) : Except Exn Unit × Db :=
  let s' := { s with txs := s.txs.finish i {} }
  if c.rejected then (.error .databaseError, s')
  else (.ok (), { s' with rows := s.rows ++ s.pending i })

/-- One statement of a transaction, `none` while it has to wait. -/
def act (c : Choice) (i : Nat) : (o : TxOp) → Db → Option (TxAns o × Db)
  | .enter, s => some ((), { s with txs := s.txs.enter i })
  | .leave, s =>
    match (s.txs.of i).savepoints with
    | _ :: _ :: _ => some (.ok (), { s with txs := s.txs.release i })
    | _ => some (s.commit c i)
  | .rollback, s => some ((), { s with txs := s.txs.rollback i })
  | .read, s => some (⟨s.rows ++ s.pending i, s.quotas⟩, s)
  | .lockQuota quota, s =>
    match s.quotas.find? (·.pk = quota) with
    | none => some (.error (.doesNotExist "Quota"), s)
    | some row => (s.txs.lock i quota).map fun txs => (.ok row, { s with txs := txs })
  | .insertVm row, s =>
    some (s.insert c i { row with pk := s.sequence } fun v r => { r with vms := r.vms ++ [v] })
  | .insertDisk row, s =>
    some (s.insert c i { row with pk := s.sequence } fun d r => { r with disks := r.disks ++ [d] })
  | .insertSnapshot row, s =>
    some (s.insert c i { row with pk := s.sequence }
      fun x r => { r with snapshots := r.snapshots ++ [x] })
  | .insertNic _ _, s => some (if c.rejected then .error .databaseError else .ok (), s)
  | .createJob _, s => some (if c.rejected then .error .databaseError else .ok (), s)
  | .acquire _, s => some (!c.busy, s)
  | .release _, s => some ((), s)
  | .selectNode _ _ _ _, s =>
    match c.node with
    | some node => some (.ok node, s)
    | none => some (.error (.api "NO_SCHEDULABLE_NODE"
        "No online node has enough free capacity for this VM."), s)

end Db

/-- The requests. A view has loaded the VM. -/
inductive Request
  | createVm (spec : NewVm)
  | attachDisk (vm : Nat) (storage : StoragePool) (sizeGb : Nat)
  | createSnapshot (vm : Nat) (name description : String)

/-- What happens around the transactions. -/
inductive Event
  | request (r : Request)
  /-- `delete_snapshot_task` deletes its snapshot. -/
  | deleteSnapshot (snapshot : Nat)
  /-- `detach_disk_task` deletes its disk. -/
  | detachDisk (disk : Nat)
  /-- A task saves a status. A VM that is being deleted gets no other one. -/
  | saveStatus (vm : Nat) (status : VMStatus)
  /-- `delete_vm_task` deletes its VM, with what hangs off it. -/
  | deleteVm (vm : Nat)
  /-- The quotas are edited. -/
  | setQuotas (quotas : List Quota)

/-- A transaction under way. -/
abbrev Worker : Type := Thread Request TxOp TxAns (Except Exn Unit × Unit)

/-- The transaction of a request about VMs that are committed. -/
def Request.script (rows : Rows) : Request → Option (TxM Unit)
  | .createVm spec => some (do let _ ← Quotas.createVm spec)
  | .attachDisk vm storage sizeGb =>
    (rows.vms.find? (·.pk = vm)).map fun v => do let _ ← Quotas.attachDisk v storage sizeGb
  | .createSnapshot vm name description =>
    (rows.vms.find? (·.pk = vm)).map fun v => Quotas.createSnapshot v name description

def env : Event → Db → Option (List Worker × Db)
  | .request r, s => (r.script s.rows).map fun x => ([⟨r, x.prog ()⟩], s)
  | .deleteSnapshot snapshot, s =>
    some ([], { s with rows := { s.rows with
      snapshots := s.rows.snapshots.filter (·.pk ≠ snapshot) } })
  | .detachDisk disk, s =>
    some ([], { s with rows := { s.rows with disks := s.rows.disks.filter (·.pk ≠ disk) } })
  | .saveStatus vm status, s =>
    some ([], { s with rows := { s.rows with vms := s.rows.vms.map fun v =>
      if v.pk = vm ∧ v.status ≠ .deleting then { v with status := status } else v } })
  | .deleteVm vm, s =>
    some ([], { s with rows :=
      { vms := s.rows.vms.filter (·.pk ≠ vm)
        disks := s.rows.disks.filter (·.vm ≠ vm)
        snapshots := s.rows.snapshots.filter (·.vm ≠ vm) } })
  | .setQuotas quotas, s => some ([], { s with quotas := quotas })

/-- The transactions side by side. -/
def system : System Request TxOp TxAns (Except Exn Unit × Unit) Db Choice Event := ⟨Db.act, env⟩

end NodePilot.Quotas
