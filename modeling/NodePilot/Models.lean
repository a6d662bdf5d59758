import Mathlib.Data.List.Sort
import NodePilot.Lib.Table
import NodePilot.Protocol

/-!
# The controller's data model

Rows and enumerations of `apps/*/models.py`, as far as the tasks, the services and the views read
or write them. Foreign keys are primary keys of the other table; a `select_related` on a required
foreign key is an inner join. Timestamps are counted, not dated.
-/

namespace NodePilot

open Lib

/-! ## Enumerations -/

/-- `JobType` -/
inductive JobType
  | vmCreate | vmStart | vmStop | vmShutdown | vmReboot | vmReset | vmPause | vmResume | vmDelete
  | vmClone | vmMigrate
  | diskCreate | diskDelete | diskResize | diskAttach | diskDetach | nicAttach | nicDetach
  | networkCreate | networkDelete | snapshotCreate | snapshotDelete | snapshotRollback
  | backupCreate | backupRestore | imageImport | webhookDelivery | storagePoolCreate
deriving DecidableEq, Repr

/-- `JobStatus` -/
inductive JobStatus
  | queued | running | success | failed | canceling | canceled
deriving DecidableEq, Repr

/-- `TERMINAL_STATUSES` -/
def JobStatus.isTerminal : JobStatus → Bool
  | .success | .failed | .canceled => true
  | _ => false

/-- `VALID_TRANSITIONS` -/
def validTransitions : JobStatus → List JobStatus
  | .queued => [.running, .canceling, .canceled, .failed]
  | .running => [.success, .failed, .canceling]
  | .canceling => [.canceled, .failed, .success]
  | .success | .failed | .canceled => []

/-- `VMStatus` -/
inductive VMStatus
  | creating | stopped | running | paused | suspended | migrating | error | deleting | unknown
deriving DecidableEq, Repr

/-- `ProvisioningState` -/
inductive ProvisioningState
  | requested | allocating | diskCreated | networkCreated | domainCreated | cloudInitAttached
  | started | ready | error
deriving DecidableEq, Repr

/-- `FirmwareType` -/
inductive FirmwareType
  | bios | uefi
deriving DecidableEq, Repr

/-- `DiskBus` -/
inductive DiskBus
  | virtio | virtioScsi | sata | ide
deriving DecidableEq, Repr

/-- `NicModel` -/
inductive NicModel
  | virtio | e1000
deriving DecidableEq, Repr

/-- `StorageType` -/
inductive StorageType
  | directory | lvm | lvmThin | zfs | nfs | cephRbd
deriving DecidableEq, Repr

/-- `StoragePoolStatus` -/
inductive StoragePoolStatus
  | online | offline | warning | error
deriving DecidableEq, Repr

/-- `NetworkStatus` -/
inductive NetworkStatus
  | active | inactive | error
deriving DecidableEq, Repr

/-- `SnapshotStatus` -/
inductive SnapshotStatus
  | creating | ready | deleting | rollingBack | error
deriving DecidableEq, Repr

/-- `BackupTargetType` -/
inductive BackupTargetType
  | local | nfs | s3 | minio | ceph
deriving DecidableEq, Repr

/-- `BackupType` -/
inductive BackupType
  | full | incremental | snapshot
deriving DecidableEq, Repr

/-- `BackupStatus` -/
inductive BackupStatus
  | pending | running | verifying | completed | failed | restoring | deleted
deriving DecidableEq, Repr

/-! ### Stored values

`TextChoices` members are strings; the ones that travel in a payload keep their text here. -/

/-- How a firmware is stored. -/
def FirmwareType.value : FirmwareType → String
  | .bios => "BIOS"
  | .uefi => "UEFI"

/-- How a bus is stored. -/
def DiskBus.value : DiskBus → String
  | .virtio => "VIRTIO"
  | .virtioScsi => "VIRTIO_SCSI"
  | .sata => "SATA"
  | .ide => "IDE"

/-- How a NIC's model is stored. -/
def NicModel.value : NicModel → String
  | .virtio => "VIRTIO"
  | .e1000 => "E1000"

/-- How a pool's kind is stored. -/
def StorageType.value : StorageType → String
  | .directory => "DIRECTORY"
  | .lvm => "LVM"
  | .lvmThin => "LVM_THIN"
  | .zfs => "ZFS"
  | .nfs => "NFS"
  | .cephRbd => "CEPH_RBD"

/-- How a target's kind is stored. -/
def BackupTargetType.value : BackupTargetType → String
  | .local => "LOCAL"
  | .nfs => "NFS"
  | .s3 => "S3"
  | .minio => "MINIO"
  | .ceph => "CEPH"

/-- How a backup's kind is stored. -/
def BackupType.value : BackupType → String
  | .full => "FULL"
  | .incremental => "INCREMENTAL"
  | .snapshot => "SNAPSHOT"

/-- How a job's status is stored. -/
def JobStatus.value : JobStatus → String
  | .queued => "QUEUED"
  | .running => "RUNNING"
  | .success => "SUCCESS"
  | .failed => "FAILED"
  | .canceling => "CANCELING"
  | .canceled => "CANCELED"

/-! ## Rows -/

/-- `Job` -/
structure JobRow where
  pk : Nat
  uuid : Uuid
  type : JobType
  status : JobStatus := .queued
  resourceId : String := ""
  createdBy : Option Nat := none
  progress : Nat := 0
  message : String := ""
  error : String := ""
  logs : List String := []
  celeryTaskId : String := ""
  startedAt : Option Nat := none
  finishedAt : Option Nat := none

/-- `Job.is_terminal` -/
def JobRow.isTerminal (j : JobRow) : Bool := j.status.isTerminal

/-- `VirtualMachine` -/
structure VmRow where
  pk : Nat
  uuid : Uuid
  domainUuid : Uuid
  organization : Nat
  project : Nat
  node : Option Nat
  createdBy : Option Nat := none
  name : String
  status : VMStatus := .creating
  provisioningState : ProvisioningState := .requested
  osType : String := "linux"
  firmware : FirmwareType := .bios
  machineType : String := "q35"
  cpuCount : Nat := 1
  cpuSockets : Nat := 1
  cpuCores : Nat := 1
  cpuThreads : Nat := 1
  cpuModel : String := "host-passthrough"
  memoryMb : Nat := 2048
  ballooningEnabled : Bool := true
  bootOrder : List String := []
  autostart : Bool := false
  cloudInitEnabled : Bool := false
  cloudInitConfig : Dict := []
  lastError : String := ""

/-- `VMDisk` -/
structure DiskRow where
  pk : Nat
  uuid : Uuid
  vm : Nat
  storage : Nat
  sourceImage : Option Nat := none
  name : String
  volumeId : String := ""
  bus : DiskBus := .virtio
  device : String := ""
  sizeBytes : Nat
  format : String := "qcow2"
  bootable : Bool := false
  readonly : Bool := false
  discard : Bool := true
  iothread : Bool := false
  bootIndex : Nat := 0

/-- `VMNic` -/
structure NicRow where
  pk : Nat
  uuid : Uuid
  vm : Nat
  network : Nat
  macAddress : String
  model : NicModel := .virtio
  vlan : Option Nat := none
  rateLimitMbps : Option Nat := none
  bootable : Bool := false
  bootIndex : Nat := 0

/-- `Node`, as far as `send_operation` reads it. -/
structure NodeRow where
  pk : Nat
  name : String

/-- `StoragePool` -/
structure PoolRow where
  pk : Nat
  uuid : Uuid
  node : Nat
  name : String
  type : StorageType
  path : String
  capacityBytes : Int := 0
  usedBytes : Int := 0
  availableBytes : Int := 0
  status : StoragePoolStatus := .offline

/-- `Network` -/
structure NetworkRow where
  pk : Nat
  uuid : Uuid
  node : Nat
  name : String
  bridge : String
  vlanId : Option Nat := none
  status : NetworkStatus := .active

/-- `Image`, as CREATE_DISK reads it. -/
structure ImageRow where
  pk : Nat
  uuid : Uuid
  format : String
  sha256 : String

/-- `Snapshot` -/
structure SnapshotRow where
  pk : Nat
  uuid : Uuid
  vm : Nat
  name : String
  status : SnapshotStatus := .creating
  sizeBytes : Int := 0
  agentSnapshotId : String := ""

/-- `BackupTarget` -/
structure TargetRow where
  pk : Nat
  type : BackupTargetType
  config : Dict := []

/-- `Backup` -/
structure BackupRow where
  pk : Nat
  uuid : Uuid
  vm : Nat
  target : Nat
  type : BackupType := .full
  status : BackupStatus := .pending
  sizeBytes : Int := 0
  checksum : String := ""
  agentBackupRef : String := ""
  startedAt : Option Nat := none
  finishedAt : Option Nat := none
  retentionExpiresAt : Option Nat := none

instance : Row JobRow := ⟨JobRow.pk⟩
instance : Row VmRow := ⟨VmRow.pk⟩
instance : Row DiskRow := ⟨DiskRow.pk⟩
instance : Row NicRow := ⟨NicRow.pk⟩
instance : Row NodeRow := ⟨NodeRow.pk⟩
instance : Row PoolRow := ⟨PoolRow.pk⟩
instance : Row NetworkRow := ⟨NetworkRow.pk⟩
instance : Row ImageRow := ⟨ImageRow.pk⟩
instance : Row SnapshotRow := ⟨SnapshotRow.pk⟩
instance : Row TargetRow := ⟨TargetRow.pk⟩
instance : Row BackupRow := ⟨BackupRow.pk⟩

/-! ## The database -/

/-- The tables the tasks work on. -/
structure Tables where
  jobs : List JobRow := []
  vms : List VmRow := []
  disks : List DiskRow := []
  nics : List NicRow := []
  nodes : List NodeRow := []
  pools : List PoolRow := []
  networks : List NetworkRow := []
  images : List ImageRow := []
  snapshots : List SnapshotRow := []
  targets : List TargetRow := []
  backups : List BackupRow := []

namespace Tables

variable (t : Tables)

/-- `vm.disks.all()`, in `Meta.ordering`: by `boot_index`, then by age. The sort is stable and the
table is in order of insertion, so equal indices stay in order of `created_at`. -/
def disksOf (vm : Nat) : List DiskRow :=
  (t.disks.filter (·.vm = vm)).insertionSort fun a b => a.bootIndex ≤ b.bootIndex

/-- `vm.nics.all()`, in `Meta.ordering`. -/
def nicsOf (vm : Nat) : List NicRow :=
  (t.nics.filter (·.vm = vm)).insertionSort fun a b => a.bootIndex ≤ b.bootIndex

/-- `vm.disks.select_related("storage").all()`: each disk with the pool it lives on. -/
def disksWithStorage (vm : Nat) : List (DiskRow × PoolRow) :=
  (t.disksOf vm).filterMap fun d => (Table.get t.pools d.storage).map (d, ·)

/-- The disks of a VM that have a pool, with it. -/
theorem mem_disksWithStorage {t : Tables} {k : Nat} {d : DiskRow} {p : PoolRow} :
    (d, p) ∈ t.disksWithStorage k ↔
      d ∈ t.disks ∧ d.vm = k ∧ Table.get t.pools d.storage = some p := by
  unfold disksWithStorage disksOf
  simp only [List.mem_filterMap, List.mem_insertionSort, List.mem_filter, decide_eq_true_eq,
    Option.map_eq_some_iff, Prod.mk.injEq]
  constructor
  · rintro ⟨d', ⟨hd, hvm⟩, p', hp, rfl, rfl⟩
    exact ⟨hd, hvm, hp⟩
  · rintro ⟨hd, hvm, hp⟩
    exact ⟨d, ⟨hd, hvm⟩, p, hp, rfl, rfl⟩

/-- `vm.nics.select_related("network").all()` -/
def nicsWithNetwork (vm : Nat) : List (NicRow × NetworkRow) :=
  (t.nicsOf vm).filterMap fun n => (Table.get t.networks n.network).map (n, ·)

/-- `_primary_disk`: the first bootable disk by `boot_index`, else the first disk by `boot_index`. -/
def primaryDisk (vm : Nat) : Option DiskRow :=
  let disks := (t.disksWithStorage vm).map Prod.fst
  (disks.find? (·.bootable)).or disks.head?

end Tables

end NodePilot
