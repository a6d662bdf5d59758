import NodePilot.Models

/-!
# The requests a controller sends to an agent

The operation, the resource id and the payload at every call site of `send_operation` in the
tasks, one definition a site. The tasks send these values and nothing else.
-/

namespace NodePilot

open Lib

/-- A request about a VM: `resource_id=str(vm.uuid)`. -/
def vmRequest (vm : VmRow) (operation : OperationType) (payload : Dict := []) : AgentRequest :=
  { operation := operation, resourceId := vm.uuid.str, payload := payload }

/-! ## The domain -/

/-- One entry of `"disks"` in `_build_domain_payload`. -/
def domainDisk (d : DiskRow) (p : PoolRow) : Json :=
  .obj [("uuid", .str d.uuid.str), ("volume_id", .str d.volumeId), ("bus", .str d.bus.value),
    ("device", .str d.device), ("bootable", .bool d.bootable), ("readonly", .bool d.readonly),
    ("discard", .bool d.discard), ("iothread", .bool d.iothread), ("boot_index", .int d.bootIndex),
    ("format", .str d.format), ("storage_type", .str p.type.value)]

/-- One entry of `"nics"` in `_build_domain_payload`. -/
def domainNic (n : NicRow) (net : NetworkRow) : Json :=
  .obj [("uuid", .str n.uuid.str), ("mac_address", .str n.macAddress), ("model", .str n.model.value),
    ("bridge", .str net.bridge), ("vlan", .ofNat? (orNat n.vlan net.vlanId)),
    ("boot_index", .int n.bootIndex), ("rate_limit_mbps", .ofNat? n.rateLimitMbps)]

/-- `_build_domain_payload`, given the disks and NICs it reads. -/
def domainPayload (vm : VmRow) (disks : List (DiskRow × PoolRow))
    (nics : List (NicRow × NetworkRow)) : Dict :=
  [("domain_uuid", .str vm.domainUuid.str),
   ("name", .str vm.name),
   ("os_type", .str vm.osType),
   ("firmware", .str vm.firmware.value),
   ("machine_type", .str vm.machineType),
   ("cpu", .obj [("count", .int vm.cpuCount), ("sockets", .int vm.cpuSockets),
     ("cores", .int vm.cpuCores), ("threads", .int vm.cpuThreads), ("model", .str vm.cpuModel)]),
   ("memory_mb", .int vm.memoryMb),
   ("ballooning_enabled", .bool vm.ballooningEnabled),
   ("boot_order", .arr ((if vm.bootOrder = [] then ["disk"] else vm.bootOrder).map .str)),
   ("disks", .arr (disks.map fun d => domainDisk d.1 d.2)),
   ("nics", .arr (nics.map fun n => domainNic n.1 n.2))]

def createVmRequest (vm : VmRow) (disks : List (DiskRow × PoolRow))
    (nics : List (NicRow × NetworkRow)) : AgentRequest :=
  vmRequest vm .createVm (domainPayload vm disks nics)

def deleteVmRequest (vm : VmRow) (deleteDisks : Bool) : AgentRequest :=
  vmRequest vm .deleteVm [("delete_disks", .bool deleteDisks)]

def generateCloudInitRequest (vm : VmRow) : AgentRequest :=
  vmRequest vm .generateCloudInit [("cloud_init", .obj vm.cloudInitConfig)]

/-! ## Volumes -/

/-- CREATE_DISK, with the image that seeds the disk where it has one. -/
def createDiskRequest (vm : VmRow) (d : DiskRow) (p : PoolRow) (image : Option ImageRow) :
    AgentRequest :=
  vmRequest vm .createDisk <|
    [("disk_uuid", .str d.uuid.str), ("storage_id", .int d.storage), ("storage_path", .str p.path),
     ("storage_type", .str p.type.value), ("size_bytes", .int d.sizeBytes),
     ("format", .str d.format), ("name", .str d.name)] ++
    match image with
    | some i => [("image_uuid", .str i.uuid.str), ("image_sha256", .str i.sha256),
        ("image_format", .str i.format)]
    | none => []

/-- CREATE_DISK as `attach_disk_task` sends it: blank, and without the name. -/
def createBlankDiskRequest (vm : VmRow) (d : DiskRow) (p : PoolRow) : AgentRequest :=
  vmRequest vm .createDisk
    [("disk_uuid", .str d.uuid.str), ("storage_id", .int d.storage), ("storage_path", .str p.path),
     ("storage_type", .str p.type.value), ("size_bytes", .int d.sizeBytes),
     ("format", .str d.format)]

def deleteDiskRequest (vm : VmRow) (d : DiskRow) (p : PoolRow) : AgentRequest :=
  vmRequest vm .deleteDisk
    [("volume_id", .str d.volumeId), ("storage_id", .int d.storage),
     ("storage_type", .str p.type.value), ("storage_path", .str p.path)]

def cloneDiskRequest (vm clone : VmRow) (d : DiskRow) (p : PoolRow) (linked : Bool) :
    AgentRequest :=
  vmRequest vm .cloneDisk
    [("source_volume_id", .str d.volumeId), ("storage_id", .int d.storage),
     ("storage_type", .str p.type.value), ("storage_path", .str p.path),
     ("new_name", .str (clone.uuid.str ++ "-" ++ d.name)), ("linked", .bool linked)]

def resizeDiskRequest (vm : VmRow) (d : DiskRow) (p : PoolRow) (newSizeBytes : Nat) :
    AgentRequest :=
  vmRequest vm .resizeDisk
    [("volume_id", .str d.volumeId), ("storage_id", .int d.storage),
     ("storage_type", .str p.type.value), ("storage_path", .str p.path),
     ("new_size_bytes", .int newSizeBytes)]

/-! ## Hot plug -/

/-- ATTACH_DISK. A disk without a device name is attached as `vdb`. -/
def attachDiskRequest (vm : VmRow) (d : DiskRow) (p : PoolRow) : AgentRequest :=
  vmRequest vm .attachDisk
    [("domain_uuid", .str vm.domainUuid.str), ("volume_id", .str d.volumeId),
     ("device", .str (if d.device = "" then "vdb" else d.device)), ("bus", .str d.bus.value),
     ("storage_type", .str p.type.value), ("format", .str d.format)]

def detachDiskRequest (vm : VmRow) (d : DiskRow) (p : PoolRow) : AgentRequest :=
  vmRequest vm .detachDisk
    [("domain_uuid", .str vm.domainUuid.str), ("volume_id", .str d.volumeId),
     ("device", .str d.device), ("bus", .str d.bus.value),
     ("storage_type", .str p.type.value), ("format", .str d.format)]

/-- The payload ATTACH_NIC and DETACH_NIC share. -/
def nicPayload (vm : VmRow) (n : NicRow) (net : NetworkRow) : Dict :=
  [("domain_uuid", .str vm.domainUuid.str), ("bridge", .str net.bridge),
   ("vlan", .ofNat? (orNat n.vlan net.vlanId)), ("mac_address", .str n.macAddress),
   ("model", .str n.model.value), ("rate_limit_mbps", .ofNat? n.rateLimitMbps)]

def attachNicRequest (vm : VmRow) (n : NicRow) (net : NetworkRow) : AgentRequest :=
  vmRequest vm .attachNic (nicPayload vm n net)

def detachNicRequest (vm : VmRow) (n : NicRow) (net : NetworkRow) : AgentRequest :=
  vmRequest vm .detachNic (nicPayload vm n net)

/-! ## Snapshots and backups -/

def createSnapshotRequest (vm : VmRow) (s : SnapshotRow) : AgentRequest :=
  vmRequest vm .createSnapshot [("snapshot_uuid", .str s.uuid.str), ("name", .str s.name)]

/-- The payload DELETE_SNAPSHOT and ROLLBACK_SNAPSHOT share. -/
def snapshotPayload (s : SnapshotRow) : Dict :=
  [("snapshot_id", .str s.agentSnapshotId), ("snapshot_uuid", .str s.uuid.str)]

def deleteSnapshotRequest (vm : VmRow) (s : SnapshotRow) : AgentRequest :=
  vmRequest vm .deleteSnapshot (snapshotPayload s)

def rollbackSnapshotRequest (vm : VmRow) (s : SnapshotRow) : AgentRequest :=
  vmRequest vm .rollbackSnapshot (snapshotPayload s)

def createBackupRequest (vm : VmRow) (b : BackupRow) (target : TargetRow) (d : DiskRow) :
    AgentRequest :=
  vmRequest vm .createBackup
    [("backup_uuid", .str b.uuid.str), ("backup_type", .str b.type.value),
     ("target", .obj target.config), ("target_type", .str target.type.value),
     ("volume_id", .str d.volumeId)]

def restoreBackupRequest (vm : VmRow) (b : BackupRow) (target : TargetRow) (d : DiskRow) :
    AgentRequest :=
  vmRequest vm .restoreBackup
    [("backup_ref", .str b.agentBackupRef), ("target", .obj target.config),
     ("target_type", .str target.type.value), ("volume_id", .str d.volumeId),
     ("format", .str d.format)]

/-! ## Console, networks and storage pools -/

/-- OPEN_CONSOLE, as `ConsoleConsumer` sends it. -/
def openConsoleRequest (vm : VmRow) (sessionId : String) : AgentRequest :=
  vmRequest vm .openConsole [("session_id", .str sessionId)]

/-- CREATE_NETWORK and DELETE_NETWORK. -/
def networkRequest (operation : OperationType) (net : NetworkRow) : AgentRequest :=
  { operation := operation
    resourceId := net.uuid.str
    payload := [("bridge", .str net.bridge), ("vlan_id", .ofNat? net.vlanId)] }

/-- CREATE_STORAGE_POOL and GET_STORAGE_POOL_INFO. -/
def poolRequest (operation : OperationType) (p : PoolRow) : AgentRequest :=
  { operation := operation
    resourceId := p.uuid.str
    payload := [("storage_type", .str p.type.value), ("storage_path", .str p.path)] }

end NodePilot
