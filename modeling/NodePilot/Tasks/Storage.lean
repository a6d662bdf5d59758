import NodePilot.Tasks.Vm

/-!
# Snapshot, backup, network and storage-pool tasks

The bodies of `apps/snapshots/tasks.py`, `apps/backups/tasks.py`, `apps/networks/tasks.py` and
`apps/storage/tasks.py` that execute a job. The `_emit` of snapshots and backups lets an
exception through; the one of networks and storage pools drops it.
-/

namespace NodePilot

open Lib

variable {L : Type}

/-! ## Snapshots -/

/-- A snapshot with its VM. -/
def Tables.loadSnapshot (t : Tables) (snapshot : Nat) : Option (SnapshotRow × VmRow) := do
  let s ← Table.get t.snapshots snapshot
  let vm ← Table.get t.vms s.vm
  return (s, vm)

/-- `Snapshot.objects.select_related("vm", "vm__node").get(pk=...)` -/
def getSnapshot (snapshot : Nat) : TaskM L (SnapshotRow × VmRow) :=
  getRow "Snapshot" fun t => t.loadSnapshot snapshot

/-- The event of `_emit` in the snapshot and backup tasks. -/
def vmResourceEvent (vm : VmRow) (type severity : String) (metadata : Dict) : Event :=
  { type := type, severity := severity, resourceType := "VirtualMachine"
    resourceId := vm.uuid.str, metadata := metadata }

def createSnapshotStep (vm : VmRow) (snapshot : SnapshotRow) : TaskM L Unit := do
  let data ← sendOperation vm.node (createSnapshotRequest vm snapshot)
  save (.snapshotSave snapshot.pk
    { status := .ready, agentSnapshotId := some (data.getStr "snapshot_id" "")
      sizeBytes := some (data.getInt "size_bytes" 0) })

/-- `create_snapshot_task` -/
def createSnapshotTask (jobId snapshotId : Nat) : TaskM L Unit := do
  let job ← getJob jobId
  let (snapshot, vm) ← getSnapshot snapshotId
  tryCatch
    (do
      storageLock vm <| jobRun job ("Creating snapshot " ++ snapshot.name) <|
        createSnapshotStep vm snapshot
      transition job .success (some "Snapshot created")
      emitEvent (vmResourceEvent vm "VM_SNAPSHOT_CREATED" "INFO"
        [("snapshot_name", .str snapshot.name)]))
    fun exc => do
      save (.snapshotSave snapshot.pk { status := .error })
      failUnlessTerminal job exc
      throw exc

def deleteSnapshotStep (vm : VmRow) (snapshot : SnapshotRow) : TaskM L Unit := do
  save (.snapshotSave snapshot.pk { status := .deleting })
  let _ ← sendOperation vm.node (deleteSnapshotRequest vm snapshot)

/-- `delete_snapshot_task`. After a failure the snapshot has the status it was loaded with. -/
def deleteSnapshotTask (jobId snapshotId : Nat) : TaskM L Unit := do
  let job ← getJob jobId
  let (snapshot, vm) ← getSnapshot snapshotId
  tryCatch
    (do
      storageLock vm <| jobRun job ("Deleting snapshot " ++ snapshot.name) <|
        deleteSnapshotStep vm snapshot
      save (.snapshotDelete snapshot.pk)
      transition job .success (some "Snapshot deleted"))
    fun exc => do
      save (.snapshotSave snapshot.pk { status := snapshot.status })
      failUnlessTerminal job exc
      throw exc

def rollbackSnapshotStep (vm : VmRow) (snapshot : SnapshotRow) : TaskM L Unit := do
  save (.snapshotSave snapshot.pk { status := .rollingBack })
  let _ ← sendOperation vm.node (rollbackSnapshotRequest vm snapshot)
  save (.snapshotSave snapshot.pk { status := .ready })

/-- `rollback_snapshot_task` -/
def rollbackSnapshotTask (jobId snapshotId : Nat) : TaskM L Unit := do
  let job ← getJob jobId
  let (snapshot, vm) ← getSnapshot snapshotId
  tryCatch
    (do
      lifecycleLock vm <| storageLock vm <| jobRun job ("Rolling back to " ++ snapshot.name) <|
        rollbackSnapshotStep vm snapshot
      transition job .success (some "Rolled back")
      emitEvent (vmResourceEvent vm "VM_SNAPSHOT_ROLLED_BACK" "INFO"
        [("snapshot_name", .str snapshot.name)]))
    fun exc => do
      save (.snapshotSave snapshot.pk { status := .ready })
      failUnlessTerminal job exc
      throw exc

/-! ## Backups -/

/-- A backup with its VM and its target. -/
def Tables.loadBackup (t : Tables) (backup : Nat) : Option (BackupRow × VmRow × TargetRow) := do
  let b ← Table.get t.backups backup
  let vm ← Table.get t.vms b.vm
  let target ← Table.get t.targets b.target
  return (b, vm, target)

/-- `Backup.objects.select_related("vm", "vm__node", "target").get(pk=...)` -/
def getBackup (backup : Nat) : TaskM L (BackupRow × VmRow × TargetRow) :=
  getRow "Backup" fun t => t.loadBackup backup

/-- `_primary_disk`, which must exist. -/
def requirePrimaryDisk (vm : VmRow) (missing : String) : TaskM L DiskRow := do
  match (← query).primaryDisk vm.pk with
  | some disk => return disk
  | none => throw (.api "VM_HAS_NO_DISKS" ("VM " ++ vm.name ++ missing))

def createBackupStep (vm : VmRow) (backup : BackupRow) (target : TargetRow) : TaskM L Unit := do
  let startedAt ← now
  save (.backupSave backup.pk { status := .running, startedAt := some startedAt })
  let disk ← requirePrimaryDisk vm " has no disks to back up."
  let data ← sendOperation vm.node (createBackupRequest vm backup target disk) (some 3600)
  let finishedAt ← now
  save (.backupSave backup.pk
    { status := .completed, finishedAt := some finishedAt
      agentBackupRef := some (data.getStr "backup_ref" "")
      sizeBytes := some (data.getInt "size_bytes" 0)
      checksum := some (data.getStr "checksum" "") })

/-- The text of `backup.type.lower()`. -/
def BackupType.lower : BackupType → String
  | .full => "full"
  | .incremental => "incremental"
  | .snapshot => "snapshot"

/-- `create_backup_task` -/
def createBackupTask (jobId backupId : Nat) : TaskM L Unit := do
  let job ← getJob jobId
  let (backup, vm, target) ← getBackup backupId
  tryCatch
    (do
      storageLock vm <| jobRun job ("Creating " ++ backup.type.lower ++ " backup") <|
        createBackupStep vm backup target
      transition job .success (some "Backup completed")
      emitEvent (vmResourceEvent vm "BACKUP_COMPLETED" "INFO"
        [("backup_uuid", .str backup.uuid.str)]))
    fun exc => do
      let finishedAt ← now
      save (.backupSave backup.pk { status := .failed, finishedAt := some finishedAt })
      failUnlessTerminal job exc
      emitEvent (vmResourceEvent vm "BACKUP_FAILED" "CRITICAL"
        [("backup_uuid", .str backup.uuid.str), ("error", .str exc.str)])
      throw exc

def restoreBackupStep (vm : VmRow) (backup : BackupRow) (target : TargetRow) : TaskM L Unit := do
  save (.backupSave backup.pk { status := .restoring })
  let disk ← requirePrimaryDisk vm " has no disk to restore onto."
  let _ ← sendOperation vm.node (restoreBackupRequest vm backup target disk) (some 3600)
  save (.backupSave backup.pk { status := .completed })

/-- `restore_backup_task` -/
def restoreBackupTask (jobId backupId : Nat) : TaskM L Unit := do
  let job ← getJob jobId
  let (backup, vm, target) ← getBackup backupId
  tryCatch
    (do
      storageLock vm <| jobRun job "Restoring backup" (restoreBackupStep vm backup target)
      transition job .success (some "Restore completed"))
    fun exc => do
      save (.backupSave backup.pk { status := .completed })
      failUnlessTerminal job exc
      throw exc

/-! ## Networks -/

/-- `Network.objects.select_related("node", "node__organization").get(pk=...)` -/
def getNetwork (network : Nat) : TaskM L NetworkRow :=
  getRow "Network" fun t => Table.get t.networks network

/-- `_emit` of the network tasks. -/
def emitNetworkEvent (network : NetworkRow) (type severity : String) (metadata : Dict := []) :
    TaskM L Unit :=
  swallow (emitEvent
    { type := type, severity := severity, resourceType := "Network"
      resourceId := network.uuid.str, metadata := ("name", .str network.name) :: metadata })

def createNetworkStep (network : NetworkRow) : TaskM L Unit := do
  let _ ← sendOperation (some network.node) (networkRequest .createNetwork network)
  save (.networkStatus network.pk .active)

/-- `create_network_task` -/
def createNetworkTask (jobId networkId : Nat) : TaskM L Unit := do
  let job ← getJob jobId
  let network ← getNetwork networkId
  tryCatch
    (do
      jobRun job ("Creating network " ++ network.name) (createNetworkStep network)
      transition job .success (some "Network created")
      emitNetworkEvent network "NETWORK_CREATED" "INFO")
    fun exc => do
      save (.networkStatus network.pk .error)
      failUnlessTerminal job exc
      emitNetworkEvent network "NETWORK_ERROR" "CRITICAL" [("error", .str exc.str)]
      throw exc

def deleteNetworkStep (network : NetworkRow) : TaskM L Unit := do
  let _ ← sendOperation (some network.node) (networkRequest .deleteNetwork network)

/-- `delete_network_task` -/
def deleteNetworkTask (jobId networkId : Nat) : TaskM L Unit := do
  let job ← getJob jobId
  let network ← getNetwork networkId
  tryCatch
    (do
      jobRun job ("Deleting network " ++ network.name) (deleteNetworkStep network)
      save (.networkDelete network.pk)
      transition job .success (some "Network deleted")
      emitNetworkEvent network "NETWORK_DELETED" "INFO")
    fun exc => do
      save (.networkStatus network.pk .error)
      failUnlessTerminal job exc
      throw exc

/-! ## Storage pools -/

/-- `StoragePool.objects.select_related("node", "node__organization").get(pk=...)` -/
def getPool (pool : Nat) : TaskM L PoolRow :=
  getRow "StoragePool" fun t => Table.get t.pools pool

/-- `_emit` of the storage-pool tasks. -/
def emitPoolEvent (pool : PoolRow) (type severity : String) (metadata : Dict := []) :
    TaskM L Unit :=
  swallow (emitEvent
    { type := type, severity := severity, resourceType := "StoragePool"
      resourceId := pool.uuid.str, metadata := ("name", .str pool.name) :: metadata })

/-- `info[key]` on the agent's numbers. -/
def requireInt (data : Dict) (key : String) : TaskM L Int :=
  match data.get? key with
  | some (.int n) => pure n
  | _ => throw (.keyError key)

/-- `refresh_storage_pool_info` -/
def refreshStoragePoolInfo (pool : PoolRow) : TaskM L Unit := do
  let info ← sendOperation (some pool.node) (poolRequest .getStoragePoolInfo pool)
  let capacity ← requireInt info "capacity_bytes"
  let used ← requireInt info "used_bytes"
  let available ← requireInt info "available_bytes"
  save (.poolInfo pool.pk capacity used available)

def createStoragePoolStep (pool : PoolRow) : TaskM L Unit := do
  onlyIf (pool.type = .directory) do
    let _ ← sendOperation (some pool.node) (poolRequest .createStoragePool pool)
  refreshStoragePoolInfo pool

/-- `create_storage_pool_task` -/
def createStoragePoolTask (jobId poolId : Nat) : TaskM L Unit := do
  let job ← getJob jobId
  let pool ← getPool poolId
  tryCatch
    (do
      jobRun job ("Registering storage pool " ++ pool.name) (createStoragePoolStep pool)
      transition job .success (some "Storage pool registered")
      emitPoolEvent pool "STORAGE_POOL_CREATED" "INFO")
    fun exc => do
      save (.poolStatus pool.pk .error)
      failUnlessTerminal job exc
      emitPoolEvent pool "STORAGE_POOL_ERROR" "CRITICAL" [("error", .str exc.str)]
      throw exc

end NodePilot
