import NodePilot.Jobs
import NodePilot.Requests

/-!
# Virtual machine tasks

The bodies of `apps/virtual_machines/tasks.py`: provisioning with its rollback, the lifecycle
operations, deletion, cloning, and the five disk and NIC operations on an existing VM.
-/

namespace NodePilot

open Lib

variable {L : Type}

/-! ## Shared pieces -/

/-- `VirtualMachine.objects.select_related(...).get(pk=...)` -/
def getVm (vm : Nat) : TaskM L VmRow := getRow "VirtualMachine" fun t => Table.get t.vms vm

/-- `_build_domain_payload`: the disks and then the NICs are read, and the request is built. -/
def buildDomainRequest (vm : VmRow) : TaskM L AgentRequest := do
  let disks := (← query).disksWithStorage vm.pk
  let nics := (← query).nicsWithNetwork vm.pk
  return createVmRequest vm disks nics

/-- The event of `_emit_vm_event`. -/
def vmEvent (vm : VmRow) (type : String) (metadata : Dict := []) : Event :=
  { type := type, severity := "INFO", resourceType := "VirtualMachine", resourceId := vm.uuid.str
    metadata := ("name", .str vm.name) :: metadata }

/-- `_emit_vm_event` -/
def emitVmEvent (vm : VmRow) (type : String) (metadata : Dict := []) : TaskM L Unit :=
  swallow (emitEvent (vmEvent vm type metadata))

/-- `vm.disks.select_related("storage").filter(volume_id__gt="")` -/
def volumesOf (vm : VmRow) : TaskM L (List (DiskRow × PoolRow)) := do
  return ((← query).disksWithStorage vm.pk).filter fun d => d.1.volumeId ≠ ""

/-! ## Provisioning -/

/-- One cleanup call: its exception becomes a line of `problems`. -/
def attempt (what : String) (x : TaskM L Dict) : TaskM L (List String) :=
  tryCatch (do let _ ← x; return []) fun exc => return [what ++ ": " ++ exc.str]

/-- The cleanup of the volumes, one call each. -/
def cleanupVolumes (vm : VmRow) : List (DiskRow × PoolRow) → TaskM L (List String)
  | [] => return []
  | (disk, pool) :: rest => do
    let problem ← attempt ("disk " ++ disk.name)
      (sendOperation vm.node (deleteDiskRequest vm disk pool))
    let problems ← cleanupVolumes vm rest
    return problem ++ problems

/-- The provisioning states in which the cleanup takes a domain to be defined. -/
def ProvisioningState.hasDomain : ProvisioningState → Bool
  | .domainCreated | .cloudInitAttached | .started => true
  | _ => false

/-- The cleanup of the domain. -/
def cleanupDomain (vm : VmRow) : TaskM L (List String) :=
  if vm.provisioningState.hasDomain then
    attempt "domain cleanup" (sendOperation vm.node (deleteVmRequest vm false))
  else
    return []

/-- `_cleanup_partial_vm` -/
def cleanupPartialVm (vm : VmRow) : TaskM L Unit := do
  let domain ← cleanupDomain vm
  let volumes ← cleanupVolumes vm (← volumesOf vm)
  let problems := domain ++ volumes
  onlyIf (problems ≠ []) <|
    emitVmEvent vm "VM_CLEANUP_INCOMPLETE" [("problems", .arr (problems.map .str))]

/-- `vm.provisioning_state = ...` and its save. -/
def enter (state : ProvisioningState) : TaskM VmRow Unit := do
  modify fun vm => { vm with provisioningState := state }
  let vm ← get
  save (.vmSave vm.pk { provisioningState := some state })

/-- One round of "Creating disks". -/
def createDisk (vm : VmRow) (disk : DiskRow) (pool : PoolRow) (image : Option ImageRow) :
    TaskM L Unit := do
  let data ← sendOperation vm.node (createDiskRequest vm disk pool image)
    (if image.isSome then some 3600 else none)
  save (.diskSave disk.pk (data.getStr "volume_id" "") (data.getStr "device" disk.device)
    (data.getStr "format" disk.format))

/-- The loop of "Creating disks". -/
def createDisks (vm : VmRow) : TaskM L Unit := do
  let t ← query
  (t.disksWithStorage vm.pk).forM fun d =>
    createDisk vm d.1 d.2 (d.1.sourceImage.bind (Table.get t.images))

/-- "Creating domain" -/
def createDomain : TaskM VmRow Unit := do
  let vm ← get
  let request ← buildDomainRequest vm
  let _ ← sendOperation vm.node request
  enter .domainCreated

/-- `vm.save(update_fields=["status", "provisioning_state"])` -/
def saveStatusAndState : TaskM VmRow Unit := do
  let vm ← get
  save (.vmSave vm.pk { status := some vm.status, provisioningState := some vm.provisioningState })

/-- "Starting VM" -/
def startDomain : TaskM VmRow Unit := do
  let vm ← get
  let _ ← sendOperation vm.node (vmRequest vm .startVm)
  modify fun vm => { vm with status := .running, provisioningState := .started }
  saveStatusAndState

/-- A VM with `autostart` is started, any other is left stopped. -/
def startOrStop (job : JobRow) (vm : VmRow) : TaskM VmRow Unit :=
  if vm.autostart then
    jobRun job "Starting VM" startDomain
  else
    modify fun vm => { vm with status := .stopped }

/-- What `provision_vm` does under the lock, step after step. -/
def provisionSteps (job : JobRow) : TaskM VmRow Unit := do
  let vm ← get
  jobRun job "Allocating resources" (enter .allocating)
  jobRun job "Creating disks" do
    createDisks vm
    enter .diskCreated
  jobRun job "Configuring network" (enter .networkCreated)
  jobRun job "Creating domain" createDomain
  onlyIf vm.cloudInitEnabled <|
    jobRun job "Attaching cloud-init" do
      let _ ← sendOperation vm.node (generateCloudInitRequest vm)
  enter .cloudInitAttached
  startOrStop job vm
  modify fun vm => { vm with provisioningState := .ready }
  saveStatusAndState

/-- The `except` branches of `provision_vm`. -/
def provisionExcept (job : JobRow) : Exn → TaskM VmRow Unit
  | .lockAcquisition key =>
    onlyIf (¬ job.isTerminal) (transition job .failed none (some (Exn.lockAcquisition key).str))
  | exc => do
    let vm ← get
    cleanupPartialVm vm
    save (.vmSave vm.pk
      { status := some .error, provisioningState := some .error, lastError := some exc.str })
    failUnlessTerminal job exc

/-- `provision_vm` from the moment it has its `job` and its `vm`. -/
def provisionBody (job : JobRow) : TaskM VmRow Unit := do
  tryCatch
    (do
      lifecycleLock (← get) (provisionSteps job)
      transition job .success (some "VM created successfully")
      emitVmEvent (← get) "VM_CREATED")
    fun exc => do
      provisionExcept job exc
      throw exc

/-- `provision_vm` -/
def provisionVm (jobId vmId : Nat) : TaskM L Unit := do
  let job ← getJob jobId
  let vm ← getVm vmId
  Script.scope vm (provisionBody job)

/-! ## Lifecycle -/

/-- `_simple_lifecycle_task` -/
def simpleLifecycleTask (jobId vmId : Nat) (operation : OperationType) (runningStatus : VMStatus)
    (stepMessage eventType : String) : TaskM L Unit := do
  let job ← getJob jobId
  let vm ← getVm vmId
  tryCatch
    (do
      lifecycleLock vm <| jobRun job stepMessage do
        let _ ← sendOperation vm.node (vmRequest vm operation)
        save (.vmSave vm.pk { status := some runningStatus })
      transition job .success (some stepMessage)
      emitVmEvent vm eventType)
    fun exc => do
      save (.vmSave vm.pk { lastError := some exc.str })
      failUnlessTerminal job exc
      throw exc

def startVmTask (jobId vmId : Nat) : TaskM L Unit :=
  simpleLifecycleTask jobId vmId .startVm .running "Starting VM" "VM_STARTED"

/-- `stop_vm_task`: the job's type tells a forced stop from a shutdown. -/
def stopVmTask (jobId vmId : Nat) : TaskM L Unit := do
  let job ← getJob jobId
  if job.type = .vmStop then
    simpleLifecycleTask jobId vmId .stopVm .stopped "Stopping VM" "VM_STOPPED"
  else
    simpleLifecycleTask jobId vmId .shutdownVm .stopped "Shutting down VM" "VM_STOPPED"

/-- `reboot_vm_task`: the job's type tells a reset from a reboot. -/
def rebootVmTask (jobId vmId : Nat) : TaskM L Unit := do
  let job ← getJob jobId
  if job.type = .vmReset then
    simpleLifecycleTask jobId vmId .resetVm .running "Resetting VM" "VM_REBOOTED"
  else
    simpleLifecycleTask jobId vmId .rebootVm .running "Rebooting VM" "VM_REBOOTED"

def pauseVmTask (jobId vmId : Nat) : TaskM L Unit :=
  simpleLifecycleTask jobId vmId .pauseVm .paused "Pausing VM" "VM_PAUSED"

def resumeVmTask (jobId vmId : Nat) : TaskM L Unit :=
  simpleLifecycleTask jobId vmId .resumeVm .running "Resuming VM" "VM_RESUMED"

/-- What `delete_vm_task` does under its locks. -/
def deleteVmStep (vm : VmRow) : TaskM L Unit := do
  save (.vmSave vm.pk { status := some .deleting })
  let _ ← sendOperation vm.node (deleteVmRequest vm true)
  (← volumesOf vm).forM fun d => do
    let _ ← sendOperation vm.node (deleteDiskRequest vm d.1 d.2)

/-- `delete_vm_task` -/
def deleteVmTask (jobId vmId : Nat) : TaskM L Unit := do
  let job ← getJob jobId
  let vm ← getVm vmId
  tryCatch
    (do
      lifecycleLock vm <| storageLock vm <| jobRun job "Deleting VM" (deleteVmStep vm)
      save (.vmDelete vm.pk)
      transition job .success (some "VM deleted")
      swallow (emitEvent (vmEvent vm "VM_DELETED")))
    fun exc => do
      save (.vmSave vm.pk { status := some .error, lastError := some exc.str })
      failUnlessTerminal job exc
      throw exc

/-! ## Cloning -/

/-- The row `clone_vm_task` creates. What it does not name takes the model's default. -/
def cloneRow (job : JobRow) (source : VmRow) (newName : String) : VmRow :=
  { pk := 0, uuid := ⟨0⟩, domainUuid := ⟨0⟩
    organization := source.organization, project := source.project, node := source.node
    createdBy := job.createdBy, name := newName, osType := source.osType
    firmware := source.firmware, machineType := source.machineType, cpuCount := source.cpuCount
    cpuSockets := source.cpuSockets, cpuCores := source.cpuCores, cpuThreads := source.cpuThreads
    cpuModel := source.cpuModel, memoryMb := source.memoryMb
    cloudInitEnabled := source.cloudInitEnabled, autostart := false, status := .creating
    provisioningState := .requested }

/-- "Preparing clone": the clone's row, and the job pointed at it. -/
def prepareClone (job : JobRow) (source : VmRow) (newName : String) : TaskM L VmRow := do
  let clone ← insertVm (cloneRow job source newName)
  save (.jobResourceId job.pk clone.uuid.str)
  return clone

/-- One round of "Cloning disks". -/
def cloneDisk (source clone : VmRow) (disk : DiskRow) (pool : PoolRow) (linked : Bool) :
    TaskM L Unit := do
  let data ← sendOperation source.node (cloneDiskRequest source clone disk pool linked)
  save (.diskCreate
    { pk := 0, uuid := ⟨0⟩, vm := clone.pk, storage := disk.storage, name := disk.name
      volumeId := data.getStr "volume_id" "", device := disk.device, bus := disk.bus
      sizeBytes := disk.sizeBytes, format := disk.format, bootable := disk.bootable
      readonly := disk.readonly, discard := disk.discard, iothread := disk.iothread
      bootIndex := disk.bootIndex })

/-- One round of "Assigning new network identity". -/
def cloneNic (clone : VmRow) (nic : NicRow) : TaskM L Unit := do
  let macAddress : String ← Script.perform Op.mac
  save (.nicCreate
    { pk := 0, uuid := ⟨0⟩, vm := clone.pk, network := nic.network, macAddress := macAddress
      model := nic.model, vlan := nic.vlan, bootable := nic.bootable, bootIndex := nic.bootIndex })

/-- What `clone_vm_task` does under its locks. -/
def cloneSteps (job : JobRow) (source : VmRow) (newName : String) (linked : Bool) :
    TaskM L VmRow := do
  let clone ← jobRun job "Preparing clone" (prepareClone job source newName)
  jobRun job "Cloning disks" do
    ((← query).disksWithStorage source.pk).forM fun d => cloneDisk source clone d.1 d.2 linked
    save (.vmSave clone.pk { provisioningState := some .diskCreated })
  jobRun job "Assigning new network identity" do
    ((← query).nicsWithNetwork source.pk).forM fun n => cloneNic clone n.1
    save (.vmSave clone.pk { provisioningState := some .networkCreated })
  jobRun job "Creating cloned domain" do
    let request ← buildDomainRequest clone
    let _ ← sendOperation clone.node request
    save (.vmSave clone.pk { provisioningState := some .ready, status := some .stopped })
  return clone

/-- `clone_vm_task` -/
def cloneVmTask (jobId vmId : Nat) (newName : String) (linked : Bool) : TaskM L Unit := do
  let job ← getJob jobId
  let source ← getVm vmId
  tryCatch
    (do
      let clone ← lifecycleLock source <| storageLock source <|
        cloneSteps job source newName linked
      transition job .success (some ("Cloned to " ++ newName))
      emitVmEvent clone "VM_CLONED" [("source_uuid", .str source.uuid.str)])
    fun exc => do
      failUnlessTerminal job exc
      throw exc

/-! ## Disks and NICs -/

/-- A disk with its VM and its pool. -/
def Tables.loadDisk (t : Tables) (disk : Nat) : Option (DiskRow × VmRow × PoolRow) := do
  let d ← Table.get t.disks disk
  let vm ← Table.get t.vms d.vm
  let pool ← Table.get t.pools d.storage
  return (d, vm, pool)

/-- A NIC with its VM and its network. -/
def Tables.loadNic (t : Tables) (nic : Nat) : Option (NicRow × VmRow × NetworkRow) := do
  let n ← Table.get t.nics nic
  let vm ← Table.get t.vms n.vm
  let network ← Table.get t.networks n.network
  return (n, vm, network)

/-- `VMDisk.objects.select_related("vm", "vm__node", "storage").get(pk=...)` -/
def getDisk (disk : Nat) : TaskM L (DiskRow × VmRow × PoolRow) :=
  getRow "VMDisk" fun t => t.loadDisk disk

/-- `VMNic.objects.select_related("vm", "vm__node", "network").get(pk=...)` -/
def getNic (nic : Nat) : TaskM L (NicRow × VmRow × NetworkRow) :=
  getRow "VMNic" fun t => t.loadNic nic

/-- `_disk_or_nic_task` -/
def diskOrNicTask (jobId : Nat) (vm : VmRow) (step : String) (runOp : TaskM L Unit) :
    TaskM L Unit := do
  let job ← getJob jobId
  tryCatch
    (do
      storageLock vm <| jobRun job step runOp
      transition job .success (some step))
    fun exc => do
      failUnlessTerminal job exc
      throw exc

/-- `run` of `attach_disk_task`: the volume is created, recorded and then attached. -/
def attachDisk (vm : VmRow) (disk : DiskRow) (pool : PoolRow) : TaskM L Unit := do
  let data ← sendOperation vm.node (createBlankDiskRequest vm disk pool)
  let disk :=
    { disk with
      volumeId := data.getStr "volume_id" ""
      device := data.getStr "device" disk.device
      format := data.getStr "format" disk.format }
  save (.diskSave disk.pk disk.volumeId disk.device disk.format)
  let _ ← sendOperation vm.node (attachDiskRequest vm disk pool)

def attachDiskTask (jobId diskId : Nat) : TaskM L Unit := do
  let (disk, vm, pool) ← getDisk diskId
  diskOrNicTask jobId vm ("Attaching disk " ++ disk.name) (attachDisk vm disk pool)

/-- `run` of `detach_disk_task` -/
def detachDisk (vm : VmRow) (disk : DiskRow) (pool : PoolRow) : TaskM L Unit := do
  let _ ← sendOperation vm.node (detachDiskRequest vm disk pool)
  onlyIf (disk.volumeId ≠ "") do
    let _ ← sendOperation vm.node (deleteDiskRequest vm disk pool)
  save (.diskDelete disk.pk)

def detachDiskTask (jobId diskId : Nat) : TaskM L Unit := do
  let (disk, vm, pool) ← getDisk diskId
  diskOrNicTask jobId vm ("Detaching disk " ++ disk.uuid.str) (detachDisk vm disk pool)

/-- `run` of `resize_disk_task` -/
def resizeDisk (vm : VmRow) (disk : DiskRow) (pool : PoolRow) (newSizeBytes : Nat) :
    TaskM L Unit := do
  let _ ← sendOperation vm.node (resizeDiskRequest vm disk pool newSizeBytes)
  save (.diskSize disk.pk newSizeBytes)

def resizeDiskTask (jobId diskId newSizeBytes : Nat) : TaskM L Unit := do
  let (disk, vm, pool) ← getDisk diskId
  diskOrNicTask jobId vm ("Resizing disk " ++ disk.name) (resizeDisk vm disk pool newSizeBytes)

def attachNicTask (jobId nicId : Nat) : TaskM L Unit := do
  let (nic, vm, network) ← getNic nicId
  diskOrNicTask jobId vm ("Attaching NIC " ++ nic.macAddress) do
    let _ ← sendOperation vm.node (attachNicRequest vm nic network)

/-- `run` of `detach_nic_task` -/
def detachNic (vm : VmRow) (nic : NicRow) (network : NetworkRow) : TaskM L Unit := do
  let _ ← sendOperation vm.node (detachNicRequest vm nic network)
  save (.nicDelete nic.pk)

def detachNicTask (jobId nicId : Nat) : TaskM L Unit := do
  let (nic, vm, network) ← getNic nicId
  diskOrNicTask jobId vm ("Detaching NIC " ++ nic.macAddress) (detachNic vm nic network)

end NodePilot
