import NodePilot.Agent.DomainXml

/-!
# The agent's dispatcher

`operations/dispatcher.py` and the handlers it calls, as far as they talk to libvirt: for each
request, the calls of `libvirt_client.py` that its handler makes. Every one of them but
`define_domain` begins with `lookupByUUIDString` on the identifier it is given. The handlers of
volumes, networks, storage pools and backups make no libvirt call.
-/

namespace NodePilot.Agent

/-- A call of `LibvirtClient`, with the identifier the domain is looked up by. -/
inductive LibvirtCall
  | defineDomain (xml : Text)
  | undefineDomain (domainUuid : Text) (removeStorage : Bool)
  | startDomain (domainUuid : Text)
  | gracefulShutdown (domainUuid : Text)
  | forceStop (domainUuid : Text)
  | reboot (domainUuid : Text)
  | reset (domainUuid : Text)
  | suspend (domainUuid : Text)
  | resume (domainUuid : Text)
  | domainInfo (domainUuid : Text)
  | attachDevice (domainUuid xml : Text) (live : Bool)
  | detachDevice (domainUuid xml : Text)
  | createSnapshot (domainUuid name : Text)
  | deleteSnapshot (domainUuid name : Text)
  | rollbackSnapshot (domainUuid name : Text)
  /-- `_vnc_port` of the console session. -/
  | xmlDesc (domainUuid : Text)

/-- The identifier given to `lookupByUUIDString`. -/
def LibvirtCall.lookup : LibvirtCall → Option Text
  | .defineDomain _ => none
  | .undefineDomain u _ | .startDomain u | .gracefulShutdown u | .forceStop u | .reboot u
  | .reset u | .suspend u | .resume u | .domainInfo u | .attachDevice u _ _ | .detachDevice u _
  | .createSnapshot u _ | .deleteSnapshot u _ | .rollbackSnapshot u _ | .xmlDesc u => some u

/-- `os.path.join(directory, name)` for a relative name. -/
def joinPath (directory name : Text) : Text :=
  if directory = [] ∨ directory.getLast? = some '/' then directory ++ name
  else directory ++ "/".toList ++ name

/-- The libvirt calls of the handler of a request, in order. `workdir` is the directory of the
cloud-init images. -/
def libvirtCalls (workdir : Text) (r : AgentRequest) : Except AgentError (List LibvirtCall) :=
  let resourceId := r.resourceId.toList
  match r.operation with
  | .openConsole => do
    let _ ← requireStr r.payload "session_id"
    return [.xmlDesc resourceId]
  | .getDomainInfo => .ok [.domainInfo resourceId]
  | .createVm => do
    let xml ← buildDomainXml r.payload
    return [.defineDomain xml]
  | .deleteVm => .ok [.undefineDomain resourceId (flag r.payload "delete_disks")]
  | .startVm => .ok [.startDomain resourceId]
  | .shutdownVm => .ok [.gracefulShutdown resourceId]
  | .stopVm => .ok [.forceStop resourceId]
  | .rebootVm => .ok [.reboot resourceId]
  | .resetVm => .ok [.reset resourceId]
  | .pauseVm => .ok [.suspend resourceId]
  | .resumeVm => .ok [.resume resourceId]
  | .attachDisk => do
    let xml ← buildDiskXml r.payload
    return [.attachDevice (← requireStr r.payload "domain_uuid") xml true]
  | .detachDisk => do
    let xml ← buildDiskXml r.payload
    return [.detachDevice (← requireStr r.payload "domain_uuid") xml]
  | .attachNic => do
    let xml ← buildNicXml r.payload
    return [.attachDevice (← requireStr r.payload "domain_uuid") xml true]
  | .detachNic => do
    let xml ← buildNicXml r.payload
    return [.detachDevice (← requireStr r.payload "domain_uuid") xml]
  | .createSnapshot => do
    return [.createSnapshot resourceId (← requireStr r.payload "name")]
  | .deleteSnapshot => do
    return [.deleteSnapshot resourceId (← requireStr r.payload "snapshot_id")]
  | .rollbackSnapshot => do
    return [.rollbackSnapshot resourceId (← requireStr r.payload "snapshot_id")]
  | .generateCloudInit =>
    .ok [.attachDevice resourceId
      (buildCdromXml (joinPath workdir (resourceId ++ ".iso".toList))) false]
  | .getHostInfo | .createDisk | .deleteDisk | .resizeDisk | .cloneDisk | .createNetwork
  | .deleteNetwork | .createStoragePool | .deleteStoragePool | .getStoragePoolInfo
  | .createBackup | .restoreBackup => .ok []
  -- MIGRATE_VM raises in its handler; the two ISO operations have none
  | .migrateVm | .attachIso | .detachIso => .error .notImplemented

end NodePilot.Agent
