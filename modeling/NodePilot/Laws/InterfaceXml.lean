import NodePilot.Laws.DiskXml

/-!
# The interface of a NIC

libvirt finds the device to detach by its XML. A NIC reaches its domain in the document of CREATE_VM or by
ATTACH_NIC, and leaves it by DETACH_NIC: three payloads and two functions that write the element.
-/

namespace NodePilot.Agent

variable {n : NicRow} {net : NetworkRow} {vm : VmRow}

/-- The `<interface>` element of the NIC in its domain. -/
def interfaceXml (n : NicRow) (net : NetworkRow) : Except AgentError Text := domainNicXml (nicEntry n net)

/-- The models of `NicModel` have nothing to escape. -/
theorem escape_model (model : NicModel) : escape (lower model.value.toList) = lower model.value.toList := by
  cases model <;> decide

theorem bandwidthXml_nicPayload : bandwidthXml (nicPayload vm n net) = bandwidthXml (nicEntry n net) := by
  have plugged : Dict.get? (nicPayload vm n net) "rate_limit_mbps" = some (.ofNat? n.rateLimitMbps) := by
    simp [nicPayload, Dict.get?, List.lookup_cons]
  have defined : Dict.get? (nicEntry n net) "rate_limit_mbps" = some (.ofNat? n.rateLimitMbps) := by
    simp [nicEntry, domainNic, Dict.get?, List.lookup_cons]
  rw [bandwidthXml, plugged, bandwidthXml, defined]

theorem nicBridge_nicPayload (bridge : Text) :
    nicBridge (nicPayload vm n net) bridge = nicBridge (nicEntry n net) bridge := by
  simp [nicBridge, nicPayload, nicEntry, domainNic, Dict.get?, List.lookup_cons]

/-- What is plugged in and out is what the domain was defined with. -/
theorem buildNicXml_nicPayload : buildNicXml (nicPayload vm n net) = interfaceXml n net := by
  have bridge : requireStr (nicPayload vm n net) "bridge" = .ok net.bridge.toList := by
    simp [requireStr, nicPayload, Dict.get?, List.lookup_cons]
  have mac : requireStr (nicPayload vm n net) "mac_address" = .ok n.macAddress.toList := by
    simp [requireStr, nicPayload, Dict.get?, List.lookup_cons]
  have model : optionalStr (nicPayload vm n net) "model" "VIRTIO".toList = .ok n.model.value.toList := by
    simp [optionalStr, nicPayload, Dict.get?, List.lookup_cons]
  have bridge' : optionalStr (nicEntry n net) "bridge" "vmbr0".toList = .ok net.bridge.toList := by
    simp [optionalStr, nicEntry, domainNic, Dict.get?, List.lookup_cons]
  have mac' : requireStr (nicEntry n net) "mac_address" = .ok n.macAddress.toList := by
    simp [requireStr, nicEntry, domainNic, Dict.get?, List.lookup_cons]
  have model' : optionalStr (nicEntry n net) "model" "VIRTIO".toList = .ok n.model.value.toList := by
    simp [optionalStr, nicEntry, domainNic, Dict.get?, List.lookup_cons]
  rw [buildNicXml, buildNicXmlWith, interfaceXml, domainNicXml, domainNicXmlWith, bridge, mac, model, bridge', mac', model']
  simp only [Except.bind, bind, nicBridge_nicPayload, bandwidthXml_nicPayload, escape_model]

/-- The elements of a domain's NICs stand one after the other. -/
theorem nicsXml_entries {nics : List (NicRow × NetworkRow)} :
    nicsXml (nics.map fun n => nicEntry n.1 n.2) = (nics.mapM fun n => interfaceXml n.1 n.2).map List.flatten := by
  induction nics with
  | nil => rfl
  | cons n rest ih =>
    simp only [nicsXml] at ih
    rw [nicsXml, List.map_cons, nicsXmlWith, ih, List.mapM_cons]
    show (interfaceXml n.1 n.2 >>= _) = Except.map _ (interfaceXml n.1 n.2 >>= _)
    cases interfaceXml n.1 n.2 with
    | error e => rfl
    | ok xml => cases rest.mapM fun n => interfaceXml n.1 n.2 <;> rfl

/-- The `<interface>` element of a NIC is the same on all paths: in the document that CREATE_VM defines its domain
with, and where it is plugged in and out. -/
theorem interfaces_agree (workdir : Text) (vm : VmRow) (disks : List (DiskRow × PoolRow))
    (nics : List (NicRow × NetworkRow)) (n : NicRow) (net : NetworkRow) :
    nicsXml (entries (createVmRequest vm disks nics).payload "nics") =
        (nics.mapM fun n => interfaceXml n.1 n.2).map List.flatten ∧
      buildDomainXml (createVmRequest vm disks nics).payload =
        (nics.mapM fun n => interfaceXml n.1 n.2).map (fun interfaces =>
          documentStart vm disks ++ definedDisks disks ++ interfaces.flatten ++ documentEnd vm) ∧
      libvirtCalls workdir (createVmRequest vm disks nics) =
        (nics.mapM fun n => interfaceXml n.1 n.2).map (fun interfaces =>
          [.defineDomain
            (documentStart vm disks ++ definedDisks disks ++ interfaces.flatten ++ documentEnd vm)]) ∧
      libvirtCalls workdir (attachNicRequest vm n net) =
        (interfaceXml n net).map (fun xml => [.attachDevice vm.domainUuid.str.toList xml true]) ∧
      libvirtCalls workdir (detachNicRequest vm n net) =
        (interfaceXml n net).map (fun xml => [.detachDevice vm.domainUuid.str.toList xml]) := by
  have domain : requireStr (nicPayload vm n net) "domain_uuid" = .ok vm.domainUuid.str.toList := by
    simp [requireStr, nicPayload, Dict.get?]
  refine ⟨by rw [createVm_nics, nicsXml_entries], ?_, ?_, ?_, ?_⟩
  · rw [buildDomainXml_createVm, disksXml_diskEntries_zero, nicsXml_entries]
    cases nics.mapM fun n => interfaceXml n.1 n.2 <;> rfl
  · rw [libvirtCalls_createVm, nicsXml_entries]
    cases nics.mapM fun n => interfaceXml n.1 n.2 <;> rfl
  · show (buildNicXml (nicPayload vm n net) >>= fun xml =>
      requireStr (nicPayload vm n net) "domain_uuid" >>= fun u => pure [LibvirtCall.attachDevice u xml true]) = _
    rw [buildNicXml_nicPayload, domain]
    cases interfaceXml n net <;> rfl
  · show (buildNicXml (nicPayload vm n net) >>= fun xml =>
      requireStr (nicPayload vm n net) "domain_uuid" >>= fun u => pure [LibvirtCall.detachDevice u xml]) = _
    rw [buildNicXml_nicPayload, domain]
    cases interfaceXml n net <;> rfl

end NodePilot.Agent
