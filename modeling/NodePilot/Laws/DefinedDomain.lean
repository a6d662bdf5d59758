import NodePilot.Agent.Dispatcher
import NodePilot.Requests

/-!
# The document of CREATE_VM

`build_domain_xml` on what `_build_domain_payload` reads from the rows: a text before the devices of the
rows, the elements of the disks, those of the NICs, and a text after them. What stands before and after
does not depend on the NICs.
-/

namespace NodePilot.Agent

/-- The document of a domain up to the elements of its disks. -/
def documentStart (vm : VmRow) (disks : List (DiskRow × PoolRow)) : Text :=
  "<domain type=\"kvm\">".toList ++ "<name>".toList ++ escape vm.name.toList ++ "</name>".toList ++
    "<uuid>".toList ++ vm.domainUuid.str.toList ++ "</uuid>".toList ++
    "<memory unit=\"MiB\">".toList ++ decimal vm.memoryMb ++ "</memory>".toList ++
    "<currentMemory unit=\"MiB\">".toList ++ decimal vm.memoryMb ++ "</currentMemory>".toList ++
    "<vcpu placement=\"static\">".toList ++ decimal vm.cpuCount ++ "</vcpu>".toList ++
    (if disks.any (·.1.iothread) then "<iothreads>1</iothreads>".toList else []) ++
    osXml (domainPayload vm [] []) vm.machineType.toList vm.firmware.value.toList ++
    "<cpu mode=\"host-passthrough\"/>".toList ++
    "<on_poweroff>destroy</on_poweroff>".toList ++ "<on_reboot>restart</on_reboot>".toList ++
    "<on_crash>restart</on_crash>".toList ++ "<devices>".toList ++
    "<emulator>/usr/bin/qemu-system-x86_64</emulator>".toList

/-- The document of a domain after the elements of its NICs. -/
def documentEnd (vm : VmRow) : Text :=
  "<console type=\"pty\"><target type=\"serial\" port=\"0\"/></console>".toList ++
    "<graphics type=\"vnc\" port=\"-1\" autoport=\"yes\" listen=\"127.0.0.1\"/>".toList ++
    (if vm.ballooningEnabled then "<memballoon model=\"virtio\"/>".toList
      else "<memballoon model=\"none\"/>".toList) ++
    "</devices>".toList ++ "</domain>".toList

/-- The disk's entry in the payload of CREATE_VM. -/
def diskEntry (d : DiskRow) (p : PoolRow) : Dict :=
  match domainDisk d p with
  | .obj fields => fields
  | _ => []

/-- The NIC's entry in the payload of CREATE_VM. -/
def nicEntry (n : NicRow) (net : NetworkRow) : Dict :=
  match domainNic n net with
  | .obj fields => fields
  | _ => []

variable {vm : VmRow} {disks : List (DiskRow × PoolRow)} {nics : List (NicRow × NetworkRow)}

theorem createVm_disks :
    entries (createVmRequest vm disks nics).payload "disks" = disks.map fun d => diskEntry d.1 d.2 := by
  have found : Dict.get? (createVmRequest vm disks nics).payload "disks" =
      some (.arr (disks.map fun d => domainDisk d.1 d.2)) := by
    simp [createVmRequest, vmRequest, domainPayload, Dict.get?, List.lookup_cons]
  rw [entries, found]
  simp only [List.filterMap_map]
  rw [← List.filterMap_eq_map]
  rfl

theorem createVm_nics :
    entries (createVmRequest vm disks nics).payload "nics" = nics.map fun n => nicEntry n.1 n.2 := by
  have found : Dict.get? (createVmRequest vm disks nics).payload "nics" =
      some (.arr (nics.map fun n => domainNic n.1 n.2)) := by
    simp [createVmRequest, vmRequest, domainPayload, Dict.get?, List.lookup_cons]
  rw [entries, found]
  simp only [List.filterMap_map]
  rw [← List.filterMap_eq_map]
  rfl

theorem flag_iothread {d : DiskRow} {p : PoolRow} : flag (diskEntry d p) "iothread" = d.iothread := by
  simp [flag, diskEntry, domainDisk, Dict.get?, List.lookup_cons, Json.truthy]

theorem bootXml_createVm : bootXml (createVmRequest vm disks nics).payload = bootXml (domainPayload vm [] []) := by
  have order (disks : List (DiskRow × PoolRow)) (nics : List (NicRow × NetworkRow)) :
      (domainPayload vm disks nics).get? "boot_order" =
        some (.arr ((if vm.bootOrder = [] then ["disk"] else vm.bootOrder).map .str)) := by
    simp [domainPayload, Dict.get?, List.lookup_cons]
  unfold bootXml
  rw [order [] [], show (createVmRequest vm disks nics).payload = domainPayload vm disks nics from rfl, order]

/-- What surrounds the devices. -/
theorem domainTail_createVm (disksXml nicsXml : Text) :
    "<domain type=\"kvm\">".toList ++ "<name>".toList ++ escape vm.name.toList ++ "</name>".toList ++
        "<uuid>".toList ++ vm.domainUuid.str.toList ++ "</uuid>".toList ++
        domainTail (createVmRequest vm disks nics).payload vm.memoryMb vm.machineType.toList
          vm.firmware.value.toList disksXml nicsXml =
      documentStart vm disks ++ disksXml ++ nicsXml ++ documentEnd vm := by
  have vcpu : vcpuCount (createVmRequest vm disks nics).payload = vm.cpuCount := by
    simp [vcpuCount, createVmRequest, vmRequest, domainPayload, Dict.get?, Dict.getInt, List.lookup_cons]
  have iothreads : (entries (createVmRequest vm disks nics).payload "disks").any (flag · "iothread") =
      disks.any (·.1.iothread) := by
    simp only [createVm_disks, List.any_map, Function.comp_def, flag_iothread]
  have balloon : ((createVmRequest vm disks nics).payload.get? "ballooning_enabled").all Json.truthy =
      vm.ballooningEnabled := by
    simp [createVmRequest, vmRequest, domainPayload, Dict.get?, List.lookup_cons, Json.truthy]
  have os : osXml (createVmRequest vm disks nics).payload = osXml (domainPayload vm [] []) := by
    funext machineType firmware
    rw [osXml, bootXml_createVm, osXml]
  unfold domainTail documentStart documentEnd
  rw [vcpu, iothreads, balloon, os]
  simp only [List.append_assoc]

/-- `build_domain_xml` on the rows of a VM: the disks and the NICs stand between two texts of which the NICs have
no part. -/
theorem buildDomainXml_createVm :
    buildDomainXml (createVmRequest vm disks nics).payload = (do
      let disksText ← disksXml 0 (disks.map fun d => diskEntry d.1 d.2)
      let nicsText ← nicsXml (nics.map fun n => nicEntry n.1 n.2)
      return documentStart vm disks ++ disksText ++ nicsText ++ documentEnd vm) := by
  have name : requireStr (createVmRequest vm disks nics).payload "name" = .ok vm.name.toList := by
    simp [requireStr, createVmRequest, vmRequest, domainPayload, Dict.get?, List.lookup_cons]
  have uuid : requireStr (createVmRequest vm disks nics).payload "domain_uuid" = .ok vm.domainUuid.str.toList := by
    simp [requireStr, createVmRequest, vmRequest, domainPayload, Dict.get?]
  have memory : requireInt (createVmRequest vm disks nics).payload "memory_mb" = .ok (vm.memoryMb : Int) := by
    simp [requireInt, createVmRequest, vmRequest, domainPayload, Dict.get?, List.lookup_cons]
  have machine : optionalStr (createVmRequest vm disks nics).payload "machine_type" "q35".toList =
      .ok vm.machineType.toList := by
    simp [optionalStr, createVmRequest, vmRequest, domainPayload, Dict.get?, List.lookup_cons]
  have firmware : optionalStr (createVmRequest vm disks nics).payload "firmware" "BIOS".toList =
      .ok vm.firmware.value.toList := by
    simp [optionalStr, createVmRequest, vmRequest, domainPayload, Dict.get?, List.lookup_cons]
  rw [buildDomainXml, buildDomainXmlWith, name, uuid, memory, machine, firmware, createVm_disks, createVm_nics]
  simp only [bind, Except.bind, pure, Except.pure, domainTail_createVm]
  rfl

end NodePilot.Agent
