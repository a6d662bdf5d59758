import NodePilot.Protocol

/-!
# Domain XML on the agent

`nodepilot_agent/domain_xml.py`: the XML that libvirt is given for a domain and for the devices
that are plugged into it, with the interface names of `nodepilot_agent/network.py` it needs. A text
is the list of its characters.
-/

namespace NodePilot.Agent

/-- A text, character by character. -/
abbrev Text : Type := List Char

/-- The exceptions a handler of the agent raises before it reaches libvirt. -/
inductive AgentError
  | keyError (key : String)
  | typeError (key : String)
  | networkOperation (name : Text)
  | notImplemented
  | valueError (text : String)
deriving DecidableEq

/-! ## Reading a payload -/

/-- `int(text)` of a text: digits with an underscore between two of them, a sign before and blanks around. -/
def readInt (text : String) : Option Int :=
  let blank := fun c : Char => c.isWhitespace
  let text := ((text.toList.dropWhile blank).reverse.dropWhile blank).reverse
  let digits := fun s : Text =>
    if (s.splitOn '_').all fun group => group ≠ [] ∧ group.all Char.isDigit then
      some (s.foldl (fun n c => if c = '_' then n else 10 * n + (c.toNat - '0'.toNat)) 0)
    else none
  match text with
  | '-' :: s => (digits s).map fun n => -(n : Int)
  | '+' :: s => (digits s).map fun n => (n : Int)
  | s => (digits s).map fun n => (n : Int)

/-- `payload.get(key)` used as a condition. -/
def flag (d : Dict) (key : String) : Bool := (d.get? key).any Json.truthy

/-- `payload[key]` where a string is needed. -/
def requireStr (d : Dict) (key : String) : Except AgentError Text :=
  match d.get? key with
  | some (.str s) => .ok s.toList
  | some _ => .error (.typeError key)
  | none => .error (.keyError key)

/-- `payload.get(key, default)` where a string is needed. -/
def optionalStr (d : Dict) (key : String) (default : Text) : Except AgentError Text :=
  match d.get? key with
  | some (.str s) => .ok s.toList
  | some _ => .error (.typeError key)
  | none => .ok default

/-- `payload.get(key) or default` on a string. -/
def strOr (d : Dict) (key : String) (default : Text) : Text :=
  match d.get? key with
  | some (.str s) => if s = "" then default else s.toList
  | _ => default

/-- `int(payload[key])`. A number with a fraction, which the controller never sends, is not read. -/
def requireInt (d : Dict) (key : String) : Except AgentError Int :=
  match d.get? key with
  | some (.int n) => .ok n
  | some (.bool b) => .ok (if b then 1 else 0)
  | some (.str s) =>
    match readInt s with
    | some n => .ok n
    | none => .error (.valueError s)
  | some _ => .error (.typeError key)
  | none => .error (.keyError key)

/-- The entries of a list of objects, `[]` when the key is missing. -/
def entries (d : Dict) (key : String) : List Dict :=
  match d.get? key with
  | some (.arr xs) => xs.filterMap fun | .obj fields => some fields | _ => none
  | _ => []

/-- A number in decimal. -/
def decimal (n : Int) : Text := (toString n).toList

/-! ## Escaping -/

/-- `text.replace(c, by)` for a single character. -/
def replaceChar (c : Char) (by' : Text) (text : Text) : Text :=
  text.flatMap fun x => if x = c then by' else [x]

/-- `escape`: `&`, `>` and `<` as `xml.sax.saxutils.escape` does, then the two quotes. -/
def escape (value : Text) : Text :=
  replaceChar '\'' "&apos;".toList <| replaceChar '"' "&quot;".toList <|
    replaceChar '<' "&lt;".toList <| replaceChar '>' "&gt;".toList <|
      replaceChar '&' "&amp;".toList value

/-! ## Interface names -/

/-- A letter or digit of ASCII. -/
def isAlnum (c : Char) : Bool := c.isAlphanum

/-- `_SAFE_IFACE.match`. The `$` of the pattern also stands before a final newline. -/
def safeIface (name : Text) : Bool :=
  match (if name.getLast? = some '\n' then name.dropLast else name) with
  | [] => false
  | c :: rest => isAlnum c && rest.length ≤ 14 &&
      rest.all fun c => isAlnum c || c = '_' || c = '.' || c = '-'

/-- `_validate_iface` -/
def validateIface (name : Text) : Except AgentError Text :=
  if safeIface name then .ok name else .error (.networkOperation name)

/-- `vlan_bridge_name` -/
def vlanBridgeName (parentBridge : Text) (vlanId : Int) : Except AgentError Text :=
  validateIface (parentBridge ++ ".".toList ++ decimal vlanId ++ "b".toList)

/-- `_resolve_nic_bridge`, and `_nic_target_bridge` where the bridge is required. -/
def nicBridge (nic : Dict) (bridge : Text) : Except AgentError Text :=
  match nic.get? "vlan" with
  | some (.int vlanId) => if vlanId = 0 then .ok bridge else vlanBridgeName bridge vlanId
  | _ => .ok bridge

/-! ## Devices -/

/-- `_BUS_XML_NAME.get(bus, "virtio")` -/
def busXmlName (bus : Text) : Text :=
  if bus = "VIRTIO_SCSI".toList then "scsi".toList
  else if bus = "SATA".toList then "sata".toList
  else if bus = "IDE".toList then "ide".toList
  else "virtio".toList

/-- `_BUS_DEVICE_PREFIX.get(bus, "vd")` -/
def busDevicePrefix (bus : Text) : Text :=
  if bus = "VIRTIO_SCSI".toList ∨ bus = "SATA".toList then "sd".toList
  else if bus = "IDE".toList then "hd".toList
  else "vd".toList

/-- `_next_device_name` -/
def nextDeviceName (busPrefix : Text) (index : Nat) : Text :=
  busPrefix ++ [Char.ofNat ('a'.toNat + index)]

/-- `_BOOT_DEV_XML_NAME.get(d, "hd")` -/
def bootDevXmlName (d : Json) : Text :=
  match d with
  | .str "cdrom" => "cdrom".toList
  | .str "network" => "network".toList
  | .str "floppy" => "fd".toList
  | _ => "hd".toList

/-- `disk.get("storage_type") in _BLOCK_BACKED_STORAGE_TYPES` -/
def isBlockBacked (disk : Dict) : Bool :=
  match disk.get? "storage_type" with
  | some (.str s) => s = "LVM" ∨ s = "LVM_THIN" ∨ s = "ZFS" ∨ s = "CEPH_RBD"
  | _ => false

/-- `_disk_source`: the type of the disk, its source element and the format of its driver. -/
def diskSource (disk : Dict) : Except AgentError (Text × Text × Text) := do
  let volumeId := escape (← optionalStr disk "volume_id" [])
  if isBlockBacked disk then
    return ("block".toList, "<source dev=\"".toList ++ volumeId ++ "\"/>".toList,
      strOr disk "format" "raw".toList)
  else
    return ("file".toList, "<source file=\"".toList ++ volumeId ++ "\"/>".toList,
      strOr disk "format" "qcow2".toList)

/-- `_bandwidth_xml`: Mbps to KiB/s, the same limit in both directions. -/
def bandwidthXml (nic : Dict) : Text :=
  match nic.get? "rate_limit_mbps" with
  | some (.int rate) =>
    if rate = 0 then []
    else
      let average := decimal (rate * 1000 / 8)
      "<bandwidth><inbound average=\"".toList ++ average ++ "\"/><outbound average=\"".toList ++
        average ++ "\"/></bandwidth>".toList
  | _ => []

/-- `str.lower` on the letters of ASCII. The models of `NicModel` have no other, and no other letter becomes one of
the digits of a checksum. Where any text can come, `str.lower` is a parameter. -/
def lower (text : Text) : Text := text.map Char.toLower

/-- The element of one disk of a domain. -/
def domainDiskXml (index : Nat) (disk : Dict) : Except AgentError Text := do
  let bus ← optionalStr disk "bus" "VIRTIO".toList
  let device := strOr disk "device" (nextDeviceName (busDevicePrefix bus) index)
  let (type, source, format) ← diskSource disk
  return "<disk type=\"".toList ++ type ++ "\" device=\"disk\">".toList ++
    "<driver name=\"qemu\" type=\"".toList ++ format ++ "\"".toList ++
    (if flag disk "discard" then " discard=\"unmap\"".toList else []) ++
    (if flag disk "iothread" then " iothread=\"1\"".toList else []) ++ "/>".toList ++
    source ++
    "<target dev=\"".toList ++ device ++ "\" bus=\"".toList ++ busXmlName bus ++ "\"/>".toList ++
    (if flag disk "readonly" then "<readonly/>".toList else []) ++ "</disk>".toList

/-- The element of one NIC of a domain. `lowered` is `str.lower`. -/
def domainNicXmlWith (lowered : Text → Text) (nic : Dict) : Except AgentError Text := do
  let model := lowered (← optionalStr nic "model" "VIRTIO".toList)
  let bridge := escape (← nicBridge nic (← optionalStr nic "bridge" "vmbr0".toList))
  let mac := escape (← requireStr nic "mac_address")
  return "<interface type=\"bridge\">".toList ++ "<source bridge=\"".toList ++ bridge ++
    "\"/>".toList ++ "<mac address=\"".toList ++ mac ++ "\"/>".toList ++
    "<model type=\"".toList ++ model ++ "\"/>".toList ++ bandwidthXml nic ++ "</interface>".toList

def domainNicXml (nic : Dict) : Except AgentError Text := domainNicXmlWith lower nic

/-- The elements of the disks, each with its position. -/
def disksXml : Nat → List Dict → Except AgentError Text
  | _, [] => .ok []
  | index, disk :: rest => do
    let xml ← domainDiskXml index disk
    return xml ++ (← disksXml (index + 1) rest)

def nicsXmlWith (lowered : Text → Text) : List Dict → Except AgentError Text
  | [] => .ok []
  | nic :: rest => do
    let xml ← domainNicXmlWith lowered nic
    return xml ++ (← nicsXmlWith lowered rest)

def nicsXml (nics : List Dict) : Except AgentError Text := nicsXmlWith lower nics

/-! ## The domain -/

/-- `payload.get("boot_order") or ["disk"]`, as boot elements. -/
def bootXml (payload : Dict) : Text :=
  let order := match payload.get? "boot_order" with
    | some (.arr (d :: ds)) => d :: ds
    | _ => [.str "disk"]
  order.flatMap fun d => "<boot dev=\"".toList ++ bootDevXmlName d ++ "\"/>".toList

/-- The `<os>` element. -/
def osXml (payload : Dict) (machineType firmware : Text) : Text :=
  (if firmware = "BIOS".toList then "<os>".toList else "<os firmware=\"efi\">".toList) ++
    "<type arch=\"x86_64\" machine=\"".toList ++ escape machineType ++ "\">hvm</type>".toList ++
    bootXml payload ++ "</os>".toList

/-- `cpu.get("count", 1)` of `payload.get("cpu", {})` -/
def vcpuCount (payload : Dict) : Int :=
  match payload.get? "cpu" with
  | some (.obj cpu) => Dict.getInt cpu "count" 1
  | _ => 1

/-- The elements after `</uuid>`. -/
def domainTail (payload : Dict) (memoryMb : Int) (machineType firmware disks nics : Text) : Text :=
  "<memory unit=\"MiB\">".toList ++ decimal memoryMb ++ "</memory>".toList ++
    "<currentMemory unit=\"MiB\">".toList ++ decimal memoryMb ++ "</currentMemory>".toList ++
    "<vcpu placement=\"static\">".toList ++ decimal (vcpuCount payload) ++ "</vcpu>".toList ++
    (if (entries payload "disks").any (flag · "iothread") then
      "<iothreads>1</iothreads>".toList else []) ++
    osXml payload machineType firmware ++
    "<cpu mode=\"host-passthrough\"/>".toList ++
    "<on_poweroff>destroy</on_poweroff>".toList ++ "<on_reboot>restart</on_reboot>".toList ++
    "<on_crash>restart</on_crash>".toList ++ "<devices>".toList ++
    "<emulator>/usr/bin/qemu-system-x86_64</emulator>".toList ++ disks ++ nics ++
    "<console type=\"pty\"><target type=\"serial\" port=\"0\"/></console>".toList ++
    "<graphics type=\"vnc\" port=\"-1\" autoport=\"yes\" listen=\"127.0.0.1\"/>".toList ++
    (if (payload.get? "ballooning_enabled").all Json.truthy then
      "<memballoon model=\"virtio\"/>".toList else "<memballoon model=\"none\"/>".toList) ++
    "</devices>".toList ++ "</domain>".toList

/-- `build_domain_xml`, with `str.lower`. -/
def buildDomainXmlWith (lowered : Text → Text) (payload : Dict) : Except AgentError Text := do
  let name := escape (← requireStr payload "name")
  let domainUuid ← requireStr payload "domain_uuid"
  let memoryMb ← requireInt payload "memory_mb"
  let machineType ← optionalStr payload "machine_type" "q35".toList
  let firmware ← optionalStr payload "firmware" "BIOS".toList
  let disks ← disksXml 0 (entries payload "disks")
  let nics ← nicsXmlWith lowered (entries payload "nics")
  return "<domain type=\"kvm\">".toList ++ "<name>".toList ++ name ++ "</name>".toList ++
    "<uuid>".toList ++ domainUuid ++ "</uuid>".toList ++
    domainTail payload memoryMb machineType firmware disks nics

/-- `build_domain_xml` -/
def buildDomainXml (payload : Dict) : Except AgentError Text := buildDomainXmlWith lower payload

/-! ## Hot plug -/

/-- `build_disk_xml`, on the payload of ATTACH_DISK and DETACH_DISK. -/
def buildDiskXml (payload : Dict) : Except AgentError Text := do
  let device ← requireStr payload "device"
  let bus ← optionalStr payload "bus" "VIRTIO".toList
  let _ ← requireStr payload "volume_id"
  let (type, source, format) ← diskSource payload
  return "<disk type=\"".toList ++ type ++ "\" device=\"disk\">".toList ++
    "<driver name=\"qemu\" type=\"".toList ++ format ++ "\"/>".toList ++ source ++
    "<target dev=\"".toList ++ escape device ++ "\" bus=\"".toList ++ busXmlName bus ++
    "\"/>".toList ++ "</disk>".toList

/-- `build_cdrom_xml`, on the default device. -/
def buildCdromXml (isoPath : Text) : Text :=
  "<disk type=\"file\" device=\"cdrom\">".toList ++
    "<driver name=\"qemu\" type=\"raw\"/>".toList ++ "<source file=\"".toList ++ escape isoPath ++
    "\"/>".toList ++ "<target dev=\"sda\" bus=\"sata\"/>".toList ++ "<readonly/>".toList ++
    "</disk>".toList

/-- `build_nic_xml`, on the payload of ATTACH_NIC and DETACH_NIC. `lowered` is `str.lower`. -/
def buildNicXmlWith (lowered : Text → Text) (payload : Dict) : Except AgentError Text := do
  let bridge ← nicBridge payload (← requireStr payload "bridge")
  let mac ← requireStr payload "mac_address"
  let model ← optionalStr payload "model" "VIRTIO".toList
  return "<interface type=\"bridge\">".toList ++ "<source bridge=\"".toList ++ escape bridge ++
    "\"/>".toList ++ "<mac address=\"".toList ++ escape mac ++ "\"/>".toList ++
    "<model type=\"".toList ++ escape (lowered model) ++ "\"/>".toList ++ bandwidthXml payload ++
    "</interface>".toList

def buildNicXml (payload : Dict) : Except AgentError Text := buildNicXmlWith lower payload

end NodePilot.Agent
