import NodePilot.Laws.DiskXml
import NodePilot.Laws.VlanIsolation

/-!
# The document of a domain

`build_domain_xml` puts the document together from strings of the payload. Most of them it escapes; the format and
the device of a disk and the model of a NIC it writes as they are. The strings here are any that the columns of
the models hold: no view checks the model of a NIC that is attached, and a disk's device and format can be any text
in the database.
-/

namespace NodePilot.Agent

open Lib Networks

/-! ## Payloads -/

/-- An entry of `"disks"` in `_build_domain_payload`. -/
structure DiskData where
  uuid : Uuid
  volumeId : String
  bus : String
  device : String
  bootable : Bool
  readonly : Bool
  discard : Bool
  iothread : Bool
  bootIndex : Nat
  format : String
  storageType : String

/-- An entry of `"nics"`. -/
structure NicData where
  uuid : Uuid
  macAddress : String
  model : String
  bridge : String
  vlan : Option Nat
  bootIndex : Nat
  rateLimitMbps : Option Nat

/-- What `_build_domain_payload` reads. -/
structure DomainData where
  domainUuid : Uuid
  name : String
  osType : String
  firmware : String
  machineType : String
  cpuCount : Nat
  cpuSockets : Nat
  cpuCores : Nat
  cpuThreads : Nat
  cpuModel : String
  memoryMb : Nat
  ballooningEnabled : Bool
  bootOrder : List String
  disks : List DiskData
  nics : List NicData

/-- The disk's entry in the payload's `disks`. -/
def DiskData.entry (d : DiskData) : Dict :=
  [("uuid", .str d.uuid.str), ("volume_id", .str d.volumeId), ("bus", .str d.bus), ("device", .str d.device),
    ("bootable", .bool d.bootable), ("readonly", .bool d.readonly), ("discard", .bool d.discard),
    ("iothread", .bool d.iothread), ("boot_index", .int d.bootIndex), ("format", .str d.format),
    ("storage_type", .str d.storageType)]

/-- The NIC's entry in the payload's `nics`. -/
def NicData.entry (n : NicData) : Dict :=
  [("uuid", .str n.uuid.str), ("mac_address", .str n.macAddress), ("model", .str n.model), ("bridge", .str n.bridge),
    ("vlan", .ofNat? n.vlan), ("boot_index", .int n.bootIndex), ("rate_limit_mbps", .ofNat? n.rateLimitMbps)]

/-- `vm.boot_order or ["disk"]` -/
def DomainData.boot (p : DomainData) : List String := if p.bootOrder = [] then ["disk"] else p.bootOrder

/-- The payload of CREATE_VM for the data. -/
def DomainData.payload (p : DomainData) : Dict :=
  [("domain_uuid", .str p.domainUuid.str), ("name", .str p.name), ("os_type", .str p.osType),
    ("firmware", .str p.firmware), ("machine_type", .str p.machineType),
    ("cpu", .obj [("count", .int p.cpuCount), ("sockets", .int p.cpuSockets), ("cores", .int p.cpuCores),
      ("threads", .int p.cpuThreads), ("model", .str p.cpuModel)]),
    ("memory_mb", .int p.memoryMb), ("ballooning_enabled", .bool p.ballooningEnabled),
    ("boot_order", .arr (p.boot.map .str)), ("disks", .arr (p.disks.map fun d => .obj d.entry)),
    ("nics", .arr (p.nics.map fun n => .obj n.entry))]

/-- What `_build_domain_payload` takes of a disk and its pool. -/
def diskData (d : DiskRow) (p : PoolRow) : DiskData :=
  ⟨d.uuid, d.volumeId, d.bus.value, d.device, d.bootable, d.readonly, d.discard, d.iothread, d.bootIndex, d.format,
    p.type.value⟩

/-- What `_build_domain_payload` takes of a NIC and its network. -/
def nicData (n : NicRow) (net : NetworkRow) : NicData :=
  ⟨n.uuid, n.macAddress, n.model.value, net.bridge, orNat n.vlan net.vlanId, n.bootIndex, n.rateLimitMbps⟩

/-- What `_build_domain_payload` takes of the rows of a VM. -/
def domainData (vm : VmRow) (disks : List (DiskRow × PoolRow)) (nics : List (NicRow × NetworkRow)) : DomainData :=
  ⟨vm.domainUuid, vm.name, vm.osType, vm.firmware.value, vm.machineType, vm.cpuCount, vm.cpuSockets, vm.cpuCores,
    vm.cpuThreads, vm.cpuModel, vm.memoryMb, vm.ballooningEnabled, vm.bootOrder,
    disks.map fun d => diskData d.1 d.2, nics.map fun n => nicData n.1 n.2⟩

/-- The rows' payload is one of these. -/
theorem domainPayload_eq (vm : VmRow) (disks : List (DiskRow × PoolRow)) (nics : List (NicRow × NetworkRow)) :
    domainPayload vm disks nics = (domainData vm disks nics).payload := by
  by_cases order : vm.bootOrder = [] <;>
    simp [domainPayload, domainDisk, domainNic, DomainData.payload, domainData, DomainData.boot, DiskData.entry,
      diskData, NicData.entry, nicData, order]

/-! ## What is read back -/

/-- A device, by what libvirt reads in its element. -/
inductive Device
  | disk (type format file dev target bus : Option Text)
  | interface (bridge mac model : Option Text)
  | other (name : Text)
deriving DecidableEq

/-- A device as the reader of the document finds it, by the name of its element. -/
def Device.ofNode (n : Xml.Node) : Device :=
  if n.name = "disk".toList then
    .disk (n.get "type".toList) (n.getIn "driver".toList "type".toList) (n.getIn "source".toList "file".toList)
      (n.getIn "source".toList "dev".toList) (n.getIn "target".toList "dev".toList)
      (n.getIn "target".toList "bus".toList)
  else if n.name = "interface".toList then
    .interface (n.getIn "source".toList "bridge".toList) (n.getIn "mac".toList "address".toList)
      (n.getIn "model".toList "type".toList)
  else .other n.name

namespace DiskData

/-- The disk is handed to QEMU as a block device. -/
def isBlock (d : DiskData) : Bool := isBlockBacked d.entry

/-- The device of the payload; the next one where there is none. -/
def target (index : Nat) (d : DiskData) : Text :=
  if d.device = "" then nextDeviceName (busDevicePrefix d.bus.toList) index else d.device.toList

/-- The format the driver reads, raw for a block device without one. -/
def driver (d : DiskData) : Text :=
  if d.format = "" then (if d.isBlock then "raw".toList else "qcow2".toList) else d.format.toList

/-- The device that the payload asks for at its place among the disks. -/
def described (index : Nat) (d : DiskData) : Device :=
  .disk (some (if d.isBlock then "block".toList else "file".toList)) (some d.driver)
    (if d.isBlock then none else some d.volumeId.toList) (if d.isBlock then some d.volumeId.toList else none)
    (some (d.target index)) (some (busXmlName d.bus.toList))

end DiskData

namespace NicData

/-- The bridge the NIC is attached to. -/
def target (n : NicData) : Text :=
  match n.vlan with
  | some (vlan + 1) => dedicated n.bridge.toList (vlan + 1)
  | _ => n.bridge.toList

/-- The dedicated bridge of a VLAN is a name that the host can use. -/
def Resolves (n : NicData) : Prop := (∃ vlan, n.vlan = some (vlan + 1)) → safeIface n.target = true

/-- The device that the payload asks for. -/
def described (lowered : Text → Text) (n : NicData) : Device :=
  .interface (some n.target) (some n.macAddress.toList) (some (lowered n.model.toList))

end NicData

/-- The document says what the payload says. -/
structure Describes (lowered : Text → Text) (p : DomainData) (root : Xml.Node) : Prop where
  name : (root.find "name".toList).map Xml.Node.data = some p.name.toList
  machine : (root.find "os".toList).bind (·.getIn "type".toList "machine".toList) = some p.machineType.toList
  boot : (root.find "os".toList).map (fun os =>
      (os.children.filter (·.name = "boot".toList)).map (·.get "dev".toList)) =
    some (p.boot.map fun d => some (bootDevXmlName (.str d)))
  devices : (root.find "devices".toList).map (·.children.map Device.ofNode) =
    some (.other "emulator".toList :: (p.disks.zipIdx.map (fun d => d.1.described d.2) ++
      p.nics.map (·.described lowered) ++ [.other "console".toList, .other "graphics".toList, .other "memballoon".toList]))

/-! ## When it is -/

/-- A character of a document that is read as itself. -/
def isPrintable (c : Char) : Bool := Xml.isChar c ∧ c ∉ ['\t', '\n', '\r']

/-- Every character is one that a validated text may hold. -/
def Printable (text : Text) : Prop := ∀ c ∈ text, isPrintable c = true

/-- The strings are made of such characters. -/
structure DomainData.Legal (p : DomainData) : Prop where
  name : Printable p.name.toList
  machineType : Printable p.machineType.toList
  disks : ∀ d ∈ p.disks, Printable d.volumeId.toList ∧ Printable d.device.toList ∧ Printable d.format.toList
  nics : ∀ n ∈ p.nics, Printable n.model.toList ∧ Printable n.bridge.toList ∧ Printable n.macAddress.toList

/-- What `build_domain_xml` writes as it is has nothing in it to escape. -/
structure DiskData.Harmless (index : Nat) (d : DiskData) : Prop where
  format : ∀ c ∈ d.format.toList, Xml.isQuotable c = true
  device : ∀ c ∈ d.device.toList, Xml.isQuotable c = true
  /-- The letter of a disk without a device is a character. -/
  letter : d.device = "" → Xml.isChar (Char.ofNat ('a'.toNat + index)) = true

/-- The NIC's element can be written, and its model ends no attribute. -/
structure NicData.Harmless (lowered : Text → Text) (n : NicData) : Prop where
  model : ∀ c ∈ lowered n.model.toList, Xml.isQuotable c = true
  bridge : n.Resolves

/-- The payload cannot break out of the document. -/
structure DomainData.Harmless (lowered : Text → Text) (p : DomainData) : Prop where
  disks : ∀ (index : Nat) (d : DiskData), p.disks[index]? = some d → d.Harmless index
  nics : ∀ n ∈ p.nics, n.Harmless lowered

/-! ## Pieces of text -/

/-- XML admits what is printable. -/
theorem isChar_of_isPrintable {c : Char} (h : isPrintable c = true) : Xml.isChar c = true := by
  simp only [isPrintable, decide_eq_true_eq] at h
  exact h.1

theorem Printable.isChar {text : Text} (h : Printable text) : ∀ c ∈ text, Xml.isChar c = true :=
  fun c hc => isChar_of_isPrintable (h c hc)

/-- Reading an attribute turns no printable character into a blank. -/
theorem Printable.map_blank {text : Text} (h : Printable text) : text.map Xml.blank = text := by
  refine Xml.map_blank fun c hc => ?_
  have plain := h c hc
  simp only [isPrintable, decide_eq_true_eq] at plain
  simpa using plain.2

/-- What is escaped reads back as it was. -/
theorem Printable.spells_escape {text : Text} (h : Printable text) : Xml.Spells (escape text) text := by
  have spells := Agent.spells_escape h.isChar
  rwa [h.map_blank] at spells

/-- A printable text without delimiters is its own spelling. -/
theorem Printable.spells {text : Text} (h : Printable text) (quotable : ∀ c ∈ text, Xml.isQuotable c = true) :
    Xml.Spells text text := by
  have spells := Xml.spells_quotable fun c hc => ⟨h.isChar c hc, quotable c hc⟩
  rwa [h.map_blank] at spells

/-- A fixed text. -/
theorem spells_literal {text : Text} (h : text.all (fun c => isPrintable c && Xml.isQuotable c) = true) :
    Xml.Spells text text := by
  simp only [List.all_eq_true, Bool.and_eq_true] at h
  exact Printable.spells (fun c hc => (h c hc).1) fun c hc => (h c hc).2

theorem spellsData_escapeChar {c : Char} (legal : Xml.isChar c = true) : Xml.SpellsData (escapeChar c) [c] := by
  unfold escapeChar
  split_ifs with amp greater less quote apostrophe
  · rw [amp]
    exact (Xml.spellsData_reference rfl rfl : Xml.SpellsData ('&' :: "amp".toList ++ [';']) ['&'])
  · rw [greater]
    exact (Xml.spellsData_reference rfl rfl : Xml.SpellsData ('&' :: "gt".toList ++ [';']) ['>'])
  · rw [less]
    exact (Xml.spellsData_reference rfl rfl : Xml.SpellsData ('&' :: "lt".toList ++ [';']) ['<'])
  · rw [quote]
    exact (Xml.spellsData_reference rfl rfl : Xml.SpellsData ('&' :: "quot".toList ++ [';']) ['"'])
  · rw [apostrophe]
    exact (Xml.spellsData_reference rfl rfl : Xml.SpellsData ('&' :: "apos".toList ++ [';']) ['\''])
  · refine Xml.spellsData_plain ?_
    simp [Xml.isPlainData, legal, less, greater, amp]

theorem spellsData_nil : Xml.SpellsData [] [] := Xml.spellsData_plain rfl

/-- An escaped text is read back from between the tags. -/
theorem spellsData_escape {text : Text} (legal : ∀ c ∈ text, Xml.isChar c = true) :
    Xml.SpellsData (escape text) text := by
  induction text with
  | nil => exact escape_nil ▸ spellsData_nil
  | cons c text ih =>
    obtain ⟨hc, legal⟩ := List.forall_mem_cons.mp legal
    rw [escape_cons]
    exact (spellsData_escapeChar hc).append (ih legal)

/-- Ten characters are to be looked at. -/
theorem forall_isDigit {P : Char → Prop} (h : ∀ i : Fin 10, P (Char.ofNat (48 + i))) {c : Char}
    (digit : c.isDigit = true) : P c := by
  obtain ⟨low, high⟩ : 48 ≤ c.toNat ∧ c.toNat ≤ 57 := by
    simp only [Char.isDigit, Bool.and_eq_true, decide_eq_true_eq, UInt32.le_iff_toNat_le] at digit
    exact digit
  have found := h ⟨c.toNat - 48, by omega⟩
  simp only [show 48 + (c.toNat - 48) = c.toNat by omega] at found
  rwa [Char.ofNat_toNat] at found

theorem spellsData_decimal (n : Nat) : Xml.SpellsData (decimal n) (decimal n) :=
  Xml.spellsData_plain <| List.all_eq_true.mpr fun _ hc =>
    forall_isDigit (P := fun c => Xml.isPlainData c = true) (by decide) (isDigit_of_mem_decimal hc)

theorem spells_decimal (n : Nat) : Xml.Spells (decimal n) (decimal n) :=
  spells_literal <| List.all_eq_true.mpr fun _ hc =>
    forall_isDigit (P := fun c => (isPrintable c && Xml.isQuotable c) = true) (by decide) (isDigit_of_mem_decimal hc)

theorem spellsData_uuid (u : Uuid) : Xml.SpellsData u.chars u.chars :=
  Xml.spellsData_plain (List.all_eq_true.mpr (Uuid.chars_forall (by decide) (by decide) u))

/-! ## The element of a disk -/

/-- An attribute that is written as it is. -/
def plainAttribute (name value : Text) : Xml.Attribute := ⟨name, value, value⟩

/-- An attribute as it is written with `escape`. -/
def escapedAttribute (name value : Text) : Xml.Attribute := ⟨name, escape value, value⟩

namespace DiskData

/-- The kind of source that the disk's element names. -/
def type (d : DiskData) : Text := if d.isBlock then "block".toList else "file".toList

/-- The attributes that the driver has only where the payload asks for them. -/
def driverOptions (d : DiskData) : List Xml.Attribute :=
  (if d.discard then [plainAttribute "discard".toList "unmap".toList] else []) ++
    if d.iothread then [plainAttribute "iothread".toList "1".toList] else []

/-- The attributes of the driver. -/
def driverAttributes (d : DiskData) : List Xml.Attribute :=
  plainAttribute "name".toList "qemu".toList :: plainAttribute "type".toList d.driver :: d.driverOptions

/-- The one attribute of the source, its file or its device. -/
def sourceAttribute (d : DiskData) : Xml.Attribute :=
  escapedAttribute (if d.isBlock then "dev".toList else "file".toList) d.volumeId.toList

/-- The attributes of the target at its place among the disks. -/
def targetAttributes (index : Nat) (d : DiskData) : List Xml.Attribute :=
  [plainAttribute "dev".toList (d.target index), plainAttribute "bus".toList (busXmlName d.bus.toList)]

/-- The attributes of the disk's element. -/
def attributes (d : DiskData) : List Xml.Attribute :=
  [plainAttribute "type".toList d.type, plainAttribute "device".toList "disk".toList]

/-- The disk's element. -/
def text (index : Nat) (d : DiskData) : Text :=
  Xml.element "disk".toList d.attributes
    (Xml.emptyElement "driver".toList d.driverAttributes ++ Xml.emptyElement "source".toList [d.sourceAttribute] ++
      Xml.emptyElement "target".toList (d.targetAttributes index) ++
      if d.readonly then Xml.emptyElement "readonly".toList [] else [])

end DiskData

variable {d : DiskData} {index : Nat}

/-- The source comes from the pool's kind and the volume. -/
theorem diskSource_entry : diskSource d.entry =
    .ok (d.type, Xml.emptyElement "source".toList [d.sourceAttribute], d.driver) := by
  have volumeId : optionalStr d.entry "volume_id" [] = .ok d.volumeId.toList := by
    simp [optionalStr, DiskData.entry, Dict.get?, List.lookup_cons]
  have format (default : Text) :
      strOr d.entry "format" default = if d.format = "" then default else d.format.toList := by
    simp [strOr, DiskData.entry, Dict.get?, List.lookup_cons]
  have block : isBlockBacked d.entry = d.isBlock := rfl
  rw [diskSource, volumeId, block, DiskData.type, DiskData.driver, DiskData.sourceAttribute]
  cases d.isBlock with
  | true =>
    simp only [if_true]
    show Except.ok (_, _, strOr d.entry "format" _) = _
    rw [format]
    simp [Xml.emptyElement, Xml.startTag, Xml.Attribute.text, escapedAttribute]
  | false =>
    simp only [Bool.false_eq_true, if_false]
    show Except.ok (_, _, strOr d.entry "format" _) = _
    rw [format]
    simp [Xml.emptyElement, Xml.startTag, Xml.Attribute.text, escapedAttribute]

theorem text_driver : Xml.emptyElement "driver".toList d.driverAttributes =
    "<driver name=\"qemu\" type=\"".toList ++ d.driver ++ "\"".toList ++
      (if d.discard then " discard=\"unmap\"".toList else []) ++
      (if d.iothread then " iothread=\"1\"".toList else []) ++ "/>".toList := by
  unfold DiskData.driverAttributes DiskData.driverOptions
  cases d.discard <;> cases d.iothread <;>
    simp [Xml.emptyElement, Xml.startTag, Xml.Attribute.text, plainAttribute]

theorem text_target : Xml.emptyElement "target".toList (d.targetAttributes index) =
    "<target dev=\"".toList ++ d.target index ++ "\" bus=\"".toList ++ busXmlName d.bus.toList ++ "\"/>".toList := by
  simp [Xml.emptyElement, Xml.startTag, Xml.Attribute.text, plainAttribute, DiskData.targetAttributes]

theorem text_disk (inner : Text) : Xml.element "disk".toList d.attributes inner =
    "<disk type=\"".toList ++ d.type ++ "\" device=\"disk\">".toList ++ inner ++ "</disk>".toList := by
  simp [Xml.element, Xml.startTag, Xml.endTag, Xml.Attribute.text, plainAttribute, DiskData.attributes]

/-- `domain_disk_xml` never raises for an entry of the payload, and this is the text. -/
theorem domainDiskXml_entry : domainDiskXml index d.entry = .ok (d.text index) := by
  have bus : optionalStr d.entry "bus" "VIRTIO".toList = .ok d.bus.toList := by
    simp [optionalStr, DiskData.entry, Dict.get?, List.lookup_cons]
  have device : strOr d.entry "device" (nextDeviceName (busDevicePrefix d.bus.toList) index) = d.target index := by
    simp [strOr, DiskData.entry, Dict.get?, List.lookup_cons, DiskData.target]
  have discard : flag d.entry "discard" = d.discard := by
    simp [flag, DiskData.entry, Dict.get?, List.lookup_cons, Json.truthy]
  have iothread : flag d.entry "iothread" = d.iothread := by
    simp [flag, DiskData.entry, Dict.get?, List.lookup_cons, Json.truthy]
  have readonly : flag d.entry "readonly" = d.readonly := by
    simp [flag, DiskData.entry, Dict.get?, List.lookup_cons, Json.truthy]
  have readonlyText : Xml.emptyElement "readonly".toList [] = "<readonly/>".toList := by decide
  rw [domainDiskXml, bus]
  show (diskSource d.entry >>= _) = _
  rw [diskSource_entry]
  refine congrArg Except.ok ?_
  rw [device, discard, iothread, readonly, DiskData.text, text_disk, text_driver, text_target, readonlyText]
  simp only [List.append_assoc]

/-- An unescaped attribute is legal where its value needs no escaping. -/
theorem legal_plainAttribute {name value : Text} (named : Xml.isName name = true) (spells : Xml.Spells value value) :
    (plainAttribute name value).Legal := ⟨named, spells⟩

/-- An escaped attribute is legal whatever printable text it holds. -/
theorem legal_escapedAttribute {name value : Text} (named : Xml.isName name = true) (printable : Printable value) :
    (escapedAttribute name value).Legal := ⟨named, printable.spells_escape⟩

/-- The letter of a target is printable as soon as it is a character of XML. -/
theorem isPrintable_letter (legal : Xml.isChar (Char.ofNat ('a'.toNat + index)) = true) :
    isPrintable (Char.ofNat ('a'.toNat + index)) = true := by
  have ne (x : Char) (hx : x.toNat < 'a'.toNat ∧ x.toNat ≠ 0) := @letter_ne index x hx.1 hx.2
  generalize Char.ofNat ('a'.toNat + index) = c at ne legal
  simp [isPrintable, legal, ne '\t' (by decide), ne '\n' (by decide), ne '\r' (by decide)]

/-- Attributes that are fixed. -/
def isFixed (a : Xml.Attribute) : Bool :=
  Xml.isName a.name && a.raw = a.value && a.raw.all fun c => isPrintable c && Xml.isQuotable c

theorem legal_fixed {attributes : List Xml.Attribute} (h : attributes.all isFixed = true) :
    ∀ a ∈ attributes, a.Legal := by
  intro a ha
  have fixed := List.all_eq_true.mp h a ha
  simp only [isFixed, Bool.and_eq_true, decide_eq_true_eq] at fixed
  refine ⟨fixed.1.1, ?_⟩
  rw [← fixed.1.2]
  exact spells_literal fixed.2

/-- The device or the letter is fit to be written as it is. -/
theorem spells_target (printable : Printable d.device.toList) (harmless : d.Harmless index) :
    Xml.Spells (d.target index) (d.target index) := by
  unfold DiskData.target
  split
  · next unnamed =>
    have prefixes : (busDevicePrefix d.bus.toList).all isPrintable = true := by
      unfold busDevicePrefix
      split_ifs <;> decide
    refine Printable.spells ?_ isQuotable_nextDeviceName
    rw [Printable, nextDeviceName, List.forall_mem_append]
    exact ⟨List.all_eq_true.mp prefixes, List.forall_mem_singleton.mpr (isPrintable_letter (harmless.letter unnamed))⟩
  · exact printable.spells harmless.device

/-- The driver's type is either fixed or the disk's format. -/
theorem spells_driver (printable : Printable d.format.toList)
    (quotable : ∀ c ∈ d.format.toList, Xml.isQuotable c = true) : Xml.Spells d.driver d.driver := by
  unfold DiskData.driver
  split
  · split <;> exact spells_literal (by decide)
  · exact printable.spells quotable

/-- A bus is one of four fixed names. -/
theorem spells_busXmlName (bus : Text) : Xml.Spells (busXmlName bus) (busXmlName bus) := by
  unfold busXmlName
  split_ifs <;> exact spells_literal (by decide)

theorem legal_attributes : ∀ a ∈ d.attributes, a.Legal := by
  have type : Xml.Spells d.type d.type := by
    unfold DiskData.type
    split <;> exact spells_literal (by decide)
  intro a ha
  simp only [DiskData.attributes, List.mem_cons, List.not_mem_nil, or_false] at ha
  rcases ha with rfl | rfl
  · exact legal_plainAttribute (by decide) type
  · exact legal_plainAttribute (by decide) (spells_literal (by decide))

theorem legal_sourceAttribute (printable : Printable d.volumeId.toList) : d.sourceAttribute.Legal := by
  unfold DiskData.sourceAttribute
  split <;> exact legal_escapedAttribute (by decide) printable

theorem legal_driverAttributes (spells : Xml.Spells d.driver d.driver) : ∀ a ∈ d.driverAttributes, a.Legal := by
  intro a ha
  simp only [DiskData.driverAttributes, DiskData.driverOptions, List.mem_cons, List.mem_append, List.mem_ite_nil_right,
    List.not_mem_nil, or_false] at ha
  rcases ha with rfl | rfl | ⟨-, rfl⟩ | ⟨-, rfl⟩
  · exact legal_plainAttribute (by decide) (spells_literal (by decide))
  · exact legal_plainAttribute (by decide) spells
  · exact legal_plainAttribute (by decide) (spells_literal (by decide))
  · exact legal_plainAttribute (by decide) (spells_literal (by decide))

/-- A text that is read as a device exactly when a condition holds. -/
structure ReadsAs (text : Text) (device : Device) (good : Prop) : Prop where
  writes : good → ∃ m, Xml.Writes text [m] ∧ Device.ofNode m = device
  breaks : ¬ good → Xml.AddsChild text fun m => Device.ofNode m ≠ device

theorem ofNode_disk {m : Xml.Node} (h : m.name = "disk".toList) : Device.ofNode m =
    .disk (m.get "type".toList) (m.getIn "driver".toList "type".toList) (m.getIn "source".toList "file".toList)
      (m.getIn "source".toList "dev".toList) (m.getIn "target".toList "dev".toList)
      (m.getIn "target".toList "bus".toList) := if_pos h

/-- No attribute of the disk's element is given twice. -/
theorem distinct_attributes : (d.attributes.map (·.name)).Nodup := by
  simp [DiskData.attributes, plainAttribute]

theorem distinct_driverAttributes : (d.driverAttributes.map (·.name)).Nodup := by
  unfold DiskData.driverAttributes DiskData.driverOptions
  cases d.discard <;> cases d.iothread <;> simp [plainAttribute]

theorem distinct_targetAttributes : ((d.targetAttributes index).map (·.name)).Nodup := by
  simp [DiskData.targetAttributes, plainAttribute]

/-- The driver and the source, before the target. -/
theorem writes_driverSource (spells : Xml.Spells d.driver d.driver) (printable : Printable d.volumeId.toList) :
    Xml.Writes (Xml.emptyElement "driver".toList d.driverAttributes ++
        Xml.emptyElement "source".toList [d.sourceAttribute])
      [.element "driver".toList (d.driverAttributes.map Xml.Attribute.pair) [],
        .element "source".toList [d.sourceAttribute.pair] []] :=
  (Xml.writes_emptyElement (by decide) (legal_driverAttributes spells) distinct_driverAttributes).append
    (Xml.writes_emptyElement (by decide) (List.forall_mem_singleton.mpr (legal_sourceAttribute printable))
      (List.nodup_singleton _))

/-- A harmless disk is read back as it is described. -/
theorem disk_writes (volumeId : Printable d.volumeId.toList) (device : Printable d.device.toList)
    (format : Printable d.format.toList) (harmless : d.Harmless index) :
    ∃ m, Xml.Writes (d.text index) [m] ∧ Device.ofNode m = d.described index := by
  have target : ∀ a ∈ d.targetAttributes index, a.Legal := by
    intro a ha
    simp only [DiskData.targetAttributes, List.mem_cons, List.not_mem_nil, or_false] at ha
    rcases ha with rfl | rfl
    · exact legal_plainAttribute (by decide) (spells_target device harmless)
    · exact legal_plainAttribute (by decide) (spells_busXmlName _)
  have readonly : ∃ kids : List Xml.Node, Xml.Writes
      (if d.readonly then Xml.emptyElement "readonly".toList [] else []) kids := by
    split
    · have named : Xml.isName "readonly".toList = true := by decide
      exact ⟨_, Xml.writes_emptyElement named (List.forall_mem_nil _) List.nodup_nil⟩
    · exact ⟨[], .nil⟩
  obtain ⟨kids, readonly⟩ := readonly
  have written := Xml.writes_emptyElement (show Xml.isName "target".toList = true by decide) target
    distinct_targetAttributes
  have inner := ((writes_driverSource (spells_driver format harmless.format) volumeId).append written).append readonly
  have named : Xml.isName "disk".toList = true := by decide
  refine ⟨_, Xml.writes_element named legal_attributes distinct_attributes inner, ?_⟩
  refine (ofNode_disk rfl).trans ?_
  unfold DiskData.described DiskData.attributes DiskData.driverAttributes DiskData.sourceAttribute
    DiskData.targetAttributes DiskData.type
  cases d.isBlock with
  | true =>
    simp only [List.cons_append, List.nil_append, List.map_cons, Xml.Attribute.pair, plainAttribute,
      escapedAttribute, Xml.Node.getIn_cons, Xml.Node.get_cons, Xml.Node.get_nil, String.toList_inj,
      String.reduceEq, if_true, if_false]
  | false =>
    simp only [Bool.false_eq_true, if_false]
    simp only [List.cons_append, List.nil_append, List.map_cons, Xml.Attribute.pair, plainAttribute,
      escapedAttribute, Xml.Node.getIn_cons, Xml.Node.get_cons, Xml.Node.get_nil, String.toList_inj,
      String.reduceEq, if_true, if_false]

/-- The type of the driver is read as something shorter. -/
theorem disk_breaks_driver (bad : ¬ ∀ c ∈ d.driver, Xml.isQuotable c = true) :
    Xml.AddsChild (d.text index) fun m => Device.ofNode m ≠ d.described index := by
  have text : d.text index = Xml.element "disk".toList d.attributes
      ([] ++ Xml.emptyElement "driver".toList ([plainAttribute "name".toList "qemu".toList] ++
          plainAttribute "type".toList d.driver :: d.driverOptions) ++
        (Xml.emptyElement "source".toList [d.sourceAttribute] ++
          (Xml.emptyElement "target".toList (d.targetAttributes index) ++
            if d.readonly then Xml.emptyElement "readonly".toList [] else []))) := by
    rw [DiskData.text, List.append_assoc, List.append_assoc]
    rfl
  have qemu : ∀ a ∈ [plainAttribute "name".toList "qemu".toList], a.Legal :=
    List.forall_mem_singleton.mpr (legal_plainAttribute (by decide) (spells_literal (by decide)))
  rw [text]
  refine Xml.AddsChild.mono (Xml.addsChild_value (by decide) legal_attributes distinct_attributes .nil (by decide) qemu
    (List.nodup_singleton _) (show Xml.isName "type".toList = true by decide)) ?_
  rintro m ⟨value, inside, short⟩ same
  have named := (inside.find (List.forall_mem_nil _)).1
  have got : m.getIn "driver".toList "type".toList = some value :=
    inside.getIn (List.forall_mem_nil _) (by simp [Xml.Attribute.pair, plainAttribute])
  rw [ofNode_disk named, got, DiskData.described] at same
  injection same with _ driver
  cases driver
  rcases short with quotable | short
  · exact bad quotable
  · exact absurd short (Nat.lt_irrefl _)

/-- A delimiter in the target's name either spoils the document or changes the device. -/
theorem disk_breaks_target (volumeId : Printable d.volumeId.toList) (driver : Xml.Spells d.driver d.driver)
    (bad : ¬ ∀ c ∈ d.target index, Xml.isQuotable c = true) :
    Xml.AddsChild (d.text index) fun m => Device.ofNode m ≠ d.described index := by
  have text : d.text index = Xml.element "disk".toList d.attributes
      ((Xml.emptyElement "driver".toList d.driverAttributes ++ Xml.emptyElement "source".toList [d.sourceAttribute]) ++
        Xml.emptyElement "target".toList ([] ++ plainAttribute "dev".toList (d.target index) ::
          [plainAttribute "bus".toList (busXmlName d.bus.toList)]) ++
        if d.readonly then Xml.emptyElement "readonly".toList [] else []) := rfl
  have fresh : ∀ k ∈ [Xml.Node.element "driver".toList (d.driverAttributes.map Xml.Attribute.pair) [],
      .element "source".toList [d.sourceAttribute.pair] []], k.name ≠ "target".toList := by
    simp [Xml.Node.name]
  rw [text]
  refine Xml.AddsChild.mono (Xml.addsChild_value (by decide) legal_attributes distinct_attributes
    (writes_driverSource driver volumeId) (by decide) (List.forall_mem_nil _) List.nodup_nil
    (show Xml.isName "dev".toList = true by decide)) ?_
  rintro m ⟨value, inside, short⟩ same
  have named := (inside.find fresh).1
  have got : m.getIn "target".toList "dev".toList = some value := inside.getIn fresh (by simp [plainAttribute])
  rw [ofNode_disk named, got, DiskData.described] at same
  injection same with _ _ _ _ target
  cases target
  rcases short with quotable | short
  · exact bad quotable
  · exact absurd short (Nat.lt_irrefl _)

theorem quotable_driver (h : ∀ c ∈ d.driver, Xml.isQuotable c = true) :
    ∀ c ∈ d.format.toList, Xml.isQuotable c = true := by
  unfold DiskData.driver at h
  split at h
  · next none => simp [none]
  · exact h

theorem quotable_target (h : ∀ c ∈ d.target index, Xml.isQuotable c = true) :
    ∀ c ∈ d.device.toList, Xml.isQuotable c = true := by
  unfold DiskData.target at h
  split at h
  · next none => simp [none]
  · exact h

/-- An unnamed disk is given a letter by its place. -/
theorem letter_mem_text (unnamed : d.device = "") : Char.ofNat ('a'.toNat + index) ∈ d.text index := by
  have target : Char.ofNat ('a'.toNat + index) ∈ d.target index := by
    rw [DiskData.target, if_pos unnamed, nextDeviceName]
    exact List.mem_append_right _ (List.mem_singleton_self _)
  simp only [DiskData.text, text_target, Xml.element, List.mem_append, List.mem_cons, target, true_or, or_true]

/-- A disk is read back exactly when it is harmless. -/
theorem disk_readsAs (volumeId : Printable d.volumeId.toList) (device : Printable d.device.toList)
    (format : Printable d.format.toList) : ReadsAs (d.text index) (d.described index) (d.Harmless index) where
  writes := disk_writes volumeId device format
  breaks := by
    intro harmful
    by_cases driver : ∀ c ∈ d.format.toList, Xml.isQuotable c = true
    · by_cases target : ∀ c ∈ d.device.toList, Xml.isQuotable c = true
      · have letter : ¬ (d.device = "" → Xml.isChar (Char.ofNat ('a'.toNat + index)) = true) :=
          fun letter => harmful ⟨driver, target, letter⟩
        obtain ⟨unnamed, illegal⟩ := Classical.not_imp.mp letter
        exact Xml.addsChild_of_not_isChar (letter_mem_text unnamed) (Bool.eq_false_of_not_eq_true illegal)
      · exact disk_breaks_target volumeId (spells_driver format driver) fun h => target (quotable_target h)
    · exact disk_breaks_driver fun h => driver (quotable_driver h)

/-! ## The element of a NIC -/

namespace NicData

/-- The model of a NIC is written in small letters and not escaped. -/
def modelAttribute (lowered : Text → Text) (n : NicData) : Xml.Attribute :=
  plainAttribute "type".toList (lowered n.model.toList)

/-- The source and the address, before the model. -/
def wiring (n : NicData) : Text :=
  Xml.emptyElement "source".toList [escapedAttribute "bridge".toList n.target] ++
    Xml.emptyElement "mac".toList [escapedAttribute "address".toList n.macAddress.toList]

/-- `_bandwidth_xml` -/
def bandwidth (n : NicData) : Text :=
  match n.rateLimitMbps with
  | some (rate + 1) =>
    let average := plainAttribute "average".toList (decimal (((rate + 1) * 1000 / 8 : Nat)))
    Xml.element "bandwidth".toList []
      (Xml.emptyElement "inbound".toList [average] ++ Xml.emptyElement "outbound".toList [average])
  | _ => []

/-- The NIC's element. -/
def text (lowered : Text → Text) (n : NicData) : Text :=
  Xml.element "interface".toList [plainAttribute "type".toList "bridge".toList]
    (n.wiring ++ Xml.emptyElement "model".toList [n.modelAttribute lowered] ++ n.bandwidth)

end NicData

variable {n : NicData} {lowered : Text → Text}

theorem bandwidthXml_entry : bandwidthXml n.entry = n.bandwidth := by
  have rate : Dict.get? n.entry "rate_limit_mbps" = some (.ofNat? n.rateLimitMbps) := by
    simp [NicData.entry, Dict.get?, List.lookup_cons]
  rw [bandwidthXml, rate, NicData.bandwidth]
  rcases n.rateLimitMbps with _ | _ | r
  · rfl
  · rfl
  · have average : ((r + 1 : Nat) : Int) * 1000 / 8 = (((r + 1) * 1000 / 8 : Nat) : Int) := by omega
    have positive : ((r + 1 : Nat) : Int) ≠ 0 := by omega
    simp only [Json.ofNat?, if_neg positive, average]
    simp [Xml.element, Xml.emptyElement, Xml.startTag, Xml.endTag, Xml.Attribute.text, plainAttribute]

/-- The bridge is the network's own or that of the VLAN. -/
theorem nicBridge_entry : nicBridge n.entry n.bridge.toList =
    match n.vlan with
    | some (vlan + 1) => vlanBridgeName n.bridge.toList ((vlan + 1 : Nat) : Int)
    | _ => .ok n.bridge.toList := by
  have vlan : Dict.get? n.entry "vlan" = some (.ofNat? n.vlan) := by
    simp [NicData.entry, Dict.get?, List.lookup_cons]
  rw [nicBridge, vlan]
  rcases n.vlan with _ | _ | v
  · rfl
  · rfl
  · exact if_neg (by omega)

/-- A bridge name that fits is what the element names. -/
theorem nicBridge_ok (h : n.Resolves) : nicBridge n.entry n.bridge.toList = .ok n.target := by
  rw [nicBridge_entry, NicData.target]
  cases here : n.vlan with
  | none => rfl
  | some vlan =>
    cases vlan with
    | zero => rfl
    | succ vlan =>
      have safe := h ⟨vlan, here⟩
      rw [NicData.target, here] at safe
      exact if_pos safe

/-- A bridge name that does not fit is refused. -/
theorem nicBridge_error (h : ¬ n.Resolves) :
    nicBridge n.entry n.bridge.toList = .error (.networkOperation n.target) := by
  obtain ⟨⟨vlan, here⟩, unsafe'⟩ := Classical.not_imp.mp h
  rw [nicBridge_entry, NicData.target, here]
  rw [NicData.target, here] at unsafe'
  exact if_neg unsafe'

/-- The element is written for a bridge name that fits. -/
theorem domainNicXml_ok (h : n.Resolves) : domainNicXmlWith lowered n.entry = .ok (n.text lowered) := by
  have model : optionalStr n.entry "model" "VIRTIO".toList = .ok n.model.toList := by
    simp [optionalStr, NicData.entry, Dict.get?, List.lookup_cons]
  have bridge : optionalStr n.entry "bridge" "vmbr0".toList = .ok n.bridge.toList := by
    simp [optionalStr, NicData.entry, Dict.get?, List.lookup_cons]
  have mac : requireStr n.entry "mac_address" = .ok n.macAddress.toList := by
    simp [requireStr, NicData.entry, Dict.get?, List.lookup_cons]
  have text : n.text lowered = "<interface type=\"bridge\">".toList ++ "<source bridge=\"".toList ++ escape n.target ++
      "\"/>".toList ++ "<mac address=\"".toList ++ escape n.macAddress.toList ++ "\"/>".toList ++
      "<model type=\"".toList ++ lowered n.model.toList ++ "\"/>".toList ++ n.bandwidth ++ "</interface>".toList := by
    simp [NicData.text, NicData.wiring, NicData.modelAttribute, Xml.element, Xml.emptyElement, Xml.startTag,
      Xml.endTag, Xml.Attribute.text, plainAttribute, escapedAttribute]
  rw [domainNicXmlWith, model, bridge, mac]
  show (nicBridge n.entry n.bridge.toList >>= _) = _
  rw [nicBridge_ok h, text, ← bandwidthXml_entry]
  rfl

/-- No element is written for a bridge name that does not fit. -/
theorem domainNicXml_error (h : ¬ n.Resolves) :
    domainNicXmlWith lowered n.entry = .error (.networkOperation n.target) := by
  have model : optionalStr n.entry "model" "VIRTIO".toList = .ok n.model.toList := by
    simp [optionalStr, NicData.entry, Dict.get?, List.lookup_cons]
  have bridge : optionalStr n.entry "bridge" "vmbr0".toList = .ok n.bridge.toList := by
    simp [optionalStr, NicData.entry, Dict.get?, List.lookup_cons]
  rw [domainNicXmlWith, model, bridge]
  show (nicBridge n.entry n.bridge.toList >>= _) = _
  rw [nicBridge_error h]
  rfl

/-- The VLAN adds a dot and digits to a printable name. -/
theorem printable_target (bridge : Printable n.bridge.toList) : Printable n.target := by
  unfold NicData.target
  split
  · have literal (text : Text) (h : text.all isPrintable = true) : Printable text := List.all_eq_true.mp h
    have digits (k : Nat) : Printable (decimal k) := fun _ hc =>
      forall_isDigit (P := fun c => isPrintable c = true) (by decide) (isDigit_of_mem_decimal hc)
    simp only [dedicated, uplink, Printable, List.forall_mem_append]
    exact ⟨⟨⟨bridge, literal _ (by decide)⟩, digits _⟩, literal _ (by decide)⟩
  · exact bridge

/-- The bridge and the address are read back. -/
theorem writes_wiring (bridge : Printable n.bridge.toList) (mac : Printable n.macAddress.toList) :
    Xml.Writes n.wiring [.element "source".toList [("bridge".toList, n.target)] [],
      .element "mac".toList [("address".toList, n.macAddress.toList)] []] := by
  have target := printable_target bridge
  have source : ∀ a ∈ [escapedAttribute "bridge".toList n.target], a.Legal :=
    List.forall_mem_singleton.mpr (legal_escapedAttribute (by decide) target)
  have address : ∀ a ∈ [escapedAttribute "address".toList n.macAddress.toList], a.Legal :=
    List.forall_mem_singleton.mpr (legal_escapedAttribute (by decide) mac)
  exact (Xml.writes_emptyElement (by decide) source (List.nodup_singleton _)).append
    (Xml.writes_emptyElement (by decide) address (List.nodup_singleton _))

/-- The limits add one element at most. -/
theorem writes_bandwidth : ∃ kids, Xml.Writes n.bandwidth kids := by
  unfold NicData.bandwidth
  match n.rateLimitMbps with
  | none => exact ⟨[], .nil⟩
  | some 0 => exact ⟨[], .nil⟩
  | some (r + 1) =>
    have average : ∀ a ∈ [plainAttribute "average".toList (decimal (((r + 1) * 1000 / 8 : Nat)))], a.Legal :=
      List.forall_mem_singleton.mpr (legal_plainAttribute (by decide) (spells_decimal _))
    have inner := (Xml.writes_emptyElement (show Xml.isName "inbound".toList = true by decide) average
      (List.nodup_singleton _)).append (Xml.writes_emptyElement (show Xml.isName "outbound".toList = true by decide)
        average (List.nodup_singleton _))
    exact ⟨_, Xml.writes_element (show Xml.isName "bandwidth".toList = true by decide) (List.forall_mem_nil _)
      List.nodup_nil inner⟩

theorem ofNode_interface {m : Xml.Node} (h : m.name = "interface".toList) : Device.ofNode m =
    .interface (m.getIn "source".toList "bridge".toList) (m.getIn "mac".toList "address".toList)
      (m.getIn "model".toList "type".toList) := by
  rw [Device.ofNode, h, if_neg (by decide), if_pos rfl]

theorem legal_bridge : ∀ a ∈ [plainAttribute "type".toList "bridge".toList], a.Legal :=
  List.forall_mem_singleton.mpr (legal_plainAttribute (by decide) (spells_literal (by decide)))

/-- A harmless NIC is read back as it is described. -/
theorem nic_writes (bridge : Printable n.bridge.toList) (mac : Printable n.macAddress.toList)
    (model : Printable (lowered n.model.toList)) (quotable : ∀ c ∈ lowered n.model.toList, Xml.isQuotable c = true) :
    ∃ m, Xml.Writes (n.text lowered) [m] ∧ Device.ofNode m = n.described lowered := by
  have type : ∀ a ∈ [n.modelAttribute lowered], a.Legal :=
    List.forall_mem_singleton.mpr (legal_plainAttribute (by decide) (model.spells quotable))
  obtain ⟨kids, bandwidth⟩ := @writes_bandwidth n
  have inner := ((writes_wiring bridge mac).append (Xml.writes_emptyElement
    (show Xml.isName "model".toList = true by decide) type (List.nodup_singleton _))).append bandwidth
  have named : Xml.isName "interface".toList = true := by decide
  refine ⟨_, Xml.writes_element named legal_bridge (List.nodup_singleton _) inner, ?_⟩
  refine (ofNode_interface rfl).trans ?_
  simp only [NicData.described, List.cons_append, List.nil_append, List.map_cons, Xml.Attribute.pair, plainAttribute,
    NicData.modelAttribute, Xml.Node.getIn_cons, Xml.Node.get_cons, String.toList_inj,
    String.reduceEq, if_true, if_false]

/-- A NIC is read back exactly when its model is harmless. -/
theorem nic_readsAs (bridge : Printable n.bridge.toList) (mac : Printable n.macAddress.toList)
    (model : Printable (lowered n.model.toList)) :
    ReadsAs (n.text lowered) (n.described lowered) (∀ c ∈ lowered n.model.toList, Xml.isQuotable c = true) where
  writes := nic_writes bridge mac model
  breaks := by
    intro bad
    have fresh : ∀ k ∈ [Xml.Node.element "source".toList [("bridge".toList, n.target)] [],
        .element "mac".toList [("address".toList, n.macAddress.toList)] []], k.name ≠ "model".toList := by
      simp [Xml.Node.name]
    have text : n.text lowered = Xml.element "interface".toList [plainAttribute "type".toList "bridge".toList]
        (n.wiring ++ Xml.emptyElement "model".toList ([] ++ n.modelAttribute lowered :: []) ++ n.bandwidth) := rfl
    rw [text]
    refine Xml.AddsChild.mono (Xml.addsChild_value (by decide) legal_bridge (List.nodup_singleton _)
      (writes_wiring bridge mac) (by decide) (List.forall_mem_nil _) List.nodup_nil
      (show Xml.isName "type".toList = true by decide)) ?_
    rintro m ⟨value, inside, short⟩ same
    have named := (inside.find fresh).1
    have got : m.getIn "model".toList "type".toList = some value :=
      inside.getIn fresh (by simp [NicData.modelAttribute, plainAttribute])
    rw [ofNode_interface named, got, NicData.described] at same
    injection same with _ _ type
    cases type
    rcases short with quotable | short
    · exact bad quotable
    · exact absurd short (Nat.lt_irrefl _)

/-! ## The document -/

namespace DomainData

/-- The attributes of `<os>`, those of the firmware. -/
def osAttributes (p : DomainData) : List Xml.Attribute :=
  if p.firmware = "BIOS" then [] else [plainAttribute "firmware".toList "efi".toList]

/-- The attributes of `<type>`. -/
def typeAttributes (p : DomainData) : List Xml.Attribute :=
  [plainAttribute "arch".toList "x86_64".toList, escapedAttribute "machine".toList p.machineType.toList]

/-- One `<boot>` element. -/
def bootText (d : String) : Text :=
  Xml.emptyElement "boot".toList [plainAttribute "dev".toList (bootDevXmlName (.str d))]

/-- The `<os>` element. -/
def osText (p : DomainData) : Text :=
  Xml.element "os".toList p.osAttributes
    (Xml.element "type".toList p.typeAttributes "hvm".toList ++ p.boot.flatMap bootText)

/-- The elements before the devices. -/
def headText (p : DomainData) : Text :=
  Xml.element "name".toList [] (escape p.name.toList) ++ Xml.element "uuid".toList [] p.domainUuid.chars ++
    Xml.element "memory".toList [plainAttribute "unit".toList "MiB".toList] (decimal p.memoryMb) ++
    Xml.element "currentMemory".toList [plainAttribute "unit".toList "MiB".toList] (decimal p.memoryMb) ++
    Xml.element "vcpu".toList [plainAttribute "placement".toList "static".toList] (decimal p.cpuCount) ++
    (if p.disks.any (·.iothread) then Xml.element "iothreads".toList [] "1".toList else []) ++ p.osText ++
    Xml.emptyElement "cpu".toList [plainAttribute "mode".toList "host-passthrough".toList] ++
    Xml.element "on_poweroff".toList [] "destroy".toList ++ Xml.element "on_reboot".toList [] "restart".toList ++
    Xml.element "on_crash".toList [] "restart".toList

/-- The program that runs the domain. -/
def emulatorText : Text := Xml.element "emulator".toList [] "/usr/bin/qemu-system-x86_64".toList

/-- The serial console. -/
def consoleText : Text :=
  Xml.element "console".toList [plainAttribute "type".toList "pty".toList]
    (Xml.emptyElement "target".toList
      [plainAttribute "type".toList "serial".toList, plainAttribute "port".toList "0".toList])

/-- The VNC display, on the local address. -/
def graphicsText : Text :=
  Xml.emptyElement "graphics".toList
    [plainAttribute "type".toList "vnc".toList, plainAttribute "port".toList "-1".toList,
    plainAttribute "autoport".toList "yes".toList, plainAttribute "listen".toList "127.0.0.1".toList]

/-- The balloon device, or its absence. -/
def memballoonText (p : DomainData) : Text :=
  Xml.emptyElement "memballoon".toList
    [plainAttribute "model".toList (if p.ballooningEnabled then "virtio".toList else "none".toList)]

/-- The devices of every domain. -/
def fixedText (p : DomainData) : Text := consoleText ++ graphicsText ++ p.memballoonText

/-- The whole document. -/
def document (lowered : Text → Text) (p : DomainData) : Text :=
  Xml.element "domain".toList [plainAttribute "type".toList "kvm".toList]
    (p.headText ++ Xml.element "devices".toList []
      (emulatorText ++ (p.disks.zipIdx.flatMap (fun d => d.1.text d.2) ++ p.nics.flatMap (·.text lowered)) ++
        p.fixedText))

end DomainData

/-- The disks stand one after the other, each with its place. -/
theorem disksXml_entries {disks : List DiskData} :
    disksXml index (disks.map (·.entry)) = .ok ((disks.zipIdx index).flatMap fun d => d.1.text d.2) := by
  induction disks generalizing index with
  | nil => rfl
  | cons d rest ih =>
    rw [List.map_cons, disksXml, domainDiskXml_entry, ih]
    rfl

/-- The NICs stand one after the other. -/
theorem nicsXml_ok {nics : List NicData} (h : ∀ n ∈ nics, n.Resolves) :
    nicsXmlWith lowered (nics.map (·.entry)) = .ok (nics.flatMap (·.text lowered)) := by
  induction nics with
  | nil => rfl
  | cons n rest ih =>
    obtain ⟨hn, h⟩ := List.forall_mem_cons.mp h
    rw [List.map_cons, nicsXmlWith, domainNicXml_ok hn, ih h]
    rfl

/-- One bridge name that does not fit fails the whole list. -/
theorem nicsXml_error {nics : List NicData} (h : ¬ ∀ n ∈ nics, n.Resolves) :
    ∃ e, nicsXmlWith lowered (nics.map (·.entry)) = .error e := by
  induction nics with
  | nil => exact absurd (List.forall_mem_nil _) h
  | cons n rest ih =>
    by_cases hn : n.Resolves
    · obtain ⟨e, he⟩ := ih fun h' => h (List.forall_mem_cons.mpr ⟨hn, h'⟩)
      rw [List.map_cons, nicsXmlWith, domainNicXml_ok hn, he]
      exact ⟨e, rfl⟩
    · rw [List.map_cons, nicsXmlWith, domainNicXml_error hn]
      exact ⟨_, rfl⟩

variable {p : DomainData}

theorem entries_disks : entries p.payload "disks" = p.disks.map (·.entry) := by
  have found : Dict.get? p.payload "disks" = some (.arr (p.disks.map fun d => .obj d.entry)) := by
    simp [DomainData.payload, Dict.get?, List.lookup_cons]
  rw [entries, found]
  simp only [List.filterMap_map]
  rw [← List.filterMap_eq_map]
  rfl

theorem entries_domainNics : entries p.payload "nics" = p.nics.map (·.entry) := by
  have found : Dict.get? p.payload "nics" = some (.arr (p.nics.map fun n => .obj n.entry)) := by
    simp [DomainData.payload, Dict.get?, List.lookup_cons]
  rw [entries, found]
  simp only [List.filterMap_map]
  rw [← List.filterMap_eq_map]
  rfl

/-- There is always something to boot from. -/
theorem boot_ne_nil : p.boot ≠ [] := by
  unfold DomainData.boot
  split
  · exact List.cons_ne_nil _ _
  · assumption

theorem bootXml_payload : bootXml p.payload = p.boot.flatMap DomainData.bootText := by
  obtain ⟨b, bs, order⟩ := List.exists_cons_of_ne_nil (@boot_ne_nil p)
  have found : Dict.get? p.payload "boot_order" = some (.arr (.str b :: bs.map .str)) := by
    simp [DomainData.payload, Dict.get?, List.lookup_cons, order]
  have text (d : String) : DomainData.bootText d =
      "<boot dev=\"".toList ++ bootDevXmlName (.str d) ++ "\"/>".toList := by
    simp [DomainData.bootText, Xml.emptyElement, Xml.startTag, Xml.Attribute.text, plainAttribute]
  rw [bootXml, found, order]
  show ((b :: bs).map Json.str).flatMap _ = _
  rw [List.flatMap_map]
  exact congrArg (List.flatMap · (b :: bs)) (funext fun d => (text d).symm)

theorem osXml_payload : osXml p.payload p.machineType.toList p.firmware.toList = p.osText := by
  have type : Xml.element "type".toList p.typeAttributes "hvm".toList =
      "<type arch=\"x86_64\" machine=\"".toList ++ escape p.machineType.toList ++ "\">hvm</type>".toList := by
    simp [Xml.element, Xml.startTag, Xml.endTag, Xml.Attribute.text, plainAttribute, escapedAttribute,
      DomainData.typeAttributes]
  have bios : Xml.startTag "os".toList [] ++ ['>'] = "<os>".toList := by decide
  have efi : Xml.startTag "os".toList [plainAttribute "firmware".toList "efi".toList] ++ ['>'] =
      "<os firmware=\"efi\">".toList := by decide
  have close : Xml.endTag "os".toList = "</os>".toList := by decide
  rw [osXml, bootXml_payload, DomainData.osText, type, DomainData.osAttributes]
  by_cases firmware : p.firmware = "BIOS"
  · rw [if_pos firmware, if_pos (congrArg String.toList firmware), Xml.element_eq bios close]
    simp only [List.append_assoc]
  · rw [if_neg firmware, if_neg fun same => firmware (String.toList_injective same), Xml.element_eq efi close]
    simp only [List.append_assoc]

theorem vcpuCount_payload : vcpuCount p.payload = p.cpuCount := by
  simp [vcpuCount, DomainData.payload, Dict.get?, Dict.getInt, List.lookup_cons]

theorem anyIothread_payload : (entries p.payload "disks").any (flag · "iothread") = p.disks.any (·.iothread) := by
  have iothread (d : DiskData) : flag d.entry "iothread" = d.iothread := by
    simp [flag, DiskData.entry, Dict.get?, List.lookup_cons, Json.truthy]
  rw [entries_disks, List.any_map]
  exact congrArg (List.any p.disks) (funext iothread)

theorem ballooning_payload : (p.payload.get? "ballooning_enabled").all Json.truthy = p.ballooningEnabled := by
  simp [DomainData.payload, Dict.get?, List.lookup_cons, Json.truthy]

theorem memballoonText_eq : p.memballoonText =
    if p.ballooningEnabled then "<memballoon model=\"virtio\"/>".toList else "<memballoon model=\"none\"/>".toList := by
  unfold DomainData.memballoonText
  cases p.ballooningEnabled <;> decide

theorem fixedText_eq : p.fixedText = "<console type=\"pty\"><target type=\"serial\" port=\"0\"/></console>".toList ++
    "<graphics type=\"vnc\" port=\"-1\" autoport=\"yes\" listen=\"127.0.0.1\"/>".toList ++
    (if p.ballooningEnabled then "<memballoon model=\"virtio\"/>".toList
      else "<memballoon model=\"none\"/>".toList) := by
  have console : DomainData.consoleText =
      "<console type=\"pty\"><target type=\"serial\" port=\"0\"/></console>".toList := by decide +kernel
  have graphics : DomainData.graphicsText =
      "<graphics type=\"vnc\" port=\"-1\" autoport=\"yes\" listen=\"127.0.0.1\"/>".toList := by decide +kernel
  rw [DomainData.fixedText, console, graphics, memballoonText_eq]

theorem headText_eq : p.headText = "<name>".toList ++ escape p.name.toList ++ "</name>".toList ++ "<uuid>".toList ++
    p.domainUuid.chars ++ "</uuid>".toList ++ "<memory unit=\"MiB\">".toList ++ decimal p.memoryMb ++
    "</memory>".toList ++ "<currentMemory unit=\"MiB\">".toList ++ decimal p.memoryMb ++ "</currentMemory>".toList ++
    "<vcpu placement=\"static\">".toList ++ decimal p.cpuCount ++ "</vcpu>".toList ++
    (if p.disks.any (·.iothread) then "<iothreads>1</iothreads>".toList else []) ++ p.osText ++
    "<cpu mode=\"host-passthrough\"/>".toList ++ "<on_poweroff>destroy</on_poweroff>".toList ++
    "<on_reboot>restart</on_reboot>".toList ++ "<on_crash>restart</on_crash>".toList := by
  have name (inner : Text) : Xml.element "name".toList [] inner = "<name>".toList ++ inner ++ "</name>".toList :=
    Xml.element_eq (by decide +kernel) (by decide +kernel)
  have uuid (inner : Text) : Xml.element "uuid".toList [] inner = "<uuid>".toList ++ inner ++ "</uuid>".toList :=
    Xml.element_eq (by decide +kernel) (by decide +kernel)
  have memory (inner : Text) : Xml.element "memory".toList [plainAttribute "unit".toList "MiB".toList] inner =
      "<memory unit=\"MiB\">".toList ++ inner ++ "</memory>".toList :=
    Xml.element_eq (by decide +kernel) (by decide +kernel)
  have current (inner : Text) : Xml.element "currentMemory".toList [plainAttribute "unit".toList "MiB".toList] inner =
      "<currentMemory unit=\"MiB\">".toList ++ inner ++ "</currentMemory>".toList :=
    Xml.element_eq (by decide +kernel) (by decide +kernel)
  have vcpu (inner : Text) : Xml.element "vcpu".toList [plainAttribute "placement".toList "static".toList] inner =
      "<vcpu placement=\"static\">".toList ++ inner ++ "</vcpu>".toList :=
    Xml.element_eq (by decide +kernel) (by decide +kernel)
  have iothreads : Xml.element "iothreads".toList [] "1".toList = "<iothreads>1</iothreads>".toList := by decide +kernel
  have cpu : Xml.emptyElement "cpu".toList [plainAttribute "mode".toList "host-passthrough".toList] =
      "<cpu mode=\"host-passthrough\"/>".toList := by decide +kernel
  have poweroff : Xml.element "on_poweroff".toList [] "destroy".toList =
      "<on_poweroff>destroy</on_poweroff>".toList := by decide +kernel
  have reboot : Xml.element "on_reboot".toList [] "restart".toList =
      "<on_reboot>restart</on_reboot>".toList := by decide +kernel
  have crash : Xml.element "on_crash".toList [] "restart".toList =
      "<on_crash>restart</on_crash>".toList := by decide +kernel
  simp only [-String.reduceToList, DomainData.headText, name, uuid, memory, current, vcpu, iothreads, cpu, poweroff,
    reboot, crash, List.append_assoc]

/-- The text of the builder is the document. -/
theorem document_eq : p.document lowered = "<domain type=\"kvm\">".toList ++ "<name>".toList ++ escape p.name.toList ++
    "</name>".toList ++ "<uuid>".toList ++ p.domainUuid.chars ++ "</uuid>".toList ++
    domainTail p.payload p.memoryMb p.machineType.toList p.firmware.toList
      (p.disks.zipIdx.flatMap fun d => d.1.text d.2) (p.nics.flatMap (·.text lowered)) := by
  have domain (inner : Text) : Xml.element "domain".toList [plainAttribute "type".toList "kvm".toList] inner =
      "<domain type=\"kvm\">".toList ++ inner ++ "</domain>".toList :=
    Xml.element_eq (by decide +kernel) (by decide +kernel)
  have devices (inner : Text) : Xml.element "devices".toList [] inner =
      "<devices>".toList ++ inner ++ "</devices>".toList :=
    Xml.element_eq (by decide +kernel) (by decide +kernel)
  have emulator : DomainData.emulatorText = "<emulator>/usr/bin/qemu-system-x86_64</emulator>".toList := by
    decide +kernel
  unfold domainTail DomainData.document
  rewrite [anyIothread_payload, vcpuCount_payload, ballooning_payload, osXml_payload, headText_eq, fixedText_eq,
    emulator]
  simp only [-String.reduceToList, domain, devices]
  simp only [-String.reduceToList, List.append_assoc]

/-- `build_domain_xml` of the payload is the document. -/
theorem buildDomainXml_ok (h : ∀ n ∈ p.nics, n.Resolves) :
    buildDomainXmlWith lowered p.payload = .ok (p.document lowered) := by
  have name : requireStr p.payload "name" = .ok p.name.toList := by
    simp [requireStr, DomainData.payload, Dict.get?, List.lookup_cons]
  have uuid : requireStr p.payload "domain_uuid" = .ok p.domainUuid.chars := by
    simp [requireStr, DomainData.payload, Dict.get?, Uuid.str]
  have memory : requireInt p.payload "memory_mb" = .ok (p.memoryMb : Int) := by
    simp [requireInt, DomainData.payload, Dict.get?, List.lookup_cons]
  have machine : optionalStr p.payload "machine_type" "q35".toList = .ok p.machineType.toList := by
    simp [optionalStr, DomainData.payload, Dict.get?, List.lookup_cons]
  have firmware : optionalStr p.payload "firmware" "BIOS".toList = .ok p.firmware.toList := by
    simp [optionalStr, DomainData.payload, Dict.get?, List.lookup_cons]
  rw [buildDomainXmlWith, name, uuid, memory, machine, firmware, entries_disks, entries_domainNics, disksXml_entries,
    nicsXml_ok h, document_eq]
  rfl

/-- One bridge name that does not fit fails the document. -/
theorem buildDomainXml_error (h : ¬ ∀ n ∈ p.nics, n.Resolves) :
    ∃ e, buildDomainXmlWith lowered p.payload = .error e := by
  have name : requireStr p.payload "name" = .ok p.name.toList := by
    simp [requireStr, DomainData.payload, Dict.get?, List.lookup_cons]
  have uuid : requireStr p.payload "domain_uuid" = .ok p.domainUuid.chars := by
    simp [requireStr, DomainData.payload, Dict.get?, Uuid.str]
  have memory : requireInt p.payload "memory_mb" = .ok (p.memoryMb : Int) := by
    simp [requireInt, DomainData.payload, Dict.get?, List.lookup_cons]
  have machine : optionalStr p.payload "machine_type" "q35".toList = .ok p.machineType.toList := by
    simp [optionalStr, DomainData.payload, Dict.get?, List.lookup_cons]
  have firmware : optionalStr p.payload "firmware" "BIOS".toList = .ok p.firmware.toList := by
    simp [optionalStr, DomainData.payload, Dict.get?, List.lookup_cons]
  obtain ⟨e, failed⟩ := @nicsXml_error lowered _ h
  rw [buildDomainXmlWith, name, uuid, memory, machine, firmware, entries_disks, entries_domainNics, disksXml_entries,
    failed]
  exact ⟨e, rfl⟩

/-! ### Reading it -/

/-- An element that holds character data. -/
def textNode (name : Text) (attributes : List (Text × Text)) (data : Text) : Xml.Node :=
  .element name attributes (if data = [] then [] else [.text data])

namespace DomainData

/-- What a reader makes of `<os>`. -/
def osNode (p : DomainData) : Xml.Node :=
  .element "os".toList (p.osAttributes.map Xml.Attribute.pair)
    (textNode "type".toList [("arch".toList, "x86_64".toList), ("machine".toList, p.machineType.toList)] "hvm".toList ::
      p.boot.map fun d => .element "boot".toList [("dev".toList, bootDevXmlName (.str d))] [])

/-- What a reader makes of everything before the devices. -/
def headNodes (p : DomainData) : List Xml.Node :=
  [textNode "name".toList [] p.name.toList] ++ [textNode "uuid".toList [] p.domainUuid.chars] ++
    [textNode "memory".toList [("unit".toList, "MiB".toList)] (decimal p.memoryMb)] ++
    [textNode "currentMemory".toList [("unit".toList, "MiB".toList)] (decimal p.memoryMb)] ++
    [textNode "vcpu".toList [("placement".toList, "static".toList)] (decimal p.cpuCount)] ++
    (if p.disks.any (·.iothread) then [textNode "iothreads".toList [] "1".toList] else []) ++ [p.osNode] ++
    [.element "cpu".toList [("mode".toList, "host-passthrough".toList)] []] ++
    [textNode "on_poweroff".toList [] "destroy".toList] ++ [textNode "on_reboot".toList [] "restart".toList] ++
    [textNode "on_crash".toList [] "restart".toList]

end DomainData

/-- An element without attributes around data. -/
theorem writes_bare {name inner data : Text} (named : Xml.isName name = true) (h : Xml.SpellsData inner data) :
    Xml.Writes (Xml.element name [] inner) [textNode name [] data] :=
  Xml.writes_textElement named (List.forall_mem_nil _) List.nodup_nil h

/-- An element with one attribute around data. -/
theorem writes_attributed {name attr value inner data : Text} (named : Xml.isName name = true)
    (attrNamed : Xml.isName attr = true) (spells : Xml.Spells value value) (h : Xml.SpellsData inner data) :
    Xml.Writes (Xml.element name [plainAttribute attr value] inner) [textNode name [(attr, value)] data] :=
  Xml.writes_textElement named (List.forall_mem_singleton.mpr (legal_plainAttribute attrNamed spells))
    (List.nodup_singleton _) h

/-- Plain data spells itself. -/
theorem spellsData_literal {data : Text} (h : data.all Xml.isPlainData = true) : Xml.SpellsData data data :=
  Xml.spellsData_plain h

/-- A boot device is one of three fixed names. -/
theorem spells_bootDevXmlName (d : Json) : Xml.Spells (bootDevXmlName d) (bootDevXmlName d) := by
  unfold bootDevXmlName
  split <;> exact spells_literal (by decide)

/-- `<os>` is read back, whatever the machine type. -/
theorem writes_osText (machine : Printable p.machineType.toList) : Xml.Writes p.osText [p.osNode] := by
  have boot : Xml.Writes (p.boot.flatMap DomainData.bootText)
      (p.boot.map fun d => .element "boot".toList [("dev".toList, bootDevXmlName (.str d))] []) := by
    refine Xml.Writes.flatMap fun d _ => ?_
    exact Xml.writes_emptyElement (by decide) (List.forall_mem_singleton.mpr
      (legal_plainAttribute (by decide) (spells_bootDevXmlName _))) (List.nodup_singleton _)
  have typed : ∀ a ∈ p.typeAttributes, a.Legal := by
    intro a ha
    simp only [DomainData.typeAttributes, List.mem_cons, List.not_mem_nil, or_false] at ha
    rcases ha with rfl | rfl
    · exact legal_plainAttribute (by decide) (spells_literal (by decide))
    · exact legal_escapedAttribute (by decide) machine
  have distinct : (p.typeAttributes.map (·.name)).Nodup := by
    simp [DomainData.typeAttributes, plainAttribute, escapedAttribute]
  have type := Xml.writes_textElement (show Xml.isName "type".toList = true by decide) typed distinct
    (spellsData_literal (show "hvm".toList.all Xml.isPlainData = true by decide))
  have firmware : (∀ a ∈ p.osAttributes, a.Legal) ∧ (p.osAttributes.map (·.name)).Nodup := by
    unfold DomainData.osAttributes
    split
    · exact ⟨List.forall_mem_nil _, List.nodup_nil⟩
    · exact ⟨List.forall_mem_singleton.mpr (legal_plainAttribute (by decide) (spells_literal (by decide))),
        List.nodup_singleton _⟩
  exact Xml.writes_element (by decide) firmware.1 firmware.2 (type.append boot)

/-- Everything before the devices is read back, whatever the name. -/
theorem writes_headText (name : Printable p.name.toList) (machine : Printable p.machineType.toList) :
    Xml.Writes p.headText p.headNodes := by
  have mebibytes : Xml.Spells "MiB".toList "MiB".toList := spells_literal (by decide)
  have iothreads : Xml.Writes (if p.disks.any (·.iothread) then Xml.element "iothreads".toList [] "1".toList else [])
      (if p.disks.any (·.iothread) then [textNode "iothreads".toList [] "1".toList] else []) := by
    split
    · exact writes_bare (by decide) (spellsData_literal (by decide))
    · exact .nil
  have cpu : ∀ a ∈ [plainAttribute "mode".toList "host-passthrough".toList], a.Legal :=
    List.forall_mem_singleton.mpr (legal_plainAttribute (by decide) (spells_literal (by decide)))
  unfold DomainData.headText DomainData.headNodes
  refine .append (.append (.append (.append (.append (.append (.append (.append (.append (.append ?_ ?_) ?_) ?_) ?_)
    iothreads) (writes_osText machine)) ?_) ?_) ?_) ?_
  · exact writes_bare (by decide) (spellsData_escape name.isChar)
  · exact writes_bare (by decide) (spellsData_uuid _)
  · exact writes_attributed (by decide) (by decide) mebibytes (spellsData_decimal _)
  · exact writes_attributed (by decide) (by decide) mebibytes (spellsData_decimal _)
  · exact writes_attributed (by decide) (by decide) (spells_literal (by decide)) (spellsData_decimal _)
  · exact Xml.writes_emptyElement (by decide) cpu (List.nodup_singleton _)
  · exact writes_bare (by decide) (spellsData_literal (by decide))
  · exact writes_bare (by decide) (spellsData_literal (by decide))
  · exact writes_bare (by decide) (spellsData_literal (by decide))

def emulatorNode : Xml.Node := textNode "emulator".toList [] "/usr/bin/qemu-system-x86_64".toList

theorem writes_emulatorText : Xml.Writes DomainData.emulatorText [emulatorNode] :=
  writes_bare (by decide) (spellsData_literal (by decide))

/-- The devices of every domain are read as such. -/
theorem writes_fixedText : ∃ nodes, Xml.Writes p.fixedText nodes ∧ nodes.map Device.ofNode =
    [.other "console".toList, .other "graphics".toList, .other "memballoon".toList] := by
  have target := Xml.writes_emptyElement (show Xml.isName "target".toList = true by decide)
    (legal_fixed (show [plainAttribute "type".toList "serial".toList, plainAttribute "port".toList "0".toList].all
      isFixed = true by decide +kernel)) (by simp [plainAttribute])
  have console := Xml.writes_element (show Xml.isName "console".toList = true by decide)
    (legal_fixed (show [plainAttribute "type".toList "pty".toList].all isFixed = true by decide +kernel))
    (List.nodup_singleton _) target
  have graphics := Xml.writes_emptyElement (show Xml.isName "graphics".toList = true by decide)
    (legal_fixed (show [plainAttribute "type".toList "vnc".toList, plainAttribute "port".toList "-1".toList,
      plainAttribute "autoport".toList "yes".toList, plainAttribute "listen".toList "127.0.0.1".toList].all
      isFixed = true by decide +kernel)) (by simp [plainAttribute])
  have model : ∀ a ∈ [plainAttribute "model".toList (if p.ballooningEnabled then "virtio".toList else "none".toList)],
      a.Legal := by
    split <;> exact legal_fixed (by decide +kernel)
  have memballoon := Xml.writes_emptyElement (show Xml.isName "memballoon".toList = true by decide) model
    (List.nodup_singleton _)
  have other (name : Text) (attributes : List (Text × Text)) (kids : List Xml.Node)
      (hd : name ≠ "disk".toList) (hi : name ≠ "interface".toList) :
      Device.ofNode (.element name attributes kids) = .other name := by
    rw [Device.ofNode, Xml.Node.name_element, if_neg hd, if_neg hi]
  refine ⟨_, (console.append graphics).append memballoon, ?_⟩
  simp only [List.cons_append, List.nil_append, List.map_cons, List.map_nil]
  rw [other _ _ _ (by decide) (by decide), other _ _ _ (by decide) (by decide), other _ _ _ (by decide) (by decide)]

/-- Texts that are read as devices, one after the other. -/
theorem writes_parts {ι : Type} {text : ι → Text} {device : ι → Device} {good : ι → Prop} {xs : List ι}
    (exact' : ∀ x ∈ xs, ReadsAs (text x) (device x) (good x)) (all : ∀ x ∈ xs, good x) :
    ∃ nodes, Xml.Writes (xs.flatMap text) nodes ∧ nodes.map Device.ofNode = xs.map device := by
  induction xs with
  | nil => exact ⟨[], .nil, rfl⟩
  | cons x rest ih =>
    obtain ⟨hx, exact'⟩ := List.forall_mem_cons.mp exact'
    obtain ⟨hg, all⟩ := List.forall_mem_cons.mp all
    obtain ⟨m, written, read⟩ := hx.writes hg
    obtain ⟨nodes, more, described⟩ := ih exact' all
    refine ⟨m :: nodes, written.append more, ?_⟩
    rw [List.map_cons, List.map_cons, read, described]

/-- In the devices of a domain. -/
def inDevices (p : DomainData) (nodes : List Xml.Node) : Xml.State :=
  ⟨[⟨"devices".toList, [], nodes⟩, ⟨"domain".toList, [("type".toList, "kvm".toList)], p.headNodes⟩], none, .data []⟩

/-- No element before the devices is taken for them. -/
theorem headNodes_name : ∀ k ∈ p.headNodes, k.name ≠ "devices".toList := by
  have text (name : Text) (attributes : List (Text × Text)) (data : Text) :
      (textNode name attributes data).name = name := Xml.Node.name_element
  have os : p.osNode.name = "os".toList := Xml.Node.name_element
  have iothreads : ∀ k ∈ if p.disks.any (·.iothread) then [textNode "iothreads".toList [] "1".toList] else [],
      k.name ≠ "devices".toList := by
    split
    · exact List.forall_mem_singleton.mpr (by rw [text]; decide)
    · exact List.forall_mem_nil _
  unfold DomainData.headNodes
  generalize (if p.disks.any (·.iothread) then _ else _ : List Xml.Node) = optional at iothreads ⊢
  simp only [List.forall_mem_append, List.forall_mem_singleton, text, os, Xml.Node.name_element]
  refine ⟨⟨⟨⟨⟨⟨⟨⟨⟨⟨?_, ?_⟩, ?_⟩, ?_⟩, ?_⟩, iothreads⟩, ?_⟩, ?_⟩, ?_⟩, ?_⟩, ?_⟩ <;> decide

/-- The document's next device. -/
theorem ofNode_of_leads {nodes : List Xml.Node} {m n : Xml.Node} {device : Device} {more : List Device}
    (leads : (inDevices p (nodes ++ [m])).Leads n)
    (described : (n.find "devices".toList).map (·.children.map Device.ofNode) =
      some (nodes.map Device.ofNode ++ device :: more)) : Device.ofNode m = device := by
  rw [inDevices, Xml.State.Leads, if_neg (List.cons_ne_nil _ _)] at leads
  obtain ⟨-, attributes, children, found⟩ := Xml.Becomes.find leads headNodes_name
  rw [found] at described
  simp only [Option.map_some, Xml.Node.children, List.map_append, List.map_cons, List.map_nil, List.append_assoc,
    Option.some.injEq, List.append_cancel_left_eq, List.cons_append, List.cons.injEq] at described
  exact described.1

/-- Where a document's devices are the ones that the texts stand for, the texts are good. -/
theorem good_of_described {ι : Type} {text : ι → Text} {device : ι → Device} {good : ι → Prop} {xs : List ι}
    (exact' : ∀ x ∈ xs, ReadsAs (text x) (device x) (good x)) {before after : Text} {nodes : List Xml.Node}
    {n : Xml.Node} {more : List Device} (reads : Xml.Reads before {} (inDevices p nodes))
    (parsed : Xml.parse (before ++ (xs.flatMap text ++ after)) = some n)
    (described : (n.find "devices".toList).map (·.children.map Device.ofNode) =
      some (nodes.map Device.ofNode ++ (xs.map device ++ more))) : ∀ x ∈ xs, good x := by
  induction xs generalizing before nodes with
  | nil => exact List.forall_mem_nil _
  | cons x rest ih =>
    obtain ⟨hx, exact'⟩ := List.forall_mem_cons.mp exact'
    rw [List.flatMap_cons, List.append_assoc] at parsed
    have here : good x := by
      by_contra bad
      obtain ⟨m, other, leads⟩ := hx.breaks bad _ _ _ _ _ reads parsed
      exact other (ofNode_of_leads leads described)
    obtain ⟨m, written, read⟩ := hx.writes here
    have onward : Xml.Reads (before ++ text x) {} (inDevices p (nodes ++ [m])) := reads.append (written _ _ _)
    rw [← List.append_assoc] at parsed
    refine List.forall_mem_cons.mpr ⟨here, ih exact' onward parsed ?_⟩
    rw [described]
    simp [read]

theorem data_textNode {name data : Text} {attributes : List (Text × Text)} :
    (textNode name attributes data).data = data := by
  unfold textNode
  split
  · next none => rw [none, Xml.Node.data, Xml.Node.children]
  · rw [Xml.Node.data, Xml.Node.children]

section

variable {attributes : List (Text × Text)} {rest : List Xml.Node}

/-- The name is found in the document. -/
theorem find_name : (Xml.Node.element "domain".toList attributes (p.headNodes ++ rest)).find "name".toList =
    some (textNode "name".toList [] p.name.toList) := by
  simp only [DomainData.headNodes, textNode, List.cons_append, List.nil_append, Xml.Node.find_cons, if_true]

/-- The `<os>` element is found in the document. -/
theorem find_os : (Xml.Node.element "domain".toList attributes (p.headNodes ++ rest)).find "os".toList =
    some p.osNode := by
  unfold DomainData.headNodes
  split <;>
    simp only [textNode, DomainData.osNode, List.cons_append, List.nil_append, Xml.Node.find_cons,
      String.toList_inj, String.reduceEq, if_true, if_false]

/-- The devices are found in the document. -/
theorem find_devices {kids : List Xml.Node} : (Xml.Node.element "domain".toList attributes
    (p.headNodes ++ [.element "devices".toList [] kids])).find "devices".toList =
      some (.element "devices".toList [] kids) := by
  have none : p.headNodes.find? (·.name = "devices".toList) = none :=
    List.find?_eq_none.mpr fun k hk same => headNodes_name k hk (of_decide_eq_true same)
  show (p.headNodes ++ [Xml.Node.element "devices".toList [] kids]).find? (·.name = "devices".toList) = _
  rw [List.find?_append, none, Option.none_or, List.find?_cons, Xml.Node.name_element]
  simp

end

/-- The machine type is read back from `<os>`. -/
theorem machine_osNode : p.osNode.getIn "type".toList "machine".toList = some p.machineType.toList := by
  simp only [DomainData.osNode, textNode, Xml.Node.getIn_cons, Xml.Node.get_cons, String.toList_inj, String.reduceEq,
    if_true, if_false]

/-- The boot order is read back from `<os>`. -/
theorem boot_osNode : (p.osNode.children.filter (·.name = "boot".toList)).map (·.get "dev".toList) =
    p.boot.map fun d => some (bootDevXmlName (.str d)) := by
  have type (data : Text) (attributes : List (Text × Text)) :
      decide ((textNode "type".toList attributes data).name = "boot".toList) = false := by
    rw [textNode, Xml.Node.name_element]
    decide
  have boots (d : String) : (Xml.Node.element "boot".toList [("dev".toList, bootDevXmlName (.str d))] []).get
      "dev".toList = some (bootDevXmlName (.str d)) := by
    rw [Xml.Node.get_cons, if_pos rfl]
  have kept (ds : List String) : (ds.map fun d => Xml.Node.element "boot".toList
      [("dev".toList, bootDevXmlName (.str d))] []).filter (·.name = "boot".toList) =
        ds.map fun d => Xml.Node.element "boot".toList [("dev".toList, bootDevXmlName (.str d))] [] := by
    refine List.filter_eq_self.mpr fun k hk => ?_
    obtain ⟨d, -, rfl⟩ := List.mem_map.mp hk
    rw [Xml.Node.name_element, decide_eq_true_eq]
  rw [DomainData.osNode, Xml.Node.children, List.filter_cons, type, if_neg Bool.false_ne_true, kept, List.map_map]
  exact List.map_congr_left fun d _ => boots d

/-- Every disk of a legal payload is read back where it is harmless. -/
theorem printable_disks (legal : p.Legal) : ∀ x ∈ p.disks.zipIdx,
    ReadsAs (x.1.text x.2) (x.1.described x.2) (x.1.Harmless x.2) := by
  intro x hx
  have mem : x.1 ∈ p.disks := List.mem_of_getElem? (List.mem_zipIdx_iff_getElem?.mp hx)
  obtain ⟨volumeId, device, format⟩ := legal.disks x.1 mem
  exact disk_readsAs volumeId device format

/-- Every NIC of a legal payload is read back where it is harmless. -/
theorem printable_nics (lowers : ∀ text, Printable text → Printable (lowered text)) (legal : p.Legal) :
    ∀ n ∈ p.nics, ReadsAs (n.text lowered) (n.described lowered)
      (∀ c ∈ lowered n.model.toList, Xml.isQuotable c = true) := by
  intro n hn
  obtain ⟨model, bridge, mac⟩ := legal.nics n hn
  exact nic_readsAs bridge mac (lowers _ model)

theorem legal_kvm : ∀ a ∈ [plainAttribute "type".toList "kvm".toList], a.Legal := legal_fixed (by decide +kernel)

/-- The document of a harmless payload says what the payload says. -/
theorem describes_of_harmless (lowers : ∀ text, Printable text → Printable (lowered text)) (legal : p.Legal)
    (harmless : p.Harmless lowered) :
    ∃ root, Xml.parse (p.document lowered) = some root ∧ Describes lowered p root := by
  obtain ⟨disks, writtenDisks, readDisks⟩ := writes_parts (printable_disks legal) fun x hx =>
    harmless.disks x.2 x.1 (List.mem_zipIdx_iff_getElem?.mp hx)
  obtain ⟨nics, writtenNics, readNics⟩ := writes_parts (printable_nics lowers legal) fun n hn =>
    (harmless.nics n hn).model
  obtain ⟨fixed, writtenFixed, readFixed⟩ := @writes_fixedText p
  have devices := Xml.writes_element (show Xml.isName "devices".toList = true by decide) (List.forall_mem_nil _)
    List.nodup_nil ((writes_emulatorText.append (writtenDisks.append writtenNics)).append writtenFixed)
  have inner := (writes_headText legal.name legal.machineType).append devices
  refine ⟨_, Xml.parse_element (by decide) legal_kvm (List.nodup_singleton _) inner, ?_, ?_, ?_, ?_⟩
  · rw [find_name, Option.map_some, data_textNode]
  · rw [find_os, Option.bind_some, machine_osNode]
  · rw [find_os, Option.map_some, boot_osNode]
  · have emulator : Device.ofNode emulatorNode = .other "emulator".toList := by
      rw [Device.ofNode, emulatorNode, textNode, Xml.Node.name_element, if_neg (by decide), if_neg (by decide)]
    rw [List.map_nil, find_devices, Option.map_some, Xml.Node.children, List.map_append, List.map_append,
      List.map_append, readDisks, readNics, readFixed, List.map_cons, List.map_nil, emulator]
    rfl

/-- The text up to the devices that the payload lists. -/
def openText (p : DomainData) : Text :=
  Xml.startTag "domain".toList [plainAttribute "type".toList "kvm".toList] ++ ['>'] ++ p.headText ++
    (Xml.startTag "devices".toList [] ++ ['>']) ++ DomainData.emulatorText

/-- Read up to the devices, the document leaves the reader inside them. -/
theorem reads_openText (legal : p.Legal) : Xml.Reads (openText p) {} (inDevices p [emulatorNode]) := by
  have domain := Xml.reads_startElement (show Xml.isName "domain".toList = true by decide) legal_kvm
    (List.nodup_singleton _) [] none (.inr rfl)
  have devices (frames : List Xml.Frame) (inside : frames ≠ []) := Xml.reads_startElement
    (show Xml.isName "devices".toList = true by decide) (List.forall_mem_nil _) List.nodup_nil frames none (.inl inside)
  have head := domain.append (writes_headText legal.name legal.machineType _ _ _)
  exact (head.append (devices _ (List.cons_ne_nil _ _))).append (writes_emulatorText _ _ _)

/-- A payload whose document says what it says is harmless. -/
theorem harmless_of_describes (lowers : ∀ text, Printable text → Printable (lowered text)) (legal : p.Legal)
    (resolves : ∀ n ∈ p.nics, n.Resolves) {root : Xml.Node} (parsed : Xml.parse (p.document lowered) = some root)
    (describes : Describes lowered p root) : p.Harmless lowered := by
  let disks := p.disks.zipIdx.flatMap fun d => d.1.text d.2
  let nics := p.nics.flatMap (·.text lowered)
  let after := p.fixedText ++ Xml.endTag "devices".toList ++ Xml.endTag "domain".toList
  have split : p.document lowered = openText p ++ (disks ++ (nics ++ after)) := by
    simp only [DomainData.document, openText, disks, nics, after, Xml.element, List.append_assoc, List.cons_append,
      List.nil_append]
  have emulator : [Device.other "emulator".toList] = [emulatorNode].map Device.ofNode := by
    rw [List.map_cons, List.map_nil, Device.ofNode, emulatorNode, textNode, Xml.Node.name_element, if_neg (by decide),
      if_neg (by decide)]
  have devices := describes.devices
  rw [← List.singleton_append, emulator, List.append_assoc] at devices
  rw [split] at parsed
  have goodDisks := good_of_described (printable_disks legal) (reads_openText legal) parsed devices
  obtain ⟨nodes, written, read⟩ := writes_parts (printable_disks legal) goodDisks
  rw [← read, ← List.append_assoc, ← List.map_append] at devices
  rw [← List.append_assoc] at parsed
  have onward := (reads_openText legal).append (written _ _ _)
  have goodNics := good_of_described (printable_nics lowers legal) onward parsed devices
  refine ⟨fun index d hd => goodDisks (d, index) (List.mem_zipIdx_iff_getElem?.mpr hd), fun n hn => ?_⟩
  exact ⟨goodNics n hn, resolves n hn⟩

/-- The document of a domain is well formed, has one element for each disk and each NIC and no other devices but the
fixed ones, and says what the payload says, if and only if nothing that is written as it is has to be escaped, no
letter is beyond XML's characters, and the dedicated bridges have names the host can use. -/
theorem describes_iff (lowered : Text → Text) (lowers : ∀ text, Printable text → Printable (lowered text))
    (p : DomainData) (legal : p.Legal) :
    (∃ xml root, buildDomainXmlWith lowered p.payload = .ok xml ∧ Xml.parse xml = some root ∧
      Describes lowered p root) ↔ p.Harmless lowered := by
  constructor
  · rintro ⟨xml, root, built, parsed, describes⟩
    have resolves : ∀ n ∈ p.nics, n.Resolves := by
      by_contra unresolved
      obtain ⟨e, failed⟩ := @buildDomainXml_error lowered p unresolved
      rw [failed] at built
      cases built
    rw [buildDomainXml_ok resolves] at built
    cases built
    exact harmless_of_describes lowers legal resolves parsed describes
  · intro harmless
    obtain ⟨root, parsed, describes⟩ := describes_of_harmless lowers legal harmless
    exact ⟨_, root, buildDomainXml_ok fun n hn => (harmless.nics n hn).bridge, parsed, describes⟩

theorem isPrintable_toLower {c : Char} (h : isPrintable c = true) : isPrintable c.toLower = true := by
  by_cases upper : c.toNat ≥ 65 ∧ c.toNat ≤ 90
  · have all : ∀ i : Fin 26, isPrintable (Char.ofNat (65 + i)).toLower = true := by decide
    have here := all ⟨c.toNat - 65, by omega⟩
    simp only [show 65 + (c.toNat - 65) = c.toNat by omega, Char.ofNat_toNat] at here
    exact here
  · have same : c.toLower = c := by
      refine dif_neg fun range => upper ?_
      simp only [ge_iff_le, UInt32.le_iff_toNat_le] at range
      exact range
    rw [same]
    exact h

/-- Small letters of printable characters are printable. -/
theorem printable_lower {text : Text} (h : Printable text) : Printable (lower text) := by
  intro c hc
  obtain ⟨d, hd, rfl⟩ := List.mem_map.mp hc
  exact isPrintable_toLower (h d hd)

/-- A VM with a disk and a NIC. -/
def webDomain : DomainData where
  domainUuid := ⟨5⟩
  name := "web"
  osType := "linux"
  firmware := "BIOS"
  machineType := "q35"
  cpuCount := 2
  cpuSockets := 1
  cpuCores := 2
  cpuThreads := 1
  cpuModel := "host-passthrough"
  memoryMb := 2048
  ballooningEnabled := true
  bootOrder := []
  disks := [⟨⟨6⟩, "/srv/pool/6.qcow2", "VIRTIO", "vda", true, false, true, false, 0, "qcow2", "DIRECTORY"⟩]
  nics := [⟨⟨7⟩, "52:54:00:12:34:56", "VIRTIO", "vmbr0", some 120, 0, none⟩]

theorem describes_webDomain : (∃ xml root, buildDomainXmlWith lower webDomain.payload = .ok xml ∧
    Xml.parse xml = some root ∧ Describes lower webDomain root) ↔ webDomain.Harmless lower :=
  have literal (text : Text) (h : text.all isPrintable = true) : Printable text := List.all_eq_true.mp h
  describes_iff lower (fun _ h => printable_lower h) webDomain
    { name := literal _ (by decide)
      machineType := literal _ (by decide)
      disks := List.forall_mem_singleton.mpr ⟨literal _ (by decide), literal _ (by decide), literal _ (by decide)⟩
      nics := List.forall_mem_singleton.mpr ⟨literal _ (by decide), literal _ (by decide), literal _ (by decide)⟩ }

/-- The same VM, whose NIC was attached with a model of seven characters that closes the attribute. -/
def brokenOut : DomainData :=
  { webDomain with nics := [⟨⟨7⟩, "52:54:00:12:34:56", "a\" b=\"c", "vmbr0", none, 0, none⟩] }

theorem brokenOut_misread : ¬ ∀ p : DomainData, p.Legal → ∃ xml root, buildDomainXml p.payload = .ok xml ∧
    Xml.parse xml = some root ∧ Describes lower p root := by
  intro always
  have literal (text : Text) (h : text.all isPrintable = true) : Printable text := List.all_eq_true.mp h
  have legal : brokenOut.Legal :=
    { name := literal _ (by decide)
      machineType := literal _ (by decide)
      disks := List.forall_mem_singleton.mpr ⟨literal _ (by decide), literal _ (by decide), literal _ (by decide)⟩
      nics := List.forall_mem_singleton.mpr ⟨literal _ (by decide), literal _ (by decide), literal _ (by decide)⟩ }
  have resolves : ∀ n ∈ brokenOut.nics, n.Resolves := List.forall_mem_singleton.mpr (by rintro ⟨vlan, none⟩; cases none)
  obtain ⟨xml, root, built, parsed, describes⟩ := always brokenOut legal
  rw [buildDomainXml, buildDomainXml_ok resolves] at built
  cases built
  have harmless := harmless_of_describes (fun _ h => printable_lower h) legal resolves parsed describes
  exact absurd ((harmless.nics _ (List.mem_singleton_self _)).model '"' (by decide)) (by decide)

end NodePilot.Agent
