import NodePilot.Laws.DefinedDomain
import NodePilot.Laws.Escaping

/-!
# The disk that is detached

libvirt finds the disk to detach by the `dev` of its `<target>`. A disk reaches its domain in the document of
CREATE_VM or by ATTACH_DISK, and where its row has no device name, one path takes the next letter and the other
`vdb`; DETACH_DISK takes the name as it is in the row. The document of CREATE_VM has the name as it stands, the
other two have it escaped.
-/

namespace NodePilot.Agent

open Lib

/-! ## The element of a disk -/

/-- The parts of a `<disk>` element. -/
structure DiskXml where
  type : Text
  format : Text
  /-- What stands in the driver after its type. -/
  discard : Text := []
  iothread : Text := []
  /-- The `<source>` element. -/
  source : Text
  /-- The target's `dev`, as it is written. -/
  device : Text
  bus : Text
  /-- What stands after the target. -/
  readonly : Text := []

/-- The element as it is written. -/
def DiskXml.text (x : DiskXml) : Text :=
  "<disk type=\"".toList ++ x.type ++ "\" device=\"disk\">".toList ++
    "<driver name=\"qemu\" type=\"".toList ++ x.format ++ "\"".toList ++ x.discard ++ x.iothread ++
    "/>".toList ++ x.source ++ "<target dev=\"".toList ++ x.device ++ "\" bus=\"".toList ++ x.bus ++
    "\"/>".toList ++ x.readonly ++ "</disk>".toList

/-- A disk of one element is found by another: the parts that identify it are equal. -/
structure Finds (attached detached : DiskXml) : Prop where
  type : attached.type = detached.type
  source : attached.source = detached.source
  bus : attached.bus = detached.bus
  device : ∃ dev, Xml.Quotes attached.device dev ∧ Xml.Quotes detached.device dev

/-- The volumes of the pool are block devices. -/
def blockBacked (p : PoolRow) : Bool := p.type ∈ [.lvm, .lvmThin, .zfs, .cephRbd]

/-- The kind of source of a disk. -/
def diskType (p : PoolRow) : Text := if blockBacked p then "block".toList else "file".toList

/-- The format that the driver reads. -/
def diskFormat (d : DiskRow) (p : PoolRow) : Text :=
  if d.format = "" then (if blockBacked p then "raw".toList else "qcow2".toList) else d.format.toList

/-- The file or device of the source. -/
def diskVolume (d : DiskRow) (p : PoolRow) : Text :=
  (if blockBacked p then "<source dev=\"".toList else "<source file=\"".toList) ++ escape d.volumeId.toList ++
    "\"/>".toList

/-- The element of a row, with its device. -/
def diskXml (d : DiskRow) (p : PoolRow) (device : Text) : DiskXml where
  type := diskType p
  format := diskFormat d p
  source := diskVolume d p
  device := device
  bus := busXmlName d.bus.value.toList

/-- The disk in the document of its domain, where it is the `index`-th. -/
def definedDisk (index : Nat) (d : DiskRow) (p : PoolRow) : DiskXml :=
  { diskXml d p (if d.device = "" then nextDeviceName (busDevicePrefix d.bus.value.toList) index else d.device.toList)
    with
    discard := if d.discard then " discard=\"unmap\"".toList else []
    iothread := if d.iothread then " iothread=\"1\"".toList else []
    readonly := if d.readonly then "<readonly/>".toList else [] }

/-- The disk of ATTACH_DISK. -/
def attachedDisk (d : DiskRow) (p : PoolRow) : DiskXml :=
  diskXml d p (escape (if d.device = "" then "vdb" else d.device).toList)

/-- The disk of DETACH_DISK. -/
def detachedDisk (d : DiskRow) (p : PoolRow) : DiskXml := diskXml d p (escape d.device.toList)

/-- The elements of the disks of a domain, one after the other. -/
def definedDisks (disks : List (DiskRow × PoolRow)) : Text :=
  (disks.mapIdx fun index d => (definedDisk index d.1 d.2).text).flatten

section

variable {d : DiskRow} {p : PoolRow} {vm : VmRow} {entry : Dict}

/-- The agent takes the pool for what its row says. -/
theorem isBlockBacked_eq (type : entry.get? "storage_type" = some (.str p.type.value)) :
    isBlockBacked entry = blockBacked p := by
  rw [isBlockBacked, type, blockBacked]
  cases p.type <;> decide

/-- The source comes from the pool's kind and the volume. -/
theorem diskSource_eq (type : entry.get? "storage_type" = some (.str p.type.value))
    (volume : entry.get? "volume_id" = some (.str d.volumeId)) (format : entry.get? "format" = some (.str d.format)) :
    diskSource entry = .ok (diskType p, diskVolume d p, diskFormat d p) := by
  have volumeId : optionalStr entry "volume_id" [] = .ok d.volumeId.toList := by rw [optionalStr, volume]
  have formatOr (default : Text) :
      strOr entry "format" default = if d.format = "" then default else d.format.toList := by simp only [strOr, format]
  rw [diskSource, volumeId, isBlockBacked_eq type, diskType, diskVolume, diskFormat]
  cases blockBacked p with
  | true =>
    simp only [if_true]
    show Except.ok (_, _, strOr entry "format" _) = _
    rw [formatOr]
  | false =>
    simp only [Bool.false_eq_true, if_false]
    show Except.ok (_, _, strOr entry "format" _) = _
    rw [formatOr]

theorem diskEntry_bus : (diskEntry d p).get? "bus" = some (.str d.bus.value) := by
  simp [diskEntry, domainDisk, Dict.get?, List.lookup_cons]

theorem diskEntry_device : (diskEntry d p).get? "device" = some (.str d.device) := by
  simp [diskEntry, domainDisk, Dict.get?, List.lookup_cons]

theorem diskEntry_volumeId : (diskEntry d p).get? "volume_id" = some (.str d.volumeId) := by
  simp [diskEntry, domainDisk, Dict.get?, List.lookup_cons]

theorem diskEntry_format : (diskEntry d p).get? "format" = some (.str d.format) := by
  simp [diskEntry, domainDisk, Dict.get?, List.lookup_cons]

theorem diskEntry_storageType : (diskEntry d p).get? "storage_type" = some (.str p.type.value) := by
  simp [diskEntry, domainDisk, Dict.get?, List.lookup_cons]

theorem diskEntry_flags : flag (diskEntry d p) "discard" = d.discard ∧ flag (diskEntry d p) "iothread" = d.iothread ∧
    flag (diskEntry d p) "readonly" = d.readonly := by
  refine ⟨?_, flag_iothread, ?_⟩ <;>
    simp [flag, diskEntry, domainDisk, Dict.get?, List.lookup_cons, Json.truthy]

/-- `domain_disk_xml` of a row's entry. -/
theorem domainDiskXml_diskEntry (index : Nat) :
    domainDiskXml index (diskEntry d p) = .ok (definedDisk index d p).text := by
  have bus : optionalStr (diskEntry d p) "bus" "VIRTIO".toList = .ok d.bus.value.toList := by
    simp only [optionalStr, diskEntry_bus]
  have device (default : Text) :
      strOr (diskEntry d p) "device" default = if d.device = "" then default else d.device.toList := by
    simp only [strOr, diskEntry_device]
  obtain ⟨discard, iothread, readonly⟩ := @diskEntry_flags d p
  have source := diskSource_eq (@diskEntry_storageType d p) diskEntry_volumeId diskEntry_format
  rw [domainDiskXml, bus]
  show (diskSource (diskEntry d p) >>= _) = _
  rw [source]
  refine congrArg Except.ok ?_
  rw [device, discard, iothread, readonly]
  unfold DiskXml.text definedDisk diskXml
  rfl

/-- Every disk has its element, whatever is in its row. The induction is on the rows, with the position of the
first of them generalized. -/
theorem disksXml_diskEntries (start : Nat) (disks : List (DiskRow × PoolRow)) :
    disksXml start (disks.map fun d => diskEntry d.1 d.2) =
      .ok (disks.mapIdx fun index d => (definedDisk (start + index) d.1 d.2).text).flatten := by
  induction disks generalizing start with
  | nil => rfl
  | cons d rest ih =>
    rw [List.map_cons, disksXml, domainDiskXml_diskEntry, ih, List.mapIdx_cons, List.flatten_cons]
    simp only [Nat.add_zero, Nat.add_comm 1, Nat.add_assoc]
    rfl

/-- The disks of CREATE_VM, counted from the first. -/
theorem disksXml_diskEntries_zero (disks : List (DiskRow × PoolRow)) :
    disksXml 0 (disks.map fun d => diskEntry d.1 d.2) = .ok (definedDisks disks) := by
  rw [disksXml_diskEntries, definedDisks]
  simp only [Nat.zero_add]

/-- The document of CREATE_VM has the elements of the disks before those of the NICs. -/
theorem libvirtCalls_createVm (workdir : Text) (disks : List (DiskRow × PoolRow))
    (nics : List (NicRow × NetworkRow)) :
    libvirtCalls workdir (createVmRequest vm disks nics) =
      (nicsXml (nics.map fun n => nicEntry n.1 n.2)).map fun interfaces =>
        [.defineDomain (documentStart vm disks ++ definedDisks disks ++ interfaces ++ documentEnd vm)] := by
  show (buildDomainXml (createVmRequest vm disks nics).payload >>= fun xml => pure [LibvirtCall.defineDomain xml]) = _
  rw [buildDomainXml_createVm, disksXml_diskEntries_zero]
  cases nicsXml (nics.map fun n => nicEntry n.1 n.2) <;> rfl

/-- The payload that ATTACH_DISK and DETACH_DISK share, but for the device. -/
theorem buildDiskXml_eq {name : String} (device : entry.get? "device" = some (.str name))
    (bus : entry.get? "bus" = some (.str d.bus.value)) (type : entry.get? "storage_type" = some (.str p.type.value))
    (volume : entry.get? "volume_id" = some (.str d.volumeId)) (format : entry.get? "format" = some (.str d.format)) :
    buildDiskXml entry = .ok (diskXml d p (escape name.toList)).text := by
  have device' : requireStr entry "device" = .ok name.toList := by rw [requireStr, device]
  have bus' : optionalStr entry "bus" "VIRTIO".toList = .ok d.bus.value.toList := by rw [optionalStr, bus]
  have volume' : requireStr entry "volume_id" = .ok d.volumeId.toList := by rw [requireStr, volume]
  have source := diskSource_eq type volume format
  have split : "\"/>".toList = "\"".toList ++ "/>".toList := by decide
  rw [buildDiskXml, device', bus', volume']
  show (diskSource entry >>= _) = _
  rw [source]
  refine congrArg Except.ok ?_
  unfold DiskXml.text diskXml
  dsimp only
  rw [split]
  simp only [List.append_nil, List.append_assoc]

/-- What ATTACH_DISK hands to libvirt. -/
theorem buildDiskXml_attach : buildDiskXml (attachDiskRequest vm d p).payload = .ok (attachedDisk d p).text :=
  buildDiskXml_eq (by simp [attachDiskRequest, vmRequest, Dict.get?, List.lookup_cons])
    (by simp [attachDiskRequest, vmRequest, Dict.get?, List.lookup_cons])
    (by simp [attachDiskRequest, vmRequest, Dict.get?, List.lookup_cons])
    (by simp [attachDiskRequest, vmRequest, Dict.get?, List.lookup_cons])
    (by simp [attachDiskRequest, vmRequest, Dict.get?, List.lookup_cons])

/-- What DETACH_DISK hands to libvirt. -/
theorem buildDiskXml_detach : buildDiskXml (detachDiskRequest vm d p).payload = .ok (detachedDisk d p).text :=
  buildDiskXml_eq (by simp [detachDiskRequest, vmRequest, Dict.get?, List.lookup_cons])
    (by simp [detachDiskRequest, vmRequest, Dict.get?, List.lookup_cons])
    (by simp [detachDiskRequest, vmRequest, Dict.get?, List.lookup_cons])
    (by simp [detachDiskRequest, vmRequest, Dict.get?, List.lookup_cons])
    (by simp [detachDiskRequest, vmRequest, Dict.get?, List.lookup_cons])

end

/-! ## Which disk is found -/

variable {d : DiskRow} {p p' : PoolRow}

/-- A text and its escaped form mean the same where nothing in it had to be escaped. -/
theorem quotes_escape_iff (text : Text) :
    (∃ v, Xml.Quotes text v ∧ Xml.Quotes (escape text) v) ↔
      ∀ c ∈ text, Xml.isChar c = true ∧ Xml.isQuotable c = true := by
  constructor
  · rintro ⟨v, plain, escaped⟩
    have legal := plain.isChar
    cases (spells_escape legal).quotes.unique escaped
    exact fun c hc => ⟨legal c hc, plain.quotable (by simp) c hc⟩
  · intro quotable
    exact ⟨text.map Xml.blank, (Xml.spells_quotable quotable).quotes,
      (spells_escape fun c hc => (quotable c hc).1).quotes⟩

/-- An escaped text means one value wherever XML can hold it. -/
theorem quotes_both_iff (text : Text) :
    (∃ v, Xml.Quotes (escape text) v ∧ Xml.Quotes (escape text) v) ↔ ∀ c ∈ text, Xml.isChar c = true := by
  constructor
  · rintro ⟨v, escaped, -⟩
    exact isChar_of_escape escaped.isChar
  · intro legal
    exact ⟨_, (spells_escape legal).quotes, (spells_escape legal).quotes⟩

/-- No device has an empty name. -/
theorem not_quotes_nil {text : Text} (nonempty : text ≠ []) (quotable : ∀ c ∈ text, Xml.isQuotable c = true) :
    ¬ ∃ v, Xml.Quotes text v ∧ Xml.Quotes [] v := by
  rintro ⟨v, named, empty⟩
  have none : v = [] := empty.unique Xml.Spells.nil.quotes
  have read := (Xml.spells_quotable fun c hc => ⟨named.isChar c hc, quotable c hc⟩).quotes.unique named
  rw [none, List.map_eq_nil_iff] at read
  exact nonempty read

/-- The sources agree where both pools are of one kind. -/
theorem diskSources_iff :
    diskType p = diskType p' ∧ diskVolume d p = diskVolume d p' ↔ blockBacked p = blockBacked p' := by
  constructor
  · rintro ⟨type, -⟩
    unfold diskType at type
    cases h : blockBacked p <;> cases h' : blockBacked p' <;> rw [h, h'] at type <;> first | rfl | (revert type; decide)
  · intro same
    unfold diskType diskVolume
    rw [same]
    exact ⟨rfl, rfl⟩

/-- The letter of a device is `a` or a later character. -/
theorem letter_ne {index : Nat} {x : Char} (before : x.toNat < 'a'.toNat) (nonzero : x.toNat ≠ 0) :
    Char.ofNat ('a'.toNat + index) ≠ x := by
  rintro rfl
  by_cases valid : ('a'.toNat + index).isValidChar
  · have number : (Char.ofNat ('a'.toNat + index)).toNat = 'a'.toNat + index := by
      rw [Char.ofNat, dif_pos valid]
      rfl
    omega
  · rw [Char.ofNat, dif_neg valid] at nonzero
    exact nonzero rfl

theorem isQuotable_busDevicePrefix {bus : Text} : ∀ c ∈ busDevicePrefix bus, Xml.isQuotable c = true := by
  unfold busDevicePrefix
  split_ifs <;> exact List.all_eq_true.mp (by decide)

/-- The letters of device names need no escaping. -/
theorem isQuotable_nextDeviceName {bus : Text} {index : Nat} :
    ∀ c ∈ nextDeviceName (busDevicePrefix bus) index, Xml.isQuotable c = true := by
  have letter : Xml.isQuotable (Char.ofNat ('a'.toNat + index)) = true := by
    have ne (x : Char) (hx : x.toNat < 'a'.toNat ∧ x.toNat ≠ 0) := @letter_ne index x hx.1 hx.2
    generalize Char.ofNat ('a'.toNat + index) = c at ne
    simp [Xml.isQuotable, ne '"' (by decide), ne '<' (by decide), ne '&' (by decide)]
  rw [nextDeviceName, List.forall_mem_append]
  exact ⟨isQuotable_busDevicePrefix, List.forall_mem_singleton.mpr letter⟩

/-- DETACH_DISK names the device of the row. -/
theorem detachedDisk_device : (detachedDisk d p).device = escape d.device.toList := rfl

/-- So does ATTACH_DISK where there is one. -/
theorem attachedDisk_device (named : d.device ≠ "") : (attachedDisk d p).device = escape d.device.toList := by
  rw [attachedDisk, if_neg named]
  rfl

/-- And CREATE_VM. -/
theorem definedDisk_device {index : Nat} (named : d.device ≠ "") :
    (definedDisk index d p).device = d.device.toList := if_neg named

/-- DETACH_DISK of a row without a device names none. -/
theorem detachedDisk_unnamed (unnamed : d.device = "") : (detachedDisk d p).device = [] := by
  have none : d.device.toList = [] := by simp [unnamed]
  rw [detachedDisk_device, none]
  rfl

/-- DETACH_DISK finds a disk that came with its domain. -/
theorem finds_definedDisk_iff {index : Nat} : Finds (definedDisk index d p) (detachedDisk d p') ↔
    d.device ≠ "" ∧ (∀ c ∈ d.device.toList, Xml.isChar c = true ∧ Xml.isQuotable c = true) ∧
      blockBacked p = blockBacked p' := by
  by_cases named : d.device = ""
  · refine ⟨fun finds => absurd finds.device ?_, fun h => absurd named h.1⟩
    have device : (definedDisk index d p).device = nextDeviceName (busDevicePrefix d.bus.value.toList) index :=
      if_pos named
    rw [device, detachedDisk_unnamed named]
    exact not_quotes_nil (by simp [nextDeviceName]) isQuotable_nextDeviceName
  · constructor
    · intro finds
      have quoted := finds.device
      rw [definedDisk_device named, detachedDisk_device] at quoted
      exact ⟨named, (quotes_escape_iff _).mp quoted, diskSources_iff.mp ⟨finds.type, finds.source⟩⟩
    · rintro ⟨-, quotable, same⟩
      obtain ⟨type, source⟩ := diskSources_iff.mpr same
      refine ⟨type, source, rfl, ?_⟩
      rw [definedDisk_device named, detachedDisk_device]
      exact (quotes_escape_iff _).mpr quotable

/-- DETACH_DISK finds a disk that was plugged in. -/
theorem finds_attachedDisk_iff : Finds (attachedDisk d p) (detachedDisk d p') ↔
    d.device ≠ "" ∧ (∀ c ∈ d.device.toList, Xml.isChar c = true) ∧ blockBacked p = blockBacked p' := by
  by_cases named : d.device = ""
  · refine ⟨fun finds => absurd finds.device ?_, fun h => absurd named h.1⟩
    have device : (attachedDisk d p).device = escape "vdb".toList := by
      rw [attachedDisk, if_pos named]
      rfl
    rw [device, detachedDisk_unnamed named]
    exact not_quotes_nil (by decide) (List.all_eq_true.mp (by decide))
  · constructor
    · intro finds
      have quoted := finds.device
      rw [attachedDisk_device named, detachedDisk_device] at quoted
      exact ⟨named, (quotes_both_iff _).mp quoted, diskSources_iff.mp ⟨finds.type, finds.source⟩⟩
    · rintro ⟨-, legal, same⟩
      obtain ⟨type, source⟩ := diskSources_iff.mpr same
      refine ⟨type, source, rfl, ?_⟩
      rw [attachedDisk_device named, detachedDisk_device]
      exact (quotes_both_iff _).mpr legal

/-- A disk that is to be detached is found under the name it was attached with if its row has a name, which
`build_domain_xml` does not have to escape, and the pool is still of the same kind. The document of CREATE_VM has
the element of the disk at its place among those of the VM. -/
theorem detach_finds_iff (workdir : Text) (vm : VmRow) (disks : List (DiskRow × PoolRow))
    (nics : List (NicRow × NetworkRow)) (d : DiskRow) (p p' : PoolRow) (index : Nat) :
    (domainDiskXml index (diskEntry d p) = .ok (definedDisk index d p).text ∧
      libvirtCalls workdir (createVmRequest vm disks nics) =
        (nicsXml (nics.map fun n => nicEntry n.1 n.2)).map (fun interfaces =>
          [.defineDomain (documentStart vm disks ++
            (disks.mapIdx fun index d => (definedDisk index d.1 d.2).text).flatten ++ interfaces ++ documentEnd vm)]) ∧
      libvirtCalls workdir (attachDiskRequest vm d p) =
        .ok [.attachDevice vm.domainUuid.str.toList (attachedDisk d p).text true] ∧
      libvirtCalls workdir (detachDiskRequest vm d p') =
        .ok [.detachDevice vm.domainUuid.str.toList (detachedDisk d p').text]) ∧
    (Finds (definedDisk index d p) (detachedDisk d p') ↔
      d.device ≠ "" ∧ (∀ c ∈ d.device.toList, Xml.isChar c = true ∧ Xml.isQuotable c = true) ∧
        blockBacked p = blockBacked p') ∧
    (Finds (attachedDisk d p) (detachedDisk d p') ↔
      d.device ≠ "" ∧ (∀ c ∈ d.device.toList, Xml.isChar c = true) ∧ blockBacked p = blockBacked p') := by
  refine ⟨⟨domainDiskXml_diskEntry index, libvirtCalls_createVm workdir disks nics, ?_, ?_⟩,
    finds_definedDisk_iff, finds_attachedDisk_iff⟩
  · have domain : requireStr (attachDiskRequest vm d p).payload "domain_uuid" = .ok vm.domainUuid.str.toList := by
      simp [requireStr, attachDiskRequest, vmRequest, Dict.get?]
    show (buildDiskXml (attachDiskRequest vm d p).payload >>= fun xml =>
      requireStr (attachDiskRequest vm d p).payload "domain_uuid" >>= fun u =>
        pure [LibvirtCall.attachDevice u xml true]) = _
    rw [buildDiskXml_attach, domain]
    rfl
  · have domain : requireStr (detachDiskRequest vm d p').payload "domain_uuid" = .ok vm.domainUuid.str.toList := by
      simp [requireStr, detachDiskRequest, vmRequest, Dict.get?]
    show (buildDiskXml (detachDiskRequest vm d p').payload >>= fun xml =>
      requireStr (detachDiskRequest vm d p').payload "domain_uuid" >>= fun u =>
        pure [LibvirtCall.detachDevice u xml]) = _
    rw [buildDiskXml_detach, domain]
    rfl

/-- The second disk of a VM, as the agent's answer to CREATE_DISK leaves its row: without a device. -/
def dataDisk : DiskRow :=
  { pk := 2, uuid := ⟨12⟩, vm := 1, storage := 1, name := "disk-2", volumeId := "/srv/pool/c.qcow2", sizeBytes := 1 }

/-- A pool of files. -/
def dataPool : PoolRow :=
  { pk := 1, uuid := ⟨31⟩, node := 1, name := "local", type := .directory, path := "/srv/pool" }

/-- Neither as it was defined nor as it was plugged in is the disk found. -/
theorem dataDisk_not_found : ¬ ∀ (d : DiskRow) (p : PoolRow) (index : Nat),
    Finds (definedDisk index d p) (detachedDisk d p) ∧ Finds (attachedDisk d p) (detachedDisk d p) := by
  intro always
  obtain ⟨defined, -⟩ := always dataDisk dataPool 1
  exact ((@finds_definedDisk_iff dataDisk dataPool dataPool 1).mp defined).1 rfl

end NodePilot.Agent
