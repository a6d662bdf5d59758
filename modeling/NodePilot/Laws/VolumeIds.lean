import Mathlib.Data.List.TakeWhile
import NodePilot.Agent.VolumeIds
import NodePilot.Laws.CloneNames
import NodePilot.Laws.Escaping

/-!
# Volume ids as paths

LVM and ZFS are given names, and the volume id is such a name: `vg-data/disk`, where the domain, `qemu-img` and `dd`
need `/dev/vg-data/disk`. No id that the scope check of such a pool accepts is the path of a device. The id of a file is
a path, and works as long as the agent and libvirt read it as the same one.
-/

namespace NodePilot.Agent.VolumeIds

open Lib Lib.Script Volumes
open Pools (cloneVolume cloneFile plainPath HostOp HostAns StorageM VolumeInfo)
open DiskCreation (Asked)

/-! ## The ids -/

section Ids

variable {b : Backend} {poolPath name volumeId : String} {σ : Type} {handle : Handler HostOp HostAns σ}

/-- Whatever is done before, what is returned is what the rest returns. -/
theorem triple_last {α β : Type} {x : StorageM α} {f : α → StorageM β} {Q : β → Prop}
    (hf : ∀ a, Triple handle (fun _ _ => True) (f a) (fun r _ _ => Q r) fun _ _ _ => True) :
    Triple handle (fun _ _ => True) (x >>= f) (fun r _ _ => Q r) fun _ _ _ => True := by
  refine Triple.bind (fun l s _ => ?_) hf
  rcases exec handle x l s with ⟨e | a, l', s'⟩ <;> trivial

theorem triple_info {info : VolumeInfo} : Triple handle (fun _ _ => True) (pure info : StorageM VolumeInfo)
    (fun r _ _ => r.volumeId = info.volumeId) fun _ _ _ => True :=
  Triple.pure fun _ _ _ => rfl

theorem triple_cloneVolume {realpath : String → String} {loads : String → Option Dict} {source : String}
    {linked : Bool} :
    Triple handle (fun _ _ => True) (cloneVolume realpath loads b poolPath source name linked)
      (fun info _ _ => info.volumeId = b.volumeId poolPath name) fun _ _ _ => True := by
  cases b with
  | directory =>
    refine triple_last fun _ => triple_last fun _ => ?_
    exact triple_last fun _ => triple_last fun _ => triple_last fun _ => triple_info
  | lvm =>
    refine Triple.ite (fun _ => Triple.throw fun _ _ _ => trivial) fun _ => ?_
    exact triple_last fun _ => triple_last fun _ => triple_last fun _ => triple_last fun _ => triple_info
  | lvmThin => exact triple_last fun _ => triple_last fun _ => triple_last fun _ => triple_info
  | zfs => exact triple_last fun _ => triple_last fun _ => triple_last fun _ => triple_last fun _ => triple_info

theorem Returned.eq (h : Returned b poolPath name volumeId) : volumeId = b.volumeId poolPath name := by
  cases h with
  | created => rfl
  | @cloned σ handle realpath loads source linked s s' info run =>
    have returns : Triple handle (fun _ _ => True) (cloneVolume realpath loads b poolPath source name linked)
        (fun info _ _ => info.volumeId = b.volumeId poolPath name) fun _ _ _ => True := triple_cloneVolume
    have ends := returns () s trivial
    rw [run] at ends
    exact ends

end Ids

/-! ## Devices -/

section Devices

variable {h : VolumeHost} {storageType poolPath name : String} {directory : List Text}

theorem isPart_of_safeName (safe : safeName name = true) :
    IsPart name.toList ∧ name.toList ≠ ['.'] ∧ name.toList ≠ ['.', '.'] := by
  obtain ⟨c, cs, chars, first, -, others⟩ := DiskNames.safeName_iff.mp safe
  have ne (d : Char) (hd : d.isAlphanum = false) : c ≠ d := fun same => by rw [same, hd] at first; cases first
  obtain ⟨rest, text, mem⟩ : ∃ rest, name.toList = c :: rest ∧ ∀ x ∈ rest, DiskNames.NameChar x ∨ x = '\n' := by
    unfold DiskNames.stripped at chars
    split_ifs at chars with feed
    · have whole := List.dropLast_append_getLast? _ feed
      rw [chars] at whole
      refine ⟨cs ++ ['\n'], whole.symm, fun x hx => ?_⟩
      rcases List.mem_append.mp hx with hx | hx
      · exact .inl (others x hx)
      · exact .inr (List.mem_singleton.mp hx)
    · exact ⟨cs, chars, fun x hx => .inl (others x hx)⟩
  have slash : '/' ∉ c :: rest := by
    refine List.not_mem_cons_of_ne_of_not_mem (ne '/' (by decide)).symm fun hx => ?_
    rcases mem _ hx with other | other
    · exact absurd other (by decide)
    · exact absurd other (by decide)
  rw [text]
  have dot := ne '.' (by decide)
  exact ⟨⟨List.cons_ne_nil c rest, slash⟩, fun same => dot (List.cons.inj same).1,
    fun same => dot (List.cons.inj same).1⟩

theorem slash_notMem_volumeGroup {text : String} : '/' ∉ volumeGroup text := by
  intro mem
  have kept := List.mem_takeWhile_imp mem
  simp at kept

/-- A volume of a group that has no slash in its name is not below `/dev`. -/
theorem not_device_of_group {group : Text} (safe : IsPart name.toList) (free : '/' ∉ group) :
    ¬ "/dev/".toList <+: group ++ "/".toList ++ name.toList := by
  rintro ⟨rest, same⟩
  cases group with
  | nil =>
    have below : name.toList = "dev".toList ++ '/' :: rest := (List.cons.inj same).2.symm
    exact safe.2 (by simp [below])
  | cons c group =>
    have slash : '/' = c := (List.cons.inj same).1
    exact free (slash ▸ List.mem_cons_self)

theorem parts_dataset {dataset : Text} :
    parts ("/dev/zvol/".toList ++ dataset) = "dev".toList :: "zvol".toList :: parts dataset := by
  have text : "/dev/zvol/".toList ++ dataset = "/dev".toList ++ '/' :: ("zvol".toList ++ '/' :: dataset) := rfl
  rw [text, parts_append, parts_append]
  rfl

/-- **No id of a block-backed pool is accepted by its scope check and is the path of the volume's device.** -/
theorem not_names_of_block {b : Backend} (block : b ≠ .directory) (safe : safeName name = true)
    (scope : b.owns { realpath := h.realpath } poolPath (b.volumeId poolPath name) = true) :
    ¬ h.Names b poolPath name directory (b.volumeId poolPath name).toList := by
  have part := (isPart_of_safeName safe).1
  cases b with
  | directory => exact absurd rfl block
  | lvm =>
    rintro ⟨device, -⟩
    have group : volumeGroup (poolPath ++ "/" ++ name) = poolPath.toList := of_decide_eq_true scope
    have free : '/' ∉ poolPath.toList := group ▸ slash_notMem_volumeGroup
    refine not_device_of_group part free ?_
    simpa [Backend.volumeId, String.toList_append] using device
  | lvmThin =>
    rintro ⟨device, -⟩
    have free : '/' ∉ volumeGroup poolPath := slash_notMem_volumeGroup
    refine not_device_of_group part free ?_
    simpa [Backend.volumeId, String.toList_append] using device
  | zfs =>
    rintro ⟨-, same⟩
    have text : (Backend.zfs.volumeId poolPath name).toList = poolPath.toList ++ "/".toList ++ name.toList := by
      simp [Backend.volumeId, String.toList_append]
    rw [text] at same
    have device : "/dev/zvol/".toList ++ poolPath.toList ++ "/".toList ++ name.toList =
        "/dev/zvol/".toList ++ (poolPath.toList ++ "/".toList ++ name.toList) := by
      rw [List.append_assoc, List.append_assoc, List.append_assoc]
    rw [device, parts_dataset] at same
    have longer := congrArg List.length same
    simp only [List.length_cons] at longer
    omega

end Devices

/-! ## The source of a disk -/

section Source

variable {storageType poolPath volumeId : String} {disk : Dict} {path : Text}

/-- No spelling of the type of a directory is taken for a block device. -/
theorem isBlockBacked_of_directory (made : getBackend storageType poolPath = some .directory)
    (type : disk.get? "storage_type" = some (.str storageType)) : isBlockBacked disk = false := by
  have other (s : String) (hs : s = "LVM" ∨ s = "LVM_THIN" ∨ s = "ZFS" ∨ s = "CEPH_RBD") : storageType ≠ s := by
    rintro rfl
    unfold getBackend at made
    rcases hs with rfl | rfl | rfl | rfl
    · simp at made
    · split_ifs at made <;> simp at *
    · simp at made
    · simp at made
  rw [isBlockBacked, type]
  simp [other "LVM", other "LVM_THIN", other "ZFS", other "CEPH_RBD"]

/-- libvirt reads the path of a file with its blank characters as spaces, if XML can write it at all. -/
theorem libvirtSource_iff (file : isBlockBacked disk = false) (volume : disk.get? "volume_id" = some (.str volumeId)) :
    libvirtSource disk = some ("file".toList, path) ↔
      (∀ c ∈ volumeId.toList, Xml.isChar c = true) ∧ path = volumeId.toList.map Xml.blank := by
  have read : optionalStr disk "volume_id" [] = .ok volumeId.toList := by rw [optionalStr, volume]
  let attr : Xml.Attribute := ⟨"file".toList, escape volumeId.toList, volumeId.toList.map Xml.blank⟩
  have text : "<source file=\"".toList ++ escape volumeId.toList ++ "\"/>".toList =
      Xml.emptyElement "source".toList [attr] := by
    simp [Xml.emptyElement, Xml.startTag, Xml.Attribute.text, attr]
  have source : libvirtSource disk =
      ((Xml.parse (Xml.emptyElement "source".toList [attr])).bind (·.get "file".toList)).map fun path =>
        ("file".toList, path) := by
    rw [libvirtSource, diskSource, read, file, ← text]
    rfl
  rw [source]
  by_cases legal : ∀ c ∈ volumeId.toList, Xml.isChar c = true
  · have written : ∀ a ∈ [attr], a.Legal :=
      List.forall_mem_singleton.mpr ⟨show Xml.isName "file".toList = true by decide, spells_escape legal⟩
    have get : (Xml.Node.element "source".toList [attr.pair] []).get "file".toList =
        some (volumeId.toList.map Xml.blank) := Xml.Node.get_cons.trans (if_pos rfl)
    rw [Xml.parse_emptyElement (by decide) written (by simp), Option.bind_some, List.map_singleton, get,
      Option.map_some, Option.some.injEq, Prod.mk.injEq]
    exact ⟨fun same => ⟨legal, same.2.symm⟩, fun same => ⟨rfl, same.2.symm⟩⟩
  · have unread : Xml.parse (Xml.emptyElement "source".toList [attr]) = none := by
      refine Option.eq_none_iff_forall_ne_some.mpr fun n parsed => legal (isChar_of_escape fun c hc => ?_)
      refine Xml.isChar_of_parse parsed c ?_
      rw [← text]
      exact List.mem_append_left _ (List.mem_append_right _ hc)
    rw [unread]
    simp [legal]

end Source

/-! ## Files -/

section Files

variable {h : VolumeHost} {poolPath name : String} {directory pool : List Text}

theorem parts_pathFor (part : IsPart name.toList) :
    parts (pathFor poolPath name).toList = parts poolPath.toList ++ [name.toList] := by
  rw [pathFor, String.toList_ofList, joinPath]
  split_ifs with ends
  · rcases ends with empty | slash
    · rw [empty, List.nil_append, parts_singleton part]
      rfl
    · obtain ⟨front, whole⟩ : ∃ front, poolPath.toList = front ++ ['/'] :=
        ⟨_, (List.dropLast_append_getLast? _ slash).symm⟩
      rw [whole, List.append_assoc, List.singleton_append, parts_append, parts_append, parts_singleton part, parts_nil,
        List.append_nil]
  · have slash : "/".toList = ['/'] := rfl
    rw [slash, List.append_assoc, List.singleton_append, parts_append, parts_singleton part]

theorem head_pathFor (part : IsPart name.toList) :
    (pathFor poolPath name).toList.head? = some '/' ↔ poolPath.toList.head? = some '/' := by
  rw [pathFor, String.toList_ofList, joinPath]
  cases poolPath.toList with
  | nil =>
    cases chars : name.toList with
    | nil => simp
    | cons c cs =>
      have ne : c ≠ '/' := fun same => part.2 (by simp [chars, same])
      simp [ne]
  | cons c cs => split_ifs <;> simp

theorem origin_pathFor (part : IsPart name.toList) :
    FileTree.origin directory (pathFor poolPath name).toList = FileTree.origin directory poolPath.toList := by
  simp only [FileTree.origin, head_pathFor part]

/-- A volume's file is reached exactly if no link stands in its place. -/
theorem resolve_pathFor (safe : safeName name = true) (found : h.tree.resolve h.agentDir poolPath.toList = some pool) :
    h.tree.resolve h.agentDir (pathFor poolPath name).toList = some (pool ++ [name.toList]) ↔
      h.tree.readlink (pool ++ [name.toList]) = none := by
  obtain ⟨part, here, up⟩ := isPart_of_safeName safe
  constructor
  · intro reached
    exact (FileTree.resolve_real h.agent_real reached).last
  · intro free
    rw [FileTree.resolve, origin_pathFor part, parts_pathFor part]
    exact FileTree.follow_concat found here up free

theorem components_realpath {path : String} {place : List Text}
    (found : h.tree.resolve h.agentDir path.toList = some place) :
    components (h.realpath path) = place := by
  have read := FileTree.parts_realpath h.agent_real found
  rw [components, VolumeHost.realpath, String.toList_ofList]
  exact read

end Files

/-! ## Which ids work -/

section Main

variable {h : VolumeHost} {storageType poolPath name volumeId : String} {b : Backend}

/-- The volume's file, as the pool's path and the name spell it, is one file for the agent and for libvirt: no link
stands in its place, XML can write its path, and from its own working directory libvirt comes to it, with blank
characters for spaces. -/
def VolumeHost.Clear (h : VolumeHost) (poolPath name : String) : Prop :=
  let path := pathFor poolPath name
  plainPath path = true ∧ (∀ c ∈ path.toList, Xml.isChar c = true) ∧
    ∃ pool, h.tree.resolve h.agentDir poolPath.toList = some pool ∧ h.tree.readlink (pool ++ [name.toList]) = none ∧
      h.tree.resolve h.libvirtDir (path.toList.map Xml.blank) = some (pool ++ [name.toList])

/-- An absolute path of printable characters is read alike by both. -/
theorem clear_of_absolute {pool : List Text} (absolute : poolPath.toList.head? = some '/')
    (printable : ∀ c ∈ (pathFor poolPath name).toList, Xml.isChar c = true ∧ c ≠ '\t' ∧ c ≠ '\n' ∧ c ≠ '\r')
    (safe : safeName name = true) (found : h.tree.resolve h.agentDir poolPath.toList = some pool)
    (free : h.tree.readlink (pool ++ [name.toList]) = none) : h.Clear poolPath name := by
  have part := (isPart_of_safeName safe).1
  have start (directory : List Text) : FileTree.origin directory (pathFor poolPath name).toList = [] := by
    rw [origin_pathFor part]
    exact if_pos absolute
  have reached := (resolve_pathFor safe found).mpr free
  have plain : plainPath (pathFor poolPath name) = true := by
    obtain ⟨rest, path⟩ := List.head?_eq_some_iff.mp ((head_pathFor part).mpr absolute)
    simp [plainPath, path]
  refine ⟨plain, fun c hc => (printable c hc).1, pool, found, free, ?_⟩
  rw [Xml.map_blank fun c hc => (printable c hc).2]
  rw [FileTree.resolve, start] at reached ⊢
  exact reached

theorem works_of_clear (made : getBackend storageType poolPath = some .directory) (safe : safeName name = true)
    (clear : h.Clear poolPath name) : Works h storageType .directory poolPath name (pathFor poolPath name) := by
  obtain ⟨plain, legal, pool, found, free, libvirt⟩ := clear
  have reached := (resolve_pathFor safe found).mpr free
  have own : h.Names .directory poolPath name h.agentDir (pathFor poolPath name).toList := ⟨pool, found, reached⟩
  refine ⟨?_, fun disk volume type => ?_, ⟨plain, own⟩, own⟩
  · rw [Backend.owns, components_realpath found, components_realpath reached]
    exact List.isPrefixOf_iff_prefix.mpr (List.prefix_append pool _)
  · have file := isBlockBacked_of_directory made type
    exact ⟨_, (libvirtSource_iff file volume).mpr ⟨legal, rfl⟩, pool, found, libvirt⟩

theorem clear_of_works (made : getBackend storageType poolPath = some .directory) (safe : safeName name = true)
    (works : Works h storageType .directory poolPath name (pathFor poolPath name)) : h.Clear poolPath name := by
  let disk : Dict := [("volume_id", .str (pathFor poolPath name)), ("storage_type", .str storageType)]
  have volume : disk.get? "volume_id" = some (.str (pathFor poolPath name)) := rfl
  have type : disk.get? "storage_type" = some (.str storageType) := rfl
  obtain ⟨pool, found, reached⟩ := works.dd
  obtain ⟨path, read, pool', found', libvirt⟩ := works.domain disk volume type
  obtain ⟨legal, rfl⟩ := (libvirtSource_iff (isBlockBacked_of_directory made type) volume).mp read
  cases found.symm.trans found'
  exact ⟨works.qemuImg.1, legal, pool, found, (resolve_pathFor safe found).mp reached, libvirt⟩

/-- **A volume id works wherever it is used exactly if it is the path of a file that the agent and libvirt read alike.
The id of a block-backed volume never does.** -/
theorem works_iff (h : VolumeHost) (made : getBackend storageType poolPath = some b) (safe : safeName name = true)
    (returned : Returned b poolPath name volumeId) :
    Works h storageType b poolPath name volumeId ↔ b = .directory ∧ h.Clear poolPath name := by
  obtain rfl := returned.eq
  by_cases file : b = .directory
  · subst file
    exact ⟨fun works => ⟨rfl, clear_of_works made safe works⟩, fun clear => works_of_clear made safe clear.2⟩
  · exact ⟨fun works => absurd works.dd (not_names_of_block file safe works.scope), fun clear => absurd clear.1 file⟩

end Main

/-- A host without links. -/
def plainHost : VolumeHost where
  tree := ⟨fun _ => none⟩
  agentDir := ["root".toList]
  libvirtDir := []
  agent_real := FileTree.Real.nil.push ⟨by decide, by decide⟩ rfl
  libvirt_real := FileTree.Real.nil

/-- A disk of a directory. -/
theorem works_srv : Works plainHost "DIRECTORY" .directory "/srv/vms" "disk-1" "/srv/vms/disk-1" := by
  refine (works_iff plainHost (by decide) (by decide) (.created 1 "qcow2")).mpr ⟨rfl, ?_⟩
  have found : plainHost.tree.follow 40 [] ["srv".toList, "vms".toList] = some ["srv".toList, "vms".toList] :=
    (FileTree.follow_plain (by decide) (by decide) rfl).trans
      ((FileTree.follow_plain (by decide) (by decide) rfl).trans FileTree.follow_nil)
  refine clear_of_absolute (by decide) (fun c hc => ?_) (by decide) found rfl
  have printable :
      (pathFor "/srv/vms" "disk-1").toList.all (fun c => Xml.isChar c && c != '\t' && c != '\n' && c != '\r') :=
    by decide
  simpa [and_assoc] using List.all_eq_true.mp printable c hc

/-- `vg-data/disk-1` is no path of a device. -/
theorem lvm_id_is_no_path : ¬ ∀ (h : VolumeHost) (storageType : String) (b : Backend) (poolPath name volumeId : String),
    getBackend storageType poolPath = some b → safeName name = true → Returned b poolPath name volumeId →
      Works h storageType b poolPath name volumeId := by
  intro works
  have id := works plainHost "LVM" .lvm "vg-data" "disk-1" _ (by decide) (by decide) (.created 1 "raw")
  obtain ⟨device, -⟩ := id.dd
  exact absurd device (by decide)

end NodePilot.Agent.VolumeIds
