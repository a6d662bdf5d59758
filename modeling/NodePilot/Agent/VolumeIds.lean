import NodePilot.Agent.DiskCreation
import NodePilot.Lib.FileTree
import NodePilot.Lib.Xml

/-!
# What volume ids are used for

`create_volume` and `clone_volume` return the id of a volume. The backend that made the volume gets it back and checks
that it is one of its own. The others use it as a path: `_disk_source` writes it into the domain for libvirt, `qemu-img`
gets it as an argument when a disk is seeded, backed up or restored, and `dd` opens it when a volume is copied.
-/

namespace NodePilot.Agent.VolumeIds

open Lib Volumes
open Pools (cloneVolume plainPath HostOp HostAns VolumeInfo)
open DiskCreation (Asked)

/-! ## What is returned -/

/-- The id that a backend returns for a volume of that name. -/
inductive Returned (b : Backend) (poolPath name : String) : String → Prop
  /-- `create_volume` -/
  | created (size : Int) (format : String) :
    Returned b poolPath name (Asked.info ⟨b, poolPath, name, size, format⟩).volumeId
  /-- `clone_volume`, on any host. -/
  | cloned {σ : Type} {handle : Handler HostOp HostAns σ} {realpath : String → String} {loads : String → Option Dict}
    {source : String} {linked : Bool} {s s' : σ} {info : VolumeInfo}
    (run : Script.exec handle (cloneVolume realpath loads b poolPath source name linked) () s = (.ok info, (), s')) :
    Returned b poolPath name info.volumeId

/-! ## Where it leads -/

/-- The host of an agent: its symbolic links, and the working directories of the agent and of libvirt. -/
structure VolumeHost where
  tree : FileTree
  agentDir : List Text
  libvirtDir : List Text
  agent_real : tree.Real agentDir
  libvirt_real : tree.Real libvirtDir

/-- `os.path.realpath`, in the agent. -/
def VolumeHost.realpath (h : VolumeHost) (path : String) : String :=
  String.ofList (h.tree.realpath h.agentDir path.toList)

/-- A volume group as LVM takes it, with or without `/dev/` before it. -/
def lvmGroup (poolPath : String) : Text :=
  if "/dev/".toList.isPrefixOf poolPath.toList then poolPath.toList.drop 5 else poolPath.toList

/-- The path of a volume's device. The volumes of a directory are files. -/
def devicePath (poolPath name : String) : Backend → Option Text
  | .directory => none
  | .lvm => some ("/dev/".toList ++ lvmGroup poolPath ++ "/".toList ++ name.toList)
  | .lvmThin => some ("/dev/".toList ++ (lvmGroup poolPath).takeWhile (· ≠ '/') ++ "/".toList ++ name.toList)
  | .zfs => some ("/dev/zvol/".toList ++ poolPath.toList ++ "/".toList ++ name.toList)

/-- In that directory, the path names the volume: a file directly inside the pool, or a device. -/
def VolumeHost.Names (h : VolumeHost) (b : Backend) (poolPath name : String) (directory : List Text) (path : Text) :
    Prop :=
  match devicePath poolPath name b with
  | none => ∃ pool, h.tree.resolve h.agentDir poolPath.toList = some pool ∧
      h.tree.resolve directory path = some (pool ++ [name.toList])
  | some device => "/dev/".toList <+: path ∧ parts path = parts device

/-! ## Who uses it -/

/-- What libvirt reads of the source of a disk: the type of the disk, and the path under the attribute of that type. -/
def libvirtSource (disk : Dict) : Option (Text × Text) :=
  match diskSource disk with
  | .ok (type, source, _) =>
    ((Xml.parse source).bind (·.get (if type = "block".toList then "dev".toList else "file".toList))).map fun path =>
      (type, path)
  | .error _ => none

/-- The type of disk that the volumes are. -/
def diskTypeOf : Backend → Text
  | .directory => "file".toList
  | .lvm | .lvmThin | .zfs => "block".toList

/-- The id works wherever it is used. -/
structure Works (h : VolumeHost) (storageType : String) (b : Backend) (poolPath name volumeId : String) : Prop where
  /-- The check of `delete_volume` and `resize_volume`. -/
  scope : b.owns { realpath := h.realpath } poolPath volumeId = true
  /-- Every disk of a domain, and every disk that is attached. -/
  domain : ∀ disk : Dict, disk.get? "volume_id" = some (.str volumeId) →
    disk.get? "storage_type" = some (.str storageType) →
      ∃ path, libvirtSource disk = some (diskTypeOf b, path) ∧ h.Names b poolPath name h.libvirtDir path
  qemuImg : plainPath volumeId = true ∧ h.Names b poolPath name h.agentDir volumeId.toList
  dd : h.Names b poolPath name h.agentDir volumeId.toList

end NodePilot.Agent.VolumeIds
