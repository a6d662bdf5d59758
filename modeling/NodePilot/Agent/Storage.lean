import NodePilot.Agent.Hypervisor
import NodePilot.Volumes

/-!
# The volumes of a host

`storage/` of the agent and `operations/disk_ops.py`, as far as it matters which volumes there are: files
of a directory, logical volumes of a volume group, datasets of a ZFS pool. Removing a file that is gone
is no error; `lvremove` and `zfs destroy` fail on what is not there.
-/

namespace NodePilot.Agent

open Volumes (safeName pathFor)

/-! ## Backends -/

/-- `_BACKENDS`. An NFS pool is a directory. -/
inductive Backend
  | directory | lvm | lvmThin | zfs
deriving DecidableEq

/-- `volume_id.split("/", 1)[0]` -/
def volumeGroup (volumeId : String) : Text := volumeId.toList.takeWhile (· ≠ '/')

/-- `pool_path.partition("/")[2]` -/
def thinPool (poolPath : String) : Text := (poolPath.toList.dropWhile (· ≠ '/')).drop 1

/-- `get_backend` -/
def getBackend (storageType poolPath : String) : Option Backend :=
  let type := storageType.toList.map Char.toUpper
  if type = "DIRECTORY".toList ∨ type = "NFS".toList then some .directory
  else if type = "LVM".toList then some .lvm
  -- `LVM-thin pool_path must be 'vg/thinpool'`
  else if type = "LVM_THIN".toList then if thinPool poolPath = [] then none else some .lvmThin
  else if type = "ZFS".toList then some .zfs
  else none

/-- What a volume is kept as. -/
inductive VolumeKind
  | file | logicalVolume | dataset
deriving DecidableEq

structure Volume where
  kind : VolumeKind
  id : String
deriving DecidableEq

def Backend.kind : Backend → VolumeKind
  | directory => .file
  | lvm | lvmThin => .logicalVolume
  | zfs => .dataset

/-- The `volume_id` of a new volume. -/
def Backend.volumeId (poolPath name : String) : Backend → String
  | directory => pathFor poolPath name
  | lvm | zfs => poolPath ++ "/" ++ name
  | lvmThin => String.ofList (volumeGroup poolPath) ++ "/" ++ name

/-- The format of a new volume: all but files are raw. -/
def Backend.format (asked : String) : Backend → String
  | directory => asked
  | lvm | lvmThin | zfs => "raw"

/-! ## Volumes -/

/-- The volumes of a host, and what `os.path.realpath` makes of a path on it. -/
structure Storage where
  volumes : List Volume := []
  realpath : String → String := id

/-- The components of a path. -/
def components (path : String) : List Text := (path.toList.splitOn '/').filter (· ≠ [])

/-- `_assert_within_pool` and `_assert_within_vg` -/
def Backend.owns (s : Storage) (poolPath volumeId : String) : Backend → Bool
  | directory => (components (s.realpath poolPath)).isPrefixOf (components (s.realpath volumeId))
  | lvm => volumeGroup volumeId = poolPath.toList
  | lvmThin => volumeGroup volumeId = volumeGroup poolPath
  | zfs => (poolPath.toList ++ ['/']).isPrefixOf volumeId.toList

namespace Storage

variable (s : Storage)

def add (v : Volume) : Storage := { s with volumes := v :: s.volumes }

def remove (v : Volume) : Storage := { s with volumes := s.volumes.filter (· ≠ v) }

/-- `create_volume`. A file that is there is made anew. -/
def createVolume (b : Backend) (poolPath name : String) : Option Storage :=
  let v : Volume := ⟨b.kind, b.volumeId poolPath name⟩
  if safeName name ∧ (b = .directory ∨ v ∉ s.volumes) then some (s.add v) else none

/-- `delete_volume`. Where a clone comes from is not kept here: that `zfs destroy -r` fails for a dataset with
dependent clones is among the refusals of the tools. -/
def deleteVolume (b : Backend) (poolPath volumeId : String) : Option Storage :=
  let v : Volume := ⟨b.kind, volumeId⟩
  if b.owns s poolPath volumeId ∧ (b = .directory ∨ v ∈ s.volumes) then some (s.remove v) else none

/-- `clone_volume` -/
def cloneVolume (b : Backend) (poolPath source newName : String) (linked : Bool) : Option Storage :=
  let v : Volume := ⟨b.kind, b.volumeId poolPath newName⟩
  -- only the directory checks the source, and writes over a volume that is there
  if safeName newName ∧ (⟨b.kind, source⟩ : Volume) ∈ s.volumes ∧ (b = .lvm → ¬ linked) ∧
      if b = .directory then b.owns s poolPath source else v ∉ s.volumes
  then some (s.add v) else none

/-- `create_disk`, with its answer. -/
def createDisk (payload : Dict) : Option (Dict × Storage) := do
  let poolPath := payload.getStr "storage_path" ""
  let name := payload.getStr "disk_uuid" ""
  let b ← getBackend (payload.getStr "storage_type" "") poolPath
  let s' ← s.createVolume b poolPath name
  return ([("volume_id", .str (b.volumeId poolPath name)), ("device", .str ""),
    ("size_bytes", .int (payload.getInt "size_bytes" 0)),
    ("format", .str (b.format (payload.getStr "format" "qcow2")))], s')

/-- `delete_disk` -/
def deleteDisk (payload : Dict) : Option (Dict × Storage) := do
  let poolPath := payload.getStr "storage_path" ""
  let b ← getBackend (payload.getStr "storage_type" "") poolPath
  let s' ← s.deleteVolume b poolPath (payload.getStr "volume_id" "")
  return ([], s')

/-- `clone_disk`, with its answer but for the size. -/
def cloneDisk (payload : Dict) : Option (Dict × Storage) := do
  let poolPath := payload.getStr "storage_path" ""
  let name := payload.getStr "new_name" ""
  let b ← getBackend (payload.getStr "storage_type" "") poolPath
  let s' ← s.cloneVolume b poolPath (payload.getStr "source_volume_id" "") name (flag payload "linked")
  return ([("volume_id", .str (b.volumeId poolPath name))], s')

end Storage

/-! ## Hosts -/

/-- What the agent of a node works on. -/
structure VmHost where
  domains : Hypervisor := fun _ => none
  storage : Storage := {}

/-- An operation on the storage of the host. -/
def VmHost.stored (h : VmHost) (x : Option (Dict × Storage)) : Option (Dict × VmHost) :=
  x.map fun done => (done.1, { h with storage := done.2 })

/-- What an operation comes to that nothing disturbs: what the tasks read of the answer, and the host
then. -/
def VmHost.serve (workdir : Text) (h : VmHost) (r : AgentRequest) : Option (Dict × VmHost) :=
  match r.operation with
  | .createDisk => h.stored (h.storage.createDisk r.payload)
  | .deleteDisk => h.stored (h.storage.deleteDisk r.payload)
  | .cloneDisk => h.stored (h.storage.cloneDisk r.payload)
  | _ => (h.domains.serve workdir r).map fun d => ([], { h with domains := d })

/-- What the tools of the host make of an operation. -/
inductive HostTools
  | work
  /-- The handler raises, and nothing has changed. -/
  | refuse
  /-- The handler raises when the change is made: a new volume is not filled. -/
  | breakOff
deriving DecidableEq

/-- The end of a handler. -/
def VmHost.run (workdir : Text) (tools : HostTools) (h : VmHost) (r : AgentRequest) :
    Except Unit Dict × VmHost :=
  match h.serve workdir r, tools with
  | none, _ | some _, .refuse => (.error (), h)
  | some (data, h'), .work => (.ok data, h')
  | some (_, h'), .breakOff => (.error (), h')

end NodePilot.Agent
