import NodePilot.Agent.StorageCommands

/-!
# A new disk

What CREATE_DISK asks for and how its volume is made: the payload that `create_disk` of `operations/disk_ops.py` reads,
`create_volume` of the classes in `storage/`, and the arguments of the conversion of `_seed_from_image`. What the
process that makes the volume makes of what it is asked is up to the host.
-/

namespace NodePilot.Agent.DiskCreation

open Lib Volumes
open Pools (Completed VolumeInfo StorageError)

/-! ## What the host is asked -/

/-- The process that makes a volume. -/
inductive MakeCommand
  | qemuCreate (format path : String) (size : Int)
  | lvcreate (size : Int) (name vg : String)
  | lvcreateThin (vg thinpool : String) (size : Int) (name : String)
  | zfsCreate (size : Int) (dataset : String)

def MakeCommand.argv : MakeCommand → List String
  | qemuCreate format path size => ["qemu-img", "create", "-f", format, path, toString size]
  | lvcreate size name vg => ["lvcreate", "-y", "-L", toString size ++ "B", "-n", name, vg]
  | lvcreateThin vg thinpool size name =>
    ["lvcreate", "-y", "-T", vg ++ "/" ++ thinpool, "-V", toString size ++ "B", "-n", name]
  | zfsCreate size dataset => ["zfs", "create", "-V", toString size ++ "B", "-s", dataset]

/-- What it makes. -/
def MakeCommand.volume : MakeCommand → Volume
  | qemuCreate _ path _ => ⟨.file, path⟩
  | lvcreate _ name vg => ⟨.logicalVolume, vg ++ "/" ++ name⟩
  | lvcreateThin vg _ _ name => ⟨.logicalVolume, vg ++ "/" ++ name⟩
  | zfsCreate _ dataset => ⟨.dataset, dataset⟩

/-- What `download_image` and the image fetch of a template need of the agent's configuration. -/
structure AgentConfig where
  controllerUrl : String
  agentToken : String
  tlsVerify : Bool := true

inductive DiskError
  /-- `KeyError` and `TypeError` -/
  | payload (e : AgentError)
  /-- `StorageOperationError` of a backend. -/
  | storage (e : StorageError)
  /-- `StorageOperationError` of `get_backend`. -/
  | backend (storageType poolPath : String)
  /-- `StorageOperationError`: there is no configuration to download with. -/
  | noConfig
  /-- `StorageOperationError` of `download_image`. -/
  | httpStatus (imageUuid : Json) (status : Nat)
  | httpError (imageUuid : Json) (reason : String)
  | checksum (imageUuid : Json) (expected actual : String)

/-! ## The volume -/

/-- What `create_disk` reads before it makes the volume. -/
structure Asked where
  backend : Backend
  poolPath : String
  name : String
  size : Int
  format : String

/-- `get_backend`, the arguments of `create_volume`, and its check of the name. -/
def readPayload (payload : Dict) : Except DiskError Asked := do
  let storageType := String.ofList (← (requireStr payload "storage_type").mapError .payload)
  let poolPath := String.ofList (← (requireStr payload "storage_path").mapError .payload)
  match getBackend storageType poolPath with
  | none => throw (.backend storageType poolPath)
  | some backend =>
    let name := String.ofList (← (requireStr payload "disk_uuid").mapError .payload)
    let size ← (requireInt payload "size_bytes").mapError .payload
    -- the other backends do not look at the format
    let format ← if backend = .directory then
        (optionalStr payload "format" "qcow2".toList).mapError .payload
      else pure "raw".toList
    if safeName name then return ⟨backend, poolPath, name, size, String.ofList format⟩
    else throw (.storage (.unsafeName name))

/-- The command of `create_volume`. -/
def Asked.command (a : Asked) : MakeCommand :=
  match a.backend with
  | .directory => .qemuCreate a.format (pathFor a.poolPath a.name) a.size
  | .lvm => .lvcreate a.size a.name a.poolPath
  | .lvmThin => .lvcreateThin (String.ofList (volumeGroup a.poolPath)) (String.ofList (thinPool a.poolPath)) a.size a.name
  | .zfs => .zfsCreate a.size (a.poolPath ++ "/" ++ a.name)

/-- The volume that the disk is to have. -/
def Asked.volume (a : Asked) : Volume := ⟨a.backend.kind, a.backend.volumeId a.poolPath a.name⟩

/-- `VolumeInfo` of the new volume. -/
def Asked.info (a : Asked) : VolumeInfo := ⟨a.backend.volumeId a.poolPath a.name, a.size, a.format⟩

/-! ## The image -/

/-- `os.path.join(tmp_dir, "image")` -/
def imagePath (dir : String) : String := String.ofList (joinPath dir.toList "image".toList)

/-- `os.path.dirname` -/
def dirname (path : String) : String :=
  String.ofList ((path.toList.reverse.dropWhile (· ≠ '/')).drop 1).reverse

/-- The arguments of `qemu-img convert`, into a volume that is there. -/
def convertArgv (imageFormat targetFormat source volumeId : String) : List String :=
  ["qemu-img", "convert", "-n"] ++ (if imageFormat = "" then [] else ["-f", imageFormat]) ++
    ["-O", targetFormat, source, volumeId]

/-- What `create_disk` returns. -/
def answer (info : VolumeInfo) : Dict :=
  [("volume_id", .str info.volumeId), ("device", .str ""), ("size_bytes", .int info.sizeBytes),
    ("format", .str info.format)]

/-! ## Processes -/

namespace MakeCommand

variable (c : MakeCommand) (s : Storage)

/-- The process can make the volume: a file is written over. -/
def canMake : Bool := c.volume.kind = .file ∨ c.volume ∉ s.volumes

/-- What a process leaves that does not succeed. -/
def left (leaves : Bool) : Storage := if c.canMake s && leaves then s.add c.volume else s

/-- The process that makes a volume. -/
def run (leaves : Bool) : Completed → Completed × Storage
  | .done stdout => if c.canMake s then (.done stdout, s.add c.volume) else (.failed 5 "already exists", s)
  | .failed returncode stderr => (.failed returncode stderr, c.left s leaves)
  | .timedOut => (.timedOut, c.left s leaves)

end MakeCommand

end NodePilot.Agent.DiskCreation
