import NodePilot.Agent.Storage
import NodePilot.Lib.Footprint
import NodePilot.Urls

/-!
# The commands of the storage backends

`delete_volume`, `resize_volume` and `clone_volume` of the classes in `storage/`, command by command. What a
command prints and whether it succeeds is up to the host. `Command.operands` are the arguments of a command
that name what it destroys, writes or reads; a new volume that a command only makes is not among them.
-/

namespace NodePilot.Agent.Pools

open Lib Volumes
open Urls (partition)

/-! ## Commands -/

/-- A process that a backend runs. -/
inductive Command
  | qemuInfo (path : String)
  | qemuResize (path : String) (size : Int)
  /-- `qemu-img create` with a backing file. -/
  | qemuCreate (backing dest : String)
  | qemuConvert (format source dest : String)
  | lvremove (volume : String)
  | lvextend (size : Int) (volume : String)
  /-- `lvs -o lv_size` -/
  | lvs (volume : String)
  | lvcreate (size : Int) (name vg : String)
  | lvcreateThin (vg thinpool : String) (size : Int) (name : String)
  | lvcreateSnapshot (name source : String)
  | dd (source dest : String)
  /-- `zfs destroy -r` -/
  | zfsDestroyTree (dataset : String)
  | zfsSetVolsize (size : Int) (dataset : String)
  | zfsSnapshot (snap : String)
  | zfsClone (snap dest : String)
  /-- `zfs send`, piped into `zfs receive`. -/
  | zfsSendReceive (snap dest : String)
  | zfsDestroy (snap : String)
  | zfsGetVolsize (dataset : String)

/-- The arguments of the process; of the second one of a pipe. -/
def Command.argv : Command → List String
  | qemuInfo path => ["qemu-img", "info", "--output=json", path]
  | qemuResize path size => ["qemu-img", "resize", path, toString size]
  | qemuCreate backing dest => ["qemu-img", "create", "-f", "qcow2", "-b", backing, "-F", "qcow2", dest]
  | qemuConvert format source dest => ["qemu-img", "convert", "-O", format, source, dest]
  | lvremove volume => ["lvremove", "-f", volume]
  | lvextend size volume => ["lvextend", "-L", toString size ++ "B", volume]
  | lvs volume => ["lvs", "--noheadings", "--units", "b", "--nosuffix", "-o", "lv_size", volume]
  | lvcreate size name vg => ["lvcreate", "-y", "-L", toString size ++ "B", "-n", name, vg]
  | lvcreateThin vg thinpool size name =>
    ["lvcreate", "-y", "-T", vg ++ "/" ++ thinpool, "-V", toString size ++ "B", "-n", name]
  | lvcreateSnapshot name source => ["lvcreate", "-y", "-s", "-n", name, source]
  | dd source dest => ["dd", "if=" ++ source, "of=" ++ dest, "bs=4M", "conv=fsync"]
  | zfsDestroyTree dataset => ["zfs", "destroy", "-r", dataset]
  | zfsSetVolsize size dataset => ["zfs", "set", "volsize=" ++ toString size, dataset]
  | zfsSnapshot snap => ["zfs", "snapshot", snap]
  | zfsClone snap dest => ["zfs", "clone", snap, dest]
  | zfsSendReceive _ dest => ["zfs", "receive", dest]
  | zfsDestroy snap => ["zfs", "destroy", snap]
  | zfsGetVolsize dataset => ["zfs", "get", "-H", "-p", "-o", "value", "volsize", dataset]

/-- How a process ends. -/
inductive Completed
  | done (stdout : String)
  | failed (returncode : Int) (stderr : String)
  | timedOut

/-- What a backend asks of its host. -/
inductive HostOp
  /-- `subprocess` -/
  | run (c : Command)
  /-- `os.path.exists` -/
  | pathExists (path : String)
  /-- `os.remove` -/
  | remove (path : String)
  /-- `os.path.getsize` -/
  | getsize (path : String)

@[reducible]
def HostAns : HostOp → Type
  | .run _ => Completed
  | .pathExists _ => Bool
  | .remove _ => Option Unit
  | .getsize _ => Option Int

inductive StorageError
  /-- `StorageOperationError`: the scope check. -/
  | outside (volumeId : String)
  /-- `StorageOperationError`: `_validate_name`. -/
  | unsafeName (name : String)
  /-- `StorageOperationError`: `LVMThinBackend.__init__`. -/
  | poolPath (poolPath : String)
  /-- `StorageOperationError`: the command fails. -/
  | failed (argv : List String) (returncode : Int) (stderr : String)
  /-- `StorageOperationError`: the command times out. -/
  | timedOut (argv : List String)
  /-- `StorageOperationError`: `zfs receive` fails. -/
  | receiveFailed (stderr : String)
  | notImplemented (message : String)
  | osError
  /-- `ValueError`: the output is not what was expected. -/
  | valueError

abbrev StorageM (α : Type) : Type := Script HostOp HostAns StorageError Unit α

/-- `VolumeInfo` -/
structure VolumeInfo where
  volumeId : String
  sizeBytes : Int
  format : String

/-- `run(args)` -/
def run (c : Command) : StorageM String := do
  match ← Script.perform (HostOp.run c) with
  | .done stdout => return stdout
  | .failed returncode stderr => throw (.failed c.argv returncode stderr)
  | .timedOut => throw (.timedOut c.argv)

/-- `run(args, check=False)` -/
def runUnchecked (c : Command) : StorageM Unit := do
  match ← Script.perform (HostOp.run c) with
  | .timedOut => throw (.timedOut c.argv)
  | _ => return ()

/-! ## Outputs -/

/-- A number that a command prints. -/
def printed (stdout : String) : StorageM Int :=
  match readInt stdout with
  | some n => return n
  | none => throw .valueError

/-! ## Backends -/

/-- `_validate_name` -/
def validateName (name : String) : StorageM Unit :=
  if safeName name then return () else throw (.unsafeName name)

/-- The volume group of an LVM or LVM-thin pool. -/
def groupOf (poolPath : String) : Backend → String
  | .lvmThin => String.ofList (volumeGroup poolPath)
  | _ => poolPath

/-- The check of a scope, which asks `os.path.realpath` about paths. -/
def assertWithin (realpath : String → String) (b : Backend) (poolPath volumeId : String) : StorageM Unit :=
  if b.owns { realpath := realpath } poolPath volumeId then return () else throw (.outside volumeId)

/-- `delete_volume` -/
def deleteVolume (realpath : String → String) (b : Backend) (poolPath volumeId : String) : StorageM Unit := do
  assertWithin realpath b poolPath volumeId
  match b with
  | .directory =>
    let there : Bool ← Script.perform (HostOp.pathExists volumeId)
    if there then
      match ← Script.perform (HostOp.remove volumeId) with
      | some () => return ()
      | none => throw .osError
    else return ()
  | .lvm | .lvmThin => let _ ← run (.lvremove volumeId)
  | .zfs => let _ ← run (.zfsDestroyTree volumeId)

/-- `resize_volume` -/
def resizeVolume (realpath : String → String) (b : Backend) (poolPath volumeId : String) (size : Int) :
    StorageM Unit := do
  assertWithin realpath b poolPath volumeId
  match b with
  | .directory => let _ ← run (.qemuResize volumeId size)
  | .lvm | .lvmThin => let _ ← run (.lvextend size volumeId)
  | .zfs => let _ ← run (.zfsSetVolsize size volumeId)

/-- `_lv_size_bytes` -/
def lvSizeBytes (volumeId : String) : StorageM Int := do
  let stdout ← run (.lvs volumeId)
  printed stdout

/-- `_qcow2_virtual_size`, with what `json.loads` makes of the output. -/
def qcow2VirtualSize (loads : String → Option Dict) (path : String) : StorageM Int := do
  let stdout ← run (.qemuInfo path)
  match loads stdout with
  | some info => return info.getInt "virtual-size" 0
  | none => throw .valueError

/-- The end of a pipe, which nothing times. -/
def received : Completed → StorageM Unit
  | .done _ => return ()
  | .failed _ stderr => throw (.receiveFailed stderr)
  | .timedOut => throw .osError

/-- The pipe of `_pipe_send_receive` -/
def receive (snap dest : String) : StorageM Unit :=
  Script.perform (HostOp.run (.zfsSendReceive snap dest)) >>= received

/-- `_pipe_send_receive` -/
def pipeSendReceive (source dest : String) : StorageM Unit := do
  let snap := source ++ "@full-clone-tmp"
  let _ ← run (.zfsSnapshot snap)
  tryCatch (receive snap dest) fun e => do
    runUnchecked (.zfsDestroy snap)
    throw e
  runUnchecked (.zfsDestroy snap)

/-- The format of an image, as `qemu-img info` prints it. -/
def printsQcow2 (stdout : String) : Bool :=
  stdout.toList.tails.any fun rest => "\"format\": \"qcow2\"".toList.isPrefixOf rest

/-- The copy of a file, or its overlay. -/
def copyFile (source dest format : String) (overlay : Bool) : StorageM Unit :=
  if overlay then do let _ ← run (.qemuCreate source dest)
  else do let _ ← run (.qemuConvert format source dest)

/-- The size of a copy. -/
def copiedSize (loads : String → Option Dict) (dest : String) (linked : Bool) : StorageM Int :=
  if linked then qcow2VirtualSize loads dest
  else do
    match ← Script.perform (HostOp.getsize dest) with
    | some size => return size
    | none => throw .osError

/-- `clone_volume` of a directory, of a source that is within it. -/
def cloneFile (loads : String → Option Dict) (source dest : String) (linked : Bool) : StorageM VolumeInfo := do
  let info ← run (.qemuInfo source)
  let format := if printsQcow2 info then "qcow2" else "raw"
  copyFile source dest format (linked && printsQcow2 info)
  let size ← copiedSize loads dest linked
  return ⟨dest, size, format⟩

/-- The new volume of `LVMThinBackend.clone_volume`. A thin snapshot is a cheap linked clone. -/
def cloneThin (vg thinpool source dest newName : String) (linked : Bool) : StorageM Unit :=
  if linked then do let _ ← run (.lvcreateSnapshot newName source)
  else do
    let size ← lvSizeBytes source
    let _ ← run (.lvcreateThin vg thinpool size newName)
    let _ ← run (.dd source dest)

/-- The new volume of `ZFSBackend.clone_volume`. -/
def cloneDataset (source dest newName : String) (linked : Bool) : StorageM Unit :=
  if linked then do
    let snap := source ++ "@clone-base-" ++ newName
    let _ ← run (.zfsSnapshot snap)
    let _ ← run (.zfsClone snap dest)
  else pipeSendReceive source dest

/-- `clone_volume` -/
def cloneVolume (realpath : String → String) (loads : String → Option Dict) (b : Backend)
    (poolPath source newName : String) (linked : Bool) : StorageM VolumeInfo :=
  let dest := b.volumeId poolPath newName
  match b with
  | .directory => do
    assertWithin realpath b poolPath source
    validateName newName
    cloneFile loads source dest linked
  | .lvm =>
    if linked then
      throw (.notImplemented "Linked clones are not supported on plain LVM; use an LVM-thin pool.")
    else do
      validateName newName
      let size ← lvSizeBytes source
      let _ ← run (.lvcreate size newName poolPath)
      let _ ← run (.dd source dest)
      return ⟨dest, size, "raw"⟩
  | .lvmThin => do
    validateName newName
    cloneThin (groupOf poolPath b) (String.ofList (thinPool poolPath)) source dest newName linked
    let size ← lvSizeBytes dest
    return ⟨dest, size, "raw"⟩
  | .zfs => do
    validateName newName
    cloneDataset source dest newName linked
    let stdout ← run (.zfsGetVolsize dest)
    let size ← printed stdout
    return ⟨dest, size, "raw"⟩

/-- A call of a backend. -/
inductive Call
  | delete (volumeId : String)
  | resize (volumeId : String) (size : Int)
  | clone (source newName : String) (linked : Bool)

/-- The backend is made, and called. -/
def Call.script (realpath : String → String) (loads : String → Option Dict) (b : Backend) (poolPath : String)
    (call : Call) : StorageM Unit :=
  if b = .lvmThin ∧ thinPool poolPath = [] then throw (.poolPath poolPath)
  else match call with
  | delete volumeId => deleteVolume realpath b poolPath volumeId
  | resize volumeId size => resizeVolume realpath b poolPath volumeId size
  | clone source newName linked => do
    let _ ← cloneVolume realpath loads b poolPath source newName linked

/-! ## What an argument stands for -/

/-- What a command may be about. -/
inductive Thing
  | file (path : List Text)
  | volumeGroup (name : Text)
  | logicalVolume (vg name : Text)
  | dataset (name : Text)
  | snapshot (dataset name : Text)

inductive LvKind
  | thick
  | thinPool
  | thin (pool : Text)
deriving DecidableEq

/-- The host of an agent. -/
structure PoolHost where
  /-- `os.path.realpath` -/
  realpath : String → String
  /-- The entry of a directory that a path leads to, where a link at its end is not followed. -/
  entry : String → String
  /-- The logical volume whose device a path leads to. -/
  device : String → Option (Text × Text)
  /-- The logical volumes that are there. -/
  kind : Text → Text → Option LvKind
  /-- The ZFS datasets that are there. -/
  datasets : List Text
  /-- The volumes of other pools. -/
  foreign : Thing → Bool
  /-- `json.loads` -/
  loads : String → Option Dict

/-- An argument of a command. -/
inductive Operand
  /-- The path of a file to remove. -/
  | entry (path : String)
  /-- The file name of an image, for `qemu-img`. -/
  | image (path : String)
  /-- The file that `dd` opens. -/
  | node (path : String)
  /-- A positional argument of an LVM command. -/
  | lvm (name : String)
  | dataset (name : String)
  /-- A dataset with all that is below it. -/
  | tree (name : String)
  /-- The snapshot of a dataset. -/
  | snapshot (name : String)

/-- Where `qemu-img` looks for a backing file: a relative name starts at the directory of the image. -/
def backingPath (dest backing : String) : String :=
  if backing.toList.head? = some '/' then backing
  else String.ofList ((dest.toList.reverse.dropWhile (· ≠ '/')).reverse ++ backing.toList)

/-- What a command destroys, writes or reads. -/
def Command.operands : Command → List Operand
  | qemuInfo path | qemuResize path _ => [.image path]
  | qemuCreate backing dest => [.image (backingPath dest backing), .image dest]
  | qemuConvert _ source dest => [.image source, .image dest]
  | lvremove volume | lvextend _ volume | lvs volume => [.lvm volume]
  | lvcreate _ _ _ | lvcreateThin _ _ _ _ => []
  | lvcreateSnapshot _ source => [.lvm source]
  | dd source dest => [.node source, .node dest]
  | zfsDestroyTree dataset => [.tree dataset]
  | zfsSetVolsize _ dataset | zfsGetVolsize dataset => [.dataset dataset]
  | zfsSnapshot snap | zfsClone snap _ | zfsSendReceive snap _ | zfsDestroy snap => [.snapshot snap]

def HostOp.operands : HostOp → List Operand
  | run c => c.operands
  | remove path => [.entry path]
  | pathExists _ | getsize _ => []

/-- A name of `qemu-img` that is neither an option nor has a protocol. -/
def plainPath (path : String) : Bool :=
  path.toList.head? ≠ some '-' ∧ (path.toList.dropWhile fun c => c ≠ ':' ∧ c ≠ '/').head? ≠ some ':'

/-- A name of a volume group or a logical volume. -/
def lvmName (name : Text) : Bool :=
  name ≠ [] ∧ name.head? ≠ some '-' ∧ name ≠ ['.'] ∧ name ≠ ['.', '.'] ∧
    name.all fun c => c.isAlphanum ∨ c ∈ ['+', '_', '.', '-']

def zfsChar (c : Char) : Bool := c.isAlphanum ∨ c ∈ ['_', '-', ':', '.', ' ']

def zfsPart (part : Text) : Bool := part ≠ [] ∧ part ≠ ['.'] ∧ part ≠ ['.', '.']

/-- A name of a dataset: parts between slashes. -/
def datasetName (name : Text) : Bool :=
  name.head? ≠ some '-' ∧ (name.all fun c => zfsChar c ∨ c = '/') ∧ (name.splitOn '/').all zfsPart

/-- A name of a snapshot, behind the `@`. -/
def snapshotName (name : Text) : Bool := zfsPart name ∧ name.all zfsChar

/-- The dataset is below another one. -/
def isBelow (above name : Text) : Bool := (above ++ ['/']).isPrefixOf name

namespace PoolHost

variable (h : PoolHost)

/-- A positional argument of an LVM command: a volume group, or one of its logical volumes. -/
def lvmArg (name : String) : Option (Text × Option Text) :=
  if name.toList.head? = some '/' then (h.device name).map fun lv => (lv.1, some lv.2)
  else match partition '/' name.toList with
  | (vg, none) => if lvmName vg then some (vg, none) else none
  | (vg, some lv) => if lvmName vg ∧ lvmName lv then some (vg, some lv) else none

/-- What is behind a path that `dd` opens. -/
def behind (path : String) : Thing :=
  match h.device path with
  | some (vg, name) => .logicalVolume vg name
  | none => .file (components (h.realpath path))

/-- The argument stands for the thing, alone or among others. LVM takes a volume group for all its logical
volumes, and a thin pool goes with its volumes. -/
def Covers : Operand → Thing → Prop
  | .entry path, x => x = .file (components (h.entry path))
  | .image path, x => plainPath path = true ∧ x = .file (components (h.realpath path))
  | .node path, x => x = h.behind path
  | .lvm name, x => match h.lvmArg name with
    | none => False
    | some (vg, none) =>
      x = .volumeGroup vg ∨ ∃ lv, x = .logicalVolume vg lv ∧ h.kind vg lv ≠ none
    | some (vg, some lv) => x = .logicalVolume vg lv ∨
      h.kind vg lv = some .thinPool ∧ ∃ other, x = .logicalVolume vg other ∧ h.kind vg other = some (.thin lv)
  | .dataset name, x => datasetName name.toList = true ∧ x = .dataset name.toList
  | .tree name, x => match partition '@' name.toList with
    | (_, none) => datasetName name.toList = true ∧
      (x = .dataset name.toList ∨ ∃ d ∈ h.datasets, isBelow name.toList d = true ∧ x = .dataset d)
    | (dataset, some snap) => x = .snapshot dataset snap
  | .snapshot name, x => match partition '@' name.toList with
    | (_, none) => False
    | (dataset, some snap) => datasetName dataset = true ∧ snapshotName snap = true ∧ x = .dataset dataset

/-- A volume strictly inside the pool, and of no other pool. -/
def Inside (b : Backend) (poolPath : String) (x : Thing) : Prop :=
  h.foreign x = false ∧ match b, x with
    | .directory, .file path =>
      (components (h.realpath poolPath)).isPrefixOf path = true ∧ components (h.realpath poolPath) ≠ path
    | .lvm, .logicalVolume vg name =>
      vg = poolPath.toList ∧ lvmName vg = true ∧ lvmName name = true ∧ h.kind vg name ≠ some .thinPool
    | .lvmThin, .logicalVolume vg name =>
      vg = volumeGroup poolPath ∧ lvmName vg = true ∧ lvmName name = true ∧ name ≠ thinPool poolPath ∧
        (h.kind vg name = none ∨ h.kind vg name = some (.thin (thinPool poolPath)))
    | .zfs, .dataset name => isBelow poolPath.toList name = true
    | _, _ => False

/-- The argument stands for one volume strictly inside the pool, and for nothing else. -/
def Within (b : Backend) (poolPath : String) (x : Operand) : Prop :=
  ∃ volume, h.Inside b poolPath volume ∧ ∀ y, h.Covers x y ↔ y = volume

/-- The answers that a host may give: nothing is made whose name is taken. -/
def Possible : (o : HostOp) → HostAns o → Prop
  | .run (.lvcreate _ name vg), .done _ => h.kind vg.toList name.toList = none
  | .run (.lvcreateThin vg _ _ name), .done _ => h.kind vg.toList name.toList = none
  | .run (.lvcreateSnapshot name source), .done _ =>
    ∀ vg lv, h.lvmArg source = some (vg, lv) → h.kind vg name.toList = none
  | .run (.zfsClone _ dest), .done _ => dest.toList ∉ h.datasets
  | .run (.zfsSendReceive _ dest), .done _ => dest.toList ∉ h.datasets
  | _, _ => True

/-- **Every command that the call runs, whatever the host answers, is about one volume inside the pool.** -/
def Contained (b : Backend) (poolPath : String) (call : Call) : Prop :=
  Script.Obeys h.Possible (fun o => ∀ x ∈ o.operands, h.Within b poolPath x) (fun _ => True)
    (call.script h.realpath h.loads b poolPath)

end PoolHost

end NodePilot.Agent.Pools
