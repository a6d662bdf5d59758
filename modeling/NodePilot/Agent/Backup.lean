import Mathlib.Logic.Function.Basic
import NodePilot.Agent.Dispatcher
import NodePilot.Lib.Prog

/-!
# Backups on the agent

`operations/backup_ops.py`. An archive is a file in the directory of a LOCAL or NFS target, or an
object in the bucket of one that speaks S3. What `qemu-img convert` writes, what `hashlib` computes
and whom an endpoint serves is up to the tools of the host. The working copy of an object is in a
temporary directory, which no path of a payload leads to.
-/

namespace NodePilot.Agent

open Lib

/-- The bytes of a file or an object. -/
abbrev Content : Type := List UInt8

/-! ## Commands -/

/-- A file: at a path, or `backup.qcow2` in a temporary directory. -/
inductive Place
  | path (name : Text)
  | temporary (directory : Text)
deriving DecidableEq

/-- The argument that names the file. -/
def Place.text : Place → Text
  | .path name => name
  | .temporary directory => joinPath directory "backup.qcow2".toList

/-- `boto3.client("s3", ...)` -/
structure S3Client where
  endpointUrl : Option Text
  accessKeyId : Option Text
  secretAccessKey : Option Text
  regionName : Option Text

/-- What a handler asks of its host. -/
inductive BackupCommand
  | makedirs (path : Text)
  | pathExists (path : Text)
  /-- `qemu-img convert -O` -/
  | convert (format : Text) (source dest : Place)
  /-- `_sha256_file` -/
  | sha256 (file : Place)
  | getsize (file : Place)
  | importBoto3
  | uploadFile (client : S3Client) (file : Place) (bucket key : Text)
  | downloadFile (client : S3Client) (bucket key : Text) (file : Place)
  | mkdtemp (start : Text)
  | rmtree (directory : Text)

/-- How a run of `qemu-img` ends. -/
inductive ConvertAnswer
  | done
  | failed (returncode : Int) (stderr : Text)
  | timedOut
deriving DecidableEq

@[reducible]
def BackupAns : BackupCommand → Type
  | .makedirs _ | .pathExists _ | .importBoto3 | .uploadFile _ _ _ _ | .downloadFile _ _ _ _ => Bool
  | .convert _ _ _ => ConvertAnswer
  | .sha256 _ => Option Text
  | .getsize _ => Option Nat
  | .mkdtemp _ => Text
  | .rmtree _ => Unit

/-- The exceptions of a handler. -/
inductive BackupError
  | payload (e : AgentError)
  | storageOperation (message : Text)
  | notImplemented (targetType : Text)
  | attributeError
  | fileNotFound
  | osError
  /-- What `boto3` raises. -/
  | client
deriving DecidableEq

/-- A handler that keeps archives. -/
abbrev BackupM (α : Type) : Type := Script BackupCommand BackupAns BackupError Unit α

/-- One command, as a statement of a handler. -/
abbrev ask (command : BackupCommand) : BackupM (BackupAns command) := Script.perform command

/-- What is read from a payload. -/
def given {α : Type} : Except AgentError α → BackupM α
  | .ok a => pure a
  | .error e => throw (.payload e)

/-- A command that is done or raises. -/
def orElse (done : Bool) (e : BackupError) : BackupM Unit := if done then pure () else throw e

/-! ## `backup_ops.py` -/

/-- `payload[key]` where an object is needed. -/
def requireObj (d : Dict) (key : String) : Except AgentError Dict :=
  match d.get? key with
  | some (.obj fields) => .ok fields
  | some _ => .error (.typeError key)
  | none => .error (.keyError key)

/-- `config.get(key, default)` where a string or `None` is needed. -/
def optionalText (d : Dict) (key : String) (default : Option Text := none) :
    Except AgentError (Option Text) :=
  match d.get? key with
  | some (.str s) => .ok (some s.toList)
  | some .null => .ok none
  | some _ => .error (.typeError key)
  | none => .ok default

/-- `target_type in _FILE_BASED_TARGETS` -/
def fileBased (targetType : Text) : Bool := targetType = "LOCAL".toList ∨ targetType = "NFS".toList

/-- `target_type in _S3_COMPATIBLE_TARGETS` -/
def s3Compatible (targetType : Text) : Bool :=
  targetType = "S3".toList ∨ targetType = "MINIO".toList ∨ targetType = "CEPH".toList

/-- `payload.get("volume_id") or payload.get("destination_volume_id")` -/
def destinationVolume (payload : Dict) : Option Json :=
  match payload.get? "volume_id" with
  | some v => if v.truthy then some v else payload.get? "destination_volume_id"
  | none => payload.get? "destination_volume_id"

/-- A volume that the payload has to name. -/
def requireVolume (volume : Option Json) (message : String) : BackupM Text :=
  match volume with
  | some (.str s) =>
    if s = "" then throw (.storageOperation message.toList) else pure s.toList
  | some v =>
    if v.truthy then throw (.payload (.typeError "volume_id"))
    else throw (.storageOperation message.toList)
  | none => throw (.storageOperation message.toList)

/-- `run(["qemu-img", "convert", "-O", ...])` -/
def runConvert (format : Text) (source dest : Place) : BackupM Unit := do
  let line := List.intercalate " ".toList
    ["qemu-img".toList, "convert".toList, "-O".toList, format, source.text, dest.text]
  let answer : ConvertAnswer ← ask (.convert format source dest)
  match answer with
  | .done => pure ()
  | .failed returncode stderr => throw (.storageOperation
      (line ++ " failed (exit ".toList ++ decimal returncode ++ "): ".toList ++ stderr))
  | .timedOut => throw (.storageOperation (line ++ " timed out after 300s".toList))

/-- `_sha256_file` -/
def sha256File (file : Place) : BackupM Text := do
  let digest : Option Text ← ask (.sha256 file)
  match digest with
  | some digest => return digest
  | none => throw .fileNotFound

/-- `os.path.getsize` -/
def getsize (file : Place) : BackupM Nat := do
  let size : Option Nat ← ask (.getsize file)
  match size with
  | some size => return size
  | none => throw .fileNotFound

/-- The client that a config asks for. -/
def clientOf (config : Dict) : Except AgentError S3Client := do
  return { endpointUrl := ← optionalText config "endpoint_url"
           accessKeyId := ← optionalText config "access_key_id"
           secretAccessKey := ← optionalText config "secret_access_key"
           regionName := ← optionalText config "region" (some "us-east-1".toList) }

/-- `_s3_client` -/
def s3Client (config : Dict) : BackupM S3Client := do
  let installed : Bool ← ask .importBoto3
  orElse installed (.storageOperation "boto3 is not installed on this agent; install the 's3' extra to use S3/MinIO/Ceph backup targets.".toList)
  given (clientOf config)

/-- `config.get("prefix", "nodepilot-backups").rstrip("/")` -/
def keyStart (config : Dict) : BackupM Text :=
  match config.get? "prefix" with
  | none => pure "nodepilot-backups".toList
  | some (.str s) => pure (s.toList.reverse.dropWhile (· = '/')).reverse
  | some _ => throw .attributeError

/-- `with tempfile.TemporaryDirectory(...)` -/
def withTemporaryDirectory {α : Type} (start : Text) (body : Text → BackupM α) : BackupM α := do
  let directory : Text ← ask (.mkdtemp start)
  let a ← tryCatch (body directory) fun e => do
    ask (.rmtree directory)
    throw e
  ask (.rmtree directory)
  return a

/-- What CREATE_BACKUP is answered with. -/
def backupData (ref : Text) (size : Nat) (checksum : Text) : Dict :=
  [("backup_ref", .str (String.ofList ref)), ("size_bytes", .int size),
   ("checksum", .str (String.ofList checksum))]

/-- `create_backup` -/
def createBackup (payload : Dict) : BackupM Dict := do
  let targetType ← given (requireStr payload "target_type")
  let volumeId ← requireVolume (payload.get? "volume_id")
    "create_backup requires the VM's primary disk volume_id in the payload."
  if fileBased targetType then
    let target ← given (requireObj payload "target")
    let targetDir ← given (requireStr target "path")
    let made : Bool ← ask (.makedirs targetDir)
    orElse made .osError
    let uuid ← given (requireStr payload "backup_uuid")
    let dest := joinPath targetDir (uuid ++ ".qcow2".toList)
    runConvert "qcow2".toList (.path volumeId) (.path dest)
    let checksum ← sha256File (.path dest)
    let sizeBytes ← getsize (.path dest)
    return backupData dest sizeBytes checksum
  else if s3Compatible targetType then
    let config ← given (requireObj payload "target")
    let client ← s3Client config
    let start ← keyStart config
    let uuid ← given (requireStr payload "backup_uuid")
    let key := start ++ "/".toList ++ uuid ++ ".qcow2".toList
    withTemporaryDirectory "nodepilot-backup-".toList fun directory => do
      let localPath := .temporary directory
      runConvert "qcow2".toList (.path volumeId) localPath
      let checksum ← sha256File localPath
      let sizeBytes ← getsize localPath
      let bucket ← given (requireStr config "bucket")
      let uploaded : Bool ← ask (.uploadFile client localPath bucket key)
      orElse uploaded .client
      return backupData key sizeBytes checksum
  else
    throw (.notImplemented targetType)

/-- `restore_backup` -/
def restoreBackup (payload : Dict) : BackupM Unit := do
  let targetType ← given (requireStr payload "target_type")
  let backupRef ← given (requireStr payload "backup_ref")
  let volumeId ← requireVolume (destinationVolume payload)
    "restore_backup requires the destination volume_id in the payload."
  let format ← given (optionalStr payload "format" "qcow2".toList)
  if fileBased targetType then
    let found : Bool ← ask (.pathExists backupRef)
    orElse found (.storageOperation ("Backup artifact not found: ".toList ++ backupRef))
    runConvert format (.path backupRef) (.path volumeId)
  else if s3Compatible targetType then
    let config ← given (requireObj payload "target")
    let client ← s3Client config
    withTemporaryDirectory "nodepilot-restore-".toList fun directory => do
      let bucket ← given (requireStr config "bucket")
      let downloaded : Bool ←
        ask (.downloadFile client bucket backupRef (.temporary directory))
      orElse downloaded .client
      runConvert format (.temporary directory) (.path volumeId)
  else
    throw (.notImplemented targetType)

/-! ## Archives -/

/-- What one run of `qemu-img convert` does: how it ends, and what it has written then. -/
structure Conversion where
  answer : ConvertAnswer
  written : Option Content

/-- The tools of a host. -/
structure Tools where
  sha256 : Content → Text
  /-- The conversion of a source to a format, over what the destination holds. -/
  convert : Text → Option Content → Option Content → Conversion
  boto3 : Bool := true
  /-- The endpoint lets the client at the bucket. -/
  admits : S3Client → Text → Bool := fun _ _ => true
  makes : Text → Bool := fun _ => true
  mkdtemp : Text → Text := id

/-- The files of a host and the objects it reaches, by endpoint, bucket and key. -/
structure Store where
  files : Place → Option Content
  objects : Option Text → Text → Text → Option Content
  /-- The files that `qemu-img` has written, newest first. -/
  written : List Place := []

namespace Tools

variable (tools : Tools)

def convertFile (format : Text) (source dest : Place) (s : Store) : Conversion :=
  tools.convert format (s.files source) (s.files dest)

def handle : Handler BackupCommand BackupAns Store
  | .makedirs path, s => (tools.makes path, s)
  | .pathExists path, s => ((s.files (.path path)).isSome, s)
  | .convert format source dest, s =>
    let c := tools.convertFile format source dest s
    (c.answer, match c.written with
      | some content => { s with files := Function.update s.files dest (some content)
                                 written := dest :: s.written }
      | none => s)
  | .sha256 file, s => ((s.files file).map tools.sha256, s)
  | .getsize file, s => ((s.files file).map List.length, s)
  | .importBoto3, s => (tools.boto3, s)
  | .uploadFile client file bucket key, s =>
    match s.files file with
    | some content =>
      if tools.admits client bucket then
        (true, { s with objects := fun endpoint b k =>
          if endpoint = client.endpointUrl ∧ b = bucket ∧ k = key then some content
          else s.objects endpoint b k })
      else (false, s)
    | none => (false, s)
  | .downloadFile client bucket key file, s =>
    match s.objects client.endpointUrl bucket key with
    | some content =>
      if tools.admits client bucket then
        (true, { s with files := Function.update s.files file (some content) })
      else (false, s)
    | none => (false, s)
  | .mkdtemp start, s => (tools.mkdtemp start, s)
  | .rmtree directory, s => ((), { s with files := Function.update s.files (.temporary directory) none })

/-- The end of a handler on the host. -/
def execute {α : Type} (x : BackupM α) (s : Store) : Except BackupError α × Store :=
  let r := Script.exec tools.handle x () s
  (r.1, r.2.2)

/-- The content of the artifact that a reference leads to. -/
def artifact (targetType : Text) (config : Dict) (ref : Text) (s : Store) : Option Content :=
  if fileBased targetType then s.files (.path ref)
  else if s3Compatible targetType then
    match clientOf config, requireStr config "bucket" with
    | .ok client, .ok bucket =>
      if tools.admits client bucket then s.objects client.endpointUrl bucket ref else none
    | _, _ => none
  else none

end Tools

end NodePilot.Agent
