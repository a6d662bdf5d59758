import NodePilot.Agent.DiskCreation

/-!
# The download of an image

`download_image` of `image_fetch.py`, and `create_disk` and `_seed_from_image` of `operations/disk_ops.py` around it,
statement by statement: the temporary directory, the two `with` blocks, the chunks of the response that go to the file
and to the digest, and the conversion. Any statement that leaves Python may raise.
-/

namespace NodePilot.Agent.ImageFetch

open Lib DiskCreation
open Pools (Completed VolumeInfo StorageError)

/-! ## What the host is asked -/

/-- What a statement raises. -/
inductive Raised
  /-- `httpx.HTTPError` -/
  | httpError (reason : String)
  /-- Any other `Exception`. -/
  | other

/-- What `response.iter_bytes` yields, and what it raises then. -/
structure Stream where
  chunks : List (List UInt8)
  raises : Option Raised := none

/-- A directory that `mkdtemp(prefix="nodepilot-image-")` makes. -/
structure TempDir where
  parent : String
  random : String
  plain : '/' ∉ random.toList

def TempDir.path (dir : TempDir) : String := dir.parent ++ "/" ++ "nodepilot-image-" ++ dir.random

inductive FetchOp
  | make (c : MakeCommand)
  | mkdtemp
  /-- `client.stream("GET", url, headers=headers)`, of `/api/v1/agent/images/{image_uuid}/download/`. -/
  | connect (config : AgentConfig) (imageUuid : Json)
  /-- `open(path, "wb")` -/
  | openFile (path : String)
  /-- `response.iter_bytes(_CHUNK_SIZE)` -/
  | iterBytes
  | write (path : String) (chunk : List UInt8)
  | closeFile (path : String)
  /-- The ends of the two `with` blocks of the request. -/
  | closeResponse
  /-- `qemu-img convert` -/
  | convert (imageFormat targetFormat source volumeId : String)
  | rmtree (dir : String)

@[reducible]
def FetchAns : FetchOp → Type
  | .make _ => Completed
  | .mkdtemp => Except Raised TempDir
  | .connect _ _ => Except Raised Nat
  | .openFile _ => Except Raised Unit
  | .iterBytes => Stream
  | .write _ _ => Except Raised Unit
  | .closeFile _ => Except Raised Unit
  | .closeResponse => Except Raised Unit
  | .convert _ _ _ _ => Except Raised Completed
  | .rmtree _ => Unit

inductive FetchError
  | raised (r : Raised)
  | disk (e : DiskError)
  /-- A text is asked for `lower` that is none. -/
  | attributeError

/-- The local object is what the digest has been fed. -/
abbrev FetchM (α : Type) : Type := Script FetchOp FetchAns FetchError (List UInt8) α

def attempt {α : Type} : Except Raised α → FetchM α
  | .ok a => return a
  | .error r => throw (.raised r)

def refused {α : Type} (e : DiskError) : FetchM α := throw (.disk e)

/-- The end of a process that is checked. -/
def finished (argv : List String) : Completed → FetchM Unit
  | .done _ => return ()
  | .failed returncode stderr => refused (.storage (.failed argv returncode stderr))
  | .timedOut => refused (.storage (.timedOut argv))

/-! ## The download -/

/-- The loop over the chunks: each goes to the file and to the digest. -/
def storeChunks (path : String) : List (List UInt8) → FetchM Unit
  | [] => return ()
  | chunk :: rest => do
    attempt (← Script.perform (FetchOp.write path chunk))
    modify (· ++ chunk)
    storeChunks path rest

/-- The response, inside the `with` block of the file. -/
def storeResponse (path : String) : FetchM Unit := do
  let stream ← Script.perform FetchOp.iterBytes
  storeChunks path stream.chunks
  match stream.raises with
  | some r => throw (.raised r)
  | none => return ()

/-- The `try` block of `download_image`. -/
def fetch (config : AgentConfig) (imageUuid : Json) (path : String) : FetchM Unit := do
  let status ← attempt (← Script.perform (FetchOp.connect config imageUuid))
  Script.ensuring (do
    if status ≠ 200 then refused (.httpStatus imageUuid status)
    else
      attempt (← Script.perform (FetchOp.openFile path))
      Script.ensuring (storeResponse path) (do attempt (← Script.perform (FetchOp.closeFile path))))
    (do attempt (← Script.perform FetchOp.closeResponse))

/-- `except httpx.HTTPError` -/
def converted (imageUuid : Json) : FetchError → FetchError
  | .raised (.httpError reason) => .disk (.httpError imageUuid reason)
  | e => e

/-- The check of the checksum, after the `try` block. A truthy checksum that is no text has no `lower`. -/
def verify (imageUuid expected : Json) (dir actual : String) : FetchM Unit :=
  if expected.truthy then
    match expected with
    | .str text =>
      if String.ofList (lower text.toList) ≠ actual then do
        Script.perform (FetchOp.rmtree dir)
        refused (.checksum imageUuid text actual)
      else return ()
    | _ => throw .attributeError
  else return ()

section Sha256

variable (sha256 : List UInt8 → String)

/-- `download_image` -/
def downloadImage (config : AgentConfig) (imageUuid expected : Json) : FetchM String := do
  let dir ← attempt (← Script.perform FetchOp.mkdtemp)
  let path := imagePath dir.path
  modify fun _ => []
  tryCatch (fetch config imageUuid path) fun e => do
    Script.perform (FetchOp.rmtree dir.path)
    throw (converted imageUuid e)
  let fed ← get
  verify imageUuid expected dir.path (sha256 fed)
  return path

/-- The conversion. An image format that is no text cannot be an argument of a process. -/
def convert (imageFormat : Json) (targetFormat path volumeId : String) : FetchM Unit :=
  if imageFormat.truthy then
    match imageFormat with
    | .str format => do
      let outcome ← attempt (← Script.perform (FetchOp.convert format targetFormat path volumeId))
      finished (convertArgv format targetFormat path volumeId) outcome
    | _ => refused (.payload (.typeError "image_format"))
  else do
    let outcome ← attempt (← Script.perform (FetchOp.convert "" targetFormat path volumeId))
    finished (convertArgv "" targetFormat path volumeId) outcome

/-- `_seed_from_image` -/
def seedFromImage (volumeId targetFormat : String) (imageUuid imageFormat expected : Json) (config : AgentConfig) :
    FetchM Unit := do
  let path ← downloadImage sha256 config imageUuid expected
  Script.ensuring (convert imageFormat targetFormat path volumeId) (Script.perform (FetchOp.rmtree (dirname path)))

/-- The part of `create_disk` for a payload that names an image. -/
def seed (payload : Dict) (info : VolumeInfo) : Option AgentConfig → FetchM Unit
  | none => refused .noConfig
  | some config =>
    seedFromImage sha256 info.volumeId info.format ((payload.get? "image_uuid").getD .null)
      ((payload.get? "image_format").getD (.str "")) ((payload.get? "image_sha256").getD (.str "")) config

/-- The volume stays blank where the payload names no image. -/
def fill (payload : Dict) (info : VolumeInfo) (config : Option AgentConfig) : FetchM Unit :=
  if flag payload "image_uuid" then seed sha256 payload info config else return ()

/-- The payload is read before a process is started. -/
def asked (payload : Dict) : FetchM Asked :=
  match readPayload payload with
  | .ok a => return a
  | .error e => refused e

/-- `create_disk` -/
def createDisk (payload : Dict) (config : Option AgentConfig) : FetchM Dict := do
  let a ← asked payload
  let outcome ← Script.perform (FetchOp.make a.command)
  finished a.command.argv outcome
  fill sha256 payload a.info config
  return answer a.info

end Sha256

/-! ## Hosts -/

/-- What everything outside of the program makes of what it is asked, with every point where it fails. -/
structure Surroundings where
  make : Completed := .done ""
  /-- The process that makes a volume has made it when it fails or is killed. -/
  leaves : Bool := false
  tempDir : Except Raised TempDir
  status : Except Raised Nat := .ok 200
  opens : Except Raised Unit := .ok ()
  stream : Stream
  /-- The writes that raise, and how much of the chunk is written then. -/
  writes : Nat → Option (Raised × Nat) := fun _ => none
  closesFile : Except Raised Unit := .ok ()
  closesResponse : Except Raised Unit := .ok ()
  converts : Except Raised Completed := .ok (.done "")

/-- A conversion that is started, with the content of its source then. -/
structure Conversion where
  argv : List String
  source : String
  content : Option (List UInt8)

/-- The host: its storage, its directories and its files, with the temporary directories it has made, the writes and
the conversions it has started. -/
structure FetchHost where
  storage : Storage
  dirs : List String := []
  files : String → Option (List UInt8) := fun _ => none
  made : List String := []
  written : Nat := 0
  started : List Conversion := []

namespace FetchHost

def put (h : FetchHost) (path : String) (content : List UInt8) : FetchHost :=
  { h with files := fun p => if p = path then some content else h.files p }

/-- Writes at the end of a file. -/
def append (h : FetchHost) (path : String) (bytes : List UInt8) : FetchHost :=
  h.put path ((h.files path).getD [] ++ bytes)

/-- The directory and what is in it are removed. -/
def rmtree (h : FetchHost) (dir : String) : FetchHost :=
  { h with
    dirs := h.dirs.filter (· ≠ dir)
    files := fun p => if (dir ++ "/").toList.isPrefixOf p.toList then none else h.files p }

/-- A write, which may raise. -/
def write (h : FetchHost) (path : String) (chunk : List UInt8) : Option (Raised × Nat) → Except Raised Unit × FetchHost
  | none => (.ok (), { h.append path chunk with written := h.written + 1 })
  | some (r, n) => (.error r, { h.append path (chunk.take n) with written := h.written + 1 })

end FetchHost

def handler (s : Surroundings) : Handler FetchOp FetchAns FetchHost
  | .make c, h =>
    let done := c.run h.storage s.leaves s.make
    (done.1, { h with storage := done.2 })
  | .mkdtemp, h =>
    match s.tempDir with
    | .ok dir => (.ok dir, { h with dirs := dir.path :: h.dirs, made := dir.path :: h.made })
    | .error r => (.error r, h)
  | .connect _ _, h => (s.status, h)
  | .openFile path, h =>
    match s.opens with
    | .ok () => (.ok (), h.put path [])
    | .error r => (.error r, h)
  | .iterBytes, h => (s.stream, h)
  | .write path chunk, h => h.write path chunk (s.writes h.written)
  | .closeFile _, h => (s.closesFile, h)
  | .closeResponse, h => (s.closesResponse, h)
  | .convert imageFormat targetFormat source volumeId, h =>
    (s.converts, { h with
      started := ⟨convertArgv imageFormat targetFormat source volumeId, source, h.files source⟩ :: h.started })
  | .rmtree dir, h => ((), h.rmtree dir)

end NodePilot.Agent.ImageFetch
