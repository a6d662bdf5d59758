import NodePilot.Lib.Pool

/-!
# Chunked image uploads

`apps/images/views.py` and `apps/images/storage_backend.py`: the requests about one upload session
and its image. A request loads the session's row once and works on that object. The `.part` file
and the finished file are paths to inodes: a handle that was opened goes on writing to its inode
when the path is moved or removed.

The digest is computed block after block until the end of the file is reached. Bytes that were read
do not change when the file grows, so what is hashed is the content at the last read.
-/

namespace NodePilot.Uploads

open Lib

abbrev Bytes : Type := List UInt8

/-! ## Rows -/

/-- `ImageStatus` -/
inductive ImageStatus
  | pending | uploading | verifying | ready | failed
deriving DecidableEq

/-- `UploadStatus` -/
inductive UploadStatus
  | uploading | completed | failed | aborted
deriving DecidableEq

/-- `ImageUploadSession` -/
structure Session where
  totalSizeBytes : Nat
  receivedBytes : Nat := 0
  nextChunkIndex : Nat := 0
  expectedSha256 : String := ""
  status : UploadStatus := .uploading
  error : String := ""
deriving DecidableEq

/-- `Image`, the fields that an upload writes. -/
structure Image where
  status : ImageStatus := .uploading
  sizeBytes : Nat := 0
  sha256 : String := ""
deriving DecidableEq

/-- The exceptions a request can meet. -/
inductive Exn
  | outOfOrder (expected : Nat) (got : Int)
  | lockAcquisition
  | valueError
  | uploadEmpty
  | sizeMismatch (expected actual : Nat)
  | checksumMismatch (expected actual : String)
  | fileNotFound
  | osError
  | databaseError
deriving DecidableEq

/-- `str(exc)`. The exception about an empty upload is given an argument that its class does not
take, so a `TypeError` is raised in its place. -/
def Exn.str : Exn → String
  | .outOfOrder expected got =>
    "Expected chunk " ++ toString expected ++ ", got " ++ toString got ++ "."
  | .lockAcquisition => "Could not acquire lock: resource is busy"
  | .valueError => "invalid literal for int() with base 10"
  | .uploadEmpty =>
    "NodePilotAPIException.__init__() got an unexpected keyword argument 'status_code'"
  | .sizeMismatch _ _ => "The uploaded bytes do not match the declared total size."
  | .checksumMismatch _ _ => "The computed checksum does not match the expected checksum."
  | .fileNotFound => "[Errno 2] No such file or directory"
  | .osError => "[Errno 28] No space left on device"
  | .databaseError => "database error"

/-- What a request is answered with. -/
inductive Response
  /-- A chunk was written. -/
  | chunk (receivedBytes nextChunkIndex chunkBytes : Nat)
  | image (row : Image)
  | noContent
  /-- An error the view answers itself, by its code. -/
  | refused (code : String)
  /-- An exception that left the view. -/
  | raised (e : Exn)
deriving DecidableEq

/-! ## Operations -/

/-- `image.save(update_fields=...)` -/
structure ImageFields where
  status : ImageStatus
  sizeBytes : Option Nat := none
  sha256 : Option String := none

inductive UploadOp
  /-- `_get_session` -/
  | loadSession
  | loadImage
  /-- `try_lock`'s attempt, and its release. -/
  | acquire
  | release
  /-- `temp_path(session).exists()` -/
  | partExists
  /-- `open(temp_path(session), mode)` for writing. -/
  | openPart (append : Bool)
  /-- `out.write(block)` -/
  | write (handle : Nat) (block : Bytes)
  /-- The save of `write_chunk`. The chunk it counts is named for the record. -/
  | saveCounters (receivedBytes nextChunkIndex : Nat) (chunk : Bytes)
  /-- `source.stat().st_size` -/
  | partSize
  | openRead
  | readAll (handle : Nat)
  /-- `os.replace(source, destination)` -/
  | replace
  | saveSession (status : UploadStatus) (error : Option String)
  | saveImage (fields : ImageFields)
  /-- `temp_path(session).unlink()` -/
  | unlinkPart
  /-- The response leaves. -/
  | respond (r : Response)

@[reducible]
def UploadAns : UploadOp → Type
  | .loadSession => Session
  | .loadImage => Image
  | .acquire | .partExists => Bool
  | .release | .respond _ => Unit
  | .openPart _ | .partSize | .openRead => Except Exn Nat
  | .readAll _ => Bytes
  | .write _ _ | .saveCounters _ _ _ | .replace | .saveSession _ _ | .saveImage _ | .unlinkPart =>
    Except Exn Unit

abbrev UploadM (α : Type) : Type := Script UploadOp UploadAns Exn Unit α

/-- A fallible operation. -/
def call {α : Type} (x : UploadM (Except Exn α)) : UploadM α := do
  match ← x with
  | .ok a => return a
  | .error e => throw e

/-! ## Requests -/

/-- `with try_lock(...)` -/
def tryLock {α : Type} (body : UploadM α) : UploadM α := do
  let acquired : Bool ← Script.perform UploadOp.acquire
  if acquired then
    let a ← tryCatch body fun e => do
      Script.perform UploadOp.release
      throw e
    Script.perform UploadOp.release
    return a
  else
    throw .lockAcquisition

/-- The loop over `uploaded_file.chunks(...)`. -/
def writeBlocks (handle : Nat) : List Bytes → UploadM Unit
  | [] => return ()
  | block :: rest => do
    call (Script.perform (UploadOp.write handle block))
    writeBlocks handle rest

/-- `write_chunk`. The body of the request comes in blocks. The counters are those of the object. -/
def writeChunk (session : Session) (index : Int) (blocks : List Bytes) : UploadM Response := do
  if index ≠ session.nextChunkIndex then
    throw (.outOfOrder session.nextChunkIndex index)
  else
    let append : Bool ← Script.perform UploadOp.partExists
    let handle ← call (Script.perform (UploadOp.openPart append))
    writeBlocks handle blocks
    let written := blocks.flatten.length
    call (Script.perform (UploadOp.saveCounters (session.receivedBytes + written)
      (session.nextChunkIndex + 1) blocks.flatten))
    return .chunk (session.receivedBytes + written) (session.nextChunkIndex + 1) written

/-- `request.query_params.get("index")` -/
inductive IndexParam
  | missing
  | number (n : Int)
  | malformed
deriving DecidableEq

/-- `int(...)` of the parameter, the session's own index where it is missing. -/
def IndexParam.read (session : Session) : IndexParam → UploadM Int
  | .missing => return session.nextChunkIndex
  | .number n => return n
  | .malformed => throw .valueError

/-- `ChunkUploadView.put` -/
def put (index : IndexParam) (body : Option (List Bytes)) : UploadM Response := do
  let session : Session ← Script.perform UploadOp.loadSession
  if session.status ≠ .uploading then
    return .refused "UPLOAD_NOT_ACTIVE"
  else
    let index ← index.read session
    match body with
    | none => return .refused "VALIDATION_FAILED"
    | some blocks =>
      tryCatch (tryLock (writeChunk session index blocks)) fun
        | .lockAcquisition => return .refused "UPLOAD_BUSY"
        | e => throw e

section Finalize

variable (sha256 : Bytes → String)

/-- `finalize_upload` -/
def finalizeUpload (session : Session) : UploadM (String × Nat) := do
  let there : Bool ← Script.perform UploadOp.partExists
  if ¬ there then throw .uploadEmpty
  else
    let actualSize ← call (Script.perform UploadOp.partSize)
    if actualSize ≠ session.totalSizeBytes then
      throw (.sizeMismatch session.totalSizeBytes actualSize)
    else
      let handle ← call (Script.perform UploadOp.openRead)
      let content : Bytes ← Script.perform (UploadOp.readAll handle)
      let checksum := sha256 content
      if session.expectedSha256 ≠ "" ∧ session.expectedSha256.toLower ≠ checksum then
        throw (.checksumMismatch session.expectedSha256 checksum)
      else
        let _ : Image ← Script.perform UploadOp.loadImage
        call (Script.perform UploadOp.replace)
        return (checksum, actualSize)

/-- The `except` branch of `FinalizeUploadView.post`. -/
def finalizeExcept (exc : Exn) : UploadM Unit := do
  call (Script.perform (UploadOp.saveSession .failed (some exc.str)))
  call (Script.perform (UploadOp.saveImage { status := .failed }))

/-- `FinalizeUploadView.post` -/
def finalize : UploadM Response := do
  let session : Session ← Script.perform UploadOp.loadSession
  if session.status = .completed then
    let image : Image ← Script.perform UploadOp.loadImage
    return .image image
  else if session.status ≠ .uploading then
    return .refused "UPLOAD_NOT_ACTIVE"
  else
    let (checksum, size) ← tryCatch (finalizeUpload sha256 session) fun exc => do
      finalizeExcept exc
      throw exc
    call (Script.perform (UploadOp.saveSession .completed none))
    call (Script.perform (UploadOp.saveImage
      { status := .ready, sizeBytes := some size, sha256 := some checksum }))
    return .image { status := .ready, sizeBytes := size, sha256 := checksum }

end Finalize

/-- `abort_upload` -/
def abortUpload : UploadM Unit := do
  let there : Bool ← Script.perform UploadOp.partExists
  if there then call (Script.perform UploadOp.unlinkPart) else return ()

/-- `AbortUploadView.post` -/
def abort : UploadM Response := do
  let _ : Session ← Script.perform UploadOp.loadSession
  abortUpload
  call (Script.perform (UploadOp.saveSession .aborted none))
  call (Script.perform (UploadOp.saveImage { status := .failed }))
  return .noContent

inductive Request
  | put (index : IndexParam) (body : Option (List Bytes))
  | finalize
  | abort
deriving DecidableEq

/-- The view of a request. -/
def Request.view (sha256 : Bytes → String) : Request → UploadM Response
  | .put index body => Uploads.put index body
  | .finalize => Uploads.finalize sha256
  | .abort => Uploads.abort

/-- A request from its arrival to its response. -/
def Request.serve (sha256 : Bytes → String) (r : Request) : UploadM Unit := do
  let response ← tryCatch (r.view sha256) fun e => return .raised e
  Script.perform (UploadOp.respond response)

/-! ## Requests side by side -/

/-- What the requests about one session share. -/
structure Store where
  session : Session
  image : Image := {}
  inodes : List Bytes := []
  /-- `temp_path(session)` -/
  partPath : Option Nat := none
  /-- `final_path(image)` -/
  finalPath : Option Nat := none
  /-- The request that holds the session's lock. -/
  lock : Option Nat := none
  /-- The requests that have loaded the session and are not yet answered, with what they loaded. -/
  loaded : List (Nat × Session) := []
  /-- The requests that arrived, each at its own index. -/
  requests : List Request := []
  /-- The chunks that were counted, in the order of their saves, each with its request. -/
  accepted : List (Nat × Bytes) := []
  answers : List (Nat × Response) := []

/-- What the surroundings decide at one operation. -/
structure Choice where
  fails : Bool := false
  /-- How many bytes of a block reach the file when its write fails. -/
  kept : Nat := 0

namespace Store

def inode (s : Store) (handle : Nat) : Bytes := s.inodes.getD handle []

/-- The content of the `.part` file, nothing where there is none. -/
def part (s : Store) : Bytes := (s.partPath.map s.inode).getD []

def appendTo (s : Store) (handle : Nat) (bytes : Bytes) : Store :=
  { s with inodes := s.inodes.modify handle (· ++ bytes) }

/-- Opening the `.part` file: an existing file is kept or emptied, a missing one is made. -/
def openPart (s : Store) (append : Bool) : Nat × Store :=
  match s.partPath with
  | some handle =>
    (handle, if append then s else { s with inodes := s.inodes.set handle [] })
  | none =>
    (s.inodes.length, { s with inodes := s.inodes ++ [[]], partPath := some s.inodes.length })

def setCounters (s : Store) (receivedBytes nextChunkIndex : Nat) : Session :=
  { s.session with receivedBytes := receivedBytes, nextChunkIndex := nextChunkIndex }

def setStatus (s : Store) (status : UploadStatus) (error : Option String) : Session :=
  { s.session with status := status, error := error.getD s.session.error }

def setImage (s : Store) (f : ImageFields) : Image :=
  { status := f.status
    sizeBytes := f.sizeBytes.getD s.image.sizeBytes
    sha256 := f.sha256.getD s.image.sha256 }

/-- The inode of the `.part` file, if it is there. -/
def partInode (s : Store) : Except Exn Nat :=
  match s.partPath with
  | some handle => .ok handle
  | none => .error .fileNotFound

/-- One operation of a request. -/
def act (c : Choice) (i : Nat) : (o : UploadOp) → Store → Option (UploadAns o × Store)
  | .loadSession, s => some (s.session, { s with loaded := (i, s.session) :: s.loaded })
  | .loadImage, s => some (s.image, s)
  | .acquire, s =>
    match s.lock with
    | none => some (true, { s with lock := some i })
    | some _ => some (false, s)
  | .release, s => some ((), if s.lock = some i then { s with lock := none } else s)
  | .partExists, s => some (s.partPath.isSome, s)
  | .openPart append, s =>
    if c.fails then some (.error .osError, s)
    else some (.ok (s.openPart append).1, (s.openPart append).2)
  | .write handle block, s =>
    if c.fails then some (.error .osError, s.appendTo handle (block.take c.kept))
    else some (.ok (), s.appendTo handle block)
  | .saveCounters receivedBytes nextChunkIndex chunk, s =>
    if c.fails then some (.error .databaseError, s)
    else some (.ok (), { s with
      session := s.setCounters receivedBytes nextChunkIndex
      accepted := s.accepted ++ [(i, chunk)] })
  | .partSize, s => some (s.partInode.map fun h => (s.inode h).length, s)
  | .openRead, s => some (s.partInode, s)
  | .readAll handle, s => some (s.inode handle, s)
  | .replace, s =>
    match s.partPath with
    | none => some (.error .fileNotFound, s)
    | some h =>
      if c.fails then some (.error .osError, s)
      else some (.ok (), { s with partPath := none, finalPath := some h })
  | .saveSession status error, s =>
    if c.fails then some (.error .databaseError, s)
    else some (.ok (), { s with session := s.setStatus status error })
  | .saveImage fields, s =>
    if c.fails then some (.error .databaseError, s)
    else some (.ok (), { s with image := s.setImage fields })
  | .unlinkPart, s =>
    match s.partPath with
    | none => some (.error .fileNotFound, s)
    | some _ => some (.ok (), { s with partPath := none })
  | .respond r, s =>
    some ((), { s with loaded := s.loaded.filter (·.1 ≠ i), answers := (i, r) :: s.answers })

/-- What happens around the requests. -/
inductive Event
  | arrive (r : Request)
  /-- The lock's 60 seconds are over. -/
  | expire

abbrev Worker : Type := Thread Request UploadOp UploadAns (Except Exn Unit × Unit)

def env (sha256 : Bytes → String) : Event → Store → Option (List Worker × Store)
  | .arrive r, s =>
    some ([⟨r, (r.serve sha256).prog ()⟩], { s with requests := s.requests ++ [r] })
  | .expire, s => some ([], { s with lock := none })

/-- The requests about one upload session. -/
def system (sha256 : Bytes → String) :
    System Request UploadOp UploadAns (Except Exn Unit × Unit) Store Choice Event :=
  ⟨act, env sha256⟩

end Store

end NodePilot.Uploads
