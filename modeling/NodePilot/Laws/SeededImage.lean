import NodePilot.Agent.ImageFetch

/-!
# A disk is seeded with the image that was verified

Whatever the stream and wherever the download fails: a conversion is started only on a file that holds the chunks of
the response, one after the other, with the checksum that is asked for; and no temporary directory outlives
`create_disk`. The file and the digest grow in step, and of the directories that were made only the one of this
download may be there, between `mkdtemp` and the `rmtree` of whichever function owns it.
-/

namespace NodePilot.Agent.ImageFetch

open Lib Script DiskCreation
open Pools (Completed VolumeInfo)

/-! ## Directories and conversions -/

/-- A conversion of a file that holds what was received, with the checksum that is asked for. -/
def Verified (sha256 : List UInt8 → String) (s : Surroundings) (expected : String) (c : Conversion) : Prop :=
  c.content = some s.stream.chunks.flatten ∧
    sha256 s.stream.chunks.flatten = String.ofList (lower expected.toList)

/-- **The invariant**: what is converted is verified, and of the temporary directories that were made only one may be
there. -/
structure Owned (sha256 : List UInt8 → String) (s : Surroundings) (expected : String) (owned : Option String)
    (h : FetchHost) : Prop where
  verified : ∀ c ∈ h.started, Verified sha256 s expected c
  gone : ∀ dir ∈ h.made, some dir ≠ owned → dir ∉ h.dirs

variable {sha256 : List UInt8 → String} {s : Surroundings} {expected : String} {owned : Option String}

/-- A step that starts nothing and leaves the directories. -/
theorem Owned.of_same {h h' : FetchHost} (own : Owned sha256 s expected owned h) (started : h'.started = h.started)
    (made : h'.made = h.made) (dirs : h'.dirs = h.dirs) : Owned sha256 s expected owned h' where
  verified := by
    rw [started]
    exact own.verified
  gone := by
    rw [made, dirs]
    exact own.gone

/-- The directory is removed, and none is left. -/
theorem Owned.rmtree {h : FetchHost} {dir : String} (own : Owned sha256 s expected (some dir) h) :
    Owned sha256 s expected none (h.rmtree dir) where
  verified := own.verified
  gone := by
    intro d made _ there
    obtain ⟨there, other⟩ := List.mem_filter.mp there
    exact own.gone d made (fun same => of_decide_eq_true other (Option.some.inj same)) there

theorem Owned.mkdtemp {h : FetchHost} {dir : String} (own : Owned sha256 s expected none h) :
    Owned sha256 s expected (some dir) { h with dirs := dir :: h.dirs, made := dir :: h.made } where
  verified := own.verified
  gone := by
    intro d made other there
    have apart : d ≠ dir := fun same => other (congrArg some same)
    exact own.gone d ((List.mem_cons.mp made).resolve_left apart) nofun ((List.mem_cons.mp there).resolve_left apart)

/-! ## The path of the image -/

/-- The name of a temporary directory does not end with a slash. -/
theorem TempDir.getLast?_path (dir : TempDir) : dir.path.toList.getLast? ≠ some '/' := by
  have plain := dir.plain
  rw [TempDir.path, String.toList_append, List.getLast?_append]
  cases last : dir.random.toList.getLast? with
  | none =>
    rw [String.toList_append, List.getLast?_append]
    simp
  | some c =>
    rintro ⟨⟩
    exact plain (List.mem_of_getLast? last)

/-- The directory of the image that is downloaded is the one that was made for it. -/
theorem dirname_imagePath (dir : TempDir) : dirname (imagePath dir.path) = dir.path := by
  have named : dir.path.toList ≠ [] := by
    simp [TempDir.path]
  have joined : (imagePath dir.path).toList = dir.path.toList ++ '/' :: "image".toList := by
    rw [imagePath, String.toList_ofList, joinPath, if_neg (not_or.mpr ⟨named, dir.getLast?_path⟩)]
    simp
  rw [dirname, joined, List.reverse_append, List.reverse_cons, List.append_assoc]
  simp

/-! ## The download -/

section Download

variable {path : String} {dir : TempDir} {acc : List UInt8}

/-- A value that is given, or raised. -/
theorem attempt_ends {α : Type} {a : Except Raised α} {P : List UInt8 → FetchHost → Prop}
    {Q : α → List UInt8 → FetchHost → Prop} {R : FetchError → List UInt8 → FetchHost → Prop}
    (given : ∀ x, a = .ok x → ∀ l h, P l h → Q x l h) (raised : ∀ r, a = .error r → ∀ l h, P l h → R (.raised r) l h) :
    Triple (handler s) P (attempt a) Q R := by
  cases a with
  | ok x => exact Triple.pure (given x rfl)
  | error r => exact Triple.throw (raised r rfl)

/-- The file holds what the digest has been fed. -/
def Storing (sha256 : List UInt8 → String) (s : Surroundings) (expected : String) (owned : Option String)
    (path : String) (acc l : List UInt8) (h : FetchHost) : Prop :=
  l = acc ∧ Owned sha256 s expected owned h ∧ h.files path = some acc

theorem write_ends (chunk : List UInt8) :
    Triple (handler s) (Storing sha256 s expected owned path acc)
      (do attempt (← Script.perform (FetchOp.write path chunk)))
      (fun _ l h => l = acc ∧ Owned sha256 s expected owned h ∧ h.files path = some (acc ++ chunk))
      fun _ _ h => Owned sha256 s expected owned h := by
  apply Triple.bind (Q := fun (a : Except Raised Unit) l h => l = acc ∧ Owned sha256 s expected owned h ∧
    (a = .ok () → h.files path = some (acc ++ chunk)))
  · apply Triple.perform
    rintro l h ⟨rfl, own, file⟩
    dsimp only [handler]
    cases s.writes h.written with
    | none =>
      refine ⟨rfl, own.of_same rfl rfl rfl, fun _ => ?_⟩
      simp [FetchHost.write, FetchHost.append, FetchHost.put, file]
    | some raised => exact ⟨rfl, own.of_same rfl rfl rfl, nofun⟩
  · intro a
    apply attempt_ends
    · rintro ⟨⟩ rfl l h ⟨same, own, file⟩
      exact ⟨same, own, file rfl⟩
    · rintro r - l h ⟨-, own, -⟩
      exact own

/-- **The loop**: the chunks are added to the file and to the digest, in step. The induction is on the chunks. -/
theorem storeChunks_ends (chunks : List (List UInt8)) :
    Triple (handler s) (Storing sha256 s expected owned path acc) (storeChunks path chunks)
      (fun _ => Storing sha256 s expected owned path (acc ++ chunks.flatten))
      fun _ _ h => Owned sha256 s expected owned h := by
  induction chunks generalizing acc with
  | nil =>
    apply Triple.pure
    intro l h storing
    rwa [List.flatten_nil, List.append_nil]
  | cons chunk rest ih =>
    unfold storeChunks
    rw [List.flatten_cons, ← List.append_assoc]
    simp only [← bind_assoc]
    apply Triple.bind
    · apply Triple.bind (write_ends chunk)
      intro _
      apply Triple.modify (Q := fun _ => Storing sha256 s expected owned path (acc ++ chunk))
      rintro l h ⟨rfl, own, file⟩
      exact ⟨rfl, own, file⟩
    · exact fun _ => ih

theorem storeResponse_ends :
    Triple (handler s) (Storing sha256 s expected owned path []) (storeResponse path)
      (fun _ => Storing sha256 s expected owned path s.stream.chunks.flatten)
      fun _ _ h => Owned sha256 s expected owned h := by
  unfold storeResponse
  apply Triple.bind (Q := fun (stream : Stream) l h =>
    stream = s.stream ∧ Storing sha256 s expected owned path [] l h)
  · apply Triple.perform
    exact fun l h storing => ⟨rfl, storing⟩
  · intro stream
    apply Triple.fact
    rintro rfl
    apply Triple.bind (storeChunks_ends s.stream.chunks)
    intro _
    cases s.stream.raises with
    | none => exact Triple.pure fun l h storing => storing
    | some r => exact Triple.throw fun l h storing => storing.2.1

theorem perform_same {o : FetchOp} {P : List UInt8 → FetchHost → Prop} {R : FetchError → List UInt8 → FetchHost → Prop}
    (same : ∀ h, (handler s o h).2 = h) : Triple (handler s) P (perform o) (fun _ => P) R := by
  apply Triple.perform
  intro l h holds
  rwa [same]

/-- A question to the host that leaves it as it is, and may raise. -/
theorem asks_ends {α : Type} {x : FetchM (Except Raised α)} {P : List UInt8 → FetchHost → Prop}
    (own : ∀ l h, P l h → Owned sha256 s expected owned h)
    (asks : Triple (handler s) P x (fun _ => P) fun _ _ h => Owned sha256 s expected owned h) :
    Triple (handler s) P (do attempt (← x)) (fun _ => P) fun _ _ h => Owned sha256 s expected owned h :=
  Triple.bind asks fun _ => attempt_ends (fun _ _ _ _ => id) fun _ _ l h => own l h

theorem openFile_ends :
    Triple (handler s) (fun l h => l = [] ∧ Owned sha256 s expected owned h)
      (do attempt (← Script.perform (FetchOp.openFile path))) (fun _ => Storing sha256 s expected owned path [])
      fun _ _ h => Owned sha256 s expected owned h := by
  apply Triple.bind (Q := fun (a : Except Raised Unit) l h =>
    l = [] ∧ Owned sha256 s expected owned h ∧ (a = .ok () → h.files path = some []))
  · apply Triple.perform
    rintro l h ⟨rfl, own⟩
    dsimp only [handler]
    cases s.opens with
    | ok _ => exact ⟨rfl, own.of_same rfl rfl rfl, fun _ => if_pos rfl⟩
    | error r => exact ⟨rfl, own, nofun⟩
  · intro a
    apply attempt_ends
    · rintro ⟨⟩ rfl l h ⟨rfl, own, file⟩
      exact ⟨rfl, own, file rfl⟩
    · rintro r - l h ⟨-, own, -⟩
      exact own

/-- **The download**: the file holds what was received and the digest was fed with it, or it raises. -/
theorem fetch_ends (config : AgentConfig) (imageUuid : Json) :
    Triple (handler s) (fun l h => l = [] ∧ Owned sha256 s expected owned h) (fetch config imageUuid path)
      (fun _ => Storing sha256 s expected owned path s.stream.chunks.flatten)
      fun _ _ h => Owned sha256 s expected owned h := by
  unfold fetch
  simp only [← bind_assoc]
  apply Triple.bind (asks_ends (fun l h own => own.2) (perform_same fun _ => rfl))
  intro status
  apply Triple.ensuring (Q := fun _ => Storing sha256 s expected owned path s.stream.chunks.flatten)
    (R := fun _ _ h => Owned sha256 s expected owned h)
  · apply Triple.ite
    · exact fun _ => Triple.throw fun l h own => own.2
    · intro _
      apply Triple.bind openFile_ends
      intro _
      apply Triple.ensuring storeResponse_ends
      · exact fun _ => asks_ends (fun l h storing => storing.2.1) (perform_same fun _ => rfl)
      · exact fun _ => asks_ends (fun l h own => own) (perform_same fun _ => rfl)
  · exact fun _ => asks_ends (fun l h storing => storing.2.1) (perform_same fun _ => rfl)
  · exact fun _ => asks_ends (fun l h own => own) (perform_same fun _ => rfl)

end Download

/-! ## The seed -/

section Seed

variable {dir : TempDir}

/-- The image that a caller gets: verified, in a directory that is the caller's now. -/
def Delivered (sha256 : List UInt8 → String) (s : Surroundings) (expected path : String) (h : FetchHost) : Prop :=
  ∃ dir : TempDir, path = imagePath dir.path ∧ Owned sha256 s expected (some dir.path) h ∧
    h.files path = some s.stream.chunks.flatten ∧
    sha256 s.stream.chunks.flatten = String.ofList (lower expected.toList)

theorem rmtree_ends : Triple (handler s) (fun _ h => Owned sha256 s expected (some dir.path) h)
    (Script.perform (FetchOp.rmtree dir.path) : FetchM Unit) (fun _ _ h => Owned sha256 s expected none h)
    fun _ _ h => Owned sha256 s expected none h :=
  Triple.perform fun _ _ own => own.rmtree

/-- A checksum that is no other one lets the image pass, and another one removes it. -/
theorem verify_ends (given : expected ≠ "") (imageUuid : Json) {content : List UInt8} :
    Triple (handler s) (Storing sha256 s expected (some dir.path) (imagePath dir.path) content)
      (verify imageUuid (.str expected) dir.path (sha256 content))
      (fun _ _ h => Owned sha256 s expected (some dir.path) h ∧ h.files (imagePath dir.path) = some content ∧
        sha256 content = String.ofList (lower expected.toList))
      fun _ _ h => Owned sha256 s expected none h := by
  unfold verify
  rw [if_pos (by simpa [Json.truthy] using given)]
  dsimp only
  apply Triple.ite
  · intro _
    refine Triple.bind (rmtree_ends.conseq (fun l h storing => storing.2.1) (fun _ _ _ => id) fun _ _ _ => id) ?_
    exact fun _ => Triple.throw fun l h own => own
  · intro same
    apply Triple.pure
    rintro l h ⟨-, own, file⟩
    exact ⟨own, file, (not_not.mp same).symm⟩

theorem mkdtemp_ends :
    Triple (handler s) (fun _ h => Owned sha256 s expected none h)
      (do attempt (← Script.perform FetchOp.mkdtemp))
      (fun (dir : TempDir) _ h => Owned sha256 s expected (some dir.path) h)
      fun _ _ h => Owned sha256 s expected none h := by
  apply Triple.bind (Q := fun (a : Except Raised TempDir) _ h =>
    (∀ dir, a = .ok dir → Owned sha256 s expected (some dir.path) h) ∧
      ∀ r, a = .error r → Owned sha256 s expected none h)
  · apply Triple.perform
    intro l h own
    dsimp only [handler]
    cases s.tempDir with
    | ok dir =>
      refine ⟨?_, nofun⟩
      rintro _ ⟨⟩
      exact own.mkdtemp
    | error r => exact ⟨nofun, fun _ _ => own⟩
  · intro a
    apply attempt_ends
    · exact fun dir given l h own => own.1 dir given
    · exact fun r raised l h own => own.2 r raised

/-- The `try` block with its handlers: what it raises removes the directory first. -/
theorem tryFetch_ends (config : AgentConfig) (imageUuid : Json) :
    Triple (handler s) (fun l h => l = [] ∧ Owned sha256 s expected (some dir.path) h)
      (tryCatch (fetch config imageUuid (imagePath dir.path)) fun e => do
        Script.perform (FetchOp.rmtree dir.path)
        throw (converted imageUuid e))
      (fun _ => Storing sha256 s expected (some dir.path) (imagePath dir.path) s.stream.chunks.flatten)
      fun _ _ h => Owned sha256 s expected none h := by
  apply Triple.tryCatch (fetch_ends config imageUuid)
  intro e
  apply Triple.bind rmtree_ends
  exact fun _ => Triple.throw fun l h own => own

/-- **The download is verified or removed.** -/
theorem downloadImage_ends (given : expected ≠ "") (config : AgentConfig) (imageUuid : Json) :
    Triple (handler s) (fun _ h => Owned sha256 s expected none h)
      (downloadImage sha256 config imageUuid (.str expected)) (fun path _ h => Delivered sha256 s expected path h)
      fun _ _ h => Owned sha256 s expected none h := by
  have started : downloadImage sha256 config imageUuid (.str expected) =
      (do attempt (← Script.perform FetchOp.mkdtemp)) >>= fun dir => do
        modify fun _ => []
        tryCatch (fetch config imageUuid (imagePath dir.path)) fun e => do
          Script.perform (FetchOp.rmtree dir.path)
          throw (converted imageUuid e)
        let fed ← get
        verify imageUuid (.str expected) dir.path (sha256 fed)
        return imagePath dir.path := by
    rw [bind_assoc]
    rfl
  rw [started]
  apply Triple.bind mkdtemp_ends
  intro dir
  apply Triple.bind (Q := fun _ l h => l = [] ∧ Owned sha256 s expected (some dir.path) h)
  · exact Triple.modify fun l h own => ⟨rfl, own⟩
  intro _
  apply Triple.bind (tryFetch_ends config imageUuid)
  intro _
  apply Triple.bind (Q := fun fed l h => fed = s.stream.chunks.flatten ∧
    Storing sha256 s expected (some dir.path) (imagePath dir.path) s.stream.chunks.flatten l h)
  · exact Triple.get fun l h storing => ⟨storing.1, storing⟩
  intro fed
  apply Triple.fact
  rintro rfl
  apply Triple.bind (verify_ends given imageUuid)
  intro _
  apply Triple.pure
  exact fun l h kept => ⟨dir, rfl, kept⟩

theorem finished_ends {P : FetchHost → Prop} (argv : List String) (outcome : Completed) :
    Triple (handler s) (fun _ => P) (finished argv outcome) (fun _ _ => P) fun _ _ => P := by
  cases outcome with
  | done stdout => exact Triple.pure fun _ _ => id
  | failed returncode stderr => exact Triple.throw fun _ _ => id
  | timedOut => exact Triple.throw fun _ _ => id

/-- The process that converts is started on the image that was verified. -/
theorem process_ends (format targetFormat path volumeId : String) (argv : List String) :
    Triple (handler s) (fun _ h => Owned sha256 s expected owned h ∧
        h.files path = some s.stream.chunks.flatten ∧
        sha256 s.stream.chunks.flatten = String.ofList (lower expected.toList))
      (do
        let outcome ← attempt (← Script.perform (FetchOp.convert format targetFormat path volumeId))
        finished argv outcome)
      (fun _ _ h => Owned sha256 s expected owned h) fun _ _ h => Owned sha256 s expected owned h := by
  apply Triple.bind (Q := fun _ _ h => Owned sha256 s expected owned h)
  · apply Triple.perform
    rintro l h ⟨own, file, sum⟩
    refine ⟨?_, own.gone⟩
    intro c member
    rcases List.mem_cons.mp member with rfl | earlier
    · exact ⟨file, sum⟩
    · exact own.verified c earlier
  · intro a
    apply Triple.bind (Q := fun _ _ h => Owned sha256 s expected owned h)
    · exact attempt_ends (fun _ _ _ _ => id) fun _ _ _ _ => id
    · exact finished_ends argv

/-- **The conversion** keeps the directory, which is the caller's. -/
theorem convert_ends (imageFormat : Json) (targetFormat path volumeId : String) :
    Triple (handler s) (fun _ h => Owned sha256 s expected owned h ∧
        h.files path = some s.stream.chunks.flatten ∧
        sha256 s.stream.chunks.flatten = String.ofList (lower expected.toList))
      (convert imageFormat targetFormat path volumeId) (fun _ _ h => Owned sha256 s expected owned h)
      fun _ _ h => Owned sha256 s expected owned h := by
  unfold convert
  apply Triple.ite
  · intro _
    cases imageFormat with
    | str format => exact process_ends format targetFormat path volumeId _
    | _ => exact Triple.throw fun l h kept => kept.1
  · exact fun _ => process_ends "" targetFormat path volumeId _

theorem seedFromImage_ends (given : expected ≠ "") (volumeId targetFormat : String) (imageUuid imageFormat : Json)
    (config : AgentConfig) :
    Triple (handler s) (fun _ h => Owned sha256 s expected none h)
      (seedFromImage sha256 volumeId targetFormat imageUuid imageFormat (.str expected) config)
      (fun _ _ h => Owned sha256 s expected none h) fun _ _ h => Owned sha256 s expected none h := by
  apply Triple.bind (downloadImage_ends given config imageUuid)
  intro path
  apply Triple.exists
  intro dir
  apply Triple.fact
  rintro rfl
  rw [dirname_imagePath]
  apply Triple.ensuring (convert_ends imageFormat targetFormat (imagePath dir.path) volumeId)
  · exact fun _ => rmtree_ends
  · exact fun _ => rmtree_ends

/-- The part of `create_disk` for an image, of a payload with a checksum. -/
theorem seed_ends {payload : Dict} (asks : payload.get? "image_sha256" = some (.str expected)) (given : expected ≠ "")
    (info : VolumeInfo) (config : Option AgentConfig) :
    Triple (handler s) (fun _ h => Owned sha256 s expected none h) (seed sha256 payload info config)
      (fun _ _ h => Owned sha256 s expected none h) fun _ _ h => Owned sha256 s expected none h := by
  cases config with
  | none => exact Triple.throw fun l h own => own
  | some config =>
    unfold seed
    rw [asks]
    exact seedFromImage_ends given _ _ _ _ config

/-- **`create_disk` leaves no directory** that it has made, however it ends. -/
theorem createDisk_ends {payload : Dict} (asks : payload.get? "image_sha256" = some (.str expected))
    (given : expected ≠ "") (config : Option AgentConfig) :
    Triple (handler s) (fun _ h => Owned sha256 s expected none h) (createDisk sha256 payload config)
      (fun _ _ h => Owned sha256 s expected none h) fun _ _ h => Owned sha256 s expected none h := by
  unfold createDisk
  apply Triple.bind (Q := fun _ _ h => Owned sha256 s expected none h)
  · unfold asked
    cases readPayload payload with
    | ok a => exact Triple.pure fun l h own => own
    | error e => exact Triple.throw fun l h own => own
  intro a
  apply Triple.bind (Q := fun _ _ h => Owned sha256 s expected none h)
  · exact Triple.perform fun l h own => own.of_same rfl rfl rfl
  intro outcome
  apply Triple.bind (finished_ends a.command.argv outcome)
  intro _
  apply Triple.bind (Q := fun _ _ h => Owned sha256 s expected none h)
  · apply Triple.ite
    · exact fun _ => seed_ends asks given a.info config
    · exact fun _ => Triple.pure fun l h own => own
  exact fun _ => Triple.pure fun l h own => own

/-- **Seeding uses exactly the image that was verified**: whatever the stream and wherever anything fails, a conversion
is started only on a file with the chunks that were received, and these have the checksum; and no temporary directory
is there when `create_disk` has ended, well or not. -/
theorem seeding_uses_verified_image (sha256 : List UInt8 → String) (s : Surroundings) (payload : Dict)
    (config : Option AgentConfig) (storage : Storage) (dirs : List String)
    (files : String → Option (List UInt8)) (expected : String)
    (asks : payload.get? "image_sha256" = some (.str expected)) (given : expected ≠ "") :
    let h := (Script.exec (handler s) (createDisk sha256 payload config) []
      { storage := storage, dirs := dirs, files := files }).2.2
    (∀ c ∈ h.started, c.content = some s.stream.chunks.flatten ∧
      sha256 s.stream.chunks.flatten = String.ofList (lower expected.toList)) ∧
      ∀ dir ∈ h.made, dir ∉ h.dirs := by
  have start : Owned sha256 s expected none { storage := storage, dirs := dirs, files := files } :=
    ⟨by simp, by simp⟩
  have ended : Owned sha256 s expected none (Script.exec (handler s) (createDisk sha256 payload config) []
      { storage := storage, dirs := dirs, files := files }).2.2 := by
    have ends := @createDisk_ends sha256 s expected payload asks given config [] _ start
    generalize Script.exec (handler s) (createDisk sha256 payload config) [] _ = r at ends ⊢
    rcases r with ⟨e | returned, l, h⟩
    · exact ends
    · exact ends
  exact ⟨ended.verified, fun dir made => ended.gone dir made nofun⟩

/-! The three bytes of `abc` in two chunks, with their checksum in capitals. -/

def abc : Surroundings where
  tempDir := .ok ⟨"/tmp", "k3p0x", by decide⟩
  stream := { chunks := [[97], [98, 99]] }

def abcPayload : Dict :=
  [("storage_type", .str "DIRECTORY"), ("storage_path", .str "/pool"), ("disk_uuid", .str "d1"),
    ("size_bytes", .int 1024), ("image_uuid", .str "img"),
    ("image_sha256", .str "BA7816BF8F01CFEA414140DE5DAE2223B00361A396177A9CB410FF61F20015AD")]

def abcSum : List UInt8 → String := fun _ => "ba7816bf8f01cfea414140de5dae2223b00361a396177a9cb410ff61f20015ad"

theorem seeding_abc :
    let h := (Script.exec (handler abc) (createDisk abcSum abcPayload (some ⟨"https://c", "t", true⟩)) []
      { storage := {} }).2.2
    (∀ c ∈ h.started, c.content = some abc.stream.chunks.flatten ∧ abcSum abc.stream.chunks.flatten =
      String.ofList (lower "BA7816BF8F01CFEA414140DE5DAE2223B00361A396177A9CB410FF61F20015AD".toList)) ∧
      ∀ dir ∈ h.made, dir ∉ h.dirs :=
  seeding_uses_verified_image abcSum abc abcPayload _ _ _ _ _ rfl (by decide)

/-- A conversion is started. -/
example : ((Script.exec (handler abc) (createDisk abcSum abcPayload (some ⟨"https://c", "t", true⟩)) []
    { storage := {} }).2.2.started.map Conversion.argv) =
      [["qemu-img", "convert", "-n", "-O", "qcow2", "/tmp/nodepilot-image-k3p0x/image", "/pool/d1"]] := by
  rfl

end Seed

end NodePilot.Agent.ImageFetch
