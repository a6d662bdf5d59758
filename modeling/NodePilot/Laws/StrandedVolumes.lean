import NodePilot.Agent.ImageFetch
import NodePilot.Lib.Ends

/-!
# Volumes that are left behind

`create_disk` makes the volume and then fills it. Nothing removes the volume when that fails: the agent raises,
and the controller, which learns the volume's id from the answer, has nothing to name it by. The next attempt
makes a file anew, but finds the name of a logical volume or a dataset taken.
-/

namespace NodePilot.Agent.ImageFetch

open Lib Script DiskCreation
open Pools (Completed VolumeInfo)

variable {sha256 : List UInt8 → String} {s : Surroundings} {payload : Dict} {config : Option AgentConfig} {a : Asked}

/-! ## What it takes to fill a volume -/

/-- Nothing fails while the image is fetched. -/
structure Fetches (s : Surroundings) : Prop where
  status : s.status = .ok 200
  opens : s.opens = .ok ()
  writes : ∀ n < s.stream.chunks.length, s.writes n = none
  stream : s.stream.raises = none
  closesFile : s.closesFile = .ok ()
  closesResponse : s.closesResponse = .ok ()

/-- No checksum is asked for, or the one of what was received. -/
def Passes (sha256 : List UInt8 → String) (expected : Json) (content : List UInt8) : Prop :=
  expected.truthy = true → ∃ text, expected = .str text ∧ String.ofList (lower text.toList) = sha256 content

/-- The conversion can be started with the format, and succeeds. -/
def Converts (s : Surroundings) (imageFormat : Json) : Prop :=
  (imageFormat.truthy = true → ∃ format, imageFormat = .str format) ∧ ∃ stdout, s.converts = .ok (.done stdout)

/-- Nothing fails that comes after the volume. -/
structure Fills (sha256 : List UInt8 → String) (s : Surroundings) (payload : Dict) (config : Option AgentConfig) :
    Prop where
  config : config.isSome = true
  tempDir : ∃ dir, s.tempDir = .ok dir
  fetches : Fetches s
  checksum : Passes sha256 ((payload.get? "image_sha256").getD (.str "")) s.stream.chunks.flatten
  converts : Converts s ((payload.get? "image_format").getD (.str ""))

/-- The volume is filled, or stays blank as it is asked to. -/
def Completes (sha256 : List UInt8 → String) (s : Surroundings) (payload : Dict) (config : Option AgentConfig) : Prop :=
  flag payload "image_uuid" = true → Fills sha256 s payload config

/-! ## Filling a volume -/

section Filling

variable {storage : Storage} {k : Nat} {fed : List UInt8} {path : String}

/-- The volumes of the host are these. -/
def Stands (storage : Storage) : List UInt8 → FetchHost → Prop := fun _ h => h.storage = storage

/-- So much has been written, and the digest has been fed with it. -/
def At (storage : Storage) (k : Nat) (fed l : List UInt8) (h : FetchHost) : Prop :=
  l = fed ∧ h.written = k ∧ h.storage = storage

theorem At.stands {l : List UInt8} {h : FetchHost} (here : At storage k fed l h) : Stands storage l h := here.2.2

/-- A question to the host, which raises what it is answered. -/
theorem asks_decides {α : Type} {x : FetchM (Except Raised α)} {answer : Except Raised α}
    {P Q : List UInt8 → FetchHost → Prop}
    (asks : Triple (handler s) P x (fun given l h => given = answer ∧ Q l h) fun _ _ _ => False)
    (stands : ∀ l h, Q l h → Stands storage l h) :
    Decides (handler s) (∃ v, answer = .ok v) P (do attempt (← x)) (fun v l h => answer = .ok v ∧ Q l h)
      (Stands storage) := by
  have known : Decides (handler s) True P x (fun given l h => given = answer ∧ Q l h) (Stands storage) :=
    Decides.returns trivial asks
  refine (known.bind fun given => Decides.fact ?_).congr (iff_of_eq (true_and _))
  rintro rfl
  cases given with
  | ok v => exact Decides.pure ⟨v, rfl⟩ fun l h here => ⟨rfl, here⟩
  | error r => exact Decides.throw nofun stands

/-- A question that is asked when something has been raised already. -/
theorem asks_stands {x : FetchM (Except Raised Unit)}
    (asks : Triple (handler s) (Stands storage) x (fun _ => Stands storage) fun _ _ _ => False) :
    Triple (handler s) (Stands storage) (do attempt (← x)) (fun _ => Stands storage) fun _ => Stands storage := by
  refine Triple.bind (asks.conseq (fun _ _ => id) (fun _ _ _ => id) fun _ _ _ => False.elim) fun given => ?_
  cases given with
  | ok v => exact Triple.pure fun _ _ => id
  | error r => exact Triple.throw fun _ _ => id

/-- What is refused raises. -/
theorem refused_decides {α : Type} {c : Prop} {P : List UInt8 → FetchHost → Prop}
    {Q : α → List UInt8 → FetchHost → Prop} {e : DiskError} (never : ¬ c) (stands : ∀ l h, P l h → Stands storage l h) :
    Decides (handler s) c P (refused e : FetchM α) Q (Stands storage) :=
  Decides.throw never stands

theorem write_decides (chunk : List UInt8) :
    Decides (handler s) (s.writes k = none) (At storage k fed)
      (do attempt (← Script.perform (FetchOp.write path chunk))) (fun _ => At storage (k + 1) fed) (Stands storage) := by
  let answer : Except Raised Unit := (s.writes k).elim (.ok ()) fun raised => .error raised.1
  have asked : Decides (handler s) (∃ v, answer = .ok v) (At storage k fed)
      (do attempt (← Script.perform (FetchOp.write path chunk)))
      (fun v l h => answer = .ok v ∧ At storage (k + 1) fed l h) (Stands storage) := by
    refine asks_decides (Triple.perform ?_) fun _ _ => At.stands
    rintro l h ⟨same, written, stands⟩
    dsimp only [handler]
    rw [written]
    cases raises : s.writes k with
    | none => exact ⟨by simp [FetchHost.write, answer, raises], same, congrArg (· + 1) written, stands⟩
    | some raised => exact ⟨by simp [FetchHost.write, answer, raises], same, congrArg (· + 1) written, stands⟩
  refine (asked.mono fun _ _ _ ends => ends.2).congr ?_
  cases raises : s.writes k <;> simp [answer, raises]

/-- **The loop** returns if no write raises. The induction is on the chunks. -/
theorem storeChunks_decides (chunks : List (List UInt8)) :
    Decides (handler s) (∀ n < chunks.length, s.writes (k + n) = none) (At storage k fed) (storeChunks path chunks)
      (fun _ => At storage (k + chunks.length) (fed ++ chunks.flatten)) (Stands storage) := by
  induction chunks generalizing k fed with
  | nil => exact Decides.pure nofun fun l h here => by simpa using here
  | cons chunk rest ih =>
    have all : (s.writes k = none ∧ True ∧ ∀ n < rest.length, s.writes (k + 1 + n) = none) ↔
        ∀ n < (chunk :: rest).length, s.writes (k + n) = none := by
      simp only [List.length_cons, Nat.forall_lt_succ_left', Nat.add_zero, Nat.add_assoc, Nat.add_comm 1, true_and]
    have fedNow : Decides (handler s) True (At storage (k + 1) fed) (modify (· ++ chunk) : FetchM PUnit)
        (fun _ => At storage (k + 1) (fed ++ chunk)) (Stands storage) := by
      refine Decides.returns trivial (Triple.modify ?_)
      rintro l h ⟨rfl, here⟩
      exact ⟨rfl, here⟩
    rw [storeChunks, ← bind_assoc]
    refine ((write_decides chunk).bind fun _ => fedNow.bind fun _ => ?_).congr all
    refine ih.mono fun _ l h here => ?_
    rwa [List.length_cons, List.flatten_cons, ← List.append_assoc, Nat.add_comm rest.length, ← Nat.add_assoc]

theorem storeResponse_decides :
    Decides (handler s) ((∀ n < s.stream.chunks.length, s.writes n = none) ∧ s.stream.raises = none) (At storage 0 [])
      (storeResponse path) (fun _ => At storage s.stream.chunks.length s.stream.chunks.flatten) (Stands storage) := by
  have yields : Decides (handler s) True (At storage 0 []) (Script.perform FetchOp.iterBytes : FetchM Stream)
      (fun stream l h => stream = s.stream ∧ At storage 0 [] l h) (Stands storage) :=
    Decides.returns trivial (Triple.perform fun l h here => ⟨rfl, here⟩)
  refine (yields.bind fun stream => Decides.fact ?_).congr (iff_of_eq (true_and _))
  rintro rfl
  have stored := @storeChunks_decides s storage 0 [] path s.stream.chunks
  simp only [Nat.zero_add, List.nil_append] at stored
  refine stored.bind fun _ => ?_
  cases s.stream.raises with
  | none => exact Decides.pure rfl fun _ _ => id
  | some r => exact Decides.throw nofun fun _ _ => At.stands

/-- What is between the ends of the `with` block of the response. -/
theorem receive_decides {imageUuid : Json} {status : Nat} :
    Decides (handler s) (status = 200 ∧ (∃ u, s.opens = .ok u) ∧
        ((∀ n < s.stream.chunks.length, s.writes n = none) ∧ s.stream.raises = none) ∧ ∃ u, s.closesFile = .ok u)
      (At storage 0 [])
      (do
        if status ≠ 200 then refused (.httpStatus imageUuid status)
        else
          attempt (← Script.perform (FetchOp.openFile path))
          Script.ensuring (storeResponse path) (do attempt (← Script.perform (FetchOp.closeFile path))))
      (fun _ => At storage s.stream.chunks.length s.stream.chunks.flatten) (Stands storage) := by
  have opens : Decides (handler s) (∃ u, s.opens = .ok u) (At storage 0 [])
      (do attempt (← Script.perform (FetchOp.openFile path)))
      (fun v l h => s.opens = .ok v ∧ At storage 0 [] l h) (Stands storage) := by
    refine asks_decides (Triple.perform fun l h here => ?_) fun _ _ => At.stands
    dsimp only [handler]
    cases s.opens with
    | ok u => exact ⟨rfl, here⟩
    | error r => exact ⟨rfl, here⟩
  have closes : Decides (handler s) (∃ u, s.closesFile = .ok u)
      (At storage s.stream.chunks.length s.stream.chunks.flatten)
      (do attempt (← Script.perform (FetchOp.closeFile path)))
      (fun v l h => s.closesFile = .ok v ∧ At storage s.stream.chunks.length s.stream.chunks.flatten l h)
      (Stands storage) :=
    asks_decides (Triple.perform fun _ _ here => ⟨rfl, here⟩) fun _ _ => At.stands
  have stores : Decides (handler s) _ (At storage 0 []) (storeResponse path) _ _ := storeResponse_decides
  have stored := stores.ensuring (fun _ => closes.mono fun _ _ _ ends => ends.2)
    (asks_stands (Triple.perform fun _ _ => id))
  refine Decides.ite (fun bad => refused_decides (fun all => bad all.1) fun _ _ => At.stands) fun good => ?_
  rw [← bind_assoc]
  refine (opens.bind fun _ => stored.start fun _ _ => And.right).congr ?_
  rw [Decidable.not_not.mp good]
  simp only [true_and]

theorem fetch_decides {c : AgentConfig} {imageUuid : Json} :
    Decides (handler s) (Fetches s) (At storage 0 []) (fetch c imageUuid path)
      (fun _ => At storage s.stream.chunks.length s.stream.chunks.flatten) (Stands storage) := by
  have connects : Decides (handler s) (∃ v, s.status = .ok v) (At storage 0 [])
      (do attempt (← Script.perform (FetchOp.connect c imageUuid)))
      (fun v l h => s.status = .ok v ∧ At storage 0 [] l h) (Stands storage) :=
    asks_decides (Triple.perform fun _ _ here => ⟨rfl, here⟩) fun _ _ => At.stands
  have closes : Decides (handler s) (∃ u, s.closesResponse = .ok u)
      (At storage s.stream.chunks.length s.stream.chunks.flatten)
      (do attempt (← Script.perform FetchOp.closeResponse))
      (fun v l h => s.closesResponse = .ok v ∧ At storage s.stream.chunks.length s.stream.chunks.flatten l h)
      (Stands storage) :=
    asks_decides (Triple.perform fun _ _ here => ⟨rfl, here⟩) fun _ _ => At.stands
  have all : ((∃ v, s.status = .ok v) ∧ Fetches s) ↔ Fetches s :=
    and_iff_right_of_imp fun fetches => ⟨200, fetches.status⟩
  rw [fetch, ← bind_assoc]
  refine (connects.bind fun status => Decides.fact fun answered => ?_).congr all
  refine (receive_decides.ensuring (fun _ => closes.mono fun _ _ _ ends => ends.2)
    (asks_stands (Triple.perform fun _ _ => id))).congr ?_
  constructor
  · rintro ⟨⟨rfl, ⟨_, opens⟩, ⟨writes, stream⟩, ⟨_, closesFile⟩⟩, ⟨_, closesResponse⟩⟩
    exact ⟨answered, opens, writes, stream, closesFile, closesResponse⟩
  · rintro ⟨good, opens, writes, stream, closesFile, closesResponse⟩
    rw [answered] at good
    cases good
    exact ⟨⟨rfl, ⟨_, opens⟩, ⟨writes, stream⟩, ⟨_, closesFile⟩⟩, ⟨_, closesResponse⟩⟩

/-- The temporary directory is removed, and something is raised. -/
theorem rmtree_raises {α : Type} {dir : String} {e : FetchError} :
    Triple (handler s) (Stands storage) (do Script.perform (FetchOp.rmtree dir); throw e : FetchM α)
      (fun _ _ _ => False) fun _ => Stands storage :=
  Triple.bind (Q := fun _ => Stands storage) (Triple.perform fun _ _ => id) fun _ => Triple.throw fun _ _ => id

theorem verify_decides {imageUuid expected : Json} {dir : String} {content : List UInt8} :
    Decides (handler s) (Passes sha256 expected content) (Stands storage)
      (verify imageUuid expected dir (sha256 content)) (fun _ => Stands storage) (Stands storage) := by
  unfold verify
  by_cases truthy : expected.truthy = true
  · rw [if_pos truthy]
    cases expected with
    | str text =>
      by_cases same : String.ofList (lower text.toList) = sha256 content
      · have passes : Passes sha256 (.str text) content := fun _ => ⟨text, rfl, same⟩
        simp only [ne_eq, same, not_true_eq_false, if_false]
        exact Decides.pure passes fun _ _ => id
      · have fails : ¬ Passes sha256 (.str text) content := fun passes => by
          obtain ⟨_, ⟨⟩, equal⟩ := passes truthy
          exact same equal
        simp only [ne_eq, same, not_false_eq_true, if_true]
        exact rmtree_raises.conseq (fun _ _ => id) (fun _ _ _ => False.elim) fun _ _ _ stands => ⟨fails, stands⟩
    | _ => exact Decides.throw (fun passes => nomatch passes truthy) fun _ _ => id
  · rw [if_neg truthy]
    exact Decides.pure (fun asks => absurd asks truthy) fun _ _ => id

/-- Nothing has been written yet. -/
def Fresh (storage : Storage) : List UInt8 → FetchHost → Prop := fun _ h => h.written = 0 ∧ h.storage = storage

/-- The image comes whole into a temporary directory, and passes its check. -/
theorem downloadImage_decides {c : AgentConfig} {imageUuid expected : Json} :
    Decides (handler s) ((∃ dir, s.tempDir = .ok dir) ∧ Fetches s ∧ Passes sha256 expected s.stream.chunks.flatten)
      (Fresh storage) (downloadImage sha256 c imageUuid expected) (fun _ => Stands storage) (Stands storage) := by
  have makes : Decides (handler s) (∃ dir, s.tempDir = .ok dir) (Fresh storage)
      (do attempt (← Script.perform FetchOp.mkdtemp)) (fun dir l h => s.tempDir = .ok dir ∧ Fresh storage l h)
      (Stands storage) := by
    refine asks_decides (Triple.perform fun l h here => ?_) fun _ _ => And.right
    dsimp only [handler]
    cases s.tempDir with
    | ok dir => exact ⟨rfl, here⟩
    | error r => exact ⟨rfl, here⟩
  have starts : Decides (handler s) True (Fresh storage) (modify fun _ => [] : FetchM PUnit)
      (fun _ => At storage 0 []) (Stands storage) :=
    Decides.returns trivial (Triple.modify fun _ _ here => ⟨rfl, here⟩)
  have fed : Decides (handler s) True (At storage s.stream.chunks.length s.stream.chunks.flatten)
      (get : FetchM (List UInt8)) (fun fed l h => fed = s.stream.chunks.flatten ∧ Stands storage l h)
      (Stands storage) :=
    Decides.returns trivial (Triple.get fun _ _ here => ⟨here.1, here.2.2⟩)
  rw [downloadImage, ← bind_assoc]
  refine (makes.bind fun dir => (starts.bind fun _ => ?_).start fun _ _ => And.right).congr
    (and_congr_right fun _ => iff_of_eq (true_and _))
  refine (fetch_decides.tryCatch fun _ => rmtree_raises).bind fun _ => ?_
  refine (fed.bind fun content => Decides.fact ?_).congr (iff_of_eq (true_and _))
  rintro rfl
  exact Decides.congr (verify_decides.bind fun _ => Decides.pure trivial fun _ _ => id) (iff_of_eq (and_true _))

theorem finished_decides {argv : List String} {outcome : Completed} {P : List UInt8 → FetchHost → Prop}
    (stands : ∀ l h, P l h → Stands storage l h) :
    Decides (handler s) (∃ stdout, outcome = .done stdout) P (finished argv outcome) (fun _ => P) (Stands storage) := by
  cases outcome with
  | done stdout => exact Decides.pure ⟨stdout, rfl⟩ fun _ _ => id
  | failed => exact refused_decides nofun stands
  | timedOut => exact refused_decides nofun stands

/-- The process of the conversion. -/
theorem converting_decides {imageFormat targetFormat volumeId : String} {argv : List String} :
    Decides (handler s) (∃ stdout, s.converts = .ok (.done stdout)) (Stands storage)
      (do
        let outcome ← attempt (← Script.perform (FetchOp.convert imageFormat targetFormat path volumeId))
        finished argv outcome)
      (fun _ => Stands storage) (Stands storage) := by
  have converts : Decides (handler s) (∃ outcome, s.converts = .ok outcome) (Stands storage)
      (do attempt (← Script.perform (FetchOp.convert imageFormat targetFormat path volumeId)))
      (fun outcome l h => s.converts = .ok outcome ∧ Stands storage l h) (Stands storage) :=
    asks_decides (Triple.perform fun _ _ here => ⟨rfl, here⟩) fun _ _ => id
  rw [← bind_assoc]
  refine (converts.bind fun outcome => Decides.fact fun given => ?_).congr
    (and_iff_right_of_imp fun done => done.elim fun stdout given => ⟨_, given⟩)
  exact (finished_decides fun _ _ => id).congr (exists_congr fun stdout => by rw [given, Except.ok.injEq])

theorem convert_decides {imageFormat : Json} {targetFormat volumeId : String} :
    Decides (handler s) (Converts s imageFormat) (Stands storage) (convert imageFormat targetFormat path volumeId)
      (fun _ => Stands storage) (Stands storage) := by
  unfold convert
  by_cases truthy : imageFormat.truthy = true
  · rw [if_pos truthy]
    cases imageFormat with
    | str format => exact converting_decides.congr (iff_and_self.mpr fun _ _ => ⟨format, rfl⟩)
    | _ => exact refused_decides (fun converts => nomatch converts.1 truthy) fun _ _ => id
  · rw [if_neg truthy]
    exact converting_decides.congr (iff_and_self.mpr fun _ asks => absurd asks truthy)

/-- Filling a volume neither makes nor removes one, and returns exactly if nothing fails. -/
theorem fill_decides {info : VolumeInfo} :
    Decides (handler s) (Completes sha256 s payload config) (Fresh storage) (fill sha256 payload info config)
      (fun _ => Stands storage) (Stands storage) := by
  unfold fill
  by_cases image : flag payload "image_uuid" = true
  · rw [if_pos image]
    cases config with
    | none => exact refused_decides (fun completes => nomatch (completes image).config) fun _ _ => And.right
    | some c =>
      refine (downloadImage_decides.bind fun path => (convert_decides.ensuring (d := True) (fun _ => ?_) ?_)).congr ?_
      · exact Decides.returns trivial (Triple.perform fun _ _ => id)
      · exact Triple.perform fun _ _ => id
      · constructor
        · rintro ⟨⟨tempDir, fetches, checksum⟩, converts, -⟩ -
          exact ⟨rfl, tempDir, fetches, checksum, converts⟩
        · intro completes
          obtain ⟨-, tempDir, fetches, checksum, converts⟩ := completes image
          exact ⟨⟨tempDir, fetches, checksum⟩, converts, trivial⟩
  · rw [if_neg image]
    exact Decides.pure (fun asks => absurd asks image) fun _ _ => And.right

end Filling

/-! ## What becomes of the volume -/

/-- The process makes the volume, whether it says so or not. -/
def Makes (s : Surroundings) (a : Asked) (storage : Storage) : Prop :=
  a.command.canMake storage = true ∧ ((∃ stdout, s.make = .done stdout) ∨ s.leaves = true)

/-- An attempt that made the volume and raises does not leave it. -/
def Atomic (sha256 : List UInt8 → String) (s : Surroundings) (payload : Dict) (config : Option AgentConfig)
    (storage : Storage) : Prop :=
  ∀ a, readPayload payload = .ok a → Makes s a storage →
    ∀ e l h, exec (handler s) (createDisk sha256 payload config) [] { storage := storage } = (.error e, l, h) →
      a.volume ∉ h.storage.volumes

variable {storage : Storage}

theorem command_volume : a.command.volume = a.volume := by
  unfold Asked.command Asked.volume
  cases a.backend <;> rfl

/-- The process that makes the volume decides, and then what fills it. -/
theorem createDisk_decides (read : readPayload payload = .ok a) :
    Decides (handler s)
      ((∃ stdout, (a.command.run storage s.leaves s.make).1 = .done stdout) ∧ Completes sha256 s payload config)
      (Fresh storage) (createDisk sha256 payload config)
      (fun _ => Stands (a.command.run storage s.leaves s.make).2)
      (Stands (a.command.run storage s.leaves s.make).2) := by
  have payloadRead : Decides (handler s) True (Fresh storage) (asked payload) (fun b l h => b = a ∧ Fresh storage l h)
      (Stands (a.command.run storage s.leaves s.make).2) := by
    rw [asked, read]
    exact Decides.pure trivial fun _ _ here => ⟨rfl, here⟩
  have made : Decides (handler s) True (Fresh storage) (Script.perform (FetchOp.make a.command) : FetchM Completed)
      (fun outcome l h => outcome = (a.command.run storage s.leaves s.make).1 ∧
        Fresh (a.command.run storage s.leaves s.make).2 l h)
      (Stands (a.command.run storage s.leaves s.make).2) := by
    refine Decides.returns trivial (Triple.perform ?_)
    rintro l h ⟨written, rfl⟩
    exact ⟨rfl, written, rfl⟩
  refine (payloadRead.bind fun b => Decides.fact ?_).congr (iff_of_eq (true_and _))
  rintro rfl
  refine (made.bind fun outcome => Decides.fact ?_).congr (iff_of_eq (true_and _))
  rintro rfl
  refine (finished_decides fun _ _ => And.right).bind fun _ => ?_
  exact Decides.congr (fill_decides.bind fun _ => Decides.pure trivial fun _ _ => id) (iff_of_eq (and_true _))

theorem run_of_makes (makes : Makes s a storage) :
    (a.command.run storage s.leaves s.make).2 = storage.add a.volume ∧
      ((∃ stdout, (a.command.run storage s.leaves s.make).1 = .done stdout) ↔ ∃ stdout, s.make = .done stdout) := by
  obtain ⟨can, outcome⟩ := makes
  unfold MakeCommand.run MakeCommand.left
  rw [can, ← command_volume]
  cases make : s.make with
  | done stdout => exact ⟨rfl, Iff.rfl⟩
  | failed returncode stderr =>
    have leaves : s.leaves = true := outcome.resolve_left fun ⟨_, done⟩ => nomatch make.symm.trans done
    rw [leaves]
    exact ⟨rfl, Iff.rfl⟩
  | timedOut =>
    have leaves : s.leaves = true := outcome.resolve_left fun ⟨_, done⟩ => nomatch make.symm.trans done
    rw [leaves]
    exact ⟨rfl, Iff.rfl⟩

/-- A volume that has been made is there at the end, however the attempt ends. -/
theorem createDisk_of_makes (sha256 : List UInt8 → String) (config : Option AgentConfig)
    (read : readPayload payload = .ok a) (makes : Makes s a storage) :
    Decides (handler s) ((∃ stdout, s.make = .done stdout) ∧ Completes sha256 s payload config) (Fresh storage)
      (createDisk sha256 payload config) (fun _ => Stands (storage.add a.volume)) (Stands (storage.add a.volume)) := by
  obtain ⟨adds, told⟩ := run_of_makes makes
  have decided := @createDisk_decides sha256 s payload config a storage read
  rw [adds, told] at decided
  exact decided

/-- Where the making or the filling fails, the volume is left behind. -/
theorem not_atomic (read : readPayload payload = .ok a) (makes : Makes s a storage)
    (fails : ¬ ((∃ stdout, s.make = .done stdout) ∧ Completes sha256 s payload config)) :
    ¬ Atomic sha256 s payload config storage := by
  intro atomic
  have ended := createDisk_of_makes sha256 config read makes [] { storage := storage } ⟨rfl, rfl⟩
  have gone := atomic a read makes
  generalize exec (handler s) (createDisk sha256 payload config) [] { storage := storage } = r at ended gone
  rcases r with ⟨e | answer, l, h⟩
  · refine gone e l h rfl ?_
    rw [ended.2]
    exact List.mem_cons_self
  · exact fails ended.1

/-- An attempt is atomic exactly if the volume is not made, or is made and filled. -/
theorem atomic_iff (sha256 : List UInt8 → String) (s : Surroundings) (payload : Dict) (config : Option AgentConfig)
    (storage : Storage) :
    Atomic sha256 s payload config storage ↔
      ∀ a, readPayload payload = .ok a → Makes s a storage →
        (∃ stdout, s.make = .done stdout) ∧ Completes sha256 s payload config := by
  constructor
  · intro atomic a read makes
    by_contra fails
    exact not_atomic read makes fails atomic
  · intro fine a read makes e l h run
    have ended := createDisk_of_makes sha256 config read makes [] { storage := storage }
      ⟨rfl, rfl⟩
    rw [run] at ended
    exact absurd (fine a read makes) ended.1

/-- The image of a new logical volume cannot be found, and the volume is left behind. -/
theorem missing_image_strands : ¬ ∀ sha256 s payload config storage, Atomic sha256 s payload config storage := by
  intro atomic
  let payload : Dict := [("disk_uuid", .str "d1"), ("storage_id", .int 1), ("storage_path", .str "vg0"),
    ("storage_type", .str "lvm"), ("size_bytes", .int 10737418240), ("format", .str "qcow2"), ("name", .str "root"),
    ("image_uuid", .str "i1"), ("image_sha256", .str ""), ("image_format", .str "qcow2")]
  let s : Surroundings := { tempDir := .ok ⟨"/tmp", "a", by decide⟩, status := .ok 404, stream := ⟨[], none⟩ }
  have read : readPayload payload = .ok ⟨.lvm, "vg0", "d1", 10737418240, "raw"⟩ := by rfl
  refine not_atomic read ⟨rfl, .inl ⟨"", rfl⟩⟩ ?_ (atomic (fun _ => "") s payload (some ⟨"http://c", "t", true⟩) {})
  rintro ⟨-, completes⟩
  cases (completes rfl).fetches.status

/-- What is left of a logical volume or a dataset is in the way of every further attempt. -/
theorem retry_fails (sha256 : List UInt8 → String) (s : Surroundings) (config : Option AgentConfig)
    (read : readPayload payload = .ok a) (kind : a.backend ≠ .directory) (taken : a.volume ∈ storage.volumes) :
    ∃ e l h, exec (handler s) (createDisk sha256 payload config) [] { storage := storage } = (.error e, l, h) ∧
      h.storage = storage := by
  have cannot : a.command.canMake storage = false := by
    have notFile : a.volume.kind ≠ .file := by
      unfold Asked.volume
      cases backend : a.backend with
      | directory => exact absurd backend kind
      | _ => nofun
    simp [MakeCommand.canMake, command_volume, notFile, taken]
  have fails : (∀ stdout, (a.command.run storage s.leaves s.make).1 ≠ .done stdout) ∧
      (a.command.run storage s.leaves s.make).2 = storage := by
    unfold MakeCommand.run MakeCommand.left
    rw [cannot]
    cases s.make <;> exact ⟨nofun, rfl⟩
  have ended := @createDisk_decides sha256 s payload config a storage read [] { storage := storage } ⟨rfl, rfl⟩
  rw [fails.2] at ended
  generalize exec (handler s) (createDisk sha256 payload config) [] { storage := storage } = r at ended
  rcases r with ⟨e | answer, l, h⟩
  · exact ⟨e, l, h, rfl, ended.2⟩
  · exact absurd ended.1.1 fun ⟨stdout, done⟩ => fails.1 stdout done

end NodePilot.Agent.ImageFetch
