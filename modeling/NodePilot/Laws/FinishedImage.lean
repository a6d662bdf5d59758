import NodePilot.Laws.ChunkUpload

/-!
# A finished image

The finalize view reads the session's status, checks and hashes the `.part` file, moves it and writes
two rows, and holds no lock over any of it. The abort view does not look at the status at all. So a
second finalize that started before the first one was done finds no file and fails the image, a
chunk request that has the file open goes on writing to it after it was moved, and an abort fails an
image that is ready.

`Undisputed` is the condition that leaves these out: a request that is going to finalize runs beside
no other request that is going to act on the session, and an abort does not come for an image that
is ready. Under it the finished file is the one that was hashed, and a ready image stays ready.
-/

namespace NodePilot.Uploads

open Lib Lib.Script

namespace Store

/-! ## What is to be kept -/

/-- The finished file has the length and the digest that the image's row says. -/
def Intact (sha256 : Bytes → String) (s : Store) : Prop :=
  ∃ h, s.finalPath = some h ∧ (s.inode h).length = s.image.sizeBytes ∧
    sha256 (s.inode h) = s.image.sha256

/-! ## The condition -/

/-- A request that goes on to change the session, the image or their files once it has loaded this
object of the session. -/
def Acts (session : Session) : Request → Prop
  | .put index body => session.status = .uploading ∧ body.isSome = true ∧
      IndexParam.fits session.nextChunkIndex index
  | .finalize => session.status = .uploading
  | .abort => True

/-- The request `i` has loaded its object, is going to act and is not yet answered. -/
def Engaged (s : Store) (i : Nat) : Prop :=
  ∃ session, (i, session) ∈ s.loaded ∧ ∃ r, s.requests[i]? = some r ∧ Acts session r

/-- The condition on one operation of the request `i`. -/
def undisputedOp (_ : Choice) (i : Nat) (o : UploadOp) (s : Store) : Prop :=
  match o with
  | .loadSession => ∀ r ∈ s.requests[i]?, Acts s.session r →
      (∀ x ∈ s.loaded, ∀ r' ∈ s.requests[x.1]?, Acts x.2 r' → r ≠ .finalize ∧ r' ≠ .finalize) ∧
      (r = .abort → s.image.status ≠ .ready)
  | _ => True

/-- **The condition**: of two requests that act on the session at the same time neither finalizes
it, and a request that aborts does not find the image ready. -/
def Undisputed : Label Choice Event →
    Pool Request UploadOp UploadAns (Except Exn Unit × Unit) Store → Prop
  | .act i c, p => ∀ t ∈ p.threads[i]?, ∀ o ∈ t.rest.next?, undisputedOp c i o p.shared
  | .env _, _ => True

instance (next : Nat) : (index : IndexParam) → Decidable (IndexParam.fits next index)
  | .missing => isTrue trivial
  | .number n => inferInstanceAs (Decidable (n = next))
  | .malformed => isFalse id

instance (session : Session) : (r : Request) → Decidable (Acts session r)
  | .put _ _ => inferInstanceAs (Decidable (_ ∧ _ ∧ _))
  | .finalize => inferInstanceAs (Decidable (_ = _))
  | .abort => isTrue trivial

instance (c : Choice) (i : Nat) (s : Store) : (o : UploadOp) → Decidable (undisputedOp c i o s)
  | .loadSession => inferInstanceAs (Decidable (∀ r ∈ s.requests[i]?, Acts s.session r →
      (∀ x ∈ s.loaded, ∀ r' ∈ s.requests[x.1]?, Acts x.2 r' → r ≠ .finalize ∧ r' ≠ .finalize) ∧
      (r = .abort → s.image.status ≠ .ready)))
  | .acquire | .write _ _ | .saveCounters _ _ _ | .loadImage | .release | .partExists | .openPart _
  | .partSize | .openRead | .readAll _ | .replace | .saveSession _ _ | .saveImage _ | .unlinkPart
  | .respond _ => isTrue trivial

instance : (l : Label Choice Event) →
    (p : Pool Request UploadOp UploadAns (Except Exn Unit × Unit) Store) →
    Decidable (Undisputed l p)
  | .act i c, p => inferInstanceAs
      (Decidable (∀ t ∈ p.threads[i]?, ∀ o ∈ t.rest.next?, undisputedOp c i o p.shared))
  | .env _, _ => isTrue trivial

/-! ## The discipline -/

/-- The request `i` is going to finalize. -/
def Finalizing (s : Store) (i : Nat) : Prop := s.requests[i]? = some .finalize ∧ Engaged s i

/-- **The invariant** of the requests about one session. -/
structure Settled (sha256 : Bytes → String) (s : Store) : Prop where
  alone : ∀ i j, Finalizing s i → Engaged s j → i = j
  intact : s.image.status = .ready → Intact sha256 s
  completed : s.image.status = .ready → s.session.status = .completed
  done : s.image.status = .ready → ∀ j, Engaged s j → s.requests[j]? = some .finalize

/-- The rows and the files are the same. -/
structure SameFiles (s s' : Store) : Prop where
  session : s'.session = s.session
  image : s'.image = s.image
  inodes : s'.inodes = s.inodes
  partPath : s'.partPath = s.partPath
  finalPath : s'.finalPath = s.finalPath

/-- What other requests leave to the request `i`. -/
structure Untouched (i : Nat) (s s' : Store) : Prop where
  request : ∀ r, s.requests[i]? = some r → s'.requests[i]? = some r
  loaded : ∀ session, (i, session) ∈ s.loaded → (i, session) ∈ s'.loaded
  files : Finalizing s i → SameFiles s s'

section

variable {i : Nat} {r : Request} {s s' s'' : Store}

/-- Nothing was done to the files. -/
theorem SameFiles.refl (s : Store) : SameFiles s s := ⟨rfl, rfl, rfl, rfl, rfl⟩

/-- Files that are the same twice are the same. -/
theorem SameFiles.trans (h : SameFiles s s') (h' : SameFiles s' s'') : SameFiles s s'' :=
  ⟨h'.session.trans h.session, h'.image.trans h.image, h'.inodes.trans h.inodes,
    h'.partPath.trans h.partPath, h'.finalPath.trans h.finalPath⟩

/-- A handle opens the file it opened. -/
theorem SameFiles.inode (h : SameFiles s s') (handle : Nat) : s'.inode handle = s.inode handle := by
  unfold Store.inode
  rw [h.inodes]

/-- A request stays engaged through others' steps. -/
theorem Untouched.engaged (h : Untouched i s s') (engaged : Engaged s i) : Engaged s' i := by
  obtain ⟨session, loaded, r, request, acts⟩ := engaged
  exact ⟨session, h.loaded session loaded, r, h.request r request, acts⟩

/-- A request goes on finalizing through others' steps. -/
theorem Untouched.finalizing (h : Untouched i s s') (finalizing : Finalizing s i) :
    Finalizing s' i :=
  ⟨h.request _ finalizing.1, h.engaged finalizing.2⟩

/-- Nobody did anything. -/
theorem Untouched.refl (i : Nat) (s : Store) : Untouched i s s :=
  ⟨fun _ => id, fun _ => id, fun _ => SameFiles.refl s⟩

/-- Others' steps add up. -/
theorem Untouched.trans (h : Untouched i s s') (h' : Untouched i s' s'') : Untouched i s s'' := by
  refine ⟨fun r hr => h'.request r (h.request r hr),
    fun session hs => h'.loaded session (h.loaded session hs), ?_⟩
  intro finalizing
  exact (h.files finalizing).trans (h'.files (h.finalizing finalizing))

end

/-- Requests about one session beside each other. -/
def views (sha256 : Bytes → String) : Discipline (system sha256) where
  ok := undisputedOp
  inv := Settled sha256
  rely := Untouched
  guar i s s' := (s.image.status = .ready → s'.image.status = .ready) ∧
    ∀ j, j ≠ i → Untouched j s s'
  rely_refl := Untouched.refl
  rely_trans _ _ _ _ := Untouched.trans
  guar_rely _ j _ _ hne h := h.2 j (Ne.symm hne)

/-! ## The steps of a request -/

section Steps

variable {sha256 : Bytes → String} {i : Nat} {r : Request} {c : Choice} {o : UploadOp}
  {a : UploadAns o} {s s' : Store}

/-- Operations that change none of the rows and files. -/
def quiet : UploadOp → Prop
  | .loadImage | .acquire | .release | .partExists | .partSize | .openRead | .readAll _ => True
  | _ => False

/-- Operations of a request in between, none of which makes the image ready. -/
def plain : UploadOp → Prop
  | .loadSession | .respond _ => False
  | .saveImage fields => fields.status ≠ .ready
  | _ => True

/-- A quiet operation is a plain one. -/
theorem quiet.plain (h : quiet o) : Store.plain o := by
  cases o <;> trivial

/-- A quiet operation touches no file. -/
theorem act_quiet (ho : quiet o) (h : act c i o s = some (a, s')) :
    SameFiles s s' ∧ s'.requests = s.requests ∧ s'.loaded = s.loaded := by
  cases o <;> simp only [quiet] at ho <;> simp only [act] at h
  case acquire =>
    split at h <;> cases h <;> exact ⟨⟨rfl, rfl, rfl, rfl, rfl⟩, rfl, rfl⟩
  case release =>
    cases h
    split <;> exact ⟨⟨rfl, rfl, rfl, rfl, rfl⟩, rfl, rfl⟩
  all_goals
    cases h
    exact ⟨SameFiles.refl s, rfl, rfl⟩

/-- A plain operation neither begins nor ends a request and readies no image. -/
theorem act_plain (ho : plain o) (h : act c i o s = some (a, s')) :
    s'.requests = s.requests ∧ s'.loaded = s.loaded ∧
      (s.image.status ≠ .ready → s'.image.status ≠ .ready) := by
  cases o with
  | loadSession | respond => exact ho.elim
  | loadImage | acquire | release | partExists | partSize | openRead | readAll =>
    obtain ⟨files, requests, loaded⟩ := act_quiet (by trivial) h
    exact ⟨requests, loaded, by rw [files.image]; exact id⟩
  | openPart append =>
    simp only [act] at h
    split at h <;> cases h
    · exact ⟨rfl, rfl, id⟩
    · rw [openPart_frame]
      exact ⟨rfl, rfl, id⟩
  | write | saveCounters | saveSession =>
    simp only [act] at h
    split at h <;> cases h <;> exact ⟨rfl, rfl, id⟩
  | saveImage fields =>
    simp only [act] at h
    split at h <;> cases h
    · exact ⟨rfl, rfl, id⟩
    · exact ⟨rfl, rfl, fun _ => ho⟩
  | replace =>
    simp only [act] at h
    split at h
    · cases h
      exact ⟨rfl, rfl, id⟩
    · split at h <;> cases h <;> exact ⟨rfl, rfl, id⟩
  | unlinkPart =>
    simp only [act] at h
    split at h <;> cases h <;> exact ⟨rfl, rfl, id⟩

/-- Being engaged depends on the requests only. -/
theorem Engaged.of_same (h : Engaged s' i) (requests : s'.requests = s.requests)
    (loaded : s'.loaded = s.loaded) : Engaged s i := by
  unfold Engaged at h ⊢
  rw [← requests, ← loaded]
  exact h

/-- So does finalizing. -/
theorem Finalizing.of_same (h : Finalizing s' i) (requests : s'.requests = s.requests)
    (loaded : s'.loaded = s.loaded) : Finalizing s i :=
  ⟨requests ▸ h.1, h.2.of_same requests loaded⟩

/-- An image is intact as long as its files are the same. -/
theorem Intact.of_same (h : Intact sha256 s) (files : SameFiles s s') : Intact sha256 s' := by
  obtain ⟨handle, path, size, digest⟩ := h
  refine ⟨handle, files.finalPath.trans path, ?_, ?_⟩
  · rw [files.inode, files.image]
    exact size
  · rw [files.inode, files.image]
    exact digest

/-- What changes no row and no file keeps the invariant when nobody becomes engaged. -/
theorem Settled.of_files (inv : Settled sha256 s) (files : SameFiles s s')
    (engaged : ∀ j, Engaged s' j → Engaged s j ∧ s'.requests[j]? = s.requests[j]?) :
    Settled sha256 s' := by
  refine ⟨?_, ?_, ?_, ?_⟩
  · intro i j finalizing hj
    obtain ⟨hi, request⟩ := engaged i finalizing.2
    exact inv.alone i j ⟨request ▸ finalizing.1, hi⟩ (engaged j hj).1
  · intro ready
    rw [files.image] at ready
    exact (inv.intact ready).of_same files
  · intro ready
    rw [files.image] at ready
    rw [files.session]
    exact inv.completed ready
  · intro ready j hj
    rw [files.image] at ready
    obtain ⟨before, request⟩ := engaged j hj
    rw [request]
    exact inv.done ready j before

/-- A quiet operation does no harm in any state. -/
theorem step_quiet (ho : quiet o) (inv : Settled sha256 s) (hact : act c i o s = some (a, s')) :
    Settled sha256 s' ∧ (views sha256).guar i s s' := by
  obtain ⟨files, requests, loaded⟩ := act_quiet ho hact
  refine ⟨inv.of_files files fun j hj => ⟨hj.of_same requests loaded, by rw [requests]⟩, ?_, ?_⟩
  · rw [files.image]
    exact id
  · intro j _
    exact ⟨by rw [requests]; exact fun _ => id, by rw [loaded]; exact fun _ => id, fun _ => files⟩

/-- An engaged request may do anything plain while the image is not ready: no other request is
finalizing. -/
theorem step_plain (ho : plain o) (inv : Settled sha256 s) (engaged : Engaged s i)
    (pending : s.image.status ≠ .ready) (hact : act c i o s = some (a, s')) :
    Settled sha256 s' ∧ (views sha256).guar i s s' ∧ s'.image.status ≠ .ready := by
  obtain ⟨requests, loaded, image⟩ := act_plain ho hact
  have pending' := image pending
  refine ⟨⟨?_, fun ready => absurd ready pending', fun ready => absurd ready pending',
    fun ready => absurd ready pending'⟩, ⟨fun ready => absurd ready pending, ?_⟩, pending'⟩
  · intro i j finalizing hj
    exact inv.alone i j (finalizing.of_same requests loaded) (hj.of_same requests loaded)
  · intro j hne
    refine ⟨by rw [requests]; exact fun _ => id, by rw [loaded]; exact fun _ => id, ?_⟩
    intro finalizing
    exact absurd (inv.alone j i finalizing engaged) hne

/-- `_get_session`: the request has its object, and is engaged if it is going to act. -/
theorem safe_loadSession :
    Safe (views sha256) i (fun s => s.requests[i]? = some r)
      (Script.perform UploadOp.loadSession : UploadM Session)
      (fun session s => s.requests[i]? = some r ∧
        (Acts session r → Engaged s i ∧ s.image.status ≠ .ready))
      fun _ _ => False := by
  refine Safe.perform (fun s s' step h => step.request r h) ?_
  intro s c session s' request inv hok hact
  cases hact
  have dispute := hok r request
  -- a request that is going to act does not find the image ready
  have pending : Acts s.session r → s.image.status ≠ .ready := by
    intro acts ready
    have completed := inv.completed ready
    cases r with
    | put index body =>
      rw [acts.1] at completed
      cases completed
    | finalize =>
      have uploading : s.session.status = .uploading := acts
      rw [uploading] at completed
      cases completed
    | abort => exact (dispute acts).2 rfl ready
  -- who is engaged after the load was engaged before, or is this request
  have engaged : ∀ j, Engaged { s with loaded := (i, s.session) :: s.loaded } j →
      Engaged s j ∨ j = i ∧ Acts s.session r := by
    rintro j ⟨session, loaded, r', request', acts⟩
    rcases List.mem_cons.mp loaded with same | loaded
    · cases same
      rw [request] at request'
      cases request'
      exact .inr ⟨rfl, acts⟩
    · exact .inl ⟨session, loaded, r', request', acts⟩
  have others : Acts s.session r → ∀ j, Engaged s j →
      r ≠ .finalize ∧ s.requests[j]? ≠ some .finalize := by
    rintro acts j ⟨session, loaded, r', request', acts'⟩
    obtain ⟨this, that⟩ := (dispute acts).1 (j, session) loaded r' request' acts'
    refine ⟨this, ?_⟩
    rw [request']
    intro same
    exact that (Option.some.inj same)
  refine ⟨⟨?_, fun ready => (inv.intact ready).of_same ⟨rfl, rfl, rfl, rfl, rfl⟩, inv.completed,
    ?_⟩, ⟨id, ?_⟩, request, ?_⟩
  · rintro j k ⟨finalize, hj⟩ hk
    rcases engaged j hj with before | ⟨rfl, acts⟩
    · rcases engaged k hk with before' | ⟨rfl, acts⟩
      · exact inv.alone j k ⟨finalize, before⟩ before'
      · exact absurd finalize (others acts j before).2
    · rcases engaged k hk with before' | ⟨rfl, -⟩
      · exact absurd (Option.some.inj (request.symm.trans finalize)) (others acts k before').1
      · rfl
  · intro ready j hj
    rcases engaged j hj with hj | ⟨rfl, acts⟩
    · exact inv.done ready j hj
    · exact absurd ready (pending acts)
  · intro j _
    exact ⟨fun _ => id, fun _ => List.mem_cons_of_mem _, fun _ => ⟨rfl, rfl, rfl, rfl, rfl⟩⟩
  · intro acts
    exact ⟨⟨s.session, List.mem_cons_self, r, request, acts⟩, pending acts⟩

/-- An engaged request that does not finalize. -/
def Meddling (i : Nat) (s : Store) : Prop := Engaged s i ∧ s.requests[i]? ≠ some .finalize

/-- A request that may meddle may still meddle. -/
theorem Meddling.rely (h : Meddling i s) (step : Untouched i s s') : Meddling i s' := by
  obtain ⟨⟨session, loaded, r, request, acts⟩, other⟩ := h
  refine ⟨step.engaged ⟨session, loaded, r, request, acts⟩, ?_⟩
  rw [step.request r request, ← request]
  exact other

/-- A request that does not finalize may do anything plain once it is engaged. -/
theorem safe_meddling {α : Type} {x : UploadM α}
    (h : Obeys (fun _ _ => True) plain (fun _ => True) x) :
    Safe (views sha256) i (Meddling i) x (fun _ _ => True) fun _ _ => True := by
  refine Safe.conseq (h.safe (J := Meddling i) (fun s s' step h => h.rely step) ?_) (fun _ => id)
    (fun _ _ _ => trivial) fun _ _ _ => trivial
  intro o ho s c a s' meddling inv _ hact
  have pending : s.image.status ≠ .ready :=
    fun ready => meddling.2 (inv.done ready i meddling.1)
  obtain ⟨inv', guar, -⟩ := step_plain ho inv meddling.1 pending hact
  obtain ⟨requests, loaded, -⟩ := act_plain ho hact
  refine ⟨inv', guar, meddling.1.of_same requests.symm loaded.symm, ?_⟩
  rw [requests]
  exact meddling.2

/-- A request that only looks may do so at any time. -/
theorem safe_quiet {α : Type} {x : UploadM α} {P : Store → Prop}
    (h : Obeys (fun _ _ => True) quiet (fun _ => True) x) :
    Safe (views sha256) i P x (fun _ _ => True) fun _ _ => True := by
  refine Safe.conseq (h.safe (J := fun _ => True) (fun _ _ _ => id) ?_) (fun _ _ => trivial)
    (fun _ _ => id) fun _ _ => id
  intro o ho s c a s' _ inv _ hact
  obtain ⟨inv', guar⟩ := step_quiet ho inv hact
  exact ⟨inv', guar, trivial⟩

/-- A call that may raise does what it calls. -/
theorem obeys_call {α : Type} {φ : UploadOp → Prop} {x : UploadM (Except Exn α)}
    (h : Obeys (fun _ _ => True) φ (fun _ => True) x) :
    Obeys (fun _ _ => True) φ (fun _ => True) (call x) := by
  refine Obeys.bind h fun a _ => ?_
  cases a with
  | ok b => exact Obeys.pure trivial
  | error e => exact Obeys.throw

theorem obeys_perform {φ : UploadOp → Prop} {o : UploadOp} (ho : φ o) :
    Obeys (fun _ _ => True) φ (fun _ => True) (Script.perform o : UploadM (UploadAns o)) :=
  Obeys.perform ho fun _ _ => trivial

/-- `try_lock` acquires, runs the body and releases. -/
theorem tryLock_obeys {α : Type} {φ : UploadOp → Prop} {body : UploadM α}
    (acquire : φ .acquire) (release : φ .release)
    (h : Obeys (fun _ _ => True) φ (fun _ => True) body) :
    Obeys (fun _ _ => True) φ (fun _ => True) (tryLock body) := by
  refine Obeys.bind (obeys_perform acquire) fun got _ => Obeys.ite (fun _ => ?_) fun _ =>
    Obeys.throw
  refine Obeys.bind (Obeys.tryCatch h fun e => ?_) fun a _ => ?_
  · exact Obeys.bind (obeys_perform release) fun _ _ => Obeys.throw
  · exact Obeys.bind (obeys_perform release) fun _ _ => Obeys.pure trivial

/-- Writing blocks is plain. -/
theorem writeBlocks_plain (handle : Nat) (blocks : List Bytes) :
    Obeys (fun _ _ => True) plain (fun _ => True) (writeBlocks handle blocks) := by
  induction blocks with
  | nil => exact Obeys.pure trivial
  | cons block rest ih =>
    exact Obeys.bind (obeys_call (obeys_perform trivial)) fun _ _ => ih

/-- Writing a chunk is plain. -/
theorem writeChunk_plain (session : Session) (n : Int) (blocks : List Bytes) :
    Obeys (fun _ _ => True) plain (fun _ => True) (writeChunk session n blocks) := by
  refine Obeys.ite (fun _ => Obeys.throw) fun _ => ?_
  refine Obeys.bind (obeys_perform trivial) fun append _ => ?_
  refine Obeys.bind (obeys_call (obeys_perform trivial)) fun handle _ => ?_
  refine Obeys.bind (writeBlocks_plain handle blocks) fun _ _ => ?_
  exact Obeys.bind (obeys_call (obeys_perform trivial)) fun _ _ => Obeys.pure trivial

/-- A chunk for another index is turned away. -/
theorem writeChunk_quiet {session : Session} {n : Int} {blocks : List Bytes}
    (other : n ≠ session.nextChunkIndex) :
    Obeys (fun _ _ => True) quiet (fun _ => True) (writeChunk session n blocks) := by
  unfold writeChunk
  rw [if_pos other]
  exact Obeys.throw

/-- A busy answer does nothing. -/
theorem busy_obeys {φ : UploadOp → Prop} {x : UploadM Response}
    (h : Obeys (fun _ _ => True) φ (fun _ => True) x) :
    Obeys (fun _ _ => True) φ (fun _ => True) (tryCatch x fun
      | .lockAcquisition => return .refused "UPLOAD_BUSY"
      | e => throw e) := by
  refine Obeys.tryCatch h fun e => ?_
  split
  · exact Obeys.pure trivial
  · exact Obeys.throw

/-- `ChunkUploadView.put`: it is engaged, or it only looks. -/
theorem views_put {index : IndexParam} {body : Option (List Bytes)} :
    Safe (views sha256) i (fun s => s.requests[i]? = some (.put index body)) (put index body)
      (fun _ _ => True) fun _ _ => True := by
  refine Safe.bind (Safe.conseq safe_loadSession (fun _ => id) (fun _ _ => id)
    fun _ _ => False.elim) fun session => ?_
  by_cases acts : Acts session (.put index body)
  · refine Safe.conseq (safe_meddling (i := i) ?_) (fun s h => ?_) (fun _ _ => id) fun _ _ => id
    · refine Obeys.ite (fun _ => Obeys.pure trivial) fun _ => ?_
      refine Obeys.bind (Q := fun _ => True) ?_ fun n _ => ?_
      · cases index with
        | missing | number => exact Obeys.pure trivial
        | malformed => exact Obeys.throw
      · cases body with
        | none => exact Obeys.pure trivial
        | some blocks =>
          exact busy_obeys (tryLock_obeys trivial trivial (writeChunk_plain session n blocks))
    · refine ⟨(h.2 acts).1, ?_⟩
      rw [h.1]
      exact nofun
  · refine safe_quiet (Obeys.ite (fun _ => Obeys.pure trivial) fun active => ?_)
    cases body with
    | none =>
      refine Obeys.bind (Q := fun _ => True) ?_ fun n _ => Obeys.pure trivial
      cases index with
      | missing | number => exact Obeys.pure trivial
      | malformed => exact Obeys.throw
    | some blocks =>
      have other : ¬ IndexParam.fits session.nextChunkIndex index :=
        fun fits => acts ⟨not_not.mp active, rfl, fits⟩
      cases index with
      | missing => exact absurd trivial other
      | number n =>
        exact Obeys.bind (Obeys.pure (Q := (· = n)) rfl) fun m hm =>
          busy_obeys (tryLock_obeys trivial trivial (writeChunk_quiet (hm ▸ other)))
      | malformed => exact Obeys.bind (Q := fun _ => False) Obeys.throw fun _ h => h.elim

/-- `AbortUploadView.post` -/
theorem views_abort :
    Safe (views sha256) i (fun s => s.requests[i]? = some .abort) abort (fun _ _ => True)
      fun _ _ => True := by
  refine Safe.bind (Safe.conseq safe_loadSession (fun _ => id) (fun _ _ => id)
    fun _ _ => False.elim) fun session => ?_
  refine Safe.conseq (safe_meddling (i := i) ?_) (fun s h => ?_) (fun _ _ => id) fun _ _ => id
  · refine Obeys.bind (Q := fun _ => True) ?_ fun _ _ => ?_
    · refine Obeys.bind (obeys_perform trivial) fun there _ => Obeys.ite (fun _ => ?_) fun _ =>
        Obeys.pure trivial
      exact obeys_call (obeys_perform trivial)
    · refine Obeys.bind (obeys_call (obeys_perform trivial)) fun _ _ => ?_
      exact Obeys.bind (obeys_call (obeys_perform (by exact nofun))) fun _ _ => Obeys.pure trivial
  · refine ⟨(h.2 trivial).1, ?_⟩
    rw [h.1]
    exact nofun

/-! ## Finalizing -/

/-- The request `i` is finalizing, and the image is not ready yet. -/
def Holding (i : Nat) (s : Store) : Prop := Finalizing s i ∧ s.image.status ≠ .ready

/-- Whoever holds the lock holds it through others' steps. -/
theorem Holding.rely (h : Holding i s) (step : Untouched i s s') : Holding i s' := by
  refine ⟨step.finalizing h.1, ?_⟩
  rw [(step.files h.1).image]
  exact h.2

/-- One plain operation of a request that finalizes, from an assertion about the rows and files. -/
theorem safe_holding {P : Store → Prop} {Q : UploadAns o → Store → Prop} {R : Exn → Store → Prop}
    (ho : plain o) (same : ∀ s s', SameFiles s s' → P s → P s')
    (step : ∀ s c a s', P s → act c i o s = some (a, s') → Q a s') :
    Safe (views sha256) i (fun s => Holding i s ∧ P s)
      (Script.perform o : UploadM (UploadAns o)) (fun a s => Holding i s ∧ Q a s) R := by
  refine Safe.perform (fun s s' step h => ⟨h.1.rely step, same s s' (step.files h.1.1) h.2⟩) ?_
  rintro s c a s' ⟨⟨finalizing, pending⟩, h⟩ inv _ hact
  obtain ⟨inv', guar, pending'⟩ := step_plain ho inv finalizing.2 pending hact
  obtain ⟨requests, loaded, -⟩ := act_plain ho hact
  exact ⟨inv', guar, ⟨finalizing.of_same requests.symm loaded.symm, pending'⟩,
    step s c a s' h hact⟩

/-- Under the lock a plain operation is safe. -/
theorem safe_holding_plain {R : Exn → Store → Prop} (ho : plain o) :
    Safe (views sha256) i (Holding i) (Script.perform o : UploadM (UploadAns o))
      (fun _ => Holding i) R :=
  Safe.conseq (safe_holding (P := fun _ => True) (Q := fun _ _ => True) ho (fun _ _ _ => id)
    fun _ _ _ _ _ _ => trivial) (fun _ h => ⟨h, trivial⟩) (fun _ _ h => h.1) fun _ _ => id

theorem safe_holding_call {α : Type} {P : Store → Prop} {x : UploadM (Except Exn α)}
    {Q : α → Store → Prop}
    (hx : Safe (views sha256) i P x (fun a s => Holding i s ∧ ∀ b, a = .ok b → Q b s)
      fun _ => Holding i) :
    Safe (views sha256) i P (call x) (fun b s => Holding i s ∧ Q b s) fun _ => Holding i :=
  safe_call (Safe.conseq hx (fun _ => id) (fun _ _ h => ⟨fun b hb => ⟨h.1, h.2 b hb⟩,
    fun _ _ => h.1⟩) fun _ _ => id)

/-- The `.part` file is the inode `handle`, with `size` bytes. -/
def Sized (size handle : Nat) (s : Store) : Prop :=
  s.partPath = some handle ∧ (s.inode handle).length = size

/-- A size that was measured is the size as long as the files are the same. -/
theorem Sized.of_same {size handle : Nat} (h : Sized size handle s) (files : SameFiles s s') :
    Sized size handle s' :=
  ⟨files.partPath.trans h.1, by rw [files.inode]; exact h.2⟩

/-- The file has been moved into place. -/
def Moved (sha256 : Bytes → String) (checksum : String) (size : Nat) (s : Store) : Prop :=
  ∃ h, s.finalPath = some h ∧ (s.inode h).length = size ∧ sha256 (s.inode h) = checksum

/-- A file that was moved keeps its content. -/
theorem Moved.of_inodes {checksum : String} {size : Nat} (h : Moved sha256 checksum size s)
    (finalPath : s'.finalPath = s.finalPath) (inodes : s'.inodes = s.inodes) :
    Moved sha256 checksum size s' := by
  unfold Moved Store.inode at h ⊢
  rw [finalPath, inodes]
  exact h

/-- A file that was moved is there as long as the files are the same. -/
theorem Moved.of_same {checksum : String} {size : Nat} (h : Moved sha256 checksum size s)
    (files : SameFiles s s') : Moved sha256 checksum size s' :=
  h.of_inodes files.finalPath files.inodes

/-- The part file is the one its path opens. -/
theorem partInode_ok {h : Nat} (path : s.partInode = .ok h) : s.partPath = some h := by
  unfold partInode at path
  split at path
  · next handle there =>
    cases path
    exact there
  · cases path

/-- `finalize_upload` by a request that has the session to itself: what is moved into place is what
was measured and hashed. -/
theorem safe_finalizeUpload (session : Session) :
    Safe (views sha256) i (Holding i) (finalizeUpload sha256 session)
      (fun a s => Holding i s ∧ Moved sha256 a.1 a.2 s) fun _ => Holding i := by
  refine Safe.bind (safe_holding_plain trivial) fun there => ?_
  split
  · exact Safe.throw fun _ => id
  refine Safe.bind (Q := fun size s => Holding i s ∧ ∃ h, Sized size h s)
    (safe_holding_call (Safe.conseq (safe_holding (o := .partSize) (P := fun _ => True)
      (Q := fun (a : Except Exn Nat) s => ∀ size, a = .ok size → ∃ h, Sized size h s) trivial (fun _ _ _ => id) ?_)
      (fun _ h => ⟨h, trivial⟩) (fun _ _ => id) fun _ _ => id)) fun size => ?_
  · intro s c a s' _ hact size hsize
    cases hact
    cases path : s.partInode with
    | error e =>
      rw [path] at hsize
      cases hsize
    | ok h =>
      rw [path] at hsize
      cases hsize
      exact ⟨h, partInode_ok path, rfl⟩
  split
  · exact Safe.throw fun _ h => h.1
  refine Safe.bind (Q := fun handle s => Holding i s ∧ Sized size handle s)
    (safe_holding_call (safe_holding trivial ?_ ?_)) fun handle => ?_
  · rintro s s' files ⟨h, sized⟩
    exact ⟨h, sized.of_same files⟩
  · rintro s c a s' ⟨h, sized⟩ hact handle hhandle
    cases hact
    have path := partInode_ok hhandle
    have same : h = handle := Option.some.inj (sized.1.symm.trans path)
    exact same ▸ sized
  refine Safe.bind (Q := fun content s => Holding i s ∧ Sized size handle s ∧
    s.inode handle = content) (safe_holding trivial (fun s s' files h => h.of_same files) ?_)
    fun content => ?_
  · intro s c a s' sized hact
    cases hact
    exact ⟨sized, rfl⟩
  have same : ∀ s s', SameFiles s s' → Sized size handle s ∧ s.inode handle = content →
      Sized size handle s' ∧ s'.inode handle = content := by
    intro s s' files h
    exact ⟨h.1.of_same files, by rw [files.inode]; exact h.2⟩
  dsimp only
  split
  · exact Safe.throw fun _ h => h.1
  refine Safe.bind (Q := fun _ s => Holding i s ∧ Sized size handle s ∧ s.inode handle = content)
    (safe_holding trivial same ?_) fun _ => ?_
  · intro s c a s' h hact
    cases hact
    exact h
  refine Safe.bind (safe_holding_call (safe_holding (o := .replace)
    (Q := fun (a : Except Exn Unit) s => ∀ b, a = .ok b → Moved sha256 (sha256 content) size s)
    trivial same ?_))
    fun _ => Safe.pure fun _ => id
  rintro s c a s' ⟨sized, rfl⟩ hact b hb
  simp only [act, sized.1] at hact
  split at hact
  · cases hact
    cases hb
  · cases hact
    exact ⟨handle, rfl, sized.2, rfl⟩

/-- The `except` branch. -/
theorem safe_finalizeExcept (exc : Exn) :
    Safe (views sha256) i (Holding i) (finalizeExcept exc) (fun _ _ => True) fun _ _ => True := by
  refine Safe.conseq (Q := fun _ => Holding i) (R := fun _ => Holding i)
    (Safe.bind (Q := fun _ => Holding i) ?_ fun _ => ?_) (fun _ => id) (fun _ _ _ => trivial) fun _ _ _ => trivial
  · exact safe_call (Safe.conseq (safe_holding_plain (o := .saveSession .failed (some exc.str)) trivial)
      (fun _ => id) (fun _ _ h => ⟨fun _ _ => h, fun _ _ => h⟩) fun _ _ => id)
  · exact safe_call (Safe.conseq (safe_holding_plain (o := .saveImage { status := .failed }) (by exact nofun))
      (fun _ => id) (fun _ _ h => ⟨fun _ _ => h, fun _ _ => h⟩) fun _ _ => id)

/-- The rows are saved once the file is in place, and with the second save the image is ready. -/
theorem safe_complete {checksum : String} {size : Nat} :
    Safe (views sha256) i (fun s => Holding i s ∧ Moved sha256 checksum size s)
      (do
        call (Script.perform (UploadOp.saveSession .completed none))
        call (Script.perform (UploadOp.saveImage
          { status := .ready, sizeBytes := some size, sha256 := some checksum }))
        return .image { status := .ready, sizeBytes := size, sha256 := checksum } :
          UploadM Response)
      (fun _ _ => True) fun _ _ => True := by
  refine Safe.bind (Q := fun _ s => Holding i s ∧ Moved sha256 checksum size s ∧
    s.session.status = .completed) (Safe.conseq (safe_holding_call (safe_holding
      (o := .saveSession .completed none) (Q := fun (a : Except Exn Unit) s => ∀ b, a = .ok b →
        Moved sha256 checksum size s ∧ s.session.status = .completed) trivial
      (fun s s' files h => h.of_same files) ?_)) (fun _ => id) (fun _ _ => id)
      fun _ _ _ => trivial) fun _ => Safe.bind (Q := fun _ _ => True)
      (safe_call (Safe.perform ?_ ?_)) fun _ => Safe.pure fun _ => id
  · intro s c a s' moved hact b hb
    simp only [act] at hact
    split at hact
    · cases hact
      cases hb
    · cases hact
      exact ⟨moved.of_inodes rfl rfl, rfl⟩
  · rintro s s' step ⟨holding, moved, completed⟩
    have files := step.files holding.1
    exact ⟨holding.rely step, moved.of_same files, by rw [files.session]; exact completed⟩
  · rintro s c a s' ⟨⟨finalizing, pending⟩, ⟨h, path, length, digest⟩, completed⟩ inv _ hact
    simp only [system, act] at hact
    split at hact
    · cases hact
      exact ⟨inv, ⟨id, fun j _ => Untouched.refl j s⟩, fun _ _ => trivial, fun _ _ => trivial⟩
    · cases hact
      refine ⟨⟨inv.alone, fun _ => ⟨h, path, length, digest⟩, fun _ => completed, ?_⟩,
        ⟨fun _ => rfl, ?_⟩, fun _ _ => trivial, fun _ _ => trivial⟩
      · intro _ j engaged
        have same : i = j := inv.alone i j finalizing engaged
        exact same ▸ finalizing.1
      · intro j hne
        refine ⟨fun _ => id, fun _ => id, ?_⟩
        intro other
        exact absurd (inv.alone j i other finalizing.2) hne

/-- `FinalizeUploadView.post` -/
theorem views_finalize :
    Safe (views sha256) i (fun s => s.requests[i]? = some .finalize) (finalize sha256)
      (fun _ _ => True) fun _ _ => True := by
  refine Safe.bind (Safe.conseq safe_loadSession (fun _ => id) (fun _ _ => id)
    fun _ _ => False.elim) fun session => ?_
  split
  · exact safe_quiet (Obeys.bind (obeys_perform trivial) fun _ _ => Obeys.pure trivial)
  split
  · exact Safe.pure fun _ _ => trivial
  next active =>
  have uploading : Acts session .finalize := not_not.mp active
  refine Safe.conseq (P := Holding i) (Safe.bind (Safe.tryCatch (safe_finalizeUpload session)
    fun exc => ?_) ?_) (fun s h => ⟨⟨h.1, (h.2 uploading).1⟩, (h.2 uploading).2⟩)
    (fun _ _ => id) fun _ _ => id
  · exact Safe.bind (safe_finalizeExcept exc) fun _ => Safe.throw fun _ => id
  · rintro ⟨checksum, size⟩
    exact safe_complete

/-- A request from its arrival to its response. -/
theorem views_serve (r : Request) :
    Safe (views sha256) i (fun s => s.requests[i]? = some r) (r.serve sha256) (fun _ _ => True)
      fun _ _ => True := by
  refine Safe.bind (Q := fun _ _ => True) (Safe.tryCatch (R := fun _ _ => True) ?_ fun e =>
    Safe.pure fun _ => id) fun a => Safe.perform (fun _ _ _ => id) ?_
  · cases r with
    | put index body => exact views_put
    | finalize => exact views_finalize
    | abort => exact views_abort
  · intro s c b s' _ inv _ hact
    cases hact
    refine ⟨inv.of_files ⟨rfl, rfl, rfl, rfl, rfl⟩ ?_, ⟨id, ?_⟩, trivial⟩
    · rintro j ⟨session, loaded, engaged⟩
      exact ⟨⟨session, (List.mem_filter.mp loaded).1, engaged⟩, rfl⟩
    · intro j hne
      refine ⟨fun _ => id, ?_, fun _ => ⟨rfl, rfl, rfl, rfl, rfl⟩⟩
      intro session loaded
      exact List.mem_filter.mpr ⟨loaded, by simpa using hne⟩

end Steps

/-! ## Every run -/

/-- Every request is safe, and has its own index. -/
structure Viewing (sha256 : Bytes → String) (p : Clients) : Prop where
  threaded : (views sha256).Threaded p
  indexed : p.threads.length = p.shared.requests.length
  /-- Nothing was loaded for a request that is still to come. -/
  known : ∀ x ∈ p.shared.loaded, x.1 < p.shared.requests.length

/-- What a request has loaded is kept for that request. -/
theorem act_loaded {c : Choice} {i : Nat} {o : UploadOp} {a : UploadAns o} {s s' : Store}
    (h : act c i o s = some (a, s')) : ∀ x ∈ s'.loaded, x.1 = i ∨ x ∈ s.loaded := by
  by_cases ho : plain o
  · obtain ⟨-, loaded, -⟩ := act_plain ho h
    rw [loaded]
    exact fun x => .inr
  · cases o with
    | loadSession =>
      cases h
      intro x hx
      rcases List.mem_cons.mp hx with rfl | hx
      · exact .inl rfl
      · exact .inr hx
    | respond r =>
      cases h
      exact fun x hx => .inr (List.mem_filter.mp hx).1
    | saveImage fields =>
      simp only [act] at h
      split at h <;> cases h <;> exact fun x => .inr
    | _ => exact absurd trivial ho

/-- A request's operation keeps the invariant. -/
theorem Viewing.act {sha256 : Bytes → String} {i : Nat} {c : Choice} {p p' : Clients}
    (h : Viewing sha256 p) (undisputed : Undisputed (.act i c) p)
    (hstep : (system sha256).step (.act i c) p = some p') :
    Viewing sha256 p' ∧ (p.shared.image.status = .ready → p'.shared.image.status = .ready) := by
  have hok : ∀ tag o k, p.threads[i]? = some ⟨tag, .vis o k⟩ → undisputedOp c i o p.shared :=
    fun tag o k hi => undisputed _ hi o rfl
  have threaded := Discipline.keeps_act i h.threaded hstep hok
  have guar := Discipline.guar_act i h.threaded hstep hok
  refine ⟨⟨threaded, ?_, ?_⟩, guar.1⟩
  · obtain ⟨tag, o, k, a, s, hi, hact, rfl⟩ := System.step_act hstep
    rw [List.length_set, h.indexed, act_requests hact]
  · obtain ⟨tag, o, k, a, s, hi, hact, rfl⟩ := System.step_act hstep
    intro x hx
    show x.1 < s.requests.length
    rw [act_requests hact]
    rcases act_loaded hact x hx with rfl | old
    · rw [← h.indexed]
      exact (List.getElem?_eq_some_iff.mp hi).1
    · exact h.known x old

/-- What happens around the requests keeps the invariant. -/
theorem Viewing.env {sha256 : Bytes → String} {event : Event} {p p' : Clients}
    (h : Viewing sha256 p) (hstep : (system sha256).step (.env event) p = some p') :
    Viewing sha256 p' ∧ (p.shared.image.status = .ready → p'.shared.image.status = .ready) := by
  have inv := h.threaded.inv
  cases event with
  | expire =>
    have threaded : (views sha256).Threaded p' := by
      refine Discipline.keeps_env h.threaded hstep ?_
      intro ts s henv
      cases henv
      exact ⟨inv.of_files ⟨rfl, rfl, rfl, rfl, rfl⟩ fun j hj => ⟨hj, rfl⟩,
        fun j => ⟨fun _ => id, fun _ => id, fun _ => ⟨rfl, rfl, rfl, rfl, rfl⟩⟩, by simp⟩
    obtain ⟨ts, s, henv, rfl⟩ := System.step_env hstep
    cases henv
    exact ⟨⟨threaded, by simpa using h.indexed, h.known⟩, id⟩
  | arrive r =>
    have earlier : ∀ j, j < p.shared.requests.length →
        (p.shared.requests ++ [r])[j]? = p.shared.requests[j]? :=
      fun j hj => List.getElem?_append_left hj
    have threaded : (views sha256).Threaded p' := by
      refine Discipline.keeps_env h.threaded hstep ?_
      intro ts s henv
      cases henv
      refine ⟨inv.of_files ⟨rfl, rfl, rfl, rfl, rfl⟩ ?_, ?_, ?_⟩
      · rintro j ⟨session, loaded, r', request, acts⟩
        have same := earlier j (h.known _ loaded)
        exact ⟨⟨session, loaded, r', same.symm.trans request, acts⟩, same⟩
      · intro j
        refine ⟨?_, fun _ => id, fun _ => ⟨rfl, rfl, rfl, rfl, rfl⟩⟩
        intro r' request
        exact (earlier j (lt_of_request request)).trans request
      · intro j t ht
        have zero : j = 0 := by simpa using (List.getElem?_eq_some_iff.mp ht).1
        subst zero
        cases ht
        rw [Nat.add_zero, h.indexed]
        exact (views_serve r () _ List.getElem?_concat_length).mono fun _ _ _ => trivial
    obtain ⟨ts, s, henv, rfl⟩ := System.step_env hstep
    cases henv
    refine ⟨⟨threaded, ?_, ?_⟩, id⟩
    · rw [List.length_append, List.length_append, h.indexed]
      rfl
    · intro x hx
      have known := h.known x hx
      rw [List.length_append]
      omega

/-- Every step keeps the invariant. -/
theorem Viewing.step {sha256 : Bytes → String} {l : Label Choice Event} {p p' : Clients}
    (h : Viewing sha256 p) (undisputed : Undisputed l p)
    (hstep : (system sha256).step l p = some p') :
    Viewing sha256 p' ∧ (p.shared.image.status = .ready → p'.shared.image.status = .ready) := by
  cases l with
  | act i c => exact h.act undisputed hstep
  | env event => exact h.env hstep

/-- An upload session as it is initiated. -/
def initiated (totalSizeBytes : Nat) (expectedSha256 : String) : Clients :=
  ⟨[], { session := { totalSizeBytes := totalSizeBytes, expectedSha256 := expectedSha256 } }⟩

/-- **A finished image stays good under undisputed requests.** In every run of requests on a new
session, however they interleave: if no step is disputed, then in the state that is reached a ready
image has its finished file, of the length and with the digest of its row, and an image that is
ready at some point of the run is ready ever after. -/
theorem undisputed_intact (sha256 : Bytes → String) (totalSizeBytes : Nat) (expectedSha256 : String)
    (ls ls' : List (Label Choice Event)) (q p : Clients)
    (before : runFrom (system sha256).step ls (initiated totalSizeBytes expectedSha256) = some q)
    (after : runFrom (system sha256).step ls' q = some p)
    (undisputed : Along (system sha256).step Undisputed ls
      (initiated totalSizeBytes expectedSha256))
    (undisputed' : Along (system sha256).step Undisputed ls' q) :
    (p.shared.image.status = .ready → Intact sha256 p.shared) ∧
      (q.shared.image.status = .ready → p.shared.image.status = .ready) := by
  have first : Viewing sha256 (initiated totalSizeBytes expectedSha256) := by
    refine ⟨⟨⟨?_, nofun, nofun, nofun⟩, ?_⟩, rfl, ?_⟩
    · rintro i j ⟨-, session, loaded, -⟩
      cases loaded
    · intro j t ht
      cases ht
    · intro x hx
      cases hx
  have middle : Viewing sha256 q :=
    runFrom_keeps (fun _ _ _ h hu hs => (h.step hu hs).1) first undisputed before
  have ends : Viewing sha256 p ∧
      (q.shared.image.status = .ready → p.shared.image.status = .ready) := by
    refine runFrom_keeps (I := fun t : Clients => Viewing sha256 t ∧
      (q.shared.image.status = .ready → t.shared.image.status = .ready)) ?_ ⟨middle, id⟩
      undisputed' after
    rintro l t t' ⟨viewing, kept⟩ hu hs
    obtain ⟨viewing', ready⟩ := viewing.step hu hs
    exact ⟨viewing', fun hq => ready (kept hq)⟩
  exact ⟨ends.1.threaded.inv.intact, ends.2⟩

/-- The digest of the two bytes `ab`. -/
def digestOfAb (content : Bytes) : String :=
  if content = [97, 98] then "fb8e20fc2e4c3f248c60c39bd652f3c1347298bb977b8b4d5903b85055620603"
  else ""

/-- The two bytes `ab` are sent in one chunk and finalized. -/
def finished : List (Label Choice Event) :=
  .env (.arrive (.put (.number 0) (some [[97, 98]]))) :: acts 0 8 ++
    .env (.arrive .finalize) :: acts 1 10

/-- A client that did not see the answer finalizes again, and another chunk comes too late. -/
def finalizedAgain : List (Label Choice Event) :=
  .env (.arrive .finalize) :: .env (.arrive (.put .missing (some [[99]]))) :: acts 2 3 ++ acts 3 2

theorem undisputed_intact_finished :
    ∃ q p, runFrom (system digestOfAb).step finished (initiated 2 "") = some q ∧
      runFrom (system digestOfAb).step finalizedAgain q = some p ∧
      q.shared.image.status = .ready ∧ p.shared.image.status = .ready ∧
      Intact digestOfAb p.shared := by
  have kept := undisputed_intact digestOfAb 2 "" finished finalizedAgain _ _ rfl rfl (by decide)
    (by decide)
  exact ⟨_, _, rfl, rfl, rfl, kept.2 rfl, kept.1 (kept.2 rfl)⟩

/-- The client finalizes again while the first request is on its way: both have loaded the session
when the first one goes on to its end. -/
def finalizedTwice : List (Label Choice Event) :=
  .env (.arrive (.put (.number 0) (some [[97, 98]]))) :: acts 0 8 ++
    .env (.arrive .finalize) :: .env (.arrive .finalize) :: .act 1 {} :: .act 2 {} :: acts 1 9

/-- The image is ready and its file is good, and then the second request finds no `.part` file and
marks it failed. -/
theorem finalizedTwice_fails_ready_image :
    ∃ q p, runFrom (system digestOfAb).step finalizedTwice (initiated 2 "") = some q ∧
      runFrom (system digestOfAb).step (acts 2 4) q = some p ∧
      q.shared.image.status = .ready ∧ Intact digestOfAb q.shared ∧
      p.shared.finalPath = q.shared.finalPath ∧ p.shared.session.status = .failed ∧
      p.shared.image.status = .failed :=
  ⟨_, _, rfl, rfl, rfl, ⟨0, rfl, rfl, rfl⟩, rfl, rfl, rfl⟩

end Store

end NodePilot.Uploads
