import NodePilot.Lib.Rely
import NodePilot.Uploads

/-!
# What chunk requests assemble

Chunk requests take the session's lock before they write, but the index they are checked against
and the counters they save come from an object that was loaded before. A request whose object is no
longer current writes its chunk a second time, and a write that fails leaves bytes in the file that
no counter knows of. `Current` is the condition that none of this happens: a request that takes the
lock for the index its object expects has an object that is current, a failure leaves nothing
behind, and the lock does not run out under its holder.

Between the lock and its release a request has the file and the counters for itself, so the threads
are verified one by one against what the others leave alone (`Undisturbed`).
-/

namespace NodePilot.Uploads

open Lib Lib.Script

namespace Store

/-! ## What is to be kept -/

/-- All the bytes that were accepted, in order. -/
def assembled (accepted : List (Nat × Bytes)) : Bytes := (accepted.map Prod.snd).flatten

/-- The `.part` file and the counters are what the accepted chunks make them. -/
structure Counted (s : Store) : Prop where
  part : s.part = assembled s.accepted
  received : s.session.receivedBytes = (assembled s.accepted).length
  next : s.session.nextChunkIndex = s.accepted.length

/-- The index a request gives is the one that is expected next. -/
def IndexParam.fits (next : Nat) : IndexParam → Prop
  | .missing => True
  | .number n => n = next
  | .malformed => False

/-- An answer agrees with what was accepted: a success names the place of the request's chunk, and
any other answer means that it has none. -/
def Matches (accepted : List (Nat × Bytes)) (i : Nat) : Response → Prop
  | .chunk receivedBytes nextChunkIndex chunkBytes => ∃ k chunk, accepted[k]? = some (i, chunk) ∧
      nextChunkIndex = k + 1 ∧ chunkBytes = chunk.length ∧
      receivedBytes = (assembled (accepted.take (k + 1))).length
  | _ => i ∉ accepted.map Prod.fst

/-- What was accepted is what the requests brought, each once, and they were answered accordingly. -/
structure Recorded (s : Store) : Prop where
  once : (s.accepted.map Prod.fst).Nodup
  own : ∀ k i chunk, s.accepted[k]? = some (i, chunk) → ∃ index blocks,
    s.requests[i]? = some (.put index (some blocks)) ∧ chunk = blocks.flatten ∧
      IndexParam.fits k index
  answered : ∀ i r, (i, r) ∈ s.answers → i < s.requests.length ∧ Matches s.accepted i r

/-- **The invariant** of chunk requests. -/
structure Sound (s : Store) : Prop where
  free : s.lock = none → Counted s
  recorded : Recorded s
  holder : ∀ i, s.lock = some i → i < s.requests.length ∧ ∀ a, (i, a) ∉ s.answers
  inode : ∀ h, s.partPath = some h → h < s.inodes.length

/-- What other requests leave alone: everything under the lock while `i` holds it, and what `i` has
of its own. -/
structure Undisturbed (i : Nat) (s s' : Store) : Prop where
  held : s.lock = some i → s'.lock = some i ∧ s'.session = s.session ∧ s'.inodes = s.inodes ∧
    s'.partPath = s.partPath ∧ s'.accepted = s.accepted
  unheld : s.lock ≠ some i → s'.lock ≠ some i
  request : ∀ r, s.requests[i]? = some r → s'.requests[i]? = some r
  loaded : s'.loaded.lookup i = s.loaded.lookup i
  accepted : ∃ more, s'.accepted = s.accepted ++ more ∧ ∀ x ∈ more, x.1 ≠ i
  answers : ∀ r, (i, r) ∈ s'.answers → (i, r) ∈ s.answers

/-- Nobody did anything. -/
theorem Undisturbed.refl (i : Nat) (s : Store) : Undisturbed i s s :=
  ⟨fun h => ⟨h, rfl, rfl, rfl, rfl⟩, id, fun _ => id, rfl, ⟨[], by simp, by simp⟩, fun _ => id⟩

/-- What others did adds up. -/
theorem Undisturbed.trans {i : Nat} {s s' s'' : Store} (h : Undisturbed i s s')
    (h' : Undisturbed i s' s'') : Undisturbed i s s'' := by
  obtain ⟨more, hmore, hne⟩ := h.accepted
  obtain ⟨more', hmore', hne'⟩ := h'.accepted
  refine ⟨?_, fun hl => h'.unheld (h.unheld hl), fun r hr => h'.request r (h.request r hr),
    h'.loaded.trans h.loaded, ⟨more ++ more', ?_, ?_⟩, fun r hr => h.answers r (h'.answers r hr)⟩
  · intro hl
    obtain ⟨lock, session, inodes, partPath, accepted⟩ := h.held hl
    obtain ⟨lock', session', inodes', partPath', accepted'⟩ := h'.held lock
    exact ⟨lock', session'.trans session, inodes'.trans inodes, partPath'.trans partPath,
      accepted'.trans accepted⟩
  · rw [hmore', hmore, List.append_assoc]
  · intro x hx
    rcases List.mem_append.mp hx with hx | hx
    · exact hne x hx
    · exact hne' x hx

/-! ## The condition -/

/-- A request for the index that an object of the session expects. -/
def Expects (session : Session) : Request → Prop
  | .put index _ => IndexParam.fits session.nextChunkIndex index
  | _ => False

/-- The object of a request has the counters of the row. -/
def Counters (session : Session) (s : Store) : Prop :=
  session.receivedBytes = s.session.receivedBytes ∧
    session.nextChunkIndex = s.session.nextChunkIndex

/-- The condition on one operation of the request `i`. -/
def currentOp (c : Choice) (i : Nat) (o : UploadOp) (s : Store) : Prop :=
  match o with
  | .acquire => s.lock = none → ∀ session ∈ s.loaded.lookup i, ∀ r ∈ s.requests[i]?,
      Expects session r → Counters session s
  | .write _ block => c.fails = true → block.take c.kept = [] ∧
      s.part.length = s.session.receivedBytes
  | .saveCounters _ _ _ => c.fails = true → s.part.length = s.session.receivedBytes
  | _ => True

/-- **The condition**: only chunk requests arrive, a request that takes the lock for the index its
object expects has a current object, a failure leaves nothing behind, and the lock does not run
out under its holder. -/
def Current : Label Choice Event → Pool Request UploadOp UploadAns (Except Exn Unit × Unit) Store →
    Prop
  | .act i c, p => ∀ t ∈ p.threads[i]?, ∀ o ∈ t.rest.next?, currentOp c i o p.shared
  | .env (.arrive r), _ => ∃ index body, r = .put index body
  | .env .expire, p => p.shared.lock = none

instance (session : Session) : (r : Request) → Decidable (Expects session r)
  | .put .missing _ => isTrue trivial
  | .put (.number n) _ => inferInstanceAs (Decidable (n = session.nextChunkIndex))
  | .put .malformed _ | .finalize | .abort => isFalse id

instance (session : Session) (s : Store) : Decidable (Counters session s) :=
  inferInstanceAs (Decidable (_ ∧ _))

instance (c : Choice) (i : Nat) (s : Store) : (o : UploadOp) → Decidable (currentOp c i o s)
  | .acquire => inferInstanceAs (Decidable (s.lock = none → ∀ session ∈ s.loaded.lookup i,
      ∀ r ∈ s.requests[i]?, Expects session r → Counters session s))
  | .write _ block => inferInstanceAs (Decidable (c.fails = true → block.take c.kept = [] ∧
      s.part.length = s.session.receivedBytes))
  | .saveCounters _ _ _ =>
    inferInstanceAs (Decidable (c.fails = true → s.part.length = s.session.receivedBytes))
  | .loadSession | .loadImage | .release | .partExists | .openPart _ | .partSize | .openRead
  | .readAll _ | .replace | .saveSession _ _ | .saveImage _ | .unlinkPart | .respond _ =>
    isTrue trivial

instance : (l : Label Choice Event) →
    (p : Pool Request UploadOp UploadAns (Except Exn Unit × Unit) Store) → Decidable (Current l p)
  | .act i c, p => inferInstanceAs
      (Decidable (∀ t ∈ p.threads[i]?, ∀ o ∈ t.rest.next?, currentOp c i o p.shared))
  | .env (.arrive (.put index body)), _ => isTrue ⟨index, body, rfl⟩
  | .env (.arrive .finalize), _ | .env (.arrive .abort), _ => isFalse nofun
  | .env .expire, p => inferInstanceAs (Decidable (p.shared.lock = none))

/-- Chunk requests beside each other. -/
def chunks (sha256 : Bytes → String) : Discipline (system sha256) where
  ok := currentOp
  inv := Sound
  rely := Undisturbed
  guar i s s' := ∀ j, j ≠ i → Undisturbed j s s'
  rely_refl := Undisturbed.refl
  rely_trans _ _ _ _ := Undisturbed.trans
  guar_rely _ j _ _ hne h := h j (Ne.symm hne)

/-! ## Assertions of a request -/

/-- The request `i` is `r`, nothing of it is accepted and it is not answered. -/
structure Pending (i : Nat) (r : Request) (s : Store) : Prop where
  request : s.requests[i]? = some r
  fresh : i ∉ s.accepted.map Prod.fst
  silent : ∀ a, (i, a) ∉ s.answers

/-- The request holds the lock, and its chunk has reached the file as far as `written`. -/
structure Writing (i : Nat) (r : Request) (written : Bytes) (s : Store) : Prop where
  pending : Pending i r s
  lock : s.lock = some i
  part : s.part = assembled s.accepted ++ written
  received : s.session.receivedBytes = (assembled s.accepted).length
  next : s.session.nextChunkIndex = s.accepted.length

/-- The chunk of the request is accepted, under the answer it is going to get. -/
structure Accepted (i : Nat) (a : Response) (s : Store) : Prop where
  known : i < s.requests.length
  silent : ∀ a, (i, a) ∉ s.answers
  answer : Matches s.accepted i a

section Stability

variable {i : Nat} {r : Request} {s s' : Store}

theorem lt_of_request {xs : List Request} (h : xs[i]? = some r) : i < xs.length :=
  (List.getElem?_eq_some_iff.mp h).1

/-- The part file depends on the files only. -/
theorem part_congr (inodes : s'.inodes = s.inodes) (partPath : s'.partPath = s.partPath) :
    s'.part = s.part := by
  unfold Store.part
  rw [partPath]
  cases s.partPath with
  | none => rfl
  | some h => simp [Store.inode, inodes]

/-- The count depends on the part, the session and what was accepted only. -/
theorem Counted.of_same (h : Counted s) (part : s'.part = s.part)
    (session : s'.session = s.session) (accepted : s'.accepted = s.accepted) : Counted s' :=
  ⟨by rw [part, accepted]; exact h.part, by rw [session, accepted]; exact h.received,
    by rw [session, accepted]; exact h.next⟩

/-- The record depends on the requests and answers only. -/
theorem Recorded.of_same (h : Recorded s) (accepted : s'.accepted = s.accepted)
    (requests : s'.requests = s.requests) (answers : s'.answers = s.answers) : Recorded s' :=
  ⟨by rw [accepted]; exact h.once, by rw [accepted, requests]; exact h.own,
    by rw [accepted, requests, answers]; exact h.answered⟩

/-- So does a request that is pending. -/
theorem Pending.of_same (h : Pending i r s) (accepted : s'.accepted = s.accepted)
    (requests : s'.requests = s.requests) (answers : s'.answers = s.answers) : Pending i r s' :=
  ⟨by rw [requests]; exact h.request, by rw [accepted]; exact h.fresh,
    by rw [answers]; exact h.silent⟩

/-- A request stays pending through others' steps. -/
theorem Pending.rely (h : Pending i r s) (step : Undisturbed i s s') : Pending i r s' := by
  obtain ⟨more, accepted, others⟩ := step.accepted
  refine ⟨step.request r h.request, ?_, fun a ha => h.silent a (step.answers a ha)⟩
  rw [accepted, List.map_append, List.mem_append, not_or]
  refine ⟨h.fresh, ?_⟩
  intro hmem
  obtain ⟨x, hx, hxi⟩ := List.mem_map.mp hmem
  exact others x hx hxi

/-- A request goes on writing through others' steps. -/
theorem Writing.rely {written : Bytes} (h : Writing i r written s) (step : Undisturbed i s s') :
    Writing i r written s' := by
  obtain ⟨lock, session, inodes, partPath, accepted⟩ := step.held h.lock
  have part := part_congr inodes partPath
  refine ⟨h.pending.rely step, lock, ?_, ?_, ?_⟩
  · rw [part, accepted]
    exact h.part
  · rw [session, accepted]
    exact h.received
  · rw [session, accepted]
    exact h.next

/-- An answer stays right while others add their chunks. -/
theorem Matches.append {accepted more : List (Nat × Bytes)} {a : Response}
    (h : Matches accepted i a) (others : ∀ x ∈ more, x.1 ≠ i) : Matches (accepted ++ more) i a := by
  cases a with
  | chunk receivedBytes nextChunkIndex chunkBytes =>
    obtain ⟨k, chunk, hk, next, size, received⟩ := h
    have lt := (List.getElem?_eq_some_iff.mp hk).1
    refine ⟨k, chunk, by rw [List.getElem?_append_left lt]; exact hk, next, size, ?_⟩
    rw [List.take_append_of_le_length (by omega)]
    exact received
  | image | noContent | refused | raised =>
    intro hmem
    rw [List.map_append, List.mem_append] at hmem
    rcases hmem with hmem | hmem
    · exact h hmem
    · obtain ⟨x, hx, hxi⟩ := List.mem_map.mp hmem
      exact others x hx hxi

/-- An answer stays given. -/
theorem Accepted.rely {a : Response} (h : Accepted i a s) (step : Undisturbed i s s') :
    Accepted i a s' := by
  obtain ⟨more, accepted, others⟩ := step.accepted
  have known := lt_of_request (step.request _ (List.getElem?_eq_getElem h.known))
  refine ⟨known, fun a ha => h.silent a (step.answers a ha), ?_⟩
  rw [accepted]
  exact h.answer.append others

/-- What the holder of the lock does leaves the others alone. -/
theorem undisturbed_by_holder (lock : s.lock = some i) (lock' : s'.lock = some i ∨ s'.lock = none)
    (requests : s'.requests = s.requests) (loaded : s'.loaded = s.loaded)
    (accepted : ∃ more, s'.accepted = s.accepted ++ more ∧ ∀ x ∈ more, x.1 = i)
    (answers : s'.answers = s.answers) (j : Nat) (hne : j ≠ i) : Undisturbed j s s' := by
  obtain ⟨more, hmore, own⟩ := accepted
  refine ⟨?_, ?_, ?_, ?_, ⟨more, hmore, fun x hx => by rw [own x hx]; exact hne.symm⟩, ?_⟩
  · intro held
    rw [lock] at held
    exact absurd (Option.some.inj held).symm hne
  · intro _ held
    rcases lock' with lock' | lock'
    · rw [lock'] at held
      exact hne (Option.some.inj held).symm
    · rw [lock'] at held
      cases held
  · intro r hr
    rw [requests]
    exact hr
  · rw [loaded]
  · intro r hr
    rw [answers] at hr
    exact hr

end Stability

/-! ## The steps of a request -/

section Steps

variable {sha256 : Bytes → String} {i : Nat} {r : Request} {α : Type}

/-- A fallible operation raises its error. -/
theorem safe_call {D : Discipline (system sha256)} {P : Store → Prop} {x : UploadM (Except Exn α)}
    {Q : α → Store → Prop} {R : Exn → Store → Prop}
    (hx : Safe D i P x (fun a s => (∀ b, a = .ok b → Q b s) ∧ ∀ e, a = .error e → R e s) R) :
    Safe D i P (call x) Q R := by
  refine Safe.bind hx fun a => ?_
  cases a with
  | ok b => exact Safe.pure fun s h => h.1 b rfl
  | error e => exact Safe.throw fun s h => h.2 e rfl

/-- The request holds the lock and has nothing in the file that is not counted. -/
def Clean (i : Nat) (r : Request) : Store → Prop := Writing i r []

/-- Nothing half-written is counted. -/
theorem Clean.counted {s : Store} (h : Clean i r s) : Counted s :=
  ⟨by rw [h.part, List.append_nil], h.received, h.next⟩

/-- A request that failed before it left anything gives the lock back. -/
theorem safe_release_failed {e : Exn} :
    Safe (chunks sha256) i (Clean i r) (do Script.perform UploadOp.release; throw e : UploadM α)
      (fun _ _ => False) fun _ s => Pending i r s ∧ s.lock ≠ some i := by
  refine Safe.bind (Q := fun _ s => Pending i r s ∧ s.lock ≠ some i) (Safe.perform
    (fun _ _ step h => h.rely step) ?_) fun _ => Safe.throw fun _ => id
  intro s c a s' h inv _ hact
  simp only [system, act, h.lock, if_true] at hact
  cases hact
  refine ⟨⟨fun _ => h.counted.of_same (part_congr rfl rfl) rfl rfl,
    inv.recorded.of_same rfl rfl rfl, ?_, inv.inode⟩, ?_, h.pending.of_same rfl rfl rfl, ?_⟩
  · intro j hj
    cases hj
  · exact undisturbed_by_holder h.lock (.inr rfl) rfl rfl ⟨[], by simp, by simp⟩ rfl
  · intro hj
    cases hj

/-- Opening the `.part` file changes nothing but the file. -/
theorem openPart_frame (s : Store) (append : Bool) :
    (s.openPart append).2 = { s with
      inodes := (s.openPart append).2.inodes
      partPath := (s.openPart append).2.partPath } := by
  unfold openPart
  cases s.partPath with
  | none => rfl
  | some handle => cases append <;> rfl

/-- A file that is there is opened as it is, a missing one is made. -/
theorem openPart_true {s : Store} :
    (s.openPart s.partPath.isSome).2.part = s.part ∧
      (s.openPart s.partPath.isSome).2.partPath = some (s.openPart s.partPath.isSome).1 := by
  unfold openPart
  cases h : s.partPath with
  | some handle => exact ⟨by simp, by simp [h]⟩
  | none => exact ⟨by simp [Store.part, Store.inode, h], rfl⟩

/-- What is appended is at the end of the part. -/
theorem part_appendTo {s : Store} {h : Nat} {bytes : Bytes} (path : s.partPath = some h)
    (inode : h < s.inodes.length) : (s.appendTo h bytes).part = s.part ++ bytes := by
  simp [Store.part, appendTo, Store.inode, path, List.getD, inode]

/-- Under the lock nobody else changes the counters. -/
theorem Counters.rely {session : Session} {s s' : Store} (h : Counters session s)
    (lock : s.lock = some i) (step : Undisturbed i s s') : Counters session s' := by
  obtain ⟨-, same, -⟩ := step.held lock
  unfold Counters
  rw [same]
  exact h

/-- `destination.exists()` under the lock. -/
theorem safe_partExists {session : Session} :
    Safe (chunks sha256) i (fun s => Clean i r s ∧ Counters session s)
      (Script.perform UploadOp.partExists : UploadM Bool)
      (fun b s => (Clean i r s ∧ Counters session s) ∧ b = s.partPath.isSome)
      fun _ => Clean i r := by
  refine Safe.perform (fun s s' step h => ⟨h.1.rely step, h.2.rely h.1.lock step⟩) ?_
  intro s c a s' h inv _ hact
  cases hact
  exact ⟨inv, fun j _ => Undisturbed.refl j s, h, rfl⟩

/-- `open(destination, mode)` under the lock. -/
theorem safe_openPart {session : Session} {b : Bool} :
    Safe (chunks sha256) i (fun s => (Clean i r s ∧ Counters session s) ∧ b = s.partPath.isSome)
      (call (Script.perform (UploadOp.openPart b)))
      (fun h s => (Writing i r [] s ∧ Counters session s) ∧ s.partPath = some h)
      fun _ => Clean i r := by
  refine safe_call (Safe.perform ?_ ?_)
  · intro s s' step h
    obtain ⟨-, -, -, partPath, -⟩ := step.held h.1.1.lock
    exact ⟨⟨h.1.1.rely step, h.1.2.rely h.1.1.lock step⟩, by rw [partPath]; exact h.2⟩
  · rintro s c a s' ⟨⟨h, counters⟩, rfl⟩ inv _ hact
    simp only [system, act] at hact
    split at hact
    · cases hact
      exact ⟨inv, fun j _ => Undisturbed.refl j s, nofun, fun e he => h⟩
    · cases hact
      obtain ⟨part, path⟩ := openPart_true (s := s)
      have same : (s.openPart s.partPath.isSome).2.session = s.session ∧
          (s.openPart s.partPath.isSome).2.lock = s.lock ∧
          (s.openPart s.partPath.isSome).2.loaded = s.loaded ∧
          (s.openPart s.partPath.isSome).2.requests = s.requests ∧
          (s.openPart s.partPath.isSome).2.accepted = s.accepted ∧
          (s.openPart s.partPath.isSome).2.answers = s.answers := by
        rw [openPart_frame]
        exact ⟨rfl, rfl, rfl, rfl, rfl, rfl⟩
      have inode : ∀ h, (s.openPart s.partPath.isSome).2.partPath = some h →
          h < (s.openPart s.partPath.isSome).2.inodes.length := by
        unfold openPart
        cases hpath : s.partPath with
        | some handle =>
          intro h hh
          simp [hpath] at hh ⊢
          exact inv.inode h (by rw [hpath, hh])
        | none =>
          intro h hh
          simp at hh ⊢
          omega
      generalize s.openPart s.partPath.isSome = opened at part path same inode
      obtain ⟨session', lock, loaded, requests, accepted, answers⟩ := same
      refine ⟨⟨?_, inv.recorded.of_same accepted requests answers, ?_, inode⟩, ?_, ?_, nofun⟩
      · intro free
        rw [lock, h.lock] at free
        cases free
      · intro j hj
        rw [lock] at hj
        rw [requests, answers]
        exact inv.holder j hj
      · exact undisturbed_by_holder h.lock (.inl (lock.trans h.lock)) requests loaded
          ⟨[], by simp [accepted], by simp⟩ answers
      · intro handle hhandle
        cases hhandle
        refine ⟨⟨⟨h.pending.of_same accepted requests answers, lock.trans h.lock, ?_, ?_, ?_⟩, ?_⟩,
          path⟩
        · rw [part, accepted]
          exact h.part
        · rw [session', accepted]
          exact h.received
        · rw [session', accepted]
          exact h.next
        · unfold Counters
          rw [session']
          exact counters

/-- The loop over the blocks. The induction is on the blocks still to write. -/
theorem safe_writeBlocks {session : Session} {handle : Nat} (blocks : List Bytes)
    (written : Bytes) :
    Safe (chunks sha256) i
      (fun s => (Writing i r written s ∧ Counters session s) ∧ s.partPath = some handle)
      (writeBlocks handle blocks)
      (fun _ s => Writing i r (written ++ blocks.flatten) s ∧ Counters session s)
      fun _ => Clean i r := by
  induction blocks generalizing written with
  | nil =>
    refine Safe.pure ?_
    intro s h
    rw [List.flatten_nil, List.append_nil]
    exact h.1
  | cons block rest ih =>
    rw [List.flatten_cons, ← List.append_assoc]
    refine Safe.bind (safe_call (Safe.perform ?_ ?_)) fun _ => ih (written ++ block)
    · intro s s' step h
      obtain ⟨-, -, -, partPath, -⟩ := step.held h.1.1.lock
      exact ⟨⟨h.1.1.rely step, h.1.2.rely h.1.1.lock step⟩, partPath.trans h.2⟩
    · rintro s c a s' ⟨⟨h, counters⟩, path⟩ inv hok hact
      have sound : ∀ bytes, Sound (s.appendTo handle bytes) := by
        intro bytes
        refine ⟨?_, inv.recorded.of_same rfl rfl rfl, inv.holder, ?_⟩
        · intro free
          have held : (s.appendTo handle bytes).lock = some i := h.lock
          rw [held] at free
          cases free
        · intro h' hh'
          have lt := inv.inode h' hh'
          simpa [appendTo] using lt
      have others : ∀ bytes j, j ≠ i → Undisturbed j s (s.appendTo handle bytes) := fun _ =>
        undisturbed_by_holder h.lock (.inl h.lock) rfl rfl ⟨[], (List.append_nil _).symm, by simp⟩
          rfl
      have grown : ∀ bytes, (s.appendTo handle bytes).part = assembled s.accepted ++
          (written ++ bytes) := by
        intro bytes
        rw [part_appendTo path (inv.inode handle path), h.part, List.append_assoc]
      simp only [system, act] at hact
      split at hact
      · next fails =>
        cases hact
        obtain ⟨nothing, counted⟩ := hok fails
        refine ⟨sound _, others _, nofun, ?_⟩
        intro e he
        -- the file has only what is counted, so nothing of this request was written
        have empty : written = [] := by
          rw [h.part, h.received, List.length_append] at counted
          exact List.length_eq_zero_iff.mp (by omega)
        refine ⟨h.pending.of_same rfl rfl rfl, h.lock, ?_, h.received, h.next⟩
        rw [grown, nothing, empty]
        rfl
      · cases hact
        refine ⟨sound _, others _, ?_, nofun⟩
        intro b hb
        exact ⟨⟨⟨h.pending.of_same rfl rfl rfl, h.lock, grown block, h.received, h.next⟩,
          counters⟩, path⟩

/-- The request holds the lock and its chunk is counted. -/
structure Saved (i : Nat) (a : Response) (s : Store) : Prop where
  accepted : Accepted i a s
  lock : s.lock = some i
  counted : Counted s

/-- What was saved stays saved. -/
theorem Saved.rely {a : Response} {s s' : Store} (h : Saved i a s) (step : Undisturbed i s s') :
    Saved i a s' := by
  obtain ⟨lock, session, inodes, partPath, accepted⟩ := step.held h.lock
  exact ⟨h.accepted.rely step, lock, h.counted.of_same (part_congr inodes partPath) session accepted⟩

/-- A chunk is assembled after the others. -/
theorem assembled_append {accepted : List (Nat × Bytes)} {chunk : Bytes} :
    assembled (accepted ++ [(i, chunk)]) = assembled accepted ++ chunk := by
  simp [assembled]

/-- The record after one more chunk. -/
theorem Recorded.accept {s s' : Store} {index : IndexParam} {blocks : List Bytes}
    (h : Recorded s) (pending : Pending i (.put index (some blocks)) s)
    (fits : IndexParam.fits s.accepted.length index)
    (accepted : s'.accepted = s.accepted ++ [(i, blocks.flatten)])
    (requests : s'.requests = s.requests) (answers : s'.answers = s.answers) : Recorded s' := by
  refine ⟨?_, ?_, ?_⟩
  · rw [accepted, List.map_append, List.map_singleton, List.nodup_append]
    refine ⟨h.once, by simp, ?_⟩
    rintro j hj k hk rfl
    rw [List.mem_singleton.mp hk] at hj
    exact pending.fresh hj
  · intro k j chunk hk
    rw [requests]
    rw [accepted] at hk
    by_cases old : k < s.accepted.length
    · rw [List.getElem?_append_left old] at hk
      exact h.own k j chunk hk
    · have last : k = s.accepted.length := by
        have := (List.getElem?_eq_some_iff.mp hk).1
        simp only [List.length_append, List.length_singleton] at this
        omega
      subst last
      rw [List.getElem?_concat_length] at hk
      cases hk
      exact ⟨index, blocks, pending.request, rfl, fits⟩
  · intro j a ha
    rw [answers] at ha
    rw [requests, accepted]
    obtain ⟨known, answer⟩ := h.answered j a ha
    refine ⟨known, answer.append ?_⟩
    intro x hx
    rw [List.mem_singleton.mp hx]
    rintro rfl
    exact pending.silent a ha

/-- Saving the counters accepts the chunk. -/
theorem safe_saveCounters {session : Session} {index : IndexParam} {blocks : List Bytes}
    (fits : IndexParam.fits session.nextChunkIndex index) :
    Safe (chunks sha256) i
      (fun s => Writing i (.put index (some blocks)) blocks.flatten s ∧ Counters session s)
      (call (Script.perform (UploadOp.saveCounters (session.receivedBytes + blocks.flatten.length)
        (session.nextChunkIndex + 1) blocks.flatten)))
      (fun _ => Saved i (.chunk (session.receivedBytes + blocks.flatten.length)
        (session.nextChunkIndex + 1) blocks.flatten.length))
      fun _ => Clean i (.put index (some blocks)) := by
  refine safe_call (Safe.perform (fun s s' step h => ⟨h.1.rely step, h.2.rely h.1.lock step⟩) ?_)
  rintro s c a s' ⟨h, received, next⟩ inv hok hact
  simp only [system, act] at hact
  split at hact
  · next fails =>
    cases hact
    refine ⟨inv, fun j _ => Undisturbed.refl j s, nofun, ?_⟩
    intro e he
    have empty : blocks.flatten = [] := by
      have counted := hok fails
      rw [h.part, h.received, List.length_append] at counted
      exact List.length_eq_zero_iff.mp (by omega)
    rw [empty] at h
    exact h
  · cases hact
    have counted : Counted { s with
        session := s.setCounters (session.receivedBytes + blocks.flatten.length)
          (session.nextChunkIndex + 1)
        accepted := s.accepted ++ [(i, blocks.flatten)] } := by
      refine ⟨?_, ?_, ?_⟩
      · show s.part = _
        rw [h.part, assembled_append]
      · rw [assembled_append, List.length_append, ← h.received, ← received]
        rfl
      · rw [List.length_append, ← h.next, ← next]
        rfl
    have place : s.accepted.length = session.nextChunkIndex := h.next.symm.trans next.symm
    refine ⟨⟨fun _ => counted, inv.recorded.accept h.pending (place ▸ fits) rfl rfl rfl,
      inv.holder, inv.inode⟩, ?_, ?_, nofun⟩
    · exact undisturbed_by_holder h.lock (.inl h.lock) rfl rfl ⟨_, rfl, by simp⟩ rfl
    · intro b hb
      refine ⟨⟨lt_of_request h.pending.request, h.pending.silent, ?_⟩, h.lock, counted⟩
      refine ⟨s.accepted.length, blocks.flatten, List.getElem?_concat_length, ?_, rfl, ?_⟩
      · rw [place]
      · rw [List.take_of_length_le (by simp), assembled_append, List.length_append, ← h.received,
          received]

/-- What the parameter says, read against the object of the request. -/
theorem safe_readIndex {index : IndexParam} {session : Session} {P : Store → Prop} :
    Safe (chunks sha256) i P (index.read session)
      (fun n s => P s ∧ (n = session.nextChunkIndex → IndexParam.fits session.nextChunkIndex index))
      fun _ => P := by
  cases index with
  | missing => exact Safe.pure fun s h => ⟨h, fun _ => trivial⟩
  | number n => exact Safe.pure fun s h => ⟨h, fun same => same⟩
  | malformed => exact Safe.throw fun s => id

/-- `write_chunk` under the lock. -/
theorem safe_writeChunk {session : Session} {n : Int} {index : IndexParam} {blocks : List Bytes}
    (fits : n = session.nextChunkIndex → IndexParam.fits session.nextChunkIndex index) :
    Safe (chunks sha256) i
      (fun s => Clean i (.put index (some blocks)) s ∧
        (IndexParam.fits session.nextChunkIndex index → Counters session s))
      (writeChunk session n blocks) (Saved i) fun _ => Clean i (.put index (some blocks)) := by
  unfold writeChunk
  split
  · exact Safe.throw fun s h => h.1
  · next same =>
    have hfits := fits (not_not.mp same)
    refine Safe.conseq (P := fun s => Clean i (.put index (some blocks)) s ∧ Counters session s)
      (Safe.bind safe_partExists fun b => Safe.bind safe_openPart fun handle =>
        Safe.bind (safe_writeBlocks blocks []) fun _ => ?_)
      (fun s h => ⟨h.1, h.2 hfits⟩) (fun _ _ => id) fun _ _ => id
    exact Safe.bind (safe_saveCounters hfits) fun _ => Safe.pure fun _ => id

/-- `with try_lock(...)` around `write_chunk`. -/
theorem safe_tryLock {session : Session} {n : Int} {index : IndexParam} {blocks : List Bytes}
    (fits : n = session.nextChunkIndex → IndexParam.fits session.nextChunkIndex index) :
    Safe (chunks sha256) i
      (fun s => (Pending i (.put index (some blocks)) s ∧ s.lock ≠ some i) ∧
        s.loaded.lookup i = some session)
      (tryLock (writeChunk session n blocks))
      (fun a s => Accepted i a s ∧ s.lock ≠ some i)
      fun _ s => Pending i (.put index (some blocks)) s ∧ s.lock ≠ some i := by
  refine Safe.bind (Q := fun got s => if got = true then Clean i (.put index (some blocks)) s ∧
    (IndexParam.fits session.nextChunkIndex index → Counters session s)
    else Pending i (.put index (some blocks)) s ∧ s.lock ≠ some i) (Safe.perform ?_ ?_)
    fun got => ?_
  · intro s s' step h
    exact ⟨⟨h.1.1.rely step, step.unheld h.1.2⟩, step.loaded.trans h.2⟩
  · rintro s c a s' ⟨⟨h, unheld⟩, loaded⟩ inv hok hact
    simp only [system, act] at hact
    split at hact
    · next free =>
      cases hact
      have counted := inv.free free
      refine ⟨⟨nofun, inv.recorded.of_same rfl rfl rfl, ?_, inv.inode⟩, ?_, ?_⟩
      · intro j hj
        cases hj
        exact ⟨lt_of_request h.request, h.silent⟩
      · intro j hne
        refine ⟨?_, ?_, fun _ => id, rfl, ⟨[], by simp, by simp⟩, fun _ => id⟩
        · intro held
          rw [free] at held
          cases held
        · intro _ held
          exact hne (Option.some.inj held).symm
      · rw [if_pos rfl]
        refine ⟨⟨h.of_same rfl rfl rfl, rfl, ?_, counted.received, counted.next⟩, ?_⟩
        · rw [List.append_nil]
          exact counted.part
        · exact hok free session loaded _ h.request
    · cases hact
      refine ⟨inv, fun j _ => Undisturbed.refl j s, ?_⟩
      rw [if_neg (by decide)]
      exact ⟨h, unheld⟩
  · cases got with
    | false =>
      refine Safe.throw ?_
      intro s h
      simpa using h
    | true =>
      refine Safe.bind (Q := Saved i) (Safe.tryCatch (R := fun _ => Clean i (.put index (some blocks)))
        (Safe.conseq (safe_writeChunk fits) (fun s h => by simpa using h) (fun _ _ => id)
          fun _ _ => id) fun e => Safe.conseq safe_release_failed (fun _ => id)
          (fun _ _ => False.elim) fun _ _ => id) fun a => ?_
      refine Safe.bind (Q := fun _ s => Accepted i a s ∧ s.lock ≠ some i) (Safe.perform
        (fun s s' step h => h.rely step) ?_) fun _ => Safe.pure fun _ => id
      intro s c b s' h inv _ hact
      simp only [system, act, h.lock, if_true] at hact
      cases hact
      refine ⟨⟨fun _ => h.counted.of_same (part_congr rfl rfl) rfl rfl,
        inv.recorded.of_same rfl rfl rfl, nofun, inv.inode⟩, ?_, ?_, nofun⟩
      · exact undisturbed_by_holder h.lock (.inr rfl) rfl rfl ⟨[], by simp, by simp⟩ rfl
      · exact ⟨h.accepted.known, h.accepted.silent, h.accepted.answer⟩

/-- A request nothing of which is accepted may be answered with anything but a success. -/
theorem Pending.answer {s : Store} {a : Response} (h : Pending i r s)
    (other : ∀ x y z, a ≠ .chunk x y z) : Accepted i a s := by
  refine ⟨lt_of_request h.request, h.silent, ?_⟩
  cases a with
  | chunk x y z => exact absurd rfl (other x y z)
  | image | noContent | refused | raised => exact h.fresh

/-- A refused request is answered. -/
theorem Pending.refused {s : Store} {code : String} (h : Pending i r s) :
    Accepted i (.refused code) s := h.answer fun _ _ _ => Response.noConfusion

/-- `ChunkUploadView.put` -/
theorem safe_put {index : IndexParam} {body : Option (List Bytes)} :
    Safe (chunks sha256) i (fun s => Pending i (.put index body) s ∧ s.lock ≠ some i)
      (put index body) (fun a s => Accepted i a s ∧ s.lock ≠ some i)
      fun _ s => Pending i (.put index body) s ∧ s.lock ≠ some i := by
  refine Safe.bind (Q := fun session s => (Pending i (.put index body) s ∧ s.lock ≠ some i) ∧
    s.loaded.lookup i = some session) (Safe.perform ?_ ?_) fun session => ?_
  · exact fun s s' step h => ⟨h.1.rely step, step.unheld h.2⟩
  · rintro s c a s' ⟨h, unheld⟩ inv _ hact
    cases hact
    refine ⟨⟨fun free => (inv.free free).of_same (part_congr rfl rfl) rfl rfl,
      inv.recorded.of_same rfl rfl rfl, inv.holder, inv.inode⟩, ?_,
      ⟨h.of_same rfl rfl rfl, unheld⟩, by simp⟩
    intro j hne
    refine ⟨fun held => ⟨held, rfl, rfl, rfl, rfl⟩, id, fun _ => id, ?_, ⟨[], by simp, by simp⟩,
      fun _ => id⟩
    have other : (j == i) = false := beq_false_of_ne hne
    show List.lookup j ((i, s.session) :: s.loaded) = _
    rw [List.lookup_cons, other]
  · split
    · exact Safe.pure fun s h => ⟨h.1.1.refused, h.1.2⟩
    · refine Safe.bind (Safe.conseq safe_readIndex (fun _ => id) (fun _ _ => id)
        fun _ _ h => h.1) fun n => ?_
      cases body with
      | none => exact Safe.pure fun s h => ⟨h.1.1.1.refused, h.1.1.2⟩
      | some blocks =>
        intro l s h
        refine Safe.tryCatch (safe_tryLock h.2) (fun e => ?_) l s h.1
        split
        · exact Safe.pure fun s h => ⟨h.1.refused, h.2⟩
        · exact Safe.throw fun s => id

theorem lookup_filter_ne {j : Nat} (hne : j ≠ i) (xs : List (Nat × Session)) :
    (xs.filter (·.1 ≠ i)).lookup j = xs.lookup j := by
  induction xs with
  | nil => rfl
  | cons x xs ih =>
    obtain ⟨k, session⟩ := x
    by_cases removed : k = i
    · subst removed
      have other : (j == k) = false := beq_false_of_ne hne
      rw [List.filter_cons_of_neg (by simp), ih, List.lookup_cons, other]
    · rw [List.filter_cons_of_pos (by simpa using removed), List.lookup_cons, List.lookup_cons]
      cases j == k with
      | true => rfl
      | false => exact ih

/-- A chunk request from its arrival to its response. -/
theorem safe_serve {index : IndexParam} {body : Option (List Bytes)} :
    Safe (chunks sha256) i (fun s => Pending i (.put index body) s ∧ s.lock ≠ some i)
      (Request.serve sha256 (.put index body)) (fun _ _ => True) fun _ _ => True := by
  refine Safe.bind (Safe.tryCatch safe_put fun e => Safe.pure fun s h => ⟨h.1.answer nofun, h.2⟩)
    fun a => Safe.perform (fun s s' step h => ⟨h.1.rely step, step.unheld h.2⟩) ?_
  rintro s c b s' ⟨h, unheld⟩ inv _ hact
  cases hact
  refine ⟨⟨fun free => (inv.free free).of_same (part_congr rfl rfl) rfl rfl,
    ⟨inv.recorded.once, inv.recorded.own, ?_⟩, ?_, inv.inode⟩, ?_, trivial⟩
  · intro j a' hmem
    rcases List.mem_cons.mp hmem with same | hmem
    · cases same
      exact ⟨h.known, h.answer⟩
    · exact inv.recorded.answered j a' hmem
  · intro j hj
    refine ⟨(inv.holder j hj).1, ?_⟩
    intro a' hmem
    rcases List.mem_cons.mp hmem with same | hmem
    · rw [(Prod.mk.inj same).1] at hj
      exact unheld hj
    · exact (inv.holder j hj).2 a' hmem
  · intro j hne
    refine ⟨fun held => ⟨held, rfl, rfl, rfl, rfl⟩, id, fun _ => id, lookup_filter_ne hne _,
      ⟨[], by simp, by simp⟩, ?_⟩
    intro a' hmem
    rcases List.mem_cons.mp hmem with same | hmem
    · exact absurd (Prod.mk.inj same).1 hne
    · exact hmem

end Steps

/-! ## Every run -/

/-- The requests about one session. -/
abbrev Clients : Type := Pool Request UploadOp UploadAns (Except Exn Unit × Unit) Store

/-- Every request is safe, and has its own index. -/
structure Serving (sha256 : Bytes → String) (p : Clients) : Prop where
  threaded : (chunks sha256).Threaded p
  indexed : p.threads.length = p.shared.requests.length

/-- No operation adds a request. -/
theorem act_requests {c : Choice} {i : Nat} {o : UploadOp} {a : UploadAns o} {s s' : Store}
    (h : act c i o s = some (a, s')) : s'.requests = s.requests := by
  cases o <;> simp only [act] at h
  case openPart append =>
    split at h <;> cases h
    · rfl
    · rw [openPart_frame]
  case release => cases h; split <;> rfl
  all_goals first
    | (cases h; rfl)
    | (split at h <;> first | (cases h; rfl) | (split at h <;> cases h <;> rfl))

/-- Every step keeps the invariant. -/
theorem Serving.step {sha256 : Bytes → String} {l : Label Choice Event} {p p' : Clients}
    (h : Serving sha256 p) (current : Current l p) (hstep : (system sha256).step l p = some p') :
    Serving sha256 p' := by
  cases l with
  | act i c =>
    refine ⟨Discipline.keeps_act i h.threaded hstep fun tag o k hi => current _ hi o rfl, ?_⟩
    obtain ⟨tag, o, k, a, s, hi, hact, rfl⟩ := System.step_act hstep
    rw [List.length_set, h.indexed, act_requests hact]
  | env event =>
    have inv := h.threaded.inv
    cases event with
    | expire =>
      have free : p.shared.lock = none := current
      refine ⟨Discipline.keeps_env h.threaded hstep ?_, ?_⟩
      · intro ts s henv
        cases henv
        have same : { p.shared with lock := none } = p.shared := by rw [← free]
        rw [same]
        exact ⟨inv, fun j => Undisturbed.refl j _, by simp⟩
      · obtain ⟨ts, s, henv, rfl⟩ := System.step_env hstep
        cases henv
        simpa using h.indexed
    | arrive r =>
      obtain ⟨index, body, rfl⟩ := current
      refine ⟨Discipline.keeps_env h.threaded hstep ?_, ?_⟩
      · intro ts s henv
        cases henv
        have earlier : ∀ {i : Nat} {r' : Request}, p.shared.requests[i]? = some r' →
            (p.shared.requests ++ [.put index body])[i]? = some r' := by
          intro i r' hi
          rw [List.getElem?_append_left (lt_of_request hi)]
          exact hi
        refine ⟨⟨fun free => (inv.free free).of_same (part_congr rfl rfl) rfl rfl,
          ⟨inv.recorded.once, ?_, ?_⟩, ?_, inv.inode⟩, ?_, ?_⟩
        · intro k i chunk hk
          obtain ⟨index', blocks, request, rest⟩ := inv.recorded.own k i chunk hk
          exact ⟨index', blocks, earlier request, rest⟩
        · intro i a ha
          obtain ⟨known, answer⟩ := inv.recorded.answered i a ha
          refine ⟨?_, answer⟩
          rw [List.length_append]
          omega
        · intro i hi
          obtain ⟨known, silent⟩ := inv.holder i hi
          refine ⟨?_, silent⟩
          rw [List.length_append]
          omega
        · intro j
          exact ⟨fun held => ⟨held, rfl, rfl, rfl, rfl⟩, id, fun _ => earlier, rfl,
            ⟨[], by simp, by simp⟩, fun _ => id⟩
        · intro j t ht
          obtain ⟨rfl, rfl⟩ : j = 0 ∧ t = ⟨.put index body, ((Request.put index body).serve sha256).prog ()⟩ := by
            have lt := (List.getElem?_eq_some_iff.mp ht).1
            have zero : j = 0 := by simpa using lt
            subst zero
            exact ⟨rfl, (Option.some.inj ht).symm⟩
          rw [Nat.add_zero, h.indexed]
          refine (safe_serve () _ ⟨⟨List.getElem?_concat_length, ?_, ?_⟩, ?_⟩).mono
            fun _ _ _ => trivial
          · intro hmem
            obtain ⟨x, hx, hxi⟩ := List.mem_map.mp hmem
            obtain ⟨k, hk⟩ := List.mem_iff_getElem?.mp hx
            obtain ⟨_, _, request, -⟩ := inv.recorded.own k x.1 x.2 hk
            have := lt_of_request request
            omega
          · intro a ha
            have := (inv.recorded.answered _ a ha).1
            omega
          · intro held
            have := (inv.holder _ held).1
            omega
      · obtain ⟨ts, s, henv, rfl⟩ := System.step_env hstep
        cases henv
        rw [List.length_append, List.length_append, h.indexed]
        rfl

/-- The file is made of the accepted chunks, one for each index, and the counters and the answers
agree with them. -/
structure Assembled (s : Store) : Prop where
  file : s.part = assembled s.accepted
  received : s.session.receivedBytes = s.part.length
  next : s.session.nextChunkIndex = s.accepted.length
  recorded : Recorded s

/-- **Chunk requests with current objects assemble their chunks.** In every run of chunk requests on
a new session, however they interleave: if every step meets the condition, then whenever no
unanswered request holds the lock the `.part` file is the concatenation of the accepted chunks, one
for each index from 0 on, every request is accepted at most once and answered accordingly, and the
counters are the length of the file and the number of chunks. -/
theorem current_assembled (sha256 : Bytes → String) (totalSizeBytes : Nat) (expectedSha256 : String)
    (ls : List (Label Choice Event)) (p : Clients)
    (run : runFrom (system sha256).step ls
      ⟨[], { session := { totalSizeBytes := totalSizeBytes, expectedSha256 := expectedSha256 } }⟩ =
        some p)
    (current : Along (system sha256).step Current ls
      ⟨[], { session := { totalSizeBytes := totalSizeBytes, expectedSha256 := expectedSha256 } }⟩)
    (idle : ∀ i, p.shared.lock = some i → ∃ a, (i, a) ∈ p.shared.answers) :
    Assembled p.shared := by
  have first : Serving sha256 ⟨[], { session :=
      { totalSizeBytes := totalSizeBytes, expectedSha256 := expectedSha256 } }⟩ := by
    refine ⟨⟨⟨fun _ => ⟨rfl, rfl, rfl⟩, ⟨List.nodup_nil, ?_, ?_⟩, nofun, nofun⟩, ?_⟩, rfl⟩
    · intro k i chunk hk
      simp at hk
    · intro i a ha
      simp at ha
    · intro j t ht
      simp at ht
  have ends : Serving sha256 p :=
    runFrom_keeps (I := Serving sha256) (fun _ _ _ h hc hs => h.step hc hs) first current run
  have inv := ends.threaded.inv
  have free : p.shared.lock = none := by
    cases held : p.shared.lock with
    | none => rfl
    | some i =>
      obtain ⟨a, ha⟩ := idle i held
      exact absurd ha ((inv.holder i held).2 a)
  obtain ⟨file, received, next⟩ := inv.free free
  exact ⟨file, by rw [file]; exact received, next, inv.recorded⟩

/-- The next `n` operations of a request, none of which fails. -/
def acts (i n : Nat) : List (Label Choice Event) := List.replicate n (.act i {})

/-- Chunk 0 in two blocks, and then chunk 1. -/
def inOrder : List (Label Choice Event) :=
  .env (.arrive (.put (.number 0) (some [[1, 2], [3]]))) :: acts 0 9 ++
    .env (.arrive (.put .missing (some [[4]]))) :: acts 1 8

theorem current_assembled_inOrder :
    ∃ p, runFrom (system fun _ => "").step inOrder ⟨[], { session := { totalSizeBytes := 4 } }⟩ =
      some p ∧ p.shared.part = [1, 2, 3, 4] ∧ Assembled p.shared :=
  ⟨_, rfl, rfl, current_assembled (fun _ => "") 4 "" inOrder _ rfl (by decide) nofun⟩

/-- A client sends chunk 0 again while the first request is on its way: both load the session, and
then they write one after the other. -/
def retried : List (Label Choice Event) :=
  .env (.arrive (.put (.number 0) (some [[1, 2]]))) ::
    .env (.arrive (.put (.number 0) (some [[1, 2]]))) :: .act 0 {} :: .act 1 {} ::
      acts 0 7 ++ acts 1 7

/-- Index 0 is accepted twice, and the file has four bytes where the row counts two. -/
theorem retried_not_assembled :
    ∃ p, runFrom (system fun _ => "").step retried ⟨[], { session := { totalSizeBytes := 2 } }⟩ =
      some p ∧ p.shared.lock = none ∧
      p.shared.answers = [(1, .chunk 2 1 2), (0, .chunk 2 1 2)] ∧
      p.shared.part = [1, 2, 1, 2] ∧ p.shared.session.receivedBytes = 2 ∧
      p.shared.session.nextChunkIndex = 1 ∧ ¬ Assembled p.shared := by
  refine ⟨_, rfl, rfl, rfl, rfl, rfl, rfl, ?_⟩
  intro assembled
  exact absurd assembled.next (by decide)

end Store

end NodePilot.Uploads
