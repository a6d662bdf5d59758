import NodePilot.Addresses
import NodePilot.Lib.Rely

/-!
# An address has one holder

The lock of the subnet is released before the transaction of `allocate_ip` commits, so what keeps two
allocations apart is the lock of the row, or the row that is inserted. A reservation takes neither
when it looks at the row: `exclusive_always` asks that no transaction has written the row then.
-/

namespace NodePilot.Addresses

open Lib Lib.Script

/-! ## What is promised -/

/-- The address was allocated, and not released since. -/
def held (address : Address) : List Entry → Bool
  | [] => false
  | .committed _ a state :: earlier =>
    if a = address ∧ state = .allocated then true
    else if a = address ∧ state = .available then false
    else held address earlier
  | .returned _ _ :: earlier => held address earlier

/-- No address is allocated while it is held. -/
def Apart : List Entry → Prop
  | [] => True
  | .committed _ address .allocated :: earlier => held address earlier = false ∧ Apart earlier
  | _ :: earlier => Apart earlier

/-- The state in the committed row of the address. -/
def State.stateOf (s : State) (address : Address) : Option AddressState :=
  (s.rows address).map AddressRow.state

/-- Allocated addresses are exclusive. -/
structure Exclusive (s : State) : Prop where
  apart : Apart s.log
  stays : ∀ address, held address s.log → s.stateOf address = some .allocated
  returned : ∀ i address, .returned i address ∈ s.log → .committed i address .allocated ∈ s.log

/-- The clients. -/
abbrev Clients : Type := Pool Request IpOp IpAns (Except Exn Unit × Unit) State

/-- The address that the client is about to look at. -/
def lookedAt (p : Clients) (i : Nat) : Option Address :=
  match p.threads[i]? with
  | some ⟨_, .vis (.find address) _⟩ => some address
  | _ => none

/-- The condition on a step: when `reserve_ip` looks at an address, no transaction has written it. -/
def careful : Label Choice Event → Clients → Prop
  | .act i _, p => ∀ address ∈ lookedAt p i, ∀ j < p.threads.length, ∀ w ∈ p.shared.pending j,
      w.1 ≠ address
  | .env _, _ => True

instance : (l : Label Choice Event) → (p : Clients) → Decidable (careful l p)
  | .act i _, p => inferInstanceAs (Decidable (∀ address ∈ lookedAt p i, ∀ j < p.threads.length,
      ∀ w ∈ p.shared.pending j, w.1 ≠ address))
  | .env _, _ => isTrue trivial

/-! ## The invariant -/

namespace State

variable {s s' : State} {i j : Nat}

/-- What is written but not committed is locked, and is no address that somebody has. -/
structure Sound (s : State) : Prop where
  exclusive : Exclusive s
  locked : ∀ j, ∀ w ∈ s.pending j, s.txs.holder w.1 = some j
  free : ∀ j, ∀ w ∈ s.pending j, s.stateOf w.1 ≠ some .allocated
  single : ∀ j, (s.pending j).length ≤ 1
  saved : ∀ j, ∀ part ∈ (s.txs.of j).savepoints, part.writes = []

/-- Nobody else is about to change the address, and nobody has it. -/
structure Calm (i : Nat) (address : Address) (s : State) : Prop where
  pending : ∀ j, j ≠ i → ∀ w ∈ s.pending j, w.1 ≠ address
  state : s.stateOf address ≠ some .allocated

/-- What a client may count on between two of its statements. -/
structure Relies (i : Nat) (s s' : State) : Prop where
  tx : s'.txs.of i = s.txs.of i
  locks : ∀ a, s.txs.holder a = some i → s'.txs.holder a = some i
  rows : ∀ a, s.txs.holder a = some i → s'.rows a = s.rows a
  lock : s.lock = some i → s'.lock = some i
  calm : s.lock = some i → ∀ a, Calm i a s → Calm i a s'
  log : ∀ e ∈ s.log, e ∈ s'.log

/-- A request may rely on nothing happening. -/
theorem Relies.refl : Relies i s s :=
  ⟨rfl, fun _ h => h, fun _ _ => rfl, id, fun _ _ h => h, fun _ h => h⟩

/-- What others do adds up. -/
theorem Relies.trans {s'' : State} (h : Relies i s s') (h' : Relies i s' s'') : Relies i s s'' :=
  ⟨h'.tx.trans h.tx, fun a ha => h'.locks a (h.locks a ha),
    fun a ha => (h'.rows a (h.locks a ha)).trans (h.rows a ha), fun hl => h'.lock (h.lock hl),
    fun hl a ha => h'.calm (h.lock hl) a (h.calm hl a ha), fun e he => h'.log e (h.log e he)⟩

/-- What is pending for the others stays. -/
theorem pending_other (others : Transactions.Others i s.txs s'.txs) (h : j ≠ i) :
    s'.pending j = s.pending j := by
  unfold pending
  rw [others.of j h]

/-- A statement that commits nothing: what is new of what it has written, it has locked and written
under the lock of the subnet, over a row that nobody has. -/
structure Quiet (i : Nat) (s s' : State) : Prop where
  rows : s'.rows = s.rows
  log : s'.log = s.log
  others : Transactions.Others i s.txs s'.txs
  lock : ∀ j, j ≠ i → s.lock = some j → s'.lock = some j
  writes : ∀ w ∈ s'.pending i, s'.txs.holder w.1 = some i ∧
    (w ∈ s.pending i ∨ s.lock = some i ∧ s.stateOf w.1 ≠ some .allocated)
  single : (s'.pending i).length ≤ 1
  saved : ∀ part ∈ (s'.txs.of i).savepoints, part.writes = []

/-- The others may rely on a quiet step. -/
theorem Quiet.relies (h : Quiet i s s') : ∀ j, j ≠ i → Relies j s s' := by
  intro j hj
  have same (a : Address) : s'.stateOf a = s.stateOf a := by unfold stateOf; rw [h.rows]
  refine ⟨h.others.of j hj, h.others.holder j hj, fun a _ => by rw [h.rows], h.lock j hj,
    fun hl a calm => ⟨fun k hk w hw => ?_, (same a).symm ▸ calm.state⟩, fun e he => h.log ▸ he⟩
  by_cases own : k = i
  · subst own
    rcases (h.writes w hw).2 with old | ⟨mine, -⟩
    · exact calm.pending k hk w old
    · exact absurd (Option.some.inj (hl.symm.trans mine)) hj
  · rw [pending_other h.others own] at hw
    exact calm.pending k hk w hw

/-- A quiet step keeps the rows sound. -/
theorem Quiet.sound (h : Quiet i s s') (sound : s.Sound) : s'.Sound := by
  have same (a : Address) : s'.stateOf a = s.stateOf a := by unfold stateOf; rw [h.rows]
  refine ⟨⟨h.log ▸ sound.exclusive.apart, fun a ha => ?_, ?_⟩, ?_, ?_, ?_, ?_⟩
  · rw [same]
    exact sound.exclusive.stays a (h.log ▸ ha)
  · rw [h.log]
    exact sound.exclusive.returned
  · intro j w hw
    by_cases own : j = i
    · subst own
      exact (h.writes w hw).1
    · rw [pending_other h.others own] at hw
      exact h.others.holder j own _ (sound.locked j w hw)
  · intro j w hw
    rw [same]
    by_cases own : j = i
    · subst own
      rcases (h.writes w hw).2 with old | ⟨-, free⟩
      · exact sound.free j w old
      · exact free
    · rw [pending_other h.others own] at hw
      exact sound.free j w hw
  · intro j
    by_cases own : j = i
    · subst own
      exact h.single
    · rw [pending_other h.others own]
      exact sound.single j
  · intro j part hpart
    by_cases own : j = i
    · subst own
      exact h.saved part hpart
    · rw [h.others.of j own] at hpart
      exact sound.saved j part hpart

/-! ### A row is stored -/

variable {address : Address} {row : AddressRow}

/-- The address that is stored has the new state. -/
theorem stateOf_store : (s.store i (address, row)).stateOf address = some row.state := by
  simp [stateOf, store]

/-- Every other address keeps its state. -/
theorem stateOf_store_ne {a : Address} (h : a ≠ address) :
    (s.store i (address, row)).stateOf a = s.stateOf a := by
  simp [stateOf, store, h]

/-- What nobody has may be stored, and what is AVAILABLE again. -/
theorem exclusive_store (h : Exclusive s)
    (free : s.stateOf address ≠ some .allocated ∨ row.state = .available) :
    Exclusive (s.store i (address, row)) := by
  have released : row.state ≠ .available → held address s.log = false := by
    intro other
    by_contra still
    have state := h.stays address (by simpa using still)
    exact free.elim (fun none => none state) other
  refine ⟨?_, fun a ha => ?_, fun k a hk => ?_⟩
  · cases state : row.state with
    | allocated =>
      simp only [store, state, Apart]
      exact ⟨released (by rw [state]; decide), h.apart⟩
    | available | reserved | blocked =>
      simp only [store, state, Apart]
      exact h.apart
  · simp only [store, held] at ha
    by_cases same : address = a
    · subst same
      rw [stateOf_store]
      cases state : row.state with
      | allocated => rfl
      | available => simp [state] at ha
      | reserved | blocked =>
        have none := released (by rw [state]; decide)
        simp [state, none] at ha
    · rw [stateOf_store_ne (Ne.symm same)]
      simp only [same, false_and, if_false] at ha
      exact h.stays a ha
  · simp only [store, List.mem_cons, reduceCtorEq, false_or] at hk ⊢
    exact .inr (h.returned k a hk)

section Store

variable {txs : Transactions (List (Address × AddressRow)) Address}

/-- A statement or a commit that stores a row which nobody else has locked. -/
theorem Sound.store (sound : s.Sound) (others : Transactions.Others i s.txs txs)
    (empty : (txs.of i).current.writes = []) (saved : ∀ part ∈ (txs.of i).savepoints, part.writes = [])
    (alone : ∀ j, s.txs.holder address = some j → j = i)
    (free : s.stateOf address ≠ some .allocated ∨ row.state = .available) :
    (State.store { s with txs := txs } i (address, row)).Sound := by
  let t : State := { s with txs := txs }
  have exclusive : Exclusive t :=
    ⟨sound.exclusive.apart, sound.exclusive.stays, sound.exclusive.returned⟩
  have less {j : Nat} {w : Address × AddressRow} (hw : w ∈ t.pending j) : j ≠ i ∧ w ∈ s.pending j := by
    by_cases own : j = i
    · subst own
      rw [show t.pending j = [] from empty] at hw
      cases hw
    · rw [pending_other others own] at hw
      exact ⟨own, hw⟩
  refine ⟨exclusive_store exclusive free, ?_, ?_, ?_, ?_⟩
  · intro j w hw
    obtain ⟨own, old⟩ := less hw
    exact others.holder j own _ (sound.locked j w old)
  · intro j w hw
    obtain ⟨own, old⟩ := less hw
    have other : w.1 ≠ address := fun same => own (alone j (same ▸ sound.locked j w old))
    rw [stateOf_store_ne (s := t) other]
    exact sound.free j w old
  · intro j
    by_cases own : j = i
    · subst own
      show (t.pending j).length ≤ 1
      rw [show t.pending j = [] from empty]
      exact Nat.zero_le 1
    · show (t.pending j).length ≤ 1
      rw [pending_other others own]
      exact sound.single j
  · intro j part hpart
    by_cases own : j = i
    · subst own
      exact saved part hpart
    · have old : part ∈ (s.txs.of j).savepoints := others.of j own ▸ hpart
      exact sound.saved j part old

/-- The others may rely on a store of an address that nobody else holds. -/
theorem relies_store (others : Transactions.Others i s.txs txs)
    (empty : (txs.of i).current.writes = [])
    (alone : ∀ j, s.txs.holder address = some j → j = i)
    (mine : row.state ≠ .allocated ∨ (address, row) ∈ s.pending i) :
    ∀ j, j ≠ i → Relies j s (State.store { s with txs := txs } i (address, row)) := by
  intro j hj
  refine ⟨others.of j hj, others.holder j hj, fun a ha => ?_, id, fun hl a calm => ⟨?_, ?_⟩,
    fun e he => List.mem_cons_of_mem _ he⟩
  · have other : a ≠ address := fun same => hj (alone j (same ▸ ha))
    simp [State.store, other]
  · intro k hk w hw
    by_cases own : k = i
    · subst own
      have none : w ∈ ([] : List (Address × AddressRow)) := empty ▸ hw
      cases none
    · have old : w ∈ s.pending k := by
        unfold pending
        rw [← others.of k own]
        exact hw
      exact calm.pending k hk w old
  · by_cases same : a = address
    · subst same
      rw [stateOf_store]
      intro allocated
      rcases mine with other | written
      · exact other (Option.some.inj allocated)
      · exact calm.pending i (Ne.symm hj) _ written rfl
    · rw [stateOf_store_ne same]
      exact calm.state

end Store

end State

/-! ## The discipline -/

open State

variable {subnet : Subnet}

/-- Unlocked rows are looked at with care. -/
def discipline (subnet : Subnet) : Discipline (system subnet) where
  ok _ _ o s := ∀ address, o = .find address → ∀ j, ∀ w ∈ s.pending j, w.1 ≠ address
  inv := Sound
  rely := Relies
  guar i s s' := ∀ j, j ≠ i → Relies j s s'
  rely_refl _ _ := .refl
  rely_trans _ _ _ _ := .trans
  guar_rely _ j _ _ hne h := h j (Ne.symm hne)

section Statements

variable {i : Nat} {α : Type}

/-- From a state of `P` the client keeps to the discipline, and returns in `Q` or raises in `R`. -/
abbrev Keeps (subnet : Subnet) (i : Nat) (P : State → Prop) (x : IpM α) (Q : α → State → Prop)
    (R : State → Prop) : Prop :=
  Safe (discipline subnet) i P x Q fun _ => R

/-- An assertion that the other clients respect. -/
def Stable (i : Nat) (P : State → Prop) : Prop := ∀ s s', Relies i s s' → P s → P s'

/-- Two stable facts are stable together. -/
theorem Stable.and {P P' : State → Prop} (h : Stable i P) (h' : Stable i P') :
    Stable i fun s => P s ∧ P' s :=
  fun s s' step both => ⟨h s s' step both.1, h' s s' step both.2⟩

/-- A transaction in its `n`th block, with what it has written. -/
def At (i n : Nat) (W : List (Address × AddressRow)) (s : State) : Prop :=
  (s.txs.of i).savepoints.length = n ∧ s.pending i = W

/-- What a client knows beside its transaction: its own steps may change it only by what they store
and by the lock of the subnet. -/
structure Framed (i : Nat) (F : State → Prop) : Prop where
  stable : Stable i F
  own : ∀ s s', s'.rows = s.rows → s'.lock = s.lock → (∀ j, j ≠ i → s'.pending j = s.pending j) →
    F s → F s'

/-- It holds the lock of the subnet. -/
def Locked (i : Nat) (s : State) : Prop := s.lock = some i

/-- It holds the lock of the subnet, and nobody else has to do with the address. -/
def Alone (i : Nat) (address : Address) (s : State) : Prop := s.lock = some i ∧ Calm i address s

variable {n : Nat} {W : List (Address × AddressRow)} {F : State → Prop} {address : Address}
variable {row : AddressRow}

/-- Nobody else touches what is pending for a request. -/
theorem stable_at : Stable i (At i n W) := by
  intro s s' step h
  unfold At pending at h ⊢
  rw [step.tx]
  exact h

theorem framed_true : Framed i fun _ => True := ⟨fun _ _ _ h => h, fun _ _ _ _ _ h => h⟩

/-- The lock of the subnet is no matter of the transaction. -/
theorem framed_locked : Framed i (Locked i) :=
  ⟨fun _ _ step h => step.lock h, fun _ _ _ lock _ h => lock.trans h⟩

/-- Nor is being alone with an address. -/
theorem framed_alone : Framed i (Alone i address) := by
  refine ⟨fun s s' step h => ⟨step.lock h.1, step.calm h.1 _ h.2⟩, ?_⟩
  intro s s' rows lock others h
  refine ⟨lock.trans h.1, fun j hj w hw => ?_, ?_⟩
  · rw [others j hj] at hw
    exact h.2.pending j hj w hw
  · unfold stateOf
    rw [rows]
    exact h.2.state

/-- A statement that returns has kept what its script keeps. -/
theorem keeps_statement {P : State → Prop} {R : State → Prop} {x : IpM (Except Exn α)}
    {Q : α → State → Prop}
    (h : Keeps subnet i P x (fun r s => (∀ a, r = .ok a → Q a s) ∧ (∀ e, r = .error e → R s)) R) :
    Keeps subnet i P (statement x) Q R := by
  refine Safe.bind h fun r => ?_
  cases r with
  | ok a => exact Safe.pure fun s hs => hs.1 a rfl
  | error e => exact Safe.throw fun s hs => hs.2 e rfl

/-! ### Blocks -/

/-- The depth of a client's blocks. -/
def Depth (i n : Nat) (s : State) : Prop := (s.txs.of i).savepoints.length = n

/-- An assertion about the client's own transaction. -/
def OfTx (i : Nat) (A : State → Prop) : Prop := ∀ s s', s'.txs.of i = s.txs.of i → A s → A s'

/-- What concerns the own transaction only is stable. -/
theorem OfTx.stable {A : State → Prop} (h : OfTx i A) : Stable i A :=
  fun s s' step hs => h s s' step.tx hs

theorem ofTx_depth : OfTx i (Depth i n) := by
  intro s s' same h
  unfold Depth
  rw [same]
  exact h

theorem ofTx_at : OfTx i (At i n W) := by
  intro s s' same h
  unfold At pending at h ⊢
  rw [same]
  exact h

/-- A step that leaves the rows and what the client has written. -/
theorem quiet_of_pending {s : State} (s' : State) (sound : s.Sound) (rows : s'.rows = s.rows)
    (log : s'.log = s.log) (others : Transactions.Others i s.txs s'.txs)
    (lock : ∀ j, j ≠ i → s.lock = some j → s'.lock = some j)
    (writes : ∀ w ∈ s'.pending i, s'.txs.holder w.1 = some i ∧ w ∈ s.pending i)
    (single : (s'.pending i).length ≤ 1)
    (saved : ∀ part ∈ (s'.txs.of i).savepoints, part.writes = []) :
    s'.Sound ∧ ∀ j, j ≠ i → Relies j s s' := by
  have quiet : Quiet i s s' :=
    ⟨rows, log, others, lock, fun w hw => ⟨(writes w hw).1, .inl (writes w hw).2⟩, single, saved⟩
  exact ⟨quiet.sound sound, quiet.relies⟩

/-- `atomic` opens a transaction, or a savepoint in it. -/
theorem keeps_enter {R : State → Prop} (framed : Framed i F) :
    Keeps subnet i (fun s => At i n [] s ∧ F s) (perform IpOp.enter)
      (fun _ s => At i (n + 1) [] s ∧ F s) R := by
  refine Safe.perform (stable_at.and framed.stable) ?_
  intro s c u s' ⟨⟨depth, empty⟩, hF⟩ sound _ hact
  cases hact
  let s' : State := { s with txs := s.txs.enter i }
  have none : s'.pending i = [] := by
    rw [← empty]
    simp [s', pending, Transactions.enter]
  obtain ⟨kept, guar⟩ := quiet_of_pending s' sound rfl rfl Transactions.others_set
    (fun _ _ h => h) (fun w hw => by rw [none] at hw; cases hw) (by rw [none]; exact Nat.zero_le 1) (by
      intro part hpart
      simp only [s', Transactions.enter, Transactions.of_set_self, List.mem_cons] at hpart
      rcases hpart with rfl | old
      · exact empty
      · exact sound.saved i part old)
  refine ⟨kept, guar, ⟨by simp [Transactions.enter, depth], none⟩,
    framed.own s s' rfl rfl (fun j hj => ?_) hF⟩
  exact pending_other Transactions.others_set hj

/-- A rollback gives up what the block has written. -/
theorem keeps_rollback {R : State → Prop} (framed : Framed i F) :
    Keeps subnet i (fun s => Depth i (n + 1) s ∧ F s) (perform IpOp.rollback)
      (fun _ s => At i n [] s ∧ F s) R := by
  refine Safe.perform (ofTx_depth.stable.and framed.stable) ?_
  intro s c u s' ⟨depth, hF⟩ sound _ hact
  cases hact
  let s' : State := { s with txs := s.txs.rollback i }
  obtain ⟨part, rest, saved⟩ : ∃ part rest, (s.txs.of i).savepoints = part :: rest := by
    cases h : (s.txs.of i).savepoints with
    | nil =>
      rw [Depth, h] at depth
      cases depth
    | cons part rest => exact ⟨part, rest, rfl⟩
  have back : (s.txs.rollback i).of i = ⟨part, rest⟩ := by simp [Transactions.rollback, saved]
  have none : s'.pending i = [] := by
    simp only [s', pending, back]
    exact sound.saved i part (saved ▸ List.mem_cons_self)
  obtain ⟨kept, guar⟩ := quiet_of_pending s' sound rfl rfl Transactions.others_rollback
    (fun _ _ h => h) (fun w hw => by rw [none] at hw; cases hw) (by rw [none]; exact Nat.zero_le 1) (by
      intro part' hpart'
      simp only [s', back] at hpart'
      exact sound.saved i part' (saved ▸ List.mem_cons_of_mem _ hpart'))
  refine ⟨kept, guar, ⟨?_, none⟩, framed.own s s' rfl rfl (fun j hj => ?_) hF⟩
  · rw [Depth, saved] at depth
    rw [back]
    exact Nat.succ.inj depth
  · exact pending_other Transactions.others_rollback hj

/-- The end of an inner block. -/
theorem keeps_leave (framed : Framed i F) :
    Keeps subnet i (fun s => At i (n + 2) W s ∧ F s) (perform IpOp.leave)
      (fun r s => (∀ a, r = .ok a → At i (n + 1) W s ∧ F s) ∧ ∀ e, r ≠ .error e) fun _ => False := by
  refine Safe.perform (stable_at.and framed.stable) ?_
  intro s c r s' ⟨⟨depth, written⟩, hF⟩ sound _ hact
  simp only [system, act] at hact
  split at hact
  · next outer inner rest saved =>
    cases hact
    let s' : State := { s with txs := s.txs.release i }
    have same : s'.pending i = s.pending i := by simp [s', pending, Transactions.release]
    obtain ⟨kept, guar⟩ := quiet_of_pending s' sound rfl rfl Transactions.others_set
      (fun _ _ h => h) (fun w hw => ⟨sound.locked i w (same ▸ hw), same ▸ hw⟩)
      (by rw [same]; exact sound.single i) (by
        intro part hpart
        simp only [s', Transactions.release, Transactions.of_set_self] at hpart
        exact sound.saved i part (List.mem_of_mem_tail hpart))
    refine ⟨kept, guar, fun _ _ => ⟨⟨?_, same.trans written⟩, ?_⟩, fun e h => by cases h⟩
    · rw [saved] at depth
      simpa [Transactions.release, saved] using depth
    · exact framed.own s s' rfl rfl (fun j hj => pending_other Transactions.others_set hj) hF
  · next outermost =>
    match hs : (s.txs.of i).savepoints, depth with
    | x :: y :: rest, _ => exact absurd hs (outermost x y rest)

/-- The commit. -/
theorem keeps_commit : Keeps subnet i (At i 1 W) (perform IpOp.leave)
    (fun r s => (∀ a, r = .ok a → ∀ w ∈ W, .committed i w.1 w.2.state ∈ s.log) ∧
      ∀ e, r = .error e → True) fun _ => True := by
  refine Safe.perform stable_at ?_
  intro s c r s' ⟨depth, written⟩ sound _ hact
  obtain ⟨part, one⟩ : ∃ part, (s.txs.of i).savepoints = [part] := List.length_eq_one_iff.mp depth
  have others : Transactions.Others i s.txs (s.txs.finish i []) := Transactions.others_finish
  have empty : ((s.txs.finish i []).of i).current.writes = [] := by simp [Transactions.finish]
  have saved : ∀ part ∈ ((s.txs.finish i []).of i).savepoints, part.writes = [] := by
    intro part hpart
    simp [Transactions.finish] at hpart
  let s₀ : State := { s with txs := s.txs.finish i [] }
  have none : s₀.pending i = [] := empty
  have nothing : s₀.Sound ∧ ∀ j, j ≠ i → Relies j s s₀ :=
    quiet_of_pending _ sound rfl rfl others (fun _ _ h => h) (fun w hw => by rw [none] at hw; cases hw)
      (by rw [none]; exact Nat.zero_le 1) saved
  simp only [system, act, one, commit] at hact
  split at hact
  · cases hact
    exact ⟨nothing.1, nothing.2, fun _ h => (by cases h), fun _ _ => trivial⟩
  · cases hact
    have single := sound.single i
    rw [written] at single ⊢
    match W, single with
    | [], _ => exact ⟨nothing.1, nothing.2, fun _ _ w hw => (by cases hw), fun _ _ => trivial⟩
    | [(address, row)], _ =>
      have mine : (address, row) ∈ s.pending i := written ▸ List.mem_cons_self
      have alone : ∀ j, s.txs.holder address = some j → j = i := fun j hj =>
        Option.some.inj (hj.symm.trans (sound.locked i _ mine))
      refine ⟨sound.store others empty saved alone (.inl (sound.free i _ mine)),
        relies_store others empty alone (.inr mine), fun _ _ w hw => ?_, fun _ _ => trivial⟩
      rw [List.mem_singleton.mp hw]
      exact List.mem_cons_self

/-! ### The lock of the subnet -/

/-- A statement that changes nothing. -/
theorem keeps_still {o : IpOp} {P R : State → Prop} {Q : IpAns o → State → Prop} (stable : Stable i P)
    (still : ∀ c s a s', P s → act c i o s = some (a, s') →
      (∀ address, o = .find address → ∀ j, ∀ w ∈ s.pending j, w.1 ≠ address) → s' = s ∧ Q a s) :
    Keeps subnet i P (perform o) Q R := by
  refine Safe.perform stable ?_
  intro s c a s' hP sound ok hact
  obtain ⟨rfl, hQ⟩ := still c s a s' hP hact ok
  exact ⟨sound, fun _ _ => .refl, hQ⟩

/-- The lock is taken or given back. -/
theorem keeps_lockStep {s : State} (i : Nat) (lock : Option Nat) (sound : s.Sound)
    (others : ∀ j, j ≠ i → s.lock = some j → lock = some j) :
    State.Sound { s with lock := lock } ∧ ∀ j, j ≠ i → Relies j s { s with lock := lock } :=
  quiet_of_pending _ sound rfl rfl .refl others (fun w hw => ⟨sound.locked i w hw, hw⟩) (sound.single i)
    (sound.saved i)

/-- The lock of the subnet is taken, or the request is told that it is held. -/
theorem keeps_acquire {A R : State → Prop} (own : OfTx i A) :
    Keeps subnet i A (perform IpOp.acquire) (fun b s => A s ∧ (b = true → Locked i s)) R := by
  refine Safe.perform own.stable ?_
  intro s c b s' hA sound _ hact
  simp only [system, act] at hact
  split at hact
  · next free =>
    cases hact
    obtain ⟨kept, guar⟩ := keeps_lockStep i (some i) sound
      fun j _ hl => by rw [free] at hl; cases hl
    exact ⟨kept, guar, own s _ rfl hA, fun _ => rfl⟩
  · split at hact
    · cases hact
      exact ⟨sound, fun _ _ => .refl, hA, fun h => by cases h⟩
    · cases hact

/-- The lock of the subnet is released. -/
theorem keeps_release {A R : State → Prop} (own : OfTx i A) :
    Keeps subnet i A (perform IpOp.release) (fun _ => A) R := by
  refine Safe.perform own.stable ?_
  intro s c u s' hA sound _ hact
  simp only [system, act] at hact
  split at hact
  · next mine =>
    cases hact
    obtain ⟨kept, guar⟩ := keeps_lockStep i none sound
      fun j hj hl => absurd (Option.some.inj (hl.symm.trans mine)) hj
    exact ⟨kept, guar, own s _ rfl hA⟩
  · cases hact
    exact ⟨sound, fun _ _ => .refl, hA⟩

/-- `with _subnet_lock(subnet):` -/
theorem keeps_subnetLock {body : IpM α} {A R : State → Prop} {Q : α → State → Prop}
    (own : OfTx i A) (raised : OfTx i R) (ends : ∀ a, OfTx i (Q a)) (weaker : ∀ s, A s → R s)
    (h : Keeps subnet i (fun s => A s ∧ Locked i s) body Q R) :
    Keeps subnet i A (subnetLock body) Q R := by
  refine Safe.bind (keeps_acquire own) fun b => ?_
  cases b with
  | true =>
    refine Safe.conseq (Safe.bind (Safe.tryCatch h fun e => ?_) fun a => ?_)
      (fun s hs => ⟨hs.1, hs.2 rfl⟩) (fun _ _ h => h) fun _ _ h => h
    · exact Safe.bind (keeps_release raised) fun _ => Safe.throw fun _ h => h
    · exact Safe.bind (keeps_release (ends a)) fun _ => Safe.pure fun _ h => h
  | false => exact Safe.throw fun s hs => weaker s hs.1

/-! ### Rows -/

/-- `reserve_ip` looks at the row. -/
theorem keeps_find {R : State → Prop} :
    Keeps subnet i (fun s => At i 0 [] s ∧ Locked i s) (perform (IpOp.find address))
      (fun row s => At i 0 [] s ∧ (row.map AddressRow.state ≠ some .allocated → Alone i address s)) R := by
  refine keeps_still (stable_at.and framed_locked.stable) ?_
  intro c s row s' ⟨here, locked⟩ hact ok
  cases hact
  refine ⟨rfl, here, fun free => ⟨locked, fun j _ => ok address rfl j, ?_⟩⟩
  have seen : s.seen i address = s.rows address := by
    unfold seen
    rw [here.2]
    rfl
  rw [seen] at free
  exact free

/-- A transaction that has written nothing sees the committed rows. -/
theorem seen_of_at {s : State} (h : At i n [] s) : s.seen i address = s.rows address := by
  unfold seen
  rw [h.2]
  rfl

/-- `select_for_update` -/
theorem keeps_select {R : State → Prop} (framed : Framed i F) :
    Keeps subnet i (fun s => At i (n + 1) [] s ∧ F s) (perform (IpOp.selectForUpdate address))
      (fun r s => (At i (n + 1) [] s ∧ F s) ∧ ∀ row, r = .ok (some row) →
        s.txs.holder address = some i ∧ s.rows address = some row) R := by
  refine Safe.perform (stable_at.and framed.stable) ?_
  intro s c r s' ⟨here, hF⟩ sound _ hact
  have still (r : Except Exn (Option AddressRow)) (none : ∀ row, r ≠ .ok (some row)) :
      s.Sound ∧ (∀ j, j ≠ i → Relies j s s) ∧ (At i (n + 1) [] s ∧ F s) ∧
        ∀ row, r = .ok (some row) → s.txs.holder address = some i ∧ s.rows address = some row :=
    ⟨sound, fun _ _ => .refl, ⟨here, hF⟩, fun row h => absurd h (none row)⟩
  simp only [system, act, seen_of_at here] at hact
  split at hact
  · cases hact
    exact still _ fun _ h => by cases h
  · split at hact
    · cases hact
      exact still _ fun _ h => by cases h
    · next row found =>
      obtain ⟨txs, locked, same⟩ := Option.map_eq_some_iff.mp hact
      cases same
      obtain ⟨savepoints, writes⟩ := Transactions.of_lock locked
      have others := Transactions.others_lock locked
      let s' : State := { s with txs := txs }
      have none : s'.pending i = [] := writes.trans here.2
      obtain ⟨kept, guar⟩ := quiet_of_pending s' sound rfl rfl others (fun _ _ h => h)
        (fun w hw => by rw [none] at hw; cases hw) (by rw [none]; exact Nat.zero_le 1)
        fun part hpart => sound.saved i part (savepoints ▸ hpart)
      refine ⟨kept, guar, ⟨⟨(congrArg List.length savepoints).trans here.1, none⟩,
        framed.own s s' rfl rfl (fun j hj => pending_other others hj) hF⟩, fun row' h => ?_⟩
      cases h
      exact ⟨Transactions.holder_lock locked, found⟩

/-- A row is written that nobody has, under the lock of the subnet. -/
theorem write_quiet {s s' : State} (sound : s.Sound) (here : At i (n + 1) [] s) (locked : Locked i s)
    (free : s.stateOf address ≠ some .allocated) (written : s.write i address row = some s') :
    (s'.Sound ∧ ∀ j, j ≠ i → Relies j s s') ∧ At i (n + 1) [(address, row)] s' ∧
      s'.rows = s.rows ∧ s'.lock = s.lock ∧ ∀ j, j ≠ i → s'.pending j = s.pending j := by
  obtain ⟨txs, taken, same⟩ := Option.map_eq_some_iff.mp written
  have inside : s.inTransaction i = true := by
    refine decide_eq_true fun none => ?_
    have depth := here.1
    rw [none] at depth
    cases depth
  rw [if_pos inside] at same
  cases same
  obtain ⟨savepoints, writes⟩ := Transactions.of_lock taken
  let s' : State := { s with txs := txs.write i ((address, row) :: ·) }
  have pending : s'.pending i = [(address, row)] := by
    have empty : (txs.of i).current.writes = [] := writes.trans here.2
    simp [s', State.pending, Transactions.write, empty]
  have saved : (s'.txs.of i).savepoints = (s.txs.of i).savepoints := by
    rw [← savepoints]
    simp [s', Transactions.write]
  have others : Transactions.Others i s.txs s'.txs :=
    (Transactions.others_lock taken).trans Transactions.others_set
  have quiet : Quiet i s s' := by
    refine ⟨rfl, rfl, others, fun _ _ h => h, fun w hw => ?_, by rw [pending]; exact Nat.le_refl 1,
      fun part hpart => sound.saved i part (saved ▸ hpart)⟩
    rw [pending] at hw
    rw [List.mem_singleton.mp hw]
    have holder : txs.holder address = some i := Transactions.holder_lock taken
    exact ⟨holder, .inr ⟨locked, free⟩⟩
  exact ⟨⟨quiet.sound sound, quiet.relies⟩, ⟨(congrArg List.length saved).trans here.1, pending⟩, rfl,
    rfl, fun j hj => pending_other others hj⟩

/-- `create`, in a transaction. -/
theorem keeps_create {R : State → Prop} (framed : Framed i F) (locked : ∀ s, F s → Locked i s) :
    Keeps subnet i (fun s => At i (n + 1) [] s ∧ F s) (perform (IpOp.create address row))
      (fun r s => (∀ u, r = .ok u → At i (n + 1) [(address, row)] s ∧ F s) ∧
        ∀ e, r = .error e → At i (n + 1) [] s ∧ F s) R := by
  refine Safe.perform (stable_at.and framed.stable) ?_
  intro s c r s' ⟨here, hF⟩ sound _ hact
  simp only [system, act, seen_of_at here] at hact
  split at hact
  · cases hact
    exact ⟨sound, fun _ _ => .refl, fun _ h => (by cases h), fun _ _ => ⟨here, hF⟩⟩
  · split at hact
    · cases hact
      exact ⟨sound, fun _ _ => .refl, fun _ h => (by cases h), fun _ _ => ⟨here, hF⟩⟩
    · next fresh =>
      obtain ⟨s₁, written, same⟩ := Option.map_eq_some_iff.mp hact
      cases same
      have free : s.stateOf address ≠ some .allocated := by
        unfold stateOf
        rw [Option.not_isSome_iff_eq_none.mp fresh]
        exact fun h => by cases h
      obtain ⟨⟨kept, guar⟩, after, rows, lock, others⟩ :=
        write_quiet sound here (locked s hF) free written
      exact ⟨kept, guar, fun _ _ => ⟨after, framed.own s s' rows lock others hF⟩,
        fun _ h => by cases h⟩

/-- `save`, in a transaction. -/
theorem keeps_save {R : State → Prop} (stable : Stable i F)
    (ready : ∀ s, F s → Locked i s ∧ s.stateOf address ≠ some .allocated) :
    Keeps subnet i (fun s => At i (n + 1) [] s ∧ F s) (perform (IpOp.save address row))
      (fun r s => (∀ u, r = .ok u → At i (n + 1) [(address, row)] s) ∧
        ∀ e, r = .error e → At i (n + 1) [] s) R := by
  refine Safe.perform (stable_at.and stable) ?_
  intro s c r s' ⟨here, hF⟩ sound _ hact
  simp only [system, act] at hact
  split at hact
  · cases hact
    exact ⟨sound, fun _ _ => .refl, fun _ h => (by cases h), fun _ _ => here⟩
  · obtain ⟨s₁, written, same⟩ := Option.map_eq_some_iff.mp hact
    cases same
    obtain ⟨locked, free⟩ := ready s hF
    obtain ⟨⟨kept, guar⟩, after, -⟩ := write_quiet sound here locked free written
    exact ⟨kept, guar, fun _ _ => after, fun _ h => by cases h⟩

/-- `save`, by itself. -/
theorem keeps_store {R : State → Prop} (available : row.state = .available) :
    Keeps subnet i (At i 0 []) (perform (IpOp.save address row)) (fun _ _ => True) R := by
  refine Safe.perform stable_at ?_
  intro s c r s' here sound _ hact
  simp only [system, act] at hact
  split at hact
  · cases hact
    exact ⟨sound, fun _ _ => .refl, trivial⟩
  · obtain ⟨s₁, written, same⟩ := Option.map_eq_some_iff.mp hact
    cases same
    obtain ⟨txs, taken, same⟩ := Option.map_eq_some_iff.mp written
    have outside : s.inTransaction i = false := by
      refine decide_eq_false (not_not.mpr (List.eq_nil_of_length_eq_zero here.1))
    rw [if_neg (by rw [outside]; exact Bool.false_ne_true)] at same
    cases same
    have alone : ∀ j, s.txs.holder address = some j → j = i := by
      intro j hj
      unfold Transactions.lock at taken
      rw [hj] at taken
      simp only at taken
      split at taken
      · next same => exact same
      · cases taken
    have other : row.state ≠ .allocated := by rw [available]; decide
    exact ⟨sound.store .refl here.2 (sound.saved i) alone (.inr available),
      relies_store .refl here.2 alone (.inl other), trivial⟩

/-- Only a committed address is answered with. -/
theorem keeps_respond {R : State → Prop} :
    Keeps subnet i (fun s => .committed i address .allocated ∈ s.log) (perform (IpOp.respond address))
      (fun _ _ => True) R := by
  refine Safe.perform (fun _ _ step h => step.log _ h) ?_
  intro s c u s' stored sound _ hact
  cases hact
  have exclusive := sound.exclusive
  refine ⟨⟨⟨exclusive.apart, exclusive.stays, fun k a hk => ?_⟩, sound.locked, sound.free, sound.single,
    sound.saved⟩, fun j _ => ⟨rfl, fun _ h => h, fun _ _ => rfl, id, fun _ _ h => ⟨h.pending, h.state⟩,
    fun e he => List.mem_cons_of_mem _ he⟩, trivial⟩
  rcases List.mem_cons.mp hk with same | old
  · cases same
    exact List.mem_cons_of_mem _ stored
  · exact List.mem_cons_of_mem _ (exclusive.returned k a old)

/-! ## Services -/

theorem depth_of_at {s : State} (h : At i n W s) : Depth i n s := h.1

/-- The outermost block: what the body has written is committed. -/
theorem keeps_atomic {body : IpM α} {W : α → List (Address × AddressRow)} (framed : Framed i F)
    (h : Keeps subnet i (fun s => At i 1 [] s ∧ F s) body (fun a => At i 1 (W a)) (Depth i 1)) :
    Keeps subnet i (fun s => At i 0 [] s ∧ F s) (atomic body)
      (fun a s => ∀ w ∈ W a, .committed i w.1 w.2.state ∈ s.log) fun _ => True := by
  refine Safe.bind (keeps_enter framed) fun _ => Safe.bind (Safe.tryCatch h fun e => ?_) fun a => ?_
  · exact Safe.conseq (Safe.bind (keeps_rollback framed_true) fun _ => Safe.throw fun _ _ => trivial)
      (fun _ h => ⟨h, trivial⟩) (fun _ _ h => h) fun _ _ h => h
  · refine Safe.bind (keeps_statement keeps_commit) fun _ => Safe.pure fun _ h => h

/-- A block inside of it, after which what was known still is. -/
theorem keeps_savepoint {body : IpM Unit} (framed : Framed i F)
    (h : Keeps subnet i (fun s => At i 2 [] s ∧ F s) body (fun _ s => At i 2 W s ∧ F s)
      fun s => Depth i 2 s ∧ F s) :
    Keeps subnet i (fun s => At i 1 [] s ∧ F s) (atomic body) (fun _ s => At i 1 W s ∧ F s)
      fun s => At i 1 [] s ∧ F s := by
  refine Safe.bind (keeps_enter framed) fun _ => Safe.bind (Safe.tryCatch h fun e => ?_) fun a => ?_
  · exact Safe.bind (keeps_rollback framed) fun _ => Safe.throw fun _ h => h
  · refine Safe.bind (keeps_statement (Q := fun _ s => At i 1 W s ∧ F s) ?_) fun _ => Safe.pure fun _ h => h
    exact Safe.conseq (keeps_leave framed) (fun _ h => h)
      (fun r _ h => ⟨h.1, fun e he => absurd he (h.2 e)⟩) fun _ _ h => h.elim

/-- `select_for_update` returns the row with its lock. -/
theorem keeps_selectForUpdate (framed : Framed i F) :
    Keeps subnet i (fun s => At i (n + 1) [] s ∧ F s) (selectForUpdate address)
      (fun found s => (At i (n + 1) [] s ∧ F s) ∧ ∀ row, found = some row →
        s.txs.holder address = some i ∧ s.rows address = some row) (Depth i (n + 1)) := by
  refine keeps_statement (Safe.conseq (keeps_select framed) (fun _ h => h) (fun r s h => ?_)
    fun _ _ h => h)
  refine ⟨fun found same => ⟨h.1, fun row hrow => h.2 row (same.trans (congrArg _ hrow))⟩, fun _ _ => ?_⟩
  exact depth_of_at h.1.1

/-- The row that was locked is the one that is saved. -/
def Selected (i : Nat) (address : Address) (row : AddressRow) (s : State) : Prop :=
  Locked i s ∧ s.txs.holder address = some i ∧ s.rows address = some row

/-- A row that is locked stays as it was read. -/
theorem stable_selected : Stable i (Selected i address row) := by
  rintro s s' step ⟨locked, holder, found⟩
  exact ⟨step.lock locked, step.locks _ holder, (step.rows _ holder).trans found⟩

/-- The loops write the address that they return. -/
theorem keeps_allocateFrom {note : String} (addresses : List Address) :
    Keeps subnet i (fun s => At i 1 [] s ∧ Locked i s) (allocateFrom subnet note addresses)
      (fun a => At i 1 [(a, { state := .allocated, note := note })]) (Depth i 1) := by
  induction addresses with
  | nil => exact Safe.throw fun _ h => depth_of_at h.1
  | cons address rest ih =>
    refine Safe.bind (keeps_selectForUpdate framed_locked) fun found => ?_
    cases found with
    | none =>
      refine Safe.bind (Q := fun _ => At i 1 [(address, { state := .allocated, note := note })]) ?_
        fun _ => Safe.pure fun _ h => h
      refine keeps_statement (Safe.conseq (keeps_create framed_locked fun _ h => h) (fun _ h => h.1)
        (fun r s h => ?_) fun _ _ h => h)
      exact ⟨fun u hu => (h.1 u hu).1, fun e he => depth_of_at (h.2 e he).1⟩
    | some existing =>
      by_cases available : existing.state = .available
      · simp only [if_pos available]
        refine Safe.bind (Q := fun _ => At i 1 [(address, { state := .allocated, note := note })]) ?_
          fun _ => Safe.pure fun _ h => h
        have ready (s : State) (h : Selected i address existing s) :
            Locked i s ∧ s.stateOf address ≠ some .allocated := by
          refine ⟨h.1, ?_⟩
          unfold stateOf
          rw [h.2.2, Option.map_some, available]
          decide
        refine keeps_statement (Safe.conseq (keeps_save (n := 0) stable_selected ready) (fun s h => ?_)
          (fun r s h => ?_) fun _ _ h => h)
        · exact ⟨h.1.1, h.1.2, h.2 existing rfl⟩
        · exact ⟨h.1, fun e he => depth_of_at (h.2 e he)⟩
      · simp only [if_neg available]
        exact Safe.conseq ih (fun _ h => h.1) (fun _ _ h => h) fun _ _ h => h

/-- **An address that `allocate_ip` returns was committed.** -/
theorem keeps_allocateIp {pool : Option IpPool} {note : String} :
    Keeps subnet i (At i 0 []) (allocateIp subnet pool note)
      (fun a s => .committed i a .allocated ∈ s.log) fun _ => True := by
  have pools : Keeps subnet i (fun s => At i 1 [] s ∧ Locked i s) (poolsOf pool)
      (fun _ s => At i 1 [] s ∧ Locked i s) (Depth i 1) := by
    cases pool with
    | some pool => exact Safe.pure fun _ h => h
    | none =>
      refine keeps_still (stable_at.and framed_locked.stable) fun c s a s' h hact _ => ?_
      cases hact
      exact ⟨rfl, h⟩
  refine Safe.conseq (keeps_atomic (W := fun a => [(a, { state := .allocated, note := note })])
    framed_true ?_) (fun _ h => ⟨h, trivial⟩) (fun a s h => h _ List.mem_cons_self) fun _ _ h => h
  refine Safe.conseq (keeps_subnetLock (A := At i 1 []) ofTx_at ofTx_depth (fun _ => ofTx_at)
    (fun _ => depth_of_at) ?_) (fun _ h => h.1) (fun _ _ h => h) fun _ _ h => h
  refine Safe.bind pools fun pools => ?_
  by_cases empty : pools = []
  · simp only [if_pos empty]
    exact Safe.throw fun _ h => depth_of_at h.1
  · simp only [if_neg empty]
    exact keeps_allocateFrom _

/-- While nobody else has to do with the address, it may be written. -/
theorem keeps_updateOrCreate :
    Keeps subnet i (fun s => At i 0 [] s ∧ Alone i address s) (updateOrCreate address row)
      (fun _ _ => True) fun _ => True := by
  have framed : Framed i (Alone i address) := framed_alone
  have saved : Keeps subnet i (fun s => At i 1 [] s ∧ Alone i address s) (save address row)
      (fun _ => At i 1 [(address, row)]) (Depth i 1) := by
    refine keeps_statement (Safe.conseq (keeps_save framed.stable fun _ h => ⟨h.1, h.2.state⟩)
      (fun _ h => h) (fun r s h => ?_) fun _ _ h => h)
    exact ⟨h.1, fun e he => depth_of_at (h.2 e he)⟩
  refine Safe.conseq (keeps_atomic (W := fun _ => [(address, row)]) framed ?_) (fun _ h => h)
    (fun _ _ _ => trivial) fun _ _ h => h
  refine Safe.bind (keeps_selectForUpdate framed) fun found => ?_
  cases found with
  | some existing => exact Safe.conseq saved (fun _ h => h.1) (fun _ _ h => h) fun _ _ h => h
  | none =>
    have created : Keeps subnet i (fun s => At i 2 [] s ∧ Alone i address s) (create address row)
        (fun _ s => At i 2 [(address, row)] s ∧ Alone i address s)
        fun s => Depth i 2 s ∧ Alone i address s := by
      refine keeps_statement (Safe.conseq (keeps_create framed fun _ h => h.1) (fun _ h => h)
        (fun r s h => ?_) fun _ _ h => h)
      exact ⟨h.1, fun e he => ⟨depth_of_at (h.2 e he).1, (h.2 e he).2⟩⟩
    refine Safe.tryCatch (R := fun _ s => At i 1 [] s ∧ Alone i address s)
      (Safe.conseq (keeps_savepoint framed created) (fun _ h => h.1) (fun _ _ h => h.1)
        fun _ _ h => h) fun e => ?_
    by_cases duplicate : e = .integrityError
    · simp only [if_pos duplicate]
      refine Safe.bind (keeps_selectForUpdate framed) fun found => ?_
      cases found with
      | some existing => exact Safe.conseq saved (fun _ h => h.1) (fun _ _ h => h) fun _ _ h => h
      | none => exact Safe.throw fun _ h => depth_of_at h.1.1
    · simp only [if_neg duplicate]
      exact Safe.throw fun _ h => depth_of_at h.1

/-- `reserve_ip` keeps the discipline. -/
theorem keeps_reserveIp {text : String} {parsed : Option Address} {note : String} :
    Keeps subnet i (At i 0 []) (reserveIp subnet text parsed note) (fun _ _ => True) fun _ => True := by
  cases parsed with
  | none => exact Safe.throw fun _ _ => trivial
  | some address =>
    unfold reserveIp
    by_cases within : subnet.contains address
    · simp only [if_pos within]
      refine keeps_subnetLock ofTx_at (fun _ _ _ h => h) (fun _ _ _ _ h => h) (fun _ _ => trivial) ?_
      refine Safe.bind keeps_find fun existing => ?_
      by_cases allocated : existing.any (·.state = .allocated)
      · simp only [if_pos allocated]
        exact Safe.throw fun _ _ => trivial
      · simp only [if_neg allocated]
        refine Safe.conseq keeps_updateOrCreate (fun s h => ⟨h.1, h.2 ?_⟩) (fun _ _ h => h) fun _ _ h => h
        intro same
        obtain ⟨row, rfl, state⟩ := Option.map_eq_some_iff.mp same
        simp [state] at allocated
    · simp only [if_neg within]
      exact Safe.throw fun _ _ => trivial

/-- Every request keeps the discipline. -/
theorem keeps_script {r : Request} {s : State} {x : IpM Unit} (started : r.script subnet s = some x) :
    Keeps subnet i (At i 0 []) x (fun _ _ => True) fun _ => True := by
  cases r with
  | allocate pool note =>
    cases started
    exact Safe.bind keeps_allocateIp fun _ => keeps_respond
  | reserve text parsed note =>
    cases started
    exact keeps_reserveIp
  | release address =>
    obtain ⟨row, -, rfl⟩ := Option.map_eq_some_iff.mp started
    refine keeps_statement (Safe.conseq (keeps_store rfl) (fun _ h => h) (fun _ _ _ => ?_) fun _ _ h => h)
    exact ⟨fun _ _ => trivial, fun _ _ => trivial⟩

end Statements

/-! ## Runs -/

/-- The subnet as the clients find it. -/
def start (rows : Rows) (pools : List IpPool) : Clients := ⟨[], { rows := rows, pools := pools }⟩

section Runs

variable {p p' : Clients}

/-- What the steps keep: threads that have not started have no transaction. -/
structure Kept (subnet : Subnet) (p : Clients) : Prop where
  threaded : (discipline subnet).Threaded p
  idle : ∀ i, p.threads.length ≤ i → At i 0 [] p.shared

/-- Every step keeps the invariant. -/
theorem Kept.step {l : Label Choice Event} (h : Kept subnet p) (ok : careful l p)
    (next : (system subnet).step l p = some p') : Kept subnet p' := by
  cases l with
  | act i c =>
    have looks : ∀ tag o k, p.threads[i]? = some ⟨tag, .vis o k⟩ →
        (discipline subnet).ok c i o p.shared := by
      rintro tag o k hi address rfl j w hw
      by_cases started : j < p.threads.length
      · exact ok address (by simp [lookedAt, hi]) j started w hw
      · have none := (h.idle j (Nat.not_lt.mp started)).2
        rw [none] at hw
        cases hw
    have guar := Discipline.guar_act i h.threaded next looks
    refine ⟨Discipline.keeps_act i h.threaded next looks, fun j hj => ?_⟩
    obtain ⟨tag, o, k, a, s, hi, -, rfl⟩ := System.step_act next
    have here := (List.getElem?_eq_some_iff.mp hi).1
    rw [List.length_set] at hj
    exact stable_at _ _ (guar j (by omega)) (h.idle j hj)
  | env e =>
    obtain ⟨ts, s, henv, rfl⟩ := System.step_env next
    have henv : env subnet e p.shared = some (ts, s) := henv
    cases e with
    | request r =>
      obtain ⟨x, started, same⟩ := Option.map_eq_some_iff.mp henv
      cases same
      refine ⟨Discipline.keeps_env h.threaded next ?_, fun j hj => ?_⟩
      · rintro ts' s' henv'
        cases (show some _ = some (ts', s') from henv.symm.trans henv')
        refine ⟨h.threaded.inv, fun _ => .refl, fun j t ht => ?_⟩
        obtain ⟨rfl, rfl⟩ : j = 0 ∧ t = ⟨r, x.prog ()⟩ := by
          cases j with
          | zero => exact ⟨rfl, (Option.some.inj ht).symm⟩
          | succ j => simp at ht
        exact (keeps_script started () _ (h.idle _ (Nat.le_refl _))).mono fun _ _ _ => trivial
      · rw [List.length_append] at hj
        exact h.idle j (by omega)
    | setPools pools =>
      cases henv
      have inv := h.threaded.inv
      have kept : State.Sound { p.shared with pools := pools } :=
        ⟨⟨inv.exclusive.apart, inv.exclusive.stays, inv.exclusive.returned⟩, inv.locked, inv.free,
          inv.single, inv.saved⟩
      refine ⟨Discipline.keeps_env h.threaded next ?_, fun j hj => h.idle j (by simpa using hj)⟩
      rintro ts' s' henv'
      cases henv'
      refine ⟨kept, fun j => ?_, fun j t ht => by simp at ht⟩
      exact ⟨rfl, fun _ h => h, fun _ _ => rfl, id, fun _ _ h => ⟨h.pending, h.state⟩, fun _ h => h⟩

/-- It holds for whatever rows and pools there are. -/
theorem Kept.start (rows : Rows) (pools : List IpPool) : Kept subnet (start rows pools) := by
  refine ⟨⟨⟨⟨trivial, fun a ha => ?_, fun i a hi => ?_⟩, ?_, ?_, ?_, ?_⟩, fun j t ht => ?_⟩, ?_⟩
  · cases ha
  · cases hi
  · intro j w hw
    cases hw
  · intro j w hw
    cases hw
  · exact fun _ => Nat.zero_le 1
  · intro j part hpart
    cases hpart
  · simp [Addresses.start] at ht
  · exact fun _ _ => ⟨rfl, rfl⟩

end Runs

/-- **In a run in which no reservation looks at an address that a transaction has written and not yet
committed, allocated addresses are exclusive.** -/
theorem exclusive_always (subnet : Subnet) (rows : Rows) (pools : List IpPool)
    (ls : List (Label Choice Event)) (ok : Along (system subnet).step careful ls (start rows pools)) :
    ∀ p ∈ visited (system subnet).step ls (start rows pools), Exclusive p.shared := by
  intro p hp
  exact (visited_keeps (I := Kept subnet) (fun _ _ _ h ok next => h.step ok next)
    (Kept.start rows pools) ok hp).threaded.inv.exclusive

/-! ## Two runs -/

/-- `10.20.120.0/30` -/
def slash30 : Subnet := ⟨"10.20.120.0/30", .v4 0x0A147800, 30⟩

/-- `10.20.120.2` -/
def usable : Address := .v4 0x0A147802

/-- The address is allocated and reserved at the same time. The allocation performs `n` statements
before the reservation begins, the reservation `m` before the allocation ends. -/
def reserveBeside (n m rest : Nat) : List (Label Choice Event) :=
  [.env (.request (.allocate (some ⟨usable, usable⟩) "nic")),
    .env (.request (.reserve "10.20.120.2" (some usable) "gateway"))] ++
  List.replicate n (.act 0 {}) ++ List.replicate m (.act 1 {}) ++ List.replicate (7 - n) (.act 0 {}) ++
  List.replicate rest (.act 1 {})

/-- The allocation has committed before the reservation looks at the address. -/
theorem exclusive_always_reserved_later :
    (visited (system slash30).step (reserveBeside 6 3 0) (start (fun _ => none) [])).length = 13 ∧
    ∀ p ∈ visited (system slash30).step (reserveBeside 6 3 0) (start (fun _ => none) []),
      Exclusive p.shared :=
  ⟨by decide +kernel,
    exclusive_always slash30 (fun _ => none) [] (reserveBeside 6 3 0) (by decide +kernel)⟩

/-- The reservation looks between the release of the lock and the commit, and takes the address away
from the NIC. -/
theorem reserved_over :
    ¬ ∀ (subnet : Subnet) (rows : Rows) (pools : List IpPool) (ls : List (Label Choice Event)),
      ∀ p ∈ visited (system subnet).step ls (start rows pools), Exclusive p.shared := by
  intro always
  have stays : ∀ p ∈ visited (system slash30).step (reserveBeside 5 5 5) (start (fun _ => none) []),
      held usable p.shared.log → p.shared.stateOf usable = some .allocated :=
    fun p hp => (always slash30 (fun _ => none) [] (reserveBeside 5 5 5) p hp).stays usable
  revert stays
  decide +kernel

end NodePilot.Addresses
