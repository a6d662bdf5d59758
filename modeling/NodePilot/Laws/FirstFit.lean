import NodePilot.Addresses
import NodePilot.Lib.Alone

/-!
# The first free address

`allocate_ip` and `find_free_ip` search the same addresses in the same order, one under a lock and in a
transaction, the other without. Where nobody else is about, the one allocates what the other shows.
-/

namespace NodePilot.Addresses

open Lib Lib.Script

/-- A statement of a client that is alone. Nothing is rejected, and the lock is free. -/
abbrev sequential : (o : IpOp) → State → Option (IpAns o × State) := State.act {} 0

/-- The addresses of the pools, in the order in which they are tried. -/
def tried (pools : List IpPool) : List Address := pools.flatMap IpPool.addressRange

/-- There is no row of the address, or it is AVAILABLE. -/
def free (rows : Rows) (address : Address) : Bool := (rows address).all (·.state = .available)

variable {rows : Rows} {pools : List IpPool} {written : List (Address × AddressRow)} {s s' : State}
variable {address : Address} {row : AddressRow}

/-! ## The preview -/

theorem alone_findFrom (addresses : List Address) :
    alone sequential (findFrom addresses) () { rows := rows, pools := pools } =
      some (.ok (addresses.find? (free rows)), (), { rows := rows, pools := pools }) := by
  induction addresses with
  | nil => rfl
  | cons address rest ih =>
    have found : alone sequential (perform (IpOp.find address) : IpM _) () { rows := rows, pools := pools } =
        some (.ok (rows address), (), { rows := rows, pools := pools }) := by
      rw [alone_perform]
      rfl
    rw [findFrom, alone_bind_ok found, List.find?_cons]
    unfold free
    by_cases available : (rows address).all (·.state = .available) = true
    · rw [if_pos available, available]
      rfl
    · rw [if_neg available, Bool.eq_false_of_not_eq_true available]
      exact ih

theorem alone_findFreeIp : alone sequential findFreeIp () { rows := rows, pools := pools } =
    some (.ok ((tried pools).find? (free rows)), (), { rows := rows, pools := pools }) := by
  have read : alone sequential (perform IpOp.pools : IpM _) () { rows := rows, pools := pools } =
      some (.ok pools, (), { rows := rows, pools := pools }) := rfl
  rw [findFreeIp, alone_bind_ok read]
  exact alone_findFrom _

/-! ## The transaction -/

/-- The locks are the client's own. -/
def Own (s : State) : Prop := ∀ k j, s.txs.holder k = some j → j = 0

/-- The transaction is open under the lock of the subnet, and has written this. -/
structure Opened (rows : Rows) (pools : List IpPool) (written : List (Address × AddressRow)) (s : State) : Prop where
  rows : s.rows = rows
  pools : s.pools = pools
  lock : s.lock = some 0
  pending : s.pending 0 = written
  savepoints : (s.txs.of 0).savepoints = [⟨[], []⟩]
  own : Own s

/-- A lock is had at once. -/
theorem Own.lock (h : Own s) (k : Address) : ∃ txs, s.txs.lock 0 k = some txs ∧ Own { s with txs := txs } := by
  unfold Transactions.lock
  cases held : s.txs.holder k with
  | some j =>
    rw [h k j held]
    exact ⟨s.txs, rfl, h⟩
  | none =>
    refine ⟨_, rfl, fun k' j hj => ?_⟩
    dsimp only at hj
    split at hj
    · exact (Option.some.inj hj).symm
    · exact h k' j hj

theorem alone_statement {α : Type} {x : IpM (Except Exn α)} {a : α}
    (done : alone sequential x () s = some (.ok (.ok a), (), s')) :
    alone sequential (statement x) () s = some (.ok a, (), s') := by
  rw [statement, alone_bind_ok done]
  rfl

theorem Opened.seen (h : Opened rows pools [] s) (address : Address) : s.seen 0 address = rows address := by
  rw [State.seen, h.pending, h.rows]
  rfl

theorem Opened.select (h : Opened rows pools [] s) (address : Address) :
    ∃ s', alone sequential (selectForUpdate address) () s = some (.ok (rows address), (), s') ∧
      Opened rows pools [] s' := by
  have seen := h.seen address
  cases found : rows address with
  | none =>
    refine ⟨s, alone_statement ?_, h⟩
    rw [alone_perform]
    simp [sequential, State.act, seen, found]
  | some row =>
    obtain ⟨txs, locked, own⟩ := h.own.lock address
    obtain ⟨savepoints, writes⟩ := Transactions.of_lock locked
    refine ⟨{ s with txs := txs }, alone_statement ?_, ?_⟩
    · rw [alone_perform]
      simp [sequential, State.act, seen, found, locked]
    · exact ⟨h.rows, h.pools, h.lock, writes.trans h.pending, savepoints.trans h.savepoints, own⟩

/-- A row that is written in the transaction. -/
theorem Opened.write (h : Opened rows pools [] s) (address : Address) (row : AddressRow) :
    ∃ s', s.write 0 address row = some s' ∧ Opened rows pools [(address, row)] s' := by
  obtain ⟨txs, locked, own⟩ := h.own.lock address
  obtain ⟨savepoints, writes⟩ := Transactions.of_lock locked
  have inside : s.inTransaction 0 = true := by simp [State.inTransaction, h.savepoints]
  refine ⟨{ s with txs := txs.write 0 ((address, row) :: ·) }, ?_, ?_⟩
  · simp [State.write, locked, inside]
  · refine ⟨h.rows, h.pools, h.lock, ?_, ?_, own⟩
    · have before := h.pending
      unfold State.pending at before ⊢
      simp [Transactions.write, writes, before]
    · simp [Transactions.write, savepoints, h.savepoints]

theorem Opened.create (h : Opened rows pools [] s) (absent : rows address = none) (row : AddressRow) :
    ∃ s', alone sequential (create address row) () s = some (.ok (), (), s') ∧
      Opened rows pools [(address, row)] s' := by
  have seen := h.seen address
  obtain ⟨s', written, opened⟩ := h.write address row
  refine ⟨s', alone_statement ?_, opened⟩
  rw [alone_perform]
  simp [sequential, State.act, seen, absent, written]

theorem Opened.save (h : Opened rows pools [] s) (there : (rows address).isSome = true) (row : AddressRow) :
    ∃ s', alone sequential (save address row) () s = some (.ok (), (), s') ∧
      Opened rows pools [(address, row)] s' := by
  have seen := h.seen address
  obtain ⟨s', written, opened⟩ := h.write address row
  obtain ⟨old, found⟩ := Option.isSome_iff_exists.mp there
  refine ⟨s', alone_statement ?_, opened⟩
  rw [alone_perform]
  simp [sequential, State.act, seen, found, written]

/-- The loops of `allocate_ip`: the first free address is written, and nothing if there is none. -/
theorem Opened.allocateFrom (subnet : Subnet) (note : String) (addresses : List Address)
    (h : Opened rows pools [] s) : ∃ s', match addresses.find? (free rows) with
      | some address => alone sequential (allocateFrom subnet note addresses) () s = some (.ok address, (), s') ∧
          Opened rows pools [(address, { state := .allocated, note := note })] s'
      | none => alone sequential (Addresses.allocateFrom subnet note addresses) () s =
          some (.error (.noAvailableAddress subnet.cidr), (), s') ∧ Opened rows pools [] s' := by
  induction addresses generalizing s with
  | nil => exact ⟨s, rfl, h⟩
  | cons address rest ih =>
    obtain ⟨s₁, selected, h₁⟩ := h.select address
    rw [Addresses.allocateFrom, alone_bind_ok selected, List.find?_cons]
    cases found : rows address with
    | none =>
      obtain ⟨s₂, created, h₂⟩ := h₁.create found { state := .allocated, note := note }
      have isFree : free rows address = true := by simp [free, found]
      simp only [isFree]
      refine ⟨s₂, ?_, h₂⟩
      rw [alone_bind_ok created]
      rfl
    | some existing =>
      by_cases available : existing.state = .available
      · obtain ⟨s₂, saved, h₂⟩ := h₁.save (by rw [found]; rfl) { state := .allocated, note := note }
        have isFree : free rows address = true := by simp [free, found, available]
        simp only [isFree, if_pos available]
        refine ⟨s₂, ?_, h₂⟩
        rw [alone_bind_ok saved]
        rfl
      · have taken : free rows address = false := by simp [free, found, available]
        simp only [taken, if_neg available]
        exact ih h₁

/-! ## The allocation -/

/-- The lock is taken, and given back however the block ends. -/
theorem alone_subnetLock {α : Type} {body : IpM α} {result : Except Exn α} (unlocked : s.lock = none)
    (ends : alone sequential body () { s with lock := some 0 } = some (result, (), s')) (mine : s'.lock = some 0) :
    alone sequential (subnetLock body) () s = some (result, (), { s' with lock := none }) := by
  have acquired : alone sequential (perform IpOp.acquire : IpM _) () s =
      some (.ok true, (), { s with lock := some 0 }) := by
    rw [alone_perform]
    simp [sequential, State.act, unlocked]
  have released : alone sequential (perform IpOp.release : IpM _) () s' =
      some (.ok (), (), { s' with lock := none }) := by
    rw [alone_perform]
    simp [sequential, State.act, mine]
  rw [subnetLock, alone_bind_ok acquired, if_pos rfl]
  cases result with
  | ok a =>
    have body' : alone sequential (tryCatch body fun e => do
        perform IpOp.release
        throw e) () { s with lock := some 0 } = some (.ok a, (), s') := by
      rw [alone_tryCatch, ends]
      rfl
    rw [alone_bind_ok body', alone_bind_ok released]
    rfl
  | error e =>
    have body' : alone sequential (tryCatch body fun e => do
        perform IpOp.release
        throw e) () { s with lock := some 0 } = some (.error e, (), { s' with lock := none }) := by
      rw [alone_tryCatch, ends]
      show alone sequential _ () s' = _
      rw [alone_bind_ok released]
      rfl
    rw [alone_bind_error body']

/-- The begun transaction, before the lock is taken. -/
def begun (rows : Rows) (pools : List IpPool) : State :=
  { rows := rows, pools := pools, txs := Transactions.enter ⟨fun _ => ⟨⟨[], []⟩, []⟩, fun _ => none⟩ 0 }

theorem opened_begun : Opened rows pools [] { begun rows pools with lock := some 0 } :=
  ⟨rfl, rfl, rfl, rfl, rfl, nofun⟩

theorem alone_enter : alone sequential (perform IpOp.enter : IpM _) () { rows := rows, pools := pools } =
    some (.ok (), (), begun rows pools) := rfl

/-- A block that returns: what its transaction has written is stored. -/
theorem alone_atomic_ok {α : Type} {body : IpM α} {a : α} (opened : Opened rows pools [(address, row)] s)
    (ends : alone sequential body () (begun rows pools) = some (.ok a, (), { s with lock := none })) :
    ∃ s', alone sequential (atomic body) () { rows := rows, pools := pools } = some (.ok a, (), s') ∧
      s'.rows = Function.update rows address (some row) := by
  have body' : alone sequential (tryCatch body fun e => do
      perform IpOp.rollback
      throw e) () (begun rows pools) = some (.ok a, (), { s with lock := none }) := by
    rw [alone_tryCatch, ends]
    rfl
  have committed : ∃ s', alone sequential (perform IpOp.leave : IpM _) () { s with lock := none } =
      some (.ok (.ok ()), (), s') ∧ s'.rows = Function.update rows address (some row) := by
    rw [alone_perform]
    have writes : (s.txs.of 0).current.writes = [(address, row)] := opened.pending
    refine ⟨_, by simp only [sequential, State.act, opened.savepoints]; rfl, ?_⟩
    simp [State.commit, State.pending, writes, State.store, opened.rows]
  obtain ⟨s', leaves, stored⟩ := committed
  refine ⟨s', ?_, stored⟩
  rw [atomic, alone_bind_ok alone_enter, alone_bind_ok body', alone_bind_ok (alone_statement leaves)]
  rfl

/-- A block that raises: nothing is stored. -/
theorem alone_atomic_error {α : Type} {body : IpM α} {e : Exn} (opened : Opened rows pools written s)
    (ends : alone sequential body () (begun rows pools) = some (.error e, (), { s with lock := none })) :
    ∃ s', alone sequential (atomic body) () { rows := rows, pools := pools } = some (.error e, (), s') ∧
      s'.rows = rows := by
  have body' : alone sequential (tryCatch body fun e => do
      perform IpOp.rollback
      throw e) () (begun rows pools) =
      some (.error e, (), { s with lock := none, txs := s.txs.rollback 0 }) := by
    rw [alone_tryCatch, ends]
    rfl
  refine ⟨{ s with lock := none, txs := s.txs.rollback 0 }, ?_, opened.rows⟩
  rw [atomic, alone_bind_ok alone_enter, alone_bind_error body']

/-- `allocate_ip` ends as the preview says. -/
theorem alone_allocateIp (subnet : Subnet) (note : String) : ∃ s', match (tried pools).find? (free rows) with
    | some address => alone sequential (allocateIp subnet none note) () { rows := rows, pools := pools } =
          some (.ok address, (), s') ∧
        s'.rows = Function.update rows address (some { state := .allocated, note := note })
    | none => ∃ e, alone sequential (allocateIp subnet none note) () { rows := rows, pools := pools } =
        some (.error e, (), s') ∧ s'.rows = rows := by
  have opened := @opened_begun rows pools
  have read : alone sequential (poolsOf none) () { begun rows pools with lock := some 0 } =
      some (.ok pools, (), { begun rows pools with lock := some 0 }) := rfl
  unfold allocateIp
  by_cases empty : pools = []
  · have refused : alone sequential (do
        let pools ← poolsOf none
        if pools = [] then throw .noPool else allocateFrom subnet note (pools.flatMap IpPool.addressRange)) ()
        { begun rows pools with lock := some 0 } =
          some (.error .noPool, (), { begun rows pools with lock := some 0 }) := by
      rw [alone_bind_ok read, if_pos empty]
      rfl
    obtain ⟨s', raised, kept⟩ := alone_atomic_error opened (alone_subnetLock rfl refused rfl)
    have nothing : (tried pools).find? (free rows) = none := by simp [tried, empty]
    rw [nothing]
    exact ⟨s', _, raised, kept⟩
  · obtain ⟨s₁, ends⟩ := opened.allocateFrom subnet note (tried pools)
    cases found : (tried pools).find? (free rows) with
    | some address =>
      rw [found] at ends
      obtain ⟨allocated, written⟩ := ends
      refine alone_atomic_ok written (alone_subnetLock rfl ?_ written.lock)
      rw [alone_bind_ok read, if_neg empty]
      exact allocated
    | none =>
      rw [found] at ends
      obtain ⟨exhausted, kept⟩ := ends
      have searched : alone sequential (do
          let pools ← poolsOf none
          if pools = [] then throw .noPool else allocateFrom subnet note (pools.flatMap IpPool.addressRange)) ()
          { begun rows pools with lock := some 0 } = some (.error (.noAvailableAddress subnet.cidr), (), s₁) := by
        rw [alone_bind_ok read, if_neg empty]
        exact exhausted
      obtain ⟨s', raised, same⟩ := alone_atomic_error kept (alone_subnetLock rfl searched kept.lock)
      exact ⟨s', _, raised, same⟩

/-- **The allocation agrees with the preview.** Where the preview shows an address, `allocate_ip` returns it, no row
or an AVAILABLE one stood for it, and no other row changes; where it shows none, `allocate_ip` raises and changes
nothing. -/
theorem allocate_ip_agrees (subnet : Subnet) (rows : Rows) (pools : List IpPool) (note : String) :
    ∃ shown s', alone sequential findFreeIp () { rows := rows, pools := pools } =
        some (.ok shown, (), { rows := rows, pools := pools }) ∧
      match shown with
      | some address =>
        alone sequential (allocateIp subnet none note) () { rows := rows, pools := pools } = some (.ok address, (), s') ∧
          (rows address = none ∨ ∃ row, rows address = some row ∧ row.state = .available) ∧
          s'.rows address = some { state := .allocated, note := note } ∧
          ∀ other, other ≠ address → s'.rows other = rows other
      | none => ∃ e, alone sequential (allocateIp subnet none note) () { rows := rows, pools := pools } =
          some (.error e, (), s') ∧ s'.rows = rows := by
  obtain ⟨s', ends⟩ := @alone_allocateIp rows pools subnet note
  refine ⟨(tried pools).find? (free rows), s', alone_findFreeIp, ?_⟩
  cases found : (tried pools).find? (free rows) with
  | none =>
    rw [found] at ends
    exact ends
  | some address =>
    rw [found] at ends
    obtain ⟨allocated, stored⟩ := ends
    have available : free rows address = true := List.find?_some found
    refine ⟨allocated, ?_, ?_, ?_⟩
    · unfold free at available
      cases row : rows address with
      | none => exact .inl rfl
      | some row' =>
        rw [row] at available
        exact .inr ⟨row', rfl, by simpa using available⟩
    · rw [stored, Function.update_self]
    · intro other ne
      rw [stored, Function.update_of_ne ne]

end NodePilot.Addresses
