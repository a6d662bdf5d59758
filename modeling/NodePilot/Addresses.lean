import NodePilot.Effects
import NodePilot.Lib.Pool
import NodePilot.Lib.Transaction
import Mathlib.Logic.Function.Basic

/-!
# The addresses of a subnet

`allocate_ip`, `reserve_ip` and `release_ip` of `apps/networks/services.py`, statement by statement,
for any number of clients of one subnet. The rows of a subnet have different addresses and keep them,
so a row is found by its address here. A statement sees what is committed, and what its own
transaction has written; it waits where another transaction has locked the row, or has inserted a row
of the same address. Outside of a transaction every statement commits by itself.
-/

namespace NodePilot.Addresses

open Lib

/-! ## Addresses -/

/-- An address, as `ip_address` reads it. -/
inductive Address
  | v4 (value : Nat)
  | v6 (value : Nat)
deriving DecidableEq

/-- `int(address)` -/
def Address.toNat : Address → Nat
  | v4 value | v6 value => value

/-- `ip_address(value)` of a number. -/
def Address.ofNat (value : Nat) : Address := if value < 2 ^ 32 then v4 value else v6 value

/-- `Subnet`. The network is what `ip_network` makes of `cidr`. -/
structure Subnet where
  cidr : String
  network : Address
  prefixLength : Nat

/-- `parsed in subnet.network_obj` -/
def Subnet.contains (subnet : Subnet) : Address → Bool
  | .v4 value => match subnet.network with
    | .v4 network => value / 2 ^ (32 - subnet.prefixLength) = network / 2 ^ (32 - subnet.prefixLength)
    | .v6 _ => false
  | .v6 value => match subnet.network with
    | .v4 _ => false
    | .v6 network => value / 2 ^ (128 - subnet.prefixLength) = network / 2 ^ (128 - subnet.prefixLength)

/-- `IPPool` -/
structure IpPool where
  startAddress : Address
  endAddress : Address
deriving DecidableEq

/-- `address_range` -/
def IpPool.addressRange (pool : IpPool) : List Address :=
  (List.range (pool.endAddress.toNat + 1 - pool.startAddress.toNat)).map fun k =>
    .ofNat (pool.startAddress.toNat + k)

/-! ## What the API accepts -/

/-- A number of the family's width, as every address of an address field has. -/
def Address.valid : Address → Bool
  | .v4 value => value < 2 ^ 32
  | .v6 value => value < 2 ^ 128

/-- `SubnetSerializer`, to create a subnet or to update it: `validate_cidr` asks that no bit of the host is set. -/
def Subnet.accepted (subnet : Subnet) : Bool :=
  match subnet.network with
  | .v4 value => value < 2 ^ 32 ∧ subnet.prefixLength ≤ 32 ∧ value % 2 ^ (32 - subnet.prefixLength) = 0
  | .v6 value => value < 2 ^ 128 ∧ subnet.prefixLength ≤ 128 ∧ value % 2 ^ (128 - subnet.prefixLength) = 0

/-- `IPPoolSerializer`, to create a pool or to update it: both ends are addresses. -/
def IpPool.accepted (pool : IpPool) : Bool := pool.startAddress.valid ∧ pool.endAddress.valid

/-! ## Rows -/

/-- `IPAddressState` -/
inductive AddressState
  | available | allocated | reserved | blocked
deriving DecidableEq

/-- `IPAddress`, but for its address. -/
structure AddressRow where
  state : AddressState := .available
  note : String := ""
deriving DecidableEq

/-- The exceptions of the services, with what their messages say. -/
inductive Exn
  | lockAcquisition
  /-- `Subnet has no configured IP pool to allocate from.` -/
  | noPool
  /-- `No available address in {subnet.cidr}.` -/
  | noAvailableAddress (cidr : String)
  /-- `{address!r} is not a valid IP address.` -/
  | notAnAddress (text : String)
  /-- `{address} is not within subnet {subnet.cidr}.` -/
  | notWithin (text cidr : String)
  /-- `{address} is already allocated to a NIC; release it before reserving it.` -/
  | alreadyAllocated (text : String)
  | integrityError
  | databaseError
deriving DecidableEq

/-! ## Statements -/

inductive IpOp
  /-- The beginning of an `atomic` block. -/
  | enter
  /-- The end of an `atomic` block: the commit, for the outermost. -/
  | leave
  /-- An exception has left an `atomic` block. -/
  | rollback
  /-- `_subnet_lock(subnet).acquire(blocking=True, timeout=10.0)` -/
  | acquire
  | release
  /-- `list(subnet.pools.all())` -/
  | pools
  /-- `IPAddress.objects.filter(subnet=..., address=...).first()` -/
  | find (address : Address)
  /-- The same with `select_for_update()`. -/
  | selectForUpdate (address : Address)
  /-- `IPAddress.objects.create(subnet=..., address=..., ...)` -/
  | create (address : Address) (row : AddressRow)
  /-- `ip_address.save(update_fields=["state", "note"])` -/
  | save (address : Address) (row : AddressRow)
  /-- The answer of `allocate_ip` leaves. -/
  | respond (address : Address)

@[reducible]
def IpAns : IpOp → Type
  | .enter | .rollback | .release | .respond _ => Unit
  | .acquire => Bool
  | .pools => List IpPool
  | .find _ => Option AddressRow
  | .selectForUpdate _ => Except Exn (Option AddressRow)
  | .leave | .create _ _ | .save _ _ => Except Exn Unit

abbrev IpM (α : Type) : Type := Script IpOp IpAns Exn Unit α

/-- A statement that may be rejected. -/
def statement {α : Type} (x : IpM (Except Exn α)) : IpM α := do
  match ← x with
  | .ok a => return a
  | .error e => throw e

/-- `transaction.atomic` -/
def atomic {α : Type} (body : IpM α) : IpM α := do
  Script.perform IpOp.enter
  let a ← tryCatch body fun e => do
    Script.perform IpOp.rollback
    throw e
  statement (Script.perform IpOp.leave)
  return a

/-- `with _subnet_lock(subnet):` -/
def subnetLock {α : Type} (body : IpM α) : IpM α := do
  let acquired : Bool ← Script.perform IpOp.acquire
  if acquired then
    let a ← tryCatch body fun e => do
      Script.perform IpOp.release
      throw e
    Script.perform IpOp.release
    return a
  else throw .lockAcquisition

def selectForUpdate (address : Address) : IpM (Option AddressRow) :=
  statement (Script.perform (IpOp.selectForUpdate address))

def create (address : Address) (row : AddressRow) : IpM Unit :=
  statement (Script.perform (IpOp.create address row))

def save (address : Address) (row : AddressRow) : IpM Unit :=
  statement (Script.perform (IpOp.save address row))

/-! ## Services -/

/-- The two loops of `allocate_ip`: the first address that is free. -/
def allocateFrom (subnet : Subnet) (note : String) : List Address → IpM Address
  | [] => throw (.noAvailableAddress subnet.cidr)
  | address :: rest => do
    match ← selectForUpdate address with
    | none =>
      create address { state := .allocated, note := note }
      return address
    | some existing =>
      if existing.state = .available then
        save address { state := .allocated, note := note }
        return address
      else allocateFrom subnet note rest

/-- `[pool] if pool else list(subnet.pools.all())` -/
def poolsOf : Option IpPool → IpM (List IpPool)
  | some pool => return [pool]
  | none => Script.perform IpOp.pools

/-- `allocate_ip` -/
def allocateIp (subnet : Subnet) (pool : Option IpPool) (note : String) : IpM Address :=
  atomic <| subnetLock do
    let pools ← poolsOf pool
    if pools = [] then throw .noPool
    else allocateFrom subnet note (pools.flatMap IpPool.addressRange)

/-- `release_ip` -/
def releaseIp (address : Address) : IpM Unit := save address { state := .available, note := "" }

/-- `IPAddress.objects.update_or_create(..., defaults=...)` -/
def updateOrCreate (address : Address) (row : AddressRow) : IpM Unit :=
  atomic do
    match ← selectForUpdate address with
    | some _ => save address row
    | none =>
      -- `get_or_create`: somebody else may have inserted the row by now
      tryCatch (atomic (create address row)) fun e =>
        if e = .integrityError then do
          match ← selectForUpdate address with
          | some _ => save address row
          | none => throw e
        else throw e

/-- `reserve_ip`. `parsed` is what `ip_address` makes of the text, if it is an address. -/
def reserveIp (subnet : Subnet) (text : String) (parsed : Option Address) (note : String) : IpM Unit :=
  match parsed with
  | none => throw (.notAnAddress text)
  | some address =>
    if subnet.contains address then
      subnetLock do
        let existing : Option AddressRow ← Script.perform (IpOp.find address)
        if existing.any (·.state = .allocated) then throw (.alreadyAllocated text)
        else updateOrCreate address { state := .reserved, note := note }
    else throw (.notWithin text subnet.cidr)

/-- The two loops of `find_free_ip`. -/
def findFrom : List Address → IpM (Option Address)
  | [] => return none
  | address :: rest => do
    let existing : Option AddressRow ← Script.perform (IpOp.find address)
    if existing.all (·.state = .available) then return some address else findFrom rest

/-- `find_free_ip` -/
def findFreeIp : IpM (Option Address) := do
  let pools : List IpPool ← Script.perform IpOp.pools
  findFrom (pools.flatMap IpPool.addressRange)

/-! ## The database -/

/-- What the surroundings decide at one statement. -/
structure Choice where
  /-- The database rejects the statement. -/
  rejected : Bool := false
  /-- Ten seconds are over, and the lock is still taken. -/
  timedOut : Bool := false

/-- What is recorded of a subnet. -/
inductive Entry
  /-- A thread has committed a row of the address with this state. -/
  | committed (thread : Nat) (address : Address) (state : AddressState)
  /-- `allocate_ip` has returned the address. -/
  | returned (thread : Nat) (address : Address)
deriving DecidableEq

/-- Rows by their addresses. -/
abbrev Rows : Type := Address → Option AddressRow

/-- The committed rows, the lock of the subnet, the transactions under way, and what was recorded,
newest first. What a transaction has written is kept newest first, too. -/
structure State where
  rows : Rows
  pools : List IpPool := []
  lock : Option Nat := none
  txs : Transactions (List (Address × AddressRow)) Address := ⟨fun _ => ⟨⟨[], []⟩, []⟩, fun _ => none⟩
  log : List Entry := []

namespace State

/-- What a transaction has written so far. -/
def pending (s : State) (i : Nat) : List (Address × AddressRow) := (s.txs.of i).current.writes

/-- The row that a statement of the thread sees. -/
def seen (s : State) (i : Nat) (address : Address) : Option AddressRow :=
  ((s.pending i).lookup address).or (s.rows address)

/-- The thread is in a transaction. -/
def inTransaction (s : State) (i : Nat) : Bool := (s.txs.of i).savepoints ≠ []

/-- The row is stored, and the log says so. -/
def store (s : State) (i : Nat) (w : Address × AddressRow) : State :=
  { s with
    rows := Function.update s.rows w.1 (some w.2)
    log := .committed i w.1 w.2.state :: s.log }

/-- The end of the outermost block: what was written is stored, oldest first. -/
def commit (s : State) (c : Choice) (i : Nat) : Except Exn Unit × State :=
  let s' := { s with txs := s.txs.finish i [] }
  if c.rejected then (.error .databaseError, s')
  else (.ok (), (s.pending i).foldr (fun w t => t.store i w) s')

/-- A row is written, once the thread has locked it. -/
def write (s : State) (i : Nat) (address : Address) (row : AddressRow) : Option State :=
  (s.txs.lock i address).map fun txs =>
    if s.inTransaction i then { s with txs := txs.write i ((address, row) :: ·) }
    -- a statement by itself is committed at once
    else s.store i (address, row)

/-- One statement of a thread, `none` while it has to wait. -/
def act (c : Choice) (i : Nat) : (o : IpOp) → State → Option (IpAns o × State)
  | .enter, s => some ((), { s with txs := s.txs.enter i })
  | .leave, s =>
    match (s.txs.of i).savepoints with
    | _ :: _ :: _ => some (.ok (), { s with txs := s.txs.release i })
    | _ => some (s.commit c i)
  | .rollback, s => some ((), { s with txs := s.txs.rollback i })
  | .acquire, s =>
    match s.lock with
    | none => some (true, { s with lock := some i })
    | some _ => if c.timedOut then some (false, s) else none
  | .release, s => some ((), if s.lock = some i then { s with lock := none } else s)
  | .pools, s => some (s.pools, s)
  | .find address, s => some (s.seen i address, s)
  | .selectForUpdate address, s =>
    if c.rejected then some (.error .databaseError, s)
    else
      match s.seen i address with
      | none => some (.ok none, s)
      | some row => (s.txs.lock i address).map fun txs => (.ok (some row), { s with txs := txs })
  | .create address row, s =>
    if c.rejected then some (.error .databaseError, s)
    else if (s.seen i address).isSome then some (.error .integrityError, s)
    else (s.write i address row).map fun s' => (.ok (), s')
  | .save address row, s =>
    if c.rejected ∨ (s.seen i address).isNone then some (.error .databaseError, s)
    else (s.write i address row).map fun s' => (.ok (), s')
  | .respond address, s => some ((), { s with log := .returned i address :: s.log })

end State

inductive Request
  | allocate (pool : Option IpPool) (note : String)
  | reserve (text : String) (parsed : Option Address) (note : String)
  | release (address : Address)

/-- What happens around the clients. -/
inductive Event
  | request (r : Request)
  /-- The pools of the subnet are edited. -/
  | setPools (pools : List IpPool)

/-- A client. -/
abbrev Worker : Type := Thread Request IpOp IpAns (Except Exn Unit × Unit)

/-- What a request does. A view has loaded the row that is released. -/
def Request.script (subnet : Subnet) (s : State) : Request → Option (IpM Unit)
  | .allocate pool note => some do
      let address ← allocateIp subnet pool note
      Script.perform (IpOp.respond address)
  | .reserve text parsed note => some (reserveIp subnet text parsed note)
  | .release address => (s.rows address).map fun _ => releaseIp address

def env (subnet : Subnet) : Event → State → Option (List Worker × State)
  | .request r, s => (r.script subnet s).map fun x => ([⟨r, x.prog ()⟩], s)
  | .setPools pools, s => some ([], { s with pools := pools })

/-- The clients of a subnet. -/
def system (subnet : Subnet) :
    System Request IpOp IpAns (Except Exn Unit × Unit) State Choice Event :=
  ⟨State.act, env subnet⟩

end NodePilot.Addresses
