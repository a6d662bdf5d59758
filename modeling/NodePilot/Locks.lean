import NodePilot.Lib.Lease
import NodePilot.Lib.Pool

/-!
# Redis locks

`RedisLock` of `apps/common/locks.py`. Any number of lock objects work on one Redis, each step of
which is atomic: one `SET NX PX` of an `acquire`, one script of an `extend` or a `release`. Between
two steps the clock may move, and keys expire. The clock counts milliseconds.
-/

namespace NodePilot

open Lib

/-- `RedisLock`. A key is written with its namespace. -/
structure RedisLock where
  key : String
  ttlSeconds : Int := 60
  token : String

namespace RedisLock

/-- `int(self.ttl_seconds * 1000)` -/
def ttlMs (lock : RedisLock) : Int := lock.ttlSeconds * 1000

/-- `int((additional_ttl_seconds or self.ttl_seconds) * 1000)` -/
def extendMs (lock : RedisLock) : Option Int → Int
  | some additional => if additional = 0 then lock.ttlMs else additional * 1000
  | none => lock.ttlMs

/-- A call that has returned. -/
inductive Call
  | acquire (ttlMs : Int)
  | extend (ttlMs : Int)
  | release

structure Returned where
  object : Nat
  call : Call
  time : Nat
  result : Bool

/-- Redis, and the objects that use it. -/
structure Clients where
  now : Nat := 0
  store : Leases String String := fun _ => none
  /-- The calls of `acquire` under way: `blocking` and the deadline. -/
  waiting : Nat → Option (Bool × Nat) := fun _ => none
  /-- What the calls have returned, newest first. -/
  returned : List Returned := []

inductive Step
  | tick (milliseconds : Nat)
  /-- `acquire` is called. -/
  | acquire (object : Nat) (blocking : Bool) (timeoutMs : Nat)
  /-- One round of the loop in `acquire`. -/
  | attempt (object : Nat)
  | extend (object : Nat) (additionalTtlSeconds : Option Int)
  | release (object : Nat)

namespace Clients

/-- A call returns. -/
def answer (s : Clients) (object : Nat) (call : Call) (result : Bool) : Clients :=
  { s with returned := ⟨object, call, s.now, result⟩ :: s.returned }

/-- The end of a call of `acquire`. -/
def leave (s : Clients) (object : Nat) : Clients :=
  { s with waiting := Function.update s.waiting object none }

/-- One round of the loop in `acquire`. Redis refuses an expiry that is not positive, and the call
raises. -/
def attempt (s : Clients) (object : Nat) (lock : RedisLock) (blocking : Bool) (deadline : Nat) :
    Clients :=
  if 0 < lock.ttlMs then
    match s.store.setNx s.now lock.ttlMs.toNat lock.key lock.token with
    | (true, store) => { s.leave object with store := store }.answer object (.acquire lock.ttlMs) true
    | (false, _) =>
      if ¬ blocking ∨ deadline ≤ s.now then (s.leave object).answer object (.acquire lock.ttlMs) false
      else s
  else s.leave object

/-- `RedisLock.extend` -/
def extend (s : Clients) (object : Nat) (lock : RedisLock) (ttl : Int) : Clients :=
  { s with store := s.store.extend s.now ttl lock.key lock.token }.answer object (.extend ttl)
    (s.store.holds s.now lock.key lock.token)

/-- `RedisLock.release` -/
def release (s : Clients) (object : Nat) (lock : RedisLock) : Clients :=
  { s with store := s.store.release s.now lock.key lock.token }.answer object .release
    (s.store.holds s.now lock.key lock.token)

/-- One step of the objects `locks`. -/
def step (locks : List RedisLock) : Step → Clients → Option Clients
  | .tick milliseconds, s => some { s with now := s.now + milliseconds }
  | .acquire object blocking timeoutMs, s =>
    match s.waiting object with
    | none => some { s with
        waiting := Function.update s.waiting object (some (blocking, s.now + timeoutMs)) }
    | some _ => none
  | .attempt object, s => do
    let lock ← locks[object]?
    let (blocking, deadline) ← s.waiting object
    return s.attempt object lock blocking deadline
  | .extend object additional, s => do
    let lock ← locks[object]?
    return s.extend object lock (lock.extendMs additional)
  | .release object, s => do
    let lock ← locks[object]?
    return s.release object lock

end Clients

/-- Until when an object has the lock by its own calls: its last `acquire` that succeeded, as it has
extended it since, unless it has released it. -/
def heldUntil (object : Nat) : List Returned → Option Nat
  | [] => none
  | r :: earlier =>
    if r.object = object ∧ r.result = true then
      match r.call with
      | .acquire ttl | .extend ttl => some (r.time + ttl.toNat)
      | .release => none
    else heldUntil object earlier

/-- The object has the lock, and its time has not lapsed. -/
def Clients.Holds (s : Clients) (object : Nat) : Prop :=
  ∃ expires, heldUntil object s.returned = some expires ∧ s.now < expires

end RedisLock

end NodePilot
