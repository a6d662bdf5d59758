import NodePilot.Lib.Lease
import NodePilot.Lib.Pool
import NodePilot.Tasks

/-!
# Workers side by side, on a clock

Several workers execute task messages at the same time (`apps/common/locks.py`,
`apps/virtual_machines/locks.py`). A lock is a Redis key that its holder sets for a fixed time and
that nobody extends, so it may be gone while the body under it still runs. The clock counts
milliseconds and moves between any two operations. An agent call leaves at some moment and is
answered within the timeout its task passes.

Every `RedisLock` draws its own token. A task takes each of its locks once, so its index in the
pool stands for the token.
-/

namespace NodePilot

open Lib

/-- The body of a `with` block that is being executed. -/
structure Body where
  worker : Nat
  key : LockKey
  since : Nat
  ttl : Nat

/-- What the workers share. -/
structure Cluster where
  world : World
  now : Nat := 0
  locks : Leases LockKey Nat := fun _ => none
  /-- The `with` blocks that were entered and not yet left. -/
  bodies : List Body := []
  /-- The workers with an agent call in flight, and when it left. -/
  inFlight : List (Nat × Nat) := []

/-- `timeout or settings.NODEPILOT["AGENT_RPC_TIMEOUT_SECONDS"]`, in milliseconds. -/
def rpcTimeout (timeout : Option Nat) : Nat := ((orNat timeout (some 30)).getD 30) * 1000

/-- What happens around the workers. -/
inductive ClusterEvent
  /-- A worker takes a message from the broker. -/
  | deliver (taskId : String) (job : Nat) (task : Task)
  /-- The agent call that a worker is at leaves the controller. -/
  | depart (worker : Nat)
  | tick (milliseconds : Nat)
  /-- `request_cancel` -/
  | cancel (job : Nat)

namespace Cluster

/-- The call of a worker has been answered. -/
def landed (c : Cluster) (worker : Nat) : List (Nat × Nat) := c.inFlight.filter (·.1 ≠ worker)

/-- `RedisLock.acquire`. The attempts that fail leave no trace, so this is the last of them. -/
def acquire (c : Cluster) (worker : Nat) (key : LockKey) (ttlSeconds : Nat) : Bool × Cluster :=
  match c.locks.setNx c.now (ttlSeconds * 1000) key worker with
  | (true, locks) =>
    (true, { c with
      locks := locks
      bodies := ⟨worker, key, c.now, ttlSeconds * 1000⟩ :: c.bodies })
  | (false, locks) => (false, { c with locks := locks })

/-- `RedisLock.release` -/
def release (c : Cluster) (worker : Nat) (key : LockKey) : Cluster :=
  { c with
    locks := c.locks.release c.now key worker
    bodies := c.bodies.filter fun b => ¬ (b.worker = worker ∧ b.key = key) }

/-- An operation that is neither about locks nor about the clock. -/
def plain (c : Cluster) (choice : Choice) (o : Op) : Ans o × Cluster :=
  let r := World.answer choice o c.world
  (r.1, { c with world := r.2 })

/-- A call that left at `began` is answered before its timeout is over. -/
def inTime (c : Cluster) (worker : Nat) (timeout : Option Nat) : Bool :=
  (c.inFlight.lookup worker).any fun began => c.now ≤ began + rpcTimeout timeout

/-- One operation of a worker. -/
def act (choice : Choice) (worker : Nat) : (o : Op) → Cluster → Option (Ans o × Cluster)
  -- Redis refuses an expiry of zero
  | .acquire key ttlSeconds, c =>
    if 0 < ttlSeconds then some (c.acquire worker key ttlSeconds) else none
  | .release key, c => some ((), c.release worker key)
  | .send node request timeout, c =>
    if c.inTime worker timeout then
      some ({ c with inFlight := c.landed worker }.plain choice (.send node request timeout))
    else none
  | o, c => some (c.plain choice o)

/-- One event around the workers. -/
def env : ClusterEvent → Cluster → Option (List (Thread Task Op Ans (Except Exn Unit × Unit)) × Cluster)
  | .deliver taskId job task, c => some ([⟨task, (task.run taskId job).prog ()⟩], c)
  | .depart worker, c => some ([], { c with inFlight := (worker, c.now) :: c.landed worker })
  | .tick milliseconds, c => some ([], { c with now := c.now + milliseconds })
  | .cancel job, c =>
    some ([], { c with world := { c.world with db := c.world.db.requestCancel c.now (some job) } })

/-- The workers as a system. -/
def system : System Task Op Ans (Except Exn Unit × Unit) Cluster Choice ClusterEvent := ⟨act, env⟩

/-- A worker is inside a `with` block of the lock. -/
def Inside (c : Cluster) (worker : Nat) (key : LockKey) : Prop :=
  ∃ b ∈ c.bodies, b.worker = worker ∧ b.key = key

end Cluster

end NodePilot
