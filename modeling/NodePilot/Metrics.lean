import Mathlib.Algebra.Field.Rat
import Mathlib.Algebra.Order.Ring.Rat
import Mathlib.Data.NNRat.Defs
import Mathlib.Data.String.Basic
import NodePilot.JsonText
import NodePilot.Lib.SortedSet

/-!
# Samples of metrics

`apps/metrics/store.py`: the samples of a node or a VM in a sorted set of Redis, scored by their times, and
trimmed by age and by number whenever one is added. A number of seconds is exact here, the text of a float is
Python's `repr`, which is given, and Redis runs on the clock of the controller.
-/

namespace NodePilot.Metrics

open Lib

/-- What `time.time()` returns. -/
abbrev Time : Type := NNRat

/-- The settings the store reads. -/
structure Settings where
  retentionSeconds : Int
  sampleMaxPoints : Int

abbrev Redis : Type := SortedSets String Rat Rat String

/-! ## The store -/

section Store

variable (settings : Settings) (repr : Time → String)

/-- `{"ts": now, **sample}` -/
def stamped (now : Time) (sample : Dict) : Dict := sample.foldl Json.setField [("ts", .float (repr now))]

/-- `RedisMetricsStore.record` -/
def record (redis : Redis) (now : Time) (key : String) (sample : Dict) : Redis :=
  let retention := settings.retentionSeconds
  let redis := redis.zadd now key now (Json.dumps (.obj (stamped repr now sample)))
  let redis := redis.zremrangebyscore now key 0 (now - retention)
  let redis := redis.zremrangebyrank now key 0 (-(settings.sampleMaxPoints + 1))
  redis.expireAt now key (now + retention)

/-- The lowest score a query asks for: zero seconds count as none given. -/
def minScore (now : Time) : Option Int → WithBot Rat
  | none => ⊥
  | some since => if since ≠ 0 then ((now - since : Rat) : WithBot Rat) else ⊥

/-- `RedisMetricsStore.query`, `none` where a text is no JSON. -/
def query (redis : Redis) (now : Time) (key : String) (sinceSeconds : Option Int) : Option (List Json) :=
  (redis.zrangebyscore now key (minScore now sinceSeconds) now).mapM Json.loads

end Store

/-! ## What is recorded -/

def nodeKeyPrefix : String := "nodepilot:metrics:node:"

def vmKeyPrefix : String := "nodepilot:metrics:vm:"

/-- What samples are of. -/
inductive Subject
  | node (uuid : Uuid)
  | vm (uuid : Uuid)

def Subject.key : Subject → String
  | .node uuid => nodeKeyPrefix ++ uuid.str
  | .vm uuid => vmKeyPrefix ++ uuid.str

/-- `totals["total_…"] - totals["available_…"]`, where there is a total. -/
def used (minus : Json → Json → Option Json) (totals : Dict) (total available : String) : Option Json :=
  if ((totals.get? total).getD .null).truthy then
    minus ((totals.get? total).getD (.int 0)) ((totals.get? available).getD (.int 0))
  else some .null

/-- The sample of `record_node_sample`, `none` where there is no difference of two values. -/
def nodeSample (minus : Json → Json → Option Json) (cpu memory storage : Dict) : Option Dict := do
  let memoryUsed ← used minus memory "total_mb" "available_mb"
  let storageUsed ← used minus storage "total_gb" "available_gb"
  return [("cpu_percent", (cpu.get? "percent").getD .null), ("memory_used_mb", memoryUsed),
    ("memory_total_mb", (memory.get? "total_mb").getD .null), ("storage_used_gb", storageUsed)]

/-- The sample of `record_vm_sample`. -/
def vmSample (cpuPercent memoryUsedMb diskReadBytes diskWriteBytes netRxBytes netTxBytes : Json) : Dict :=
  [("cpu_percent", cpuPercent), ("memory_used_mb", memoryUsedMb), ("disk_read_bytes", diskReadBytes),
    ("disk_write_bytes", diskWriteBytes), ("net_rx_bytes", netRxBytes), ("net_tx_bytes", netTxBytes)]

/-! ## Runs -/

/-- A call of the store. -/
inductive Call
  | record (key : String) (sample : Dict)
  | query (key : String) (sinceSeconds : Option Int)

/-- `record_node_sample` -/
def recordNodeSample (minus : Json → Json → Option Json) (node : Uuid) (cpu memory storage : Dict) : Option Call :=
  (nodeSample minus cpu memory storage).map (.record (Subject.node node).key)

/-- `record_vm_sample` -/
def recordVmSample (vm : Uuid) (cpuPercent memoryUsedMb diskReadBytes diskWriteBytes netRxBytes netTxBytes : Json) :
    Call :=
  .record (Subject.vm vm).key
    (vmSample cpuPercent memoryUsedMb diskReadBytes diskWriteBytes netRxBytes netTxBytes)

/-- `get_node_samples` and `get_vm_samples` -/
def getSamples (subject : Subject) (sinceSeconds : Option Int) : Call := .query subject.key sinceSeconds

structure Event where
  now : Time
  call : Call

/-- The store after a call. -/
def step (settings : Settings) (repr : Time → String) (redis : Redis) (event : Event) : Redis :=
  match event.call with
  | .record key sample => record settings repr redis event.now key sample
  | .query _ _ => redis

/-- The store after some calls, from nothing. -/
def run (settings : Settings) (repr : Time → String) (events : List Event) : Redis :=
  events.foldl (step settings repr) (fun _ => none : Redis)

end NodePilot.Metrics
