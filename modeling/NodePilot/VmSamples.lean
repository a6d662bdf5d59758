import NodePilot.Agent.VmMetrics
import NodePilot.Metrics
import NodePilot.Models

/-!
# From the agents to the store

`record_vm_metrics_batch` of `apps/nodes/services.py`, and a run of the agents with it: rounds of their metrics loops,
batches that are on their way, get lost or arrive, agents that start again, and a table of machines that changes.
-/

namespace NodePilot.VmSamples

open Agent.VmMetrics

/-! ## The ingest -/

/-- The call of `record_vm_sample` for a sample. `repr` is the text of a float. -/
def Sample.call (repr : ℚ → String) (vm : VmRow) (s : Sample) : Metrics.Call :=
  Metrics.recordVmSample vm.uuid (s.cpuPercent.elim .null fun percent => .float (repr percent))
    (s.memoryUsedMb.elim .null fun mb => .int mb) .null .null .null .null

/-- `vms_by_domain.get(...)`, on the machines of the agent's node. -/
def byDomain (vms : List VmRow) (node : Nat) (domainUuid : Uuid) : Option VmRow :=
  vms.reverse.find? fun vm => vm.node = some node && vm.domainUuid = domainUuid

/-- `record_vm_metrics_batch`: a sample of a domain that is none of the node's machines is skipped. -/
def recordVmMetricsBatch (repr : ℚ → String) (vms : List VmRow) (node : Nat) (samples : List Sample) :
    List Metrics.Call :=
  samples.filterMap fun s => (byDomain vms node s.domainUuid).map fun vm => Sample.call repr vm s

/-! ## Runs -/

structure World where
  vms : List VmRow := []
  /-- The tracker of the process that is the agent of a node. -/
  trackers : Nat → Tracker := fun _ => Tracker.fresh
  /-- The batches that were posted by the agent of a node. -/
  posted : List (Nat × List Sample) := []
  recorded : List Metrics.Call := []

inductive Event
  /-- A round of the agent of a node. -/
  | round (node : Nat) (listing : Listing)
  /-- The agent of a node starts again. -/
  | restart (node : Nat)
  /-- A batch arrives. -/
  | deliver (i : Nat)
  | lose (i : Nat)
  /-- Machines are made, moved and deleted. -/
  | edit (vms : List VmRow)

def step (repr : ℚ → String) (w : World) : Event → World
  | .round node listing =>
    let (samples, tracker) := Agent.VmMetrics.round (w.trackers node) listing
    { w with
      trackers := fun other => if other = node then tracker else w.trackers other
      posted := if samples.isEmpty then w.posted else w.posted ++ [(node, samples)] }
  | .restart node => { w with trackers := fun other => if other = node then Tracker.fresh else w.trackers other }
  | .deliver i =>
    match w.posted[i]? with
    | some (node, samples) =>
      { w with
        posted := w.posted.eraseIdx i
        recorded := w.recorded ++ recordVmMetricsBatch repr w.vms node samples }
    | none => w
  | .lose i => { w with posted := w.posted.eraseIdx i }
  | .edit vms => { w with vms := vms }

/-- The world after a run that begins with nothing. -/
def after (repr : ℚ → String) (events : List Event) : World := events.foldl (step repr) {}

end NodePilot.VmSamples
