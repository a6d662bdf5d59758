import NodePilot.Scheduler
import Mathlib.Algebra.Order.Field.Rat
import Mathlib.Data.List.Sort

/-!
# The score of a node

`CapacityWeightedScheduler.select_node` with its score: the weighted headrooms of a node, rounded to two places.
Here the arithmetic is exact, and the rounding any function; all that matters of its values is their order. A
sort of Python is stable, also in reverse.
-/

namespace NodePilot.Scheduling.CapacityWeightedScheduler

open Heartbeats

/-- `NoSchedulableNode` -/
inductive Exn
  | noSchedulableNode
deriving DecidableEq

/-- `NodeScore` -/
structure NodeScore (β : Type) where
  node : Heartbeats.Node
  score : β

/-- `max_vcpu` -/
def maxVcpu (n : Heartbeats.Node) : Nat := max n.cpuThreads 1 * cpuOvercommitRatio

/-- What is rounded, from what the node has free. -/
def weighted (n : Heartbeats.Node) (freeVcpu freeStorageGb : Int) (r : SchedulingRequest) : ℚ :=
  let cpuHeadroom : ℚ := (freeVcpu - r.cpuCount) / maxVcpu n
  let memHeadroom : ℚ := (n.memoryAvailableMb - r.memoryMb) / max n.memoryTotalMb 1
  let storageHeadroom : ℚ := (freeStorageGb - r.diskGb) / max n.storageTotalGb 1
  100 * (0.4 * cpuHeadroom + 0.4 * memHeadroom + 0.2 * storageHeadroom)

variable {β : Type} (rounded : ℚ → β) (cfg : Settings) (now : Nat) (s : State) (r : SchedulingRequest)

/-- `score` -/
def score (n : Heartbeats.Node) : β := rounded (weighted n (freeVcpu s n) (freeStorageGb s n) r)

/-- `candidates` -/
def candidates : List Heartbeats.Node := s.nodes.filter (·.organization = r.organizationId)

/-- One round of the loop, `none` where it goes on with the next node. -/
def round (n : Heartbeats.Node) : Option (NodeScore β) :=
  if n.effectiveStatus cfg now ≠ .online ∨ ¬ n.isSchedulable cfg now then none
  else if freeVcpu s n < r.cpuCount then none
  else if n.memoryAvailableMb < r.memoryMb then none
  else if freeStorageGb s n < r.diskGb then none
  else some ⟨n, score rounded s r n⟩

/-- `scored`, after the loop. -/
def scored : List (NodeScore β) := (candidates s r).filterMap (round rounded cfg now s r)

/-- `select_node` -/
def selectNode [LinearOrder β] : Except Exn Heartbeats.Node :=
  match (scored rounded cfg now s r).insertionSort fun a b => b.score ≤ a.score with
  | [] => .error .noSchedulableNode
  | best :: _ => .ok best.node

end NodePilot.Scheduling.CapacityWeightedScheduler
