import NodePilot.Agent.Storage
import NodePilot.Lib.Pool
import NodePilot.Services

/-!
# Provisioning and deleting VMs on real hosts

Executions of `provision_vm` and `delete_vm_task`, one after the other, beside the hosts that the agents
work on. An execution may end anywhere: calls are not delivered, carried out without an answer, or broken
off by the tools of the host, the database rejects statements, locks are held by others, the job is
canceled. The answers that arrive are those of the agents.
-/

namespace NodePilot.Deletion

open Lib Agent

inductive Operation
  | provision | delete
deriving DecidableEq

/-- The message that a worker gets. -/
def Operation.task (vm : Nat) : Operation → Task
  | provision => .provisionVm vm
  | delete => .deleteVm vm

/-- One execution of a task, with what its surroundings decide. -/
structure Attempt where
  taskId : String := ""
  jobId : Nat
  operation : Operation
  vm : Nat
  /-- The locks that others hold. -/
  busy : List LockKey := []
  script : Nat → Choice := fun _ => {}
  /-- The host, at each of the task's calls. -/
  tools : Nat → HostTools := fun _ => .work

structure State where
  db : Tables
  /-- The hosts of the nodes. -/
  hosts : Nat → VmHost

/-- The host of a VM's node, if it has one. -/
def State.host (s : State) (v : VmRow) : Option VmHost := v.node.map s.hosts

/-- The answer says what the handler has returned, as far as a task reads it. -/
def answers (o : AgentOutcome) (ran : Except Unit Dict) : Prop :=
  match o, ran with
  | .ok data, .ok data' =>
    ∀ key ∈ ["volume_id", "device", "format"], data.getStr key "" = data'.getStr key ""
  | _, _ => True

instance : (o : AgentOutcome) → (ran : Except Unit Dict) → Decidable (answers o ran)
  | .ok data, .ok data' => inferInstanceAs
      (Decidable (∀ key ∈ ["volume_id", "device", "format"], data.getStr key "" = data'.getStr key ""))
  | .ok _, .error _ | .noAgent, _ | .notConnected, _ | .timedOut _, _ | .failed _, _ => isTrue trivial

namespace Attempt

variable (workdir : Text) (x : Attempt) (s : State)

/-- The world after the execution. -/
def world : World :=
  (x.operation.task x.vm).execute x.taskId x.jobId { db := s.db, busy := x.busy, script := x.script }

/-- What the calls of the task do to a host, oldest first, where their outcomes agree with it. `n` calls
came before. -/
def serve : Nat → List (AgentRequest × AgentOutcome) → VmHost → Option VmHost
  | _, [], h => some h
  | n, (r, o) :: rest, h =>
    let ran := h.run workdir (x.tools n) r
    if answers o ran.1 then (o.settle true ran h).bind (serve (n + 1) rest) else none

end Attempt

/-- The state after an execution. -/
def step (workdir : Text) (x : Attempt) (s : State) : Option State := do
  let w := x.world s
  match (Table.get s.db.vms x.vm).bind VmRow.node with
  | none => return { s with db := w.db }
  | some node =>
    let host ← x.serve workdir 0 w.exchanges (s.hosts node)
    return { db := w.db, hosts := Function.update s.hosts node host }

end NodePilot.Deletion
