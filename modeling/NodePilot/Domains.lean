import NodePilot.Agent.Hypervisor
import NodePilot.Lib.Pool
import NodePilot.Tasks

/-!
# A VM and its domain

The tasks on one VM, one after the other, beside the hypervisor that its agent drives. A task that
succeeds has had all its calls confirmed, so they are what happens to the hypervisor. The guest
decides what it makes of a shutdown request, and when. Nothing else touches the domain; everyone
may change the other rows.
-/

namespace NodePilot.Domains

open Lib Agent

/-- The tasks on a VM that this is about. -/
inductive VmTask
  | provision | start | stop | reboot | pause | resume
  | createSnapshot (snapshot : Nat)
  | deleteSnapshot (snapshot : Nat)
  | rollbackSnapshot (snapshot : Nat)

/-- The message that a worker gets. -/
def VmTask.task (vm : Nat) : VmTask → Task
  | provision => .provisionVm vm
  | start => .startVm vm
  | stop => .stopVm vm
  | reboot => .rebootVm vm
  | pause => .pauseVm vm
  | resume => .resumeVm vm
  | createSnapshot snapshot => .createSnapshot snapshot
  | deleteSnapshot snapshot => .deleteSnapshot snapshot
  | rollbackSnapshot snapshot => .rollbackSnapshot snapshot

/-- The snapshot is one of the VM's. -/
def VmTask.concerns (vm : Nat) (t : Tables) : VmTask → Prop
  | createSnapshot snapshot | deleteSnapshot snapshot | rollbackSnapshot snapshot =>
    ∃ x ∈ Table.get t.snapshots snapshot, x.vm = vm
  | _ => True

instance (vm : Nat) (t : Tables) : (x : VmTask) → Decidable (x.concerns vm t)
  | .createSnapshot _ | .deleteSnapshot _ | .rollbackSnapshot _ =>
    inferInstanceAs (Decidable (∃ x ∈ Table.get t.snapshots _, x.vm = vm))
  | .provision | .start | .stop | .reboot | .pause | .resume => isTrue trivial

/-- One execution of a task, with what its surroundings decide. -/
structure Execution where
  taskId : String := ""
  jobId : Nat
  task : VmTask
  /-- The locks that others hold. -/
  busy : List LockKey := []
  script : Nat → Choice := fun _ => {}
  /-- A guest that was asked before powers off before the calls of this task, -/
  early : Bool := false
  /-- or before the task has ended. -/
  late : Bool := false

inductive Event
  | execute (x : Execution)
  /-- The guest powers off, as it was asked to. -/
  | powerOff
  /-- Others write other rows. -/
  | elsewhere (db : Tables)

structure State where
  db : Tables
  domains : Hypervisor

/-- What a VM's row has to do with its domain. -/
def about (t : Tables) (vm : Nat) : Option (Uuid × Uuid × VMStatus) :=
  (Table.get t.vms vm).map fun v => (v.uuid, v.domainUuid, v.status)

/-- The operations of a task, carried out on the host. -/
def serveAll (workdir : Text) (calls : List (AgentRequest × Dict)) (h : Hypervisor) :
    Option Hypervisor :=
  calls.foldlM (fun h call => h.serve workdir call.1) h

section Step

variable (workdir : Text) (vm : Nat)

/-- A task that succeeds. -/
def execute (x : Execution) (s : State) : Option State := do
  let w ← (x.task.task vm).succeed x.taskId x.jobId
    { db := s.db, busy := x.busy, script := x.script }
  let h ← serveAll workdir w.confirmed (s.domains.guests fun _ => x.early)
  return ⟨w.db, h.guests fun _ => x.late⟩

def step : Event → State → Option State
  | .execute x, s => if x.task.concerns vm s.db then execute workdir vm x s else none
  | .powerOff, s => some { s with domains := s.domains.guests fun _ => true }
  | .elsewhere db, s =>
    if about db vm = about s.db vm then some { s with db := db } else none

end Step

/-- The state of the VM's domain, as the status in its row has it. -/
def Agrees (status : VMStatus) (d : Option DomainState) : Prop :=
  match status with
  | .stopped => d ≠ some .running ∧ d ≠ some .paused
  | .running => d = some .running
  | .paused => d = some .paused
  | _ => True

instance : (status : VMStatus) → (d : Option DomainState) → Decidable (Agrees status d)
  | .stopped, d => inferInstanceAs (Decidable (d ≠ some .running ∧ d ≠ some .paused))
  | .running, d => inferInstanceAs (Decidable (d = some .running))
  | .paused, d => inferInstanceAs (Decidable (d = some .paused))
  | .creating, _ | .suspended, _ | .migrating, _ | .error, _ | .deleting, _ | .unknown, _ =>
    isTrue trivial

/-- The state of the domain that was defined for a VM. -/
def State.domainState (s : State) (v : VmRow) : Option DomainState :=
  (s.domains v.domainUuid.chars).map (·.power.state)

/-- A VM's status is true of its domain. -/
def StatusTrue (vm : Nat) (s : State) : Prop :=
  ∀ v ∈ Table.get s.db.vms vm, Agrees v.status (s.domainState v)

instance (vm : Nat) (s : State) : Decidable (StatusTrue vm s) :=
  inferInstanceAs (Decidable (∀ v ∈ Table.get s.db.vms vm, _))

end NodePilot.Domains
