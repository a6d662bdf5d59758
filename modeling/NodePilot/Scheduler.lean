import Mathlib.Algebra.GroupWithZero.Nat
import NodePilot.Heartbeats

/-!
# Placing VMs

`CapacityWeightedScheduler.select_node` and the parts of `create_vm` and `provision_vm` that decide how
much of a host is spoken for. The free space of a host is known from its last heartbeat only; the disks
whose rows are not older than that heartbeat are taken off it. The space itself is consumed when
CREATE_DISK has been completed on the host.

`create_vm` selects a node, writes the row of each disk, and commits; every other step may come in
between. The score of a candidate is a floating-point number, so it is a parameter: only the order of the
scores is used.
-/

namespace NodePilot.Scheduling

open Lib Heartbeats

/-- A gibibyte, `1024**3`. -/
def gib : Nat := 1073741824

/-- `SchedulingRequest` -/
structure SchedulingRequest where
  organizationId : Nat
  cpuCount : Nat
  memoryMb : Nat
  diskGb : Nat

/-- `VirtualMachine`, as far as the scheduler reads it. -/
structure Vm where
  pk : Nat
  node : Uuid
  cpuCount : Nat
  status : VMStatus := .creating

/-- `VMDisk`, with the node of its VM. -/
structure Disk where
  vm : Nat
  node : Uuid
  sizeBytes : Nat
  createdAt : Nat
  /-- CREATE_DISK has been completed on the host. -/
  created : Bool := false

/-- A transaction of `create_vm` that has selected its node: the rows it has written, and the sizes of
the disks whose rows are still to come. -/
structure Opened where
  vm : Vm
  disks : List Disk := []
  sizes : List Nat

structure State extends Heartbeats.State where
  vms : List Vm := []
  disks : List Disk := []
  opened : List Opened := []
  /-- The free bytes of each host. -/
  free : Uuid → Nat
  nextVm : Nat := 1

/-! ## `select_node` -/

/-- `CPU_OVERCOMMIT_RATIO` -/
def cpuOvercommitRatio : Nat := 4

/-- What some disks add up to. -/
def space (p : Disk → Bool) (disks : List Disk) : Nat := ((disks.filter p).map Disk.sizeBytes).sum

/-- `created_at__gte=node.last_seen` of the disks of a node. -/
def Disk.recent (node : Uuid) (seen : Nat) (d : Disk) : Bool := d.node = node ∧ seen ≤ d.createdAt

/-- A disk of a node that the host does not have yet. -/
def Disk.pending (node : Uuid) (d : Disk) : Bool := d.node = node ∧ d.created = false

/-- `_used_vcpu` -/
def usedVcpu (vms : List Vm) (n : Heartbeats.Node) : Nat :=
  ((vms.filter fun v => v.node = n.uuid ∧ v.status = .running).map Vm.cpuCount).sum

/-- `_pending_storage_gb` -/
def pendingStorageGb (disks : List Disk) (n : Heartbeats.Node) : Nat :=
  match n.lastSeen with
  | none => 0
  | some seen => (space (Disk.recent n.uuid seen) disks + (gib - 1)) / gib

def freeVcpu (s : State) (n : Heartbeats.Node) : Int := max n.cpuThreads 1 * cpuOvercommitRatio - usedVcpu s.vms n

def freeStorageGb (s : State) (n : Heartbeats.Node) : Int := n.storageAvailableGb - pendingStorageGb s.disks n

/-- The tests that a node passes before it is scored. -/
def candidate (cfg : Settings) (now : Nat) (s : State) (r : SchedulingRequest) (n : Heartbeats.Node) : Bool :=
  n.organization = r.organizationId ∧ n.effectiveStatus cfg now = .online ∧
    n.isSchedulable cfg now ∧ r.cpuCount ≤ freeVcpu s n ∧ r.memoryMb ≤ n.memoryAvailableMb ∧
    r.diskGb ≤ freeStorageGb s n

/-- `NodeScore.score`, in hundredths, from the node, what it has free and what is asked. -/
abbrev Score := Heartbeats.Node → Int → Int → SchedulingRequest → Int

/-- `CapacityWeightedScheduler.select_node`: the first of the best, `none` where it raises
`NoSchedulableNode`. -/
def selectNode (cfg : Settings) (score : Score) (now : Nat) (s : State) (r : SchedulingRequest) :
    Option Heartbeats.Node :=
  let scored := (s.nodes.filter (candidate cfg now s r)).map fun n =>
    (n, score n (freeVcpu s n) (freeStorageGb s n) r)
  (scored.find? fun x => scored.all fun y => y.2 ≤ x.2).map Prod.fst

/-! ## Steps -/

inductive Action
  /-- A heartbeat, a change by an administrator, and whatever else happens to the nodes. -/
  | fleet (action : Heartbeats.Action)
  /-- `create_vm` selects a node for disks of these sizes. -/
  | select (organizationId cpuCount memoryMb : Nat) (sizes : List Nat)
  /-- It writes the row of its next disk. -/
  | insertDisk (index : Nat)
  | commit (index : Nat)
  | rollback (index : Nat)
  /-- CREATE_DISK is completed on the host. -/
  | createDisk (index : Nat)
  | setStatus (vm : Nat) (status : VMStatus)

/-- A heartbeat reports what the host has free. -/
def truthful (free : Uuid → Nat) : Heartbeats.Action → Bool
  | .heartbeat uuid payload => payload.storageAvailableGb = some (free uuid / gib)
  | _ => true

/-- The request that `create_vm` makes of its arguments. -/
def requestOf (organizationId cpuCount memoryMb : Nat) (sizes : List Nat) : SchedulingRequest :=
  ⟨organizationId, cpuCount, memoryMb, sizes.sum / gib⟩

/-- What an action does at an instant, `none` where it cannot happen. -/
def Action.perform (cfg : Settings) (score : Score) (now : Nat) (s : State) : Action → Option State
  | .fleet action =>
    if truthful s.free action then
      (action.perform cfg now s.toState).map fun fleet => { s with toState := fleet }
    else none
  | .select organizationId cpuCount memoryMb sizes =>
    (selectNode cfg score now s (requestOf organizationId cpuCount memoryMb sizes)).map fun n =>
      { s with
        opened := s.opened ++ [{ vm := ⟨s.nextVm, n.uuid, cpuCount, .creating⟩, sizes := sizes }]
        nextVm := s.nextVm + 1 }
  | .insertDisk index =>
    match s.opened[index]? with
    | some ⟨vm, disks, size :: sizes⟩ =>
      some { s with opened := s.opened.set index ⟨vm, disks ++ [⟨vm.pk, vm.node, size, now, false⟩], sizes⟩ }
    | _ => none
  | .commit index =>
    match s.opened[index]? with
    | some ⟨vm, disks, []⟩ =>
      some { s with vms := s.vms ++ [vm], disks := s.disks ++ disks, opened := s.opened.eraseIdx index }
    | _ => none
  | .rollback index =>
    if index < s.opened.length then some { s with opened := s.opened.eraseIdx index } else none
  | .createDisk index =>
    match s.disks[index]? with
    | some d =>
      if d.created = false ∧ d.sizeBytes ≤ s.free d.node then
        some { s with
          disks := s.disks.set index { d with created := true }
          free := Function.update s.free d.node (s.free d.node - d.sizeBytes) }
      else none
    | none => none
  | .setStatus vm status =>
    some { s with vms := s.vms.map fun v => if v.pk = vm then { v with status := status } else v }

/-- One action. Time does not go back. -/
def step (cfg : Settings) (score : Score) (l : Nat × Action) (s : State) : Option State :=
  if s.clock ≤ l.1 then (l.2.perform cfg score l.1 s).map fun s => { s with clock := l.1 } else none

end NodePilot.Scheduling
