import NodePilot.Lib.FirstBest
import NodePilot.Placement
import Mathlib.Algebra.Order.Floor.Div

/-!
# Which node is chosen

The tests of the loop are those of a feasible node, so a node is chosen exactly where one is feasible, and it is
the first of those that no other one beats.
-/

namespace NodePilot.Scheduling.CapacityWeightedScheduler

open Heartbeats Lib

/-- The cores of the VMs that run on a node. -/
def runningCores (s : State) (n : Heartbeats.Node) : Nat :=
  ((s.vms.filter fun v => v.node = n.uuid ∧ v.status = .running).map Vm.cpuCount).sum

/-- The disks of a node that were created since it was last heard from, in GiB, rounded up. -/
def createdGib (s : State) (n : Heartbeats.Node) : Nat :=
  ((s.disks.filter fun d => d.node = n.uuid ∧ ∃ seen ∈ n.lastSeen, seen ≤ d.createdAt).map
    Disk.sizeBytes).sum ⌈/⌉ 2 ^ 30

/-- A node that is ONLINE and ACTIVE and has room for the request. -/
structure Feasible (cfg : Settings) (now : Nat) (s : State) (r : SchedulingRequest) (n : Heartbeats.Node) : Prop where
  online : n.effectiveStatus cfg now = .online
  active : n.adminState = .active
  cpu : (r.cpuCount : Int) ≤ 4 * max n.cpuThreads 1 - runningCores s n
  memory : r.memoryMb ≤ n.memoryAvailableMb
  storage : (r.diskGb : Int) ≤ n.storageAvailableGb - createdGib s n

section

variable {β : Type} {rounded : ℚ → β} {cfg : Settings} {now : Nat} {s : State} {r : SchedulingRequest}
variable {n : Heartbeats.Node} {x : NodeScore β}

/-- A node that was never heard from has no such disks. -/
theorem pendingStorageGb_eq : pendingStorageGb s.disks n = createdGib s n := by
  unfold pendingStorageGb createdGib
  cases n.lastSeen with
  | none => simp
  | some seen =>
    have recent : (fun d : Disk => decide (d.node = n.uuid ∧ ∃ t ∈ some seen, t ≤ d.createdAt)) =
        Disk.recent n.uuid seen := by
      funext d
      simp [Disk.recent]
    rw [recent, Nat.ceilDiv_eq_add_pred_div, Nat.add_sub_assoc (by decide)]
    rfl

theorem freeVcpu_eq : freeVcpu s n = 4 * max n.cpuThreads 1 - runningCores s n := by
  unfold freeVcpu cpuOvercommitRatio
  have used : usedVcpu s.vms n = runningCores s n := rfl
  push_cast
  omega

theorem freeStorageGb_eq : freeStorageGb s n = n.storageAvailableGb - createdGib s n := by
  rw [freeStorageGb, pendingStorageGb_eq]

theorem round_eq_some : round rounded cfg now s r n = some x ↔
    Feasible cfg now s r n ∧ x = ⟨n, score rounded s r n⟩ := by
  unfold round
  constructor
  · intro h
    split_ifs at h with status cpu memory storage
    obtain ⟨online, schedulable⟩ := not_or.mp status
    have both : n.effectiveStatus cfg now = .online ∧ n.adminState = .active := by
      simpa [Heartbeats.Node.isSchedulable] using schedulable
    rw [freeVcpu_eq] at cpu
    rw [freeStorageGb_eq] at storage
    exact ⟨⟨both.1, both.2, by omega, by omega, by omega⟩, (Option.some.inj h).symm⟩
  · rintro ⟨h, rfl⟩
    have cpu := h.cpu
    have memory := h.memory
    have storage := h.storage
    rw [if_neg (by simp [h.online, h.active, Heartbeats.Node.isSchedulable]), if_neg (by rw [freeVcpu_eq]; omega),
      if_neg (by omega), if_neg (by rw [freeStorageGb_eq]; omega)]

theorem round_eq_none : round rounded cfg now s r n = none ↔ ¬ Feasible cfg now s r n := by
  rw [Option.eq_none_iff_forall_ne_some]
  constructor
  · intro none feasible
    exact none _ (round_eq_some.mpr ⟨feasible, rfl⟩)
  · intro infeasible x found
    exact infeasible (round_eq_some.mp found).1

/-- What is true of the scores that are made of a list is true of its feasible nodes. -/
theorem forall_scored {P : NodeScore β → Prop} {nodes : List Heartbeats.Node} :
    (∀ x ∈ nodes.filterMap (round rounded cfg now s r), P x) ↔
      ∀ m ∈ nodes, Feasible cfg now s r m → P ⟨m, score rounded s r m⟩ := by
  constructor
  · intro h m hm feasible
    exact h _ (List.mem_filterMap.mpr ⟨m, hm, round_eq_some.mpr ⟨feasible, rfl⟩⟩)
  · intro h x hx
    obtain ⟨m, hm, found⟩ := List.mem_filterMap.mp hx
    obtain ⟨feasible, rfl⟩ := round_eq_some.mp found
    exact h m hm feasible

theorem candidate_iff : candidate cfg now s r n = true ↔
    n.organization = r.organizationId ∧ Feasible cfg now s r n := by
  simp only [candidate, decide_eq_true_eq, freeVcpu_eq, freeStorageGb_eq]
  constructor
  · rintro ⟨own, online, schedulable, cpu, memory, storage⟩
    have active : n.adminState = .active := by
      simp only [Heartbeats.Node.isSchedulable, decide_eq_true_eq] at schedulable
      exact schedulable.2
    exact ⟨own, online, active, cpu, memory, storage⟩
  · rintro ⟨own, online, active, cpu, memory, storage⟩
    exact ⟨own, online, by simp [Heartbeats.Node.isSchedulable, online, active], cpu, memory, storage⟩

theorem scored_eq : scored rounded cfg now s r =
    (s.nodes.filter (candidate cfg now s r)).map fun n => ⟨n, score rounded s r n⟩ := by
  rw [scored, candidates]
  induction s.nodes with
  | nil => rfl
  | cons n nodes ih =>
    by_cases passes : candidate cfg now s r n = true
    · obtain ⟨own, feasible⟩ := candidate_iff.mp passes
      rw [List.filter_cons_of_pos (by simpa using own),
        List.filterMap_cons_some (round_eq_some.mpr ⟨feasible, rfl⟩), ih, List.filter_cons_of_pos passes, List.map_cons]
    · rw [List.filter_cons_of_neg passes, ← ih]
      by_cases own : n.organization = r.organizationId
      · have infeasible : ¬ Feasible cfg now s r n := fun feasible => passes (candidate_iff.mpr ⟨own, feasible⟩)
        rw [List.filter_cons_of_pos (by simpa using own), List.filterMap_cons_none (round_eq_none.mpr infeasible)]
      · rw [List.filter_cons_of_neg (by simpa using own)]

end

variable {β : Type} [LinearOrder β] {rounded : ℚ → β} {cfg : Settings} {now : Nat} {s : State} {r : SchedulingRequest}
variable {n : Heartbeats.Node} {x : NodeScore β}

/-- The node is the first of the best among the feasible nodes of the list. -/
def Chosen (rounded : ℚ → β) (cfg : Settings) (now : Nat) (s : State) (r : SchedulingRequest)
    (nodes : List Heartbeats.Node) (n : Heartbeats.Node) : Prop :=
  ∃ before after, nodes = before ++ n :: after ∧ Feasible cfg now s r n ∧
    (∀ m ∈ before, Feasible cfg now s r m → score rounded s r m < score rounded s r n) ∧
    ∀ m ∈ after, Feasible cfg now s r m → score rounded s r m ≤ score rounded s r n

theorem firstBest_scored {nodes : List Heartbeats.Node} :
    FirstBest NodeScore.score (nodes.filterMap (round rounded cfg now s r)) x ↔
      Chosen rounded cfg now s r nodes x.node ∧ x.score = score rounded s r x.node := by
  constructor
  · rintro ⟨before, after, same, worse, rest⟩
    obtain ⟨first, others, rfl, rfl, later⟩ := List.filterMap_eq_append_iff.mp same
    obtain ⟨skipped, n, last, rfl, infeasible, found, rfl⟩ := List.filterMap_eq_cons_iff.mp later
    obtain ⟨feasible, rfl⟩ := round_eq_some.mp found
    refine ⟨⟨first ++ skipped, last, by simp, feasible, fun m hm possible => ?_, forall_scored.mp rest⟩, rfl⟩
    rcases List.mem_append.mp hm with hm | hm
    · exact forall_scored.mp worse m hm possible
    · exact absurd possible (round_eq_none.mp (infeasible m hm))
  · rintro ⟨⟨before, after, rfl, feasible, worse, rest⟩, same⟩
    have found : round rounded cfg now s r x.node = some x := by
      apply round_eq_some.mpr
      refine ⟨feasible, ?_⟩
      rw [← same]
    refine ⟨before.filterMap (round rounded cfg now s r), after.filterMap (round rounded cfg now s r), ?_, ?_, ?_⟩
    · rw [List.filterMap_append, List.filterMap_cons_some found]
    · rw [same]
      exact forall_scored.mpr worse
    · rw [same]
      exact forall_scored.mpr rest

theorem selectNode_ok_iff : selectNode rounded cfg now s r = .ok n ↔
    ∃ x, FirstBest NodeScore.score (scored rounded cfg now s r) x ∧ x.node = n := by
  simp only [← head?_insertionSort_iff, selectNode]
  cases List.insertionSort (fun a b => b.score ≤ a.score) (scored rounded cfg now s r) with
  | nil => simp
  | cons best rest => simp

theorem selectNode_error_iff :
    selectNode rounded cfg now s r = .error .noSchedulableNode ↔ scored rounded cfg now s r = [] := by
  have same := List.perm_insertionSort (fun a b => b.score ≤ a.score) (scored rounded cfg now s r)
  rw [selectNode]
  cases sorted : List.insertionSort (fun a b => b.score ≤ a.score) (scored rounded cfg now s r) with
  | nil =>
    rw [sorted, List.nil_perm] at same
    simp [same]
  | cons best rest =>
    have some : scored rounded cfg now s r ≠ [] := by
      intro none
      rw [sorted, none] at same
      exact List.cons_ne_nil _ _ same.eq_nil
    simp [some]

/-- **The choice of a node.** It fails exactly where no node of the organization is feasible; otherwise it is the
first one, in the order of the query, of the feasible nodes with the greatest score. -/
theorem selectNode_first_best (rounded : ℚ → β) (cfg : Settings) (now : Nat) (s : State) (r : SchedulingRequest) :
    (selectNode rounded cfg now s r = .error .noSchedulableNode ↔
      ∀ n ∈ candidates s r, ¬ Feasible cfg now s r n) ∧
    ∀ n, selectNode rounded cfg now s r = .ok n ↔ Chosen rounded cfg now s r (candidates s r) n := by
  constructor
  · rw [selectNode_error_iff, scored, List.filterMap_eq_nil_iff]
    exact forall₂_congr fun _ _ => round_eq_none
  · intro n
    rw [selectNode_ok_iff]
    constructor
    · rintro ⟨x, best, rfl⟩
      exact (firstBest_scored.mp best).1
    · intro chosen
      exact ⟨⟨n, score rounded s r n⟩, firstBest_scored.mpr ⟨chosen, rfl⟩, rfl⟩

/-! ## The scheduler that only compares scores -/

/-- With its scores in hundredths, the scheduler is the one whose estimate of the free storage is studied for
runs of requests. -/
theorem toOption_selectNode (rounded : ℚ → Int) (cfg : Settings) (now : Nat) (s : State) (r : SchedulingRequest) :
    (selectNode rounded cfg now s r).toOption =
      Scheduling.selectNode cfg (fun n vcpu storage r => rounded (weighted n vcpu storage r)) now s r := by
  have first : (selectNode rounded cfg now s r).toOption =
      ((scored rounded cfg now s r).insertionSort fun a b => b.score ≤ a.score).head?.map NodeScore.node := by
    rw [selectNode]
    cases List.insertionSort (fun a b => b.score ≤ a.score) (scored rounded cfg now s r) with
    | nil => rfl
    | cons best rest => rfl
  rw [first, head?_insertionSort, scored_eq, Scheduling.selectNode]
  simp only [List.find?_map, List.all_map, Option.map_map, Function.comp_def, score]

end NodePilot.Scheduling.CapacityWeightedScheduler
