import NodePilot.Cluster

/-!
# What the locks of a VM exclude

A lock excludes others for its TTL, 120 seconds for the lifecycle of a VM and 300 for its storage,
and nothing makes the body under it end by then: an image-seeded CREATE_DISK, a CREATE_BACKUP or a
RESTORE_BACKUP may take an hour. `Timely` is the condition that no body outlives its lock.
-/

namespace NodePilot

open Lib

namespace Cluster

/-- The workers of a cluster. -/
abbrev Workers : Type := Pool Task Op Ans (Except Exn Unit × Unit) Cluster

/-- The clock does not pass the end of a lock whose body is still running. -/
def Timely : Label Choice ClusterEvent → Workers → Prop
  | .env (.tick milliseconds), p =>
    ∀ b ∈ p.shared.bodies, p.shared.now + milliseconds < b.since + b.ttl
  | _, _ => True

instance : (l : Label Choice ClusterEvent) → (p : Workers) → Decidable (Timely l p)
  | .env (.tick _), _ => inferInstanceAs (Decidable (∀ b ∈ _, _))
  | .env (.deliver _ _ _), _ | .env (.depart _), _ | .env (.cancel _), _ | .act _ _, _ =>
    isTrue trivial

/-- A running body has its lock, and the lock's time is not over. -/
def Body.Covered (c : Cluster) (b : Body) : Prop :=
  c.locks b.key = some ⟨b.worker, b.since + b.ttl⟩ ∧ c.now < b.since + b.ttl

/-- **The invariant**: every running body has its lock, and no two of them have the same one. -/
structure Guarded (c : Cluster) : Prop where
  covered : ∀ b ∈ c.bodies, Body.Covered c b
  distinct : (c.bodies.map Body.key).Nodup

variable {c c' : Cluster}

/-- Only the locks, the bodies and the clock matter. -/
theorem Guarded.of_same (h : Guarded c) (locks : c'.locks = c.locks) (bodies : c'.bodies = c.bodies)
    (now : c'.now = c.now) : Guarded c' := by
  refine ⟨?_, by rw [bodies]; exact h.distinct⟩
  intro b hb
  rw [bodies] at hb
  have covered := h.covered b hb
  unfold Body.Covered at covered ⊢
  rw [locks, now]
  exact covered

theorem Guarded.acquire {worker ttl : Nat} {key : LockKey} {got : Bool} (h : Guarded c)
    (positive : 0 < ttl) (hc : c.acquire worker key ttl = (got, c')) : Guarded c' := by
  unfold Cluster.acquire at hc
  split at hc
  · next locks hset =>
    obtain ⟨free, hlocks⟩ := Leases.setNx_true hset
    obtain rfl := (Prod.mk.inj hc).2
    -- a body under this lock would still hold it
    have fresh : ∀ b ∈ c.bodies, b.key ≠ key := by
      intro b hb same
      obtain ⟨held, live⟩ := h.covered b hb
      rw [same] at held
      simp [Leases.at?, held] at free
      omega
    refine ⟨?_, ?_⟩
    · intro b hb
      rcases List.mem_cons.mp hb with rfl | hb
      · refine ⟨by simp [hlocks], ?_⟩
        show c.now < c.now + ttl * 1000
        omega
      · obtain ⟨held, live⟩ := h.covered b hb
        refine ⟨?_, live⟩
        show locks b.key = _
        rw [hlocks, Function.update_of_ne (fresh b hb)]
        exact held
    · rw [List.map_cons, List.nodup_cons]
      refine ⟨?_, h.distinct⟩
      intro hmem
      obtain ⟨b, hb, same⟩ := List.mem_map.mp hmem
      exact fresh b hb same
  · next locks hset =>
    obtain rfl := (Prod.mk.inj hc).2
    exact h.of_same (Leases.setNx_false hset) rfl rfl

theorem Guarded.release (h : Guarded c) (worker : Nat) (key : LockKey) :
    Guarded (c.release worker key) := by
  refine ⟨?_, (h.distinct.sublist (List.filter_sublist.map _))⟩
  intro b hb
  obtain ⟨hb, kept⟩ := List.mem_filter.mp hb
  obtain ⟨held, live⟩ := h.covered b hb
  refine ⟨?_, live⟩
  show c.locks.release c.now key worker b.key = _
  by_cases same : b.key = key
  · -- the body stays, so its worker is another one
    have other : b.worker ≠ worker := by
      intro e
      simp [e, same] at kept
    rw [same] at held ⊢
    exact Leases.release_other held live other
  · rw [Leases.release_ne same]
    exact held

theorem Guarded.act {choice : Choice} {worker : Nat} {o : Op} {a : Ans o} (h : Guarded c)
    (hact : Cluster.act choice worker o c = some (a, c')) : Guarded c' := by
  have plain : ∀ {c₀ : Cluster} {o : Op} {a : Ans o}, Guarded c₀ →
      some (c₀.plain choice o) = some (a, c') → Guarded c' := by
    intro c₀ o a guarded same
    obtain rfl := (Prod.mk.inj (Option.some.inj same)).2
    exact guarded.of_same rfl rfl rfl
  cases o with
  | acquire key ttl =>
    simp only [Cluster.act] at hact
    split at hact
    · next positive => exact h.acquire positive (Option.some.inj hact)
    · cases hact
  | release key =>
    obtain rfl := (Prod.mk.inj (Option.some.inj hact)).2
    exact h.release worker key
  | send node request timeout =>
    simp only [Cluster.act] at hact
    split at hact
    · have departed : Guarded { c with inFlight := c.landed worker } := h.of_same rfl rfl rfl
      exact plain departed hact
    · cases hact
  | read => exact plain h hact
  | write w => exact plain h hact
  | createVm row => exact plain h hact
  | emit event => exact plain h hact
  | now => exact plain h hact
  | mac => exact plain h hact

theorem Guarded.step {l : Label Choice ClusterEvent} {p p' : Workers} (h : Guarded p.shared)
    (timely : Timely l p) (hstep : system.step l p = some p') : Guarded p'.shared := by
  cases l with
  | act worker choice =>
    obtain ⟨tag, o, k, a, s, -, hact, rfl⟩ := System.step_act hstep
    exact h.act hact
  | env event =>
    obtain ⟨ts, s, henv, rfl⟩ := System.step_env hstep
    cases event with
    | deliver taskId job task =>
      obtain rfl := (Prod.mk.inj (Option.some.inj henv)).2
      exact h
    | depart worker =>
      obtain rfl := (Prod.mk.inj (Option.some.inj henv)).2
      exact h.of_same rfl rfl rfl
    | tick milliseconds =>
      obtain rfl := (Prod.mk.inj (Option.some.inj henv)).2
      exact ⟨fun b hb => ⟨(h.covered b hb).1, timely b hb⟩, h.distinct⟩
    | cancel job =>
      obtain rfl := (Prod.mk.inj (Option.some.inj henv)).2
      exact h.of_same rfl rfl rfl

/-- No two workers are inside the same lock. -/
def Exclusive (c : Cluster) : Prop :=
  ∀ key i j, c.Inside i key → c.Inside j key → i = j

theorem Guarded.exclusive (h : Guarded c) : Exclusive c := by
  intro key i j hi hj
  obtain ⟨b, hb, rfl, rfl⟩ := hi
  obtain ⟨b', hb', rfl, same⟩ := hj
  have held := (h.covered b hb).1
  have held' := (h.covered b' hb').1
  rw [same, held] at held'
  exact congrArg Lease.token (Option.some.inj held')

/-- **Bodies that end in time exclude each other.** In every run from workers that hold no lock,
whatever tasks are delivered, however their operations interleave and however long the agents
take: if no body outlives its lock, no two workers are inside the same lifecycle lock or the same
storage lock. -/
theorem timely_exclusive (start : Cluster) (idle : start.bodies = [])
    (ls : List (Label Choice ClusterEvent)) (p : Workers)
    (run : runFrom system.step ls ⟨[], start⟩ = some p)
    (timely : Along system.step Timely ls ⟨[], start⟩) : Exclusive p.shared := by
  have guarded : Guarded start := by
    refine ⟨?_, by simp [idle]⟩
    intro b hb
    rw [idle] at hb
    cases hb
  have ends : Guarded p.shared :=
    runFrom_keeps (I := fun p => Guarded p.shared) (fun _ _ _ h ht hs => h.step ht hs)
      guarded timely run
  exact ends.exclusive

/-- A VM with a backup and a snapshot to make. -/
def twoJobs : Cluster where
  world :=
    { db :=
        { jobs := [{ pk := 1, uuid := ⟨1⟩, type := .backupCreate },
                   { pk := 2, uuid := ⟨2⟩, type := .snapshotCreate }]
          vms := [{ pk := 1, uuid := ⟨3⟩, domainUuid := ⟨4⟩, organization := 1, project := 1,
                    node := some 1, name := "web", status := .running }]
          disks := [{ pk := 1, uuid := ⟨5⟩, vm := 1, storage := 1, name := "root",
                      volumeId := "/pool/root.qcow2", sizeBytes := 1073741824, bootable := true }]
          pools := [{ pk := 1, uuid := ⟨6⟩, node := 1, name := "default", type := .directory,
                      path := "/pool" }]
          nodes := [{ pk := 1, name := "n1" }]
          targets := [{ pk := 1, type := .local }]
          backups := [{ pk := 1, uuid := ⟨7⟩, vm := 1, target := 1 }]
          snapshots := [{ pk := 1, uuid := ⟨8⟩, vm := 1, name := "before" }] }
      script := fun _ => {} }

/-- The next `n` operations of a worker. -/
def acts (worker n : Nat) : List (Label Choice ClusterEvent) := List.replicate n (.act worker {})

/-- Worker 0 sends CREATE_BACKUP under the storage lock. After `wait` milliseconds worker 1 begins
CREATE_SNAPSHOT. -/
def backupThenSnapshot (wait : Nat) : List (Label Choice ClusterEvent) :=
  [.env (.deliver "a" 1 (.createBackup 1)), .env (.deliver "b" 2 (.createSnapshot 1))] ++
    acts 0 12 ++ [.env (.depart 0), .env (.tick wait)] ++ acts 1 4

/-- A backup that takes 299 seconds keeps the snapshot out. -/
theorem timely_exclusive_backup :
    ∃ p, runFrom system.step (backupThenSnapshot 299000) ⟨[], twoJobs⟩ = some p ∧
      Exclusive p.shared :=
  ⟨_, rfl, timely_exclusive twoJobs rfl (backupThenSnapshot 299000) _ rfl (by decide)⟩

/-- A backup that takes 300 seconds does not: both workers are inside the storage lock of the VM,
and the agent's answer to CREATE_BACKUP is still in time. -/
theorem backupThenSnapshot_overlaps :
    ∃ p, runFrom system.step (backupThenSnapshot 300000) ⟨[], twoJobs⟩ = some p ∧
      p.shared.Inside 0 (.storage ⟨3⟩) ∧ p.shared.Inside 1 (.storage ⟨3⟩) ∧
      (system.step (.act 0 {}) p).isSome ∧ ¬ Exclusive p.shared := by
  have both : ∀ {c : Cluster}, c.bodies = [⟨1, .storage ⟨3⟩, 300000, 300000⟩,
      ⟨0, .storage ⟨3⟩, 0, 300000⟩] → c.Inside 0 (.storage ⟨3⟩) ∧ c.Inside 1 (.storage ⟨3⟩) := by
    intro c bodies
    simp [Inside, bodies]
  refine ⟨_, rfl, (both rfl).1, (both rfl).2, rfl, ?_⟩
  intro exclusive
  exact absurd (exclusive _ 0 1 (both rfl).1 (both rfl).2) (by decide)

end Cluster

end NodePilot
