import NodePilot.Lib.Pool
import NodePilot.Scheduler

/-!
# Committed storage

The scheduler tells what a host has promised away from when rows were written, compared with the last
heartbeat. That is right as long as every disk whose row is older than the heartbeat is on the host by
then; a heartbeat that comes between the row of a disk and its creation hides the disk. Where no heartbeat
comes in between, the estimate stays on the safe side.
-/

namespace NodePilot.Scheduling

open Lib Heartbeats

/-- Where `select_node` returns a node, the host has room for the request and for the disks that are
committed to it and not yet created. -/
def Spacious (cfg : Settings) (score : Score) (l : Nat × Action) (s : State) : Prop :=
  match l with
  | (now, .select organizationId cpuCount memoryMb sizes) =>
    ∀ n ∈ selectNode cfg score now s (requestOf organizationId cpuCount memoryMb sizes),
      (requestOf organizationId cpuCount memoryMb sizes).diskGb * gib +
        space (Disk.pending n.uuid) s.disks ≤ s.free n.uuid
  | _ => True

/-- A heartbeat comes when every disk of the node whose row has been written is on the host. -/
def Settled (cfg : Settings) (l : Nat × Action) (s : State) : Prop :=
  match l with
  | (_, .fleet (.heartbeat uuid payload)) => cfg.compatible payload = true →
    (∀ d ∈ s.disks, d.node = uuid → d.created = true) ∧ ∀ o ∈ s.opened, o.vm.node = uuid → o.disks = []
  | _ => True

instance (cfg : Settings) (score : Score) (l : Nat × Action) (s : State) :
    Decidable (Spacious cfg score l s) := by
  unfold Spacious
  split <;> infer_instance

instance (cfg : Settings) (l : Nat × Action) (s : State) : Decidable (Settled cfg l s) := by
  unfold Settled
  split <;> infer_instance

variable {cfg : Settings} {score : Score} {s s' : State} {now : Nat} {p : Disk → Bool}

/-! ## Sums -/

theorem space_append {ds es : List Disk} : space p (ds ++ es) = space p ds + space p es := by
  simp [space]

theorem space_cons {d : Disk} {ds : List Disk} :
    space p (d :: ds) = (if p d then d.sizeBytes else 0) + space p ds := by
  by_cases h : p d <;> simp [space, h]

theorem space_eq_zero {ds : List Disk} (h : ∀ d ∈ ds, p d = false) : space p ds = 0 := by
  have none : ds.filter p = [] := by simpa using h
  simp [space, none]

theorem space_le_of_imp {q : Disk → Bool} {ds : List Disk} (h : ∀ d ∈ ds, p d = true → q d = true) :
    space p ds ≤ space q ds := by
  induction ds with
  | nil => exact Nat.le_refl _
  | cons d ds ih =>
    rw [space_cons, space_cons]
    have rest := ih fun e he => h e (List.mem_cons_of_mem d he)
    have first := h d List.mem_cons_self
    by_cases hp : p d = true
    · simp [hp, first hp]
      omega
    · simp [hp]
      omega

/-- A disk is created. -/
theorem space_created {ds : List Disk} {i : Nat} {d : Disk} (h : ds[i]? = some d)
    (absent : d.created = false) (u : Uuid) :
    space (Disk.pending u) (ds.set i { d with created := true }) + (if d.node = u then d.sizeBytes else 0) =
        space (Disk.pending u) ds ∧
      ∀ seen, space (Disk.recent u seen) (ds.set i { d with created := true }) =
        space (Disk.recent u seen) ds := by
  induction ds generalizing i with
  | nil => cases h
  | cons e ds ih =>
    cases i with
    | zero =>
      cases h
      refine ⟨?_, fun seen => ?_⟩
      · rw [List.set_cons_zero, space_cons, space_cons]
        by_cases same : d.node = u
        · simp [Disk.pending, same, absent]
          omega
        · simp [Disk.pending, same]
      · rw [List.set_cons_zero, space_cons, space_cons]
        rfl
    | succ i =>
      obtain ⟨pending, recent⟩ := ih h
      refine ⟨?_, fun seen => ?_⟩
      · rw [List.set_cons_succ, space_cons, space_cons, ← pending]
        omega
      · rw [List.set_cons_succ, space_cons, space_cons, recent]

/-! ## The invariant -/

/-- What was free at the last heartbeat covers what has been promised since. -/
def Covered (s : State) : Prop := ∀ n ∈ s.nodes, ∀ seen, n.lastSeen = some seen →
  n.storageAvailableGb * gib + space (Disk.pending n.uuid) s.disks ≤
    s.free n.uuid + space (Disk.recent n.uuid seen) s.disks

/-- **The invariant.** A row that is not committed yet is of a disk that is not created, and not older
than the last heartbeat of its node. -/
structure Accounted (s : State) : Prop where
  covered : Covered s
  heard : ∀ n ∈ s.nodes, ∀ seen, n.lastSeen = some seen → seen ≤ s.clock
  absent : ∀ o ∈ s.opened, ∀ d ∈ o.disks, d.created = false ∧ d.node = o.vm.node
  recent : ∀ o ∈ s.opened, ∀ d ∈ o.disks, ∀ n ∈ s.nodes, n.uuid = d.node →
    ∀ seen, n.lastSeen = some seen → seen ≤ d.createdAt

/-- **The estimate is on the safe side.** -/
theorem Accounted.spacious (h : Accounted s) (l : Nat × Action) : Spacious cfg score l s := by
  unfold Spacious
  split
  · next now organizationId cpuCount memoryMb sizes =>
    intro n chosen
    obtain ⟨⟨n', score'⟩, best, rfl⟩ := Option.map_eq_some_iff.mp chosen
    obtain ⟨m, mem, same⟩ := List.mem_map.mp (List.mem_of_find?_eq_some best)
    cases same
    obtain ⟨known, passes⟩ := List.mem_filter.mp mem
    simp only [candidate, decide_eq_true_eq] at passes
    obtain ⟨-, online, -, -, -, room⟩ := passes
    have seen : ∃ seen, n'.lastSeen = some seen := by
      unfold Heartbeats.Node.effectiveStatus at online
      cases hs : n'.lastSeen with
      | some seen => exact ⟨seen, rfl⟩
      | none =>
        rw [hs] at online
        cases ha : n'.adminState <;> rw [ha] at online <;> cases online
    obtain ⟨seen, hs⟩ := seen
    have covered := h.covered n' known seen hs
    simp only [freeStorageGb, pendingStorageGb, hs] at room
    -- rounded up, what is promised is at least what it is
    have up : space (Disk.recent n'.uuid seen) s.disks ≤
        (space (Disk.recent n'.uuid seen) s.disks + (gib - 1)) / gib * gib := by
      unfold gib
      omega
    generalize (space (Disk.recent n'.uuid seen) s.disks + (gib - 1)) / gib = promised at room up
    have asked : (requestOf organizationId cpuCount memoryMb sizes).diskGb + promised ≤
        n'.storageAvailableGb := by
      omega
    have scaled := Nat.mul_le_mul_right gib asked
    rw [Nat.add_mul] at scaled
    show _ + space (Disk.pending n'.uuid) s.disks ≤ s.free n'.uuid
    omega
  · trivial

/-! ## Steps -/

/-- What a step of the fleet does to a row that has been heard: nothing that matters here, or it is the
heartbeat. -/
theorem fleet_nodes {f f' : Heartbeats.State} {a : Heartbeats.Action} {n' : Heartbeats.Node} {seen : Nat}
    (done : a.perform cfg now f = some f') (mem : n' ∈ f'.nodes) (hs : n'.lastSeen = some seen) :
    (∃ n ∈ f.nodes, n.uuid = n'.uuid ∧ n.lastSeen = some seen ∧
      n.storageAvailableGb = n'.storageAvailableGb) ∨
    ∃ payload, a = .heartbeat n'.uuid payload ∧ cfg.compatible payload = true ∧ seen = now ∧
      ∀ gb, payload.storageAvailableGb = some gb → n'.storageAvailableGb = gb := by
  have saved (g : Heartbeats.Node → Heartbeats.Node) {v : Uuid}
      (kept : ∀ n, (g n).uuid = n.uuid ∧ (g n).lastSeen = n.lastSeen ∧
        (g n).storageAvailableGb = n.storageAvailableGb) (hn : n' ∈ (f.update v g).nodes) :
      ∃ n ∈ f.nodes, n.uuid = n'.uuid ∧ n.lastSeen = some seen ∧
        n.storageAvailableGb = n'.storageAvailableGb := by
    obtain ⟨n, old, rfl⟩ := List.mem_map.mp hn
    refine ⟨n, old, ?_⟩
    split at hs
    · next own =>
      obtain ⟨uuid, last, gb⟩ := kept n
      rw [if_pos own, uuid, gb]
      exact ⟨rfl, last ▸ hs, rfl⟩
    · next other =>
      rw [if_neg other]
      exact ⟨rfl, hs, rfl⟩
  cases a with
  | createNode uuid organization hostname =>
    simp only [Heartbeats.Action.perform] at done
    split at done
    · cases done
    · cases done
      rcases List.mem_append.mp mem with old | new
      · exact .inl ⟨n', old, rfl, hs, rfl⟩
      · rw [List.mem_singleton.mp new] at hs
        cases hs
  | heartbeat uuid payload =>
    obtain ⟨m, found, rfl⟩ := Option.map_eq_some_iff.mp done
    have key : m.uuid = uuid := by simpa using List.find?_some found
    unfold Heartbeats.State.recordHeartbeat at mem
    split at mem
    · next compatible =>
      have mem : n' ∈ (f.update m.uuid (Heartbeats.Node.heard now payload)).nodes := by
        dsimp only at mem
        split at mem <;> exact mem
      obtain ⟨n, hn, rfl⟩ := List.mem_map.mp mem
      split at hs
      · next own =>
        cases hs
        rw [if_pos own]
        refine .inr ⟨payload, ?_, compatible, rfl, fun gb given => ?_⟩
        · rw [← key, ← own]
          rfl
        · show payload.storageAvailableGb.getD _ = gb
          rw [given]
          rfl
      · next other =>
        rw [if_neg other]
        exact .inl ⟨n, hn, rfl, hs, rfl⟩
    · exact .inl ⟨n', mem, rfl, hs, rfl⟩
  | sweep =>
    cases done
    exact .inl ⟨n', mem, rfl, hs, rfl⟩
  | setAdminState uuid state =>
    cases done
    exact .inl (saved (fun n => { n with adminState := state }) (fun _ => ⟨rfl, rfl, rfl⟩) mem)
  | setAgent uuid agent =>
    cases done
    exact .inl (saved (fun n => { n with agent := agent }) (fun _ => ⟨rfl, rfl, rfl⟩) mem)
  | emit event =>
    simp only [Heartbeats.Action.perform] at done
    split at done
    · cases done
    · cases done
      exact .inl ⟨n', mem, rfl, hs, rfl⟩

theorem Accounted.fleet (h : Accounted s) (later : s.clock ≤ now) {action : Heartbeats.Action}
    {fleet : Heartbeats.State} (settled : Settled cfg (now, .fleet action) s)
    (truth : truthful s.free action = true) (done : action.perform cfg now s.toState = some fleet) :
    Accounted { s with toState := { fleet with clock := now } } := by
  refine ⟨?_, ?_, h.absent, ?_⟩
  · intro n' mem seen hs
    rcases fleet_nodes done mem hs with ⟨n, hn, uuid, last, gb⟩ | ⟨payload, rfl, compatible, rfl, reports⟩
    · have covered := h.covered n hn seen last
      rw [uuid, gb] at covered
      exact covered
    · obtain ⟨created, -⟩ := settled compatible
      have reported : n'.storageAvailableGb = s.free n'.uuid / gib :=
        reports _ (by simpa [truthful] using truth)
      have none : space (Disk.pending n'.uuid) s.disks = 0 := by
        refine space_eq_zero fun d hd => ?_
        by_cases own : d.node = n'.uuid
        · simp [Disk.pending, created d hd own]
        · simp [Disk.pending, own]
      have floor := Nat.div_mul_le_self (s.free n'.uuid) gib
      show n'.storageAvailableGb * gib + space (Disk.pending n'.uuid) s.disks ≤ s.free n'.uuid + _
      rw [none, reported]
      omega
  · intro n' mem seen hs
    rcases fleet_nodes done mem hs with ⟨n, hn, -, last, -⟩ | ⟨payload, rfl, -, rfl, -⟩
    · exact Nat.le_trans (h.heard n hn seen last) later
    · exact Nat.le_refl seen
  · intro o ho d hd n' mem own seen hs
    rcases fleet_nodes done mem hs with ⟨n, hn, uuid, last, -⟩ | ⟨payload, rfl, compatible, rfl, -⟩
    · exact h.recent o ho d hd n hn (uuid.trans own) seen last
    · have none := (settled compatible).2 o ho ((h.absent o ho d hd).2.symm.trans own.symm)
      rw [none] at hd
      cases hd

theorem Accounted.tick (h : Accounted s) (later : s.clock ≤ now) :
    Accounted { s with clock := now } where
  covered := h.covered
  heard n hn seen hs := Nat.le_trans (h.heard n hn seen hs) later
  absent := h.absent
  recent := h.recent

/-- The transactions change, and their rows are as they must be. -/
theorem Accounted.reopen (h : Accounted s) {opened : List Opened}
    (rows : ∀ o ∈ opened, ∀ d ∈ o.disks, (∃ o' ∈ s.opened, o'.vm = o.vm ∧ d ∈ o'.disks) ∨
      d.created = false ∧ d.node = o.vm.node ∧ d.createdAt = s.clock) :
    Accounted { s with opened := opened } where
  covered := h.covered
  heard := h.heard
  absent o ho d hd := by
    rcases rows o ho d hd with ⟨o', ho', same, old⟩ | ⟨absent, node, -⟩
    · rw [← same]
      exact h.absent o' ho' d old
    · exact ⟨absent, node⟩
  recent o ho d hd n hn own seen hs := by
    rcases rows o ho d hd with ⟨o', ho', -, old⟩ | ⟨-, -, now⟩
    · exact h.recent o' ho' d old n hn own seen hs
    · rw [now]
      exact h.heard n hn seen hs

/-- A transaction commits: its disks add to what is promised as much as to what is to be created. -/
theorem Accounted.commit (h : Accounted s) {o : Opened} (ho : o ∈ s.opened) (vms : List Vm)
    {opened : List Opened} (rest : ∀ o' ∈ opened, o' ∈ s.opened) :
    Accounted { s with vms := vms, disks := s.disks ++ o.disks, opened := opened } where
  covered n hn seen hs := by
    have covered := h.covered n hn seen hs
    have balance : space (Disk.pending n.uuid) o.disks ≤ space (Disk.recent n.uuid seen) o.disks := by
      refine space_le_of_imp fun d hd pending => ?_
      simp only [Disk.pending, Disk.recent, decide_eq_true_eq] at *
      exact ⟨pending.1, h.recent o ho d hd n hn pending.1.symm seen hs⟩
    show n.storageAvailableGb * gib + space _ (s.disks ++ o.disks) ≤
      s.free n.uuid + space _ (s.disks ++ o.disks)
    rw [space_append, space_append]
    omega
  heard := h.heard
  absent o' ho' := h.absent o' (rest o' ho')
  recent o' ho' := h.recent o' (rest o' ho')

/-- A disk is created on its host. -/
theorem Accounted.createDisk (h : Accounted s) {i : Nat} {d : Disk} (found : s.disks[i]? = some d)
    (absent : d.created = false) (room : d.sizeBytes ≤ s.free d.node) :
    Accounted { s with
      disks := s.disks.set i { d with created := true }
      free := Function.update s.free d.node (s.free d.node - d.sizeBytes) } where
  covered n hn seen hs := by
    have covered := h.covered n hn seen hs
    obtain ⟨pending, recent⟩ := space_created found absent n.uuid
    show n.storageAvailableGb * gib + space (Disk.pending n.uuid) (s.disks.set i _) ≤
      Function.update s.free d.node (s.free d.node - d.sizeBytes) n.uuid +
        space (Disk.recent n.uuid seen) (s.disks.set i _)
    rw [recent seen]
    by_cases own : d.node = n.uuid
    · rw [if_pos own] at pending
      rw [← own, Function.update_self]
      rw [← own] at covered pending
      omega
    · rw [if_neg own, Nat.add_zero] at pending
      rw [Function.update_of_ne (Ne.symm own), pending]
      exact covered
  heard := h.heard
  absent := h.absent
  recent := h.recent

/-- Every step keeps the invariant, a heartbeat where it comes at a settled moment. -/
theorem Accounted.step {l : Nat × Action} (h : Accounted s) (settled : Settled cfg l s)
    (next : step cfg score l s = some s') : Accounted s' := by
  obtain ⟨now, action⟩ := l
  simp only [Scheduling.step] at next
  split at next
  · next later =>
    obtain ⟨t, done, rfl⟩ := Option.map_eq_some_iff.mp next
    have ticked := h.tick later
    cases action with
    | fleet action =>
      simp only [Action.perform] at done
      split at done
      · next truth =>
        obtain ⟨fleet, performed, rfl⟩ := Option.map_eq_some_iff.mp done
        exact h.fleet later settled truth performed
      · cases done
    | select organizationId cpuCount memoryMb sizes =>
      obtain ⟨n, -, rfl⟩ := Option.map_eq_some_iff.mp done
      have reopened : Accounted { s with
          clock := now
          opened := s.opened ++ [{ vm := ⟨s.nextVm, n.uuid, cpuCount, .creating⟩, sizes := sizes }] } :=
        ticked.reopen fun o ho d hd => by
          rcases List.mem_append.mp ho with old | new
          · exact .inl ⟨o, old, rfl, hd⟩
          · rw [List.mem_singleton.mp new] at hd
            cases hd
      exact ⟨reopened.covered, reopened.heard, reopened.absent, reopened.recent⟩
    | insertDisk index =>
      simp only [Action.perform] at done
      split at done
      · next vm disks size sizes found =>
        cases done
        refine ticked.reopen fun o ho d hd => ?_
        rcases List.mem_or_eq_of_mem_set ho with old | rfl
        · exact .inl ⟨o, old, rfl, hd⟩
        · rcases List.mem_append.mp hd with written | new
          · exact .inl ⟨_, List.mem_of_getElem? found, rfl, written⟩
          · rw [List.mem_singleton.mp new]
            exact .inr ⟨rfl, rfl, rfl⟩
      · cases done
    | commit index =>
      simp only [Action.perform] at done
      split at done
      · next vm disks found =>
        cases done
        exact ticked.commit (o := ⟨vm, disks, []⟩) (List.mem_of_getElem? found) _
          fun o ho => List.mem_of_mem_eraseIdx ho
      · cases done
    | rollback index =>
      simp only [Action.perform] at done
      split at done
      · cases done
        exact ticked.reopen fun o ho d hd => .inl ⟨o, List.mem_of_mem_eraseIdx ho, rfl, hd⟩
      · cases done
    | createDisk index =>
      simp only [Action.perform] at done
      split at done
      · next d found =>
        split at done
        · next fits =>
          cases done
          exact ticked.createDisk found fits.1 fits.2
        · cases done
      · cases done
    | setStatus vm status =>
      cases done
      exact ⟨ticked.covered, ticked.heard, ticked.absent, ticked.recent⟩
  · cases next

theorem Accounted.start (free : Uuid → Nat) : Accounted { free := free } where
  covered _ h := absurd h List.not_mem_nil
  heard _ h := absurd h List.not_mem_nil
  absent _ h := absurd h List.not_mem_nil
  recent _ h := absurd h List.not_mem_nil

/-- **Storage is not overcommitted** in a run in which no heartbeat of a node comes while a disk whose row
has been written is not on its host. -/
theorem spacious_always (cfg : Settings) (score : Score) (free : Uuid → Nat)
    {ls : List (Nat × Action)} (settled : Along (step cfg score) (Settled cfg) ls { free := free }) :
    Along (step cfg score) (Spacious cfg score) ls { free := free } :=
  settled.implies (I := Accounted) (fun _ _ _ h settled next => h.step settled next)
    (fun l _ h _ => h.spacious l) (.start free)

/-! ## Two VMs -/

/-- A node with 10 GiB free. -/
def tenGib : Uuid → Nat := fun _ => 10 * gib

/-- A heartbeat of a node that reports this much. -/
def beat (gb : Nat) : Action :=
  .fleet (.heartbeat ⟨7⟩ { agentVersion := some "1.0.0", cpuThreads := some 8, memoryTotalMb := some 65536
                           memoryAvailableMb := some 65536, storageTotalGb := some 10
                           storageAvailableGb := some gb })

/-- A VM with a disk of 6 GiB is placed, its transaction being the first of those that are open. -/
def placed (now : Nat) : List (Nat × Action) :=
  [(now, .select 1 1 1024 [6 * gib]), (now + 1, .insertDisk 0), (now + 2, .commit 0)]

/-- The next heartbeat comes before the disk is created, or after it. -/
def twoPlaced (created : Bool) : List (Nat × Action) :=
  [(1, .fleet (.createNode ⟨7⟩ 1 "hv1")), (2, beat 10)] ++ placed 3 ++
    (if created then [(6, .createDisk 0), (7, beat 4)] else [(7, beat 10)]) ++
    [(8, .select 1 1 1024 [(if created then 4 else 6) * gib])]

theorem spacious_always_created :
    (runFrom (step {} fun _ _ _ _ => 0) (twoPlaced true) { free := tenGib }).isSome = true ∧
    Along (step {} fun _ _ _ _ => 0) (Spacious {} fun _ _ _ _ => 0) (twoPlaced true) { free := tenGib } :=
  ⟨by decide +kernel, spacious_always {} _ tenGib (by decide +kernel)⟩

/-- A heartbeat between the commit and the creation hides 6 GiB that are promised: the node is chosen for
6 GiB more, of which it has 4. -/
theorem overcommitted : ¬ ∀ (cfg : Settings) (score : Score) (free : Uuid → Nat)
    (ls : List (Nat × Action)), Along (step cfg score) (Spacious cfg score) ls { free := free } := by
  intro always
  have holds := always {} (fun _ _ _ _ => 0) tenGib (twoPlaced false)
  revert holds
  decide +kernel

end NodePilot.Scheduling
