import NodePilot.Laws.Footprints
import NodePilot.Volumes

/-!
# Backing files

A linked clone is an overlay of a volume of its source. Nothing in the database says so, and an
operation on the source removes or writes that volume as it would any other.

What an operation may touch is read off its task: each request that the task sends is about a disk
row of the state the task started in, so it touches one of the operation's `targets`. A clone is the
exception. It touches new volumes only, and what its volumes name as their backing files are volumes
of the source. So a run in which no target of a step is a backing file leaves every overlay its base.
-/

namespace NodePilot

open Lib Lib.Script

namespace Volumes

open Agent

/-! ## What a request touches -/

/-- Carrying the request out touches volumes of `P` only, and what a volume names as its backing
file afterwards it named before or is in `B`. -/
def Touches (t : Tables) (P B : String → Prop) (r : AgentRequest) : Prop :=
  ∀ f reply touched f', serve t f r reply = some (touched, f') →
    (∀ v ∈ touched, P v) ∧ ∀ p v, f'.backing p = some v → f.backing p = some v ∨ B v

/-- Writing one file changes the backing file of that file only. -/
theorem backing_update {f : Files} {volume p v : String} {x : Option VolumeFile}
    (h : Files.backing (Function.update f volume x) p = some v) :
    f.backing p = some v ∨ x.bind VolumeFile.backing = some v := by
  by_cases same : p = volume
  · subst same
    simp only [Files.backing, Function.update_self] at h
    exact .inr h
  · simp only [Files.backing, Function.update_of_ne same] at h
    exact .inl h

section Requests

variable {t : Tables} {P B : String → Prop} {vm : VmRow} {d : DiskRow} {p : PoolRow}

/-- A request that the storage has no part in. -/
theorem touches_idle {r : AgentRequest} (idle : ∀ f reply, serve t f r reply = some ([], f)) :
    Touches t P B r := by
  intro f reply touched f' h
  rw [idle] at h
  cases h
  exact ⟨fun v hv => absurd hv List.not_mem_nil, fun _ _ hb => .inl hb⟩

/-- The request is about a file where the pool is a directory or NFS. -/
theorem inFiles_iff {r : AgentRequest} (h : r.payload.getStr "storage_type" "" = p.type.value) :
    inFiles r ↔ p.type = .directory ∨ p.type = .nfs := by
  unfold inFiles
  rw [h]
  cases p.type <;> decide

/-- DELETE_DISK touches the disk's own file. -/
theorem touches_deleteDisk (hP : p.type = .directory ∨ p.type = .nfs → P d.volumeId) :
    Touches t P B (deleteDiskRequest vm d p) := by
  intro f reply touched f' h
  have served : some (if inFiles (deleteDiskRequest vm d p) then deleteVolume f d.volumeId
      else ([], f)) = some (touched, f') := h
  rw [Option.some.injEq] at served
  split at served
  · next onFiles =>
    unfold deleteVolume at served
    split at served
    · cases served
      refine ⟨?_, fun q v hb => .inl ?_⟩
      · simpa using hP ((inFiles_iff rfl).mp onFiles)
      · exact (backing_update hb).resolve_right (by simp)
    · cases served
      exact ⟨fun v hv => absurd hv List.not_mem_nil, fun _ _ hb => .inl hb⟩
  · cases served
    exact ⟨fun v hv => absurd hv List.not_mem_nil, fun _ _ hb => .inl hb⟩

/-- RESIZE_DISK touches the disk's own file. -/
theorem touches_resizeDisk {size : Nat} (hP : p.type = .directory ∨ p.type = .nfs → P d.volumeId) :
    Touches t P B (resizeDiskRequest vm d p size) := by
  intro f reply touched f' h
  have served : (if inFiles (resizeDiskRequest vm d p size) then
      (f d.volumeId).map fun _ => ([d.volumeId], f) else some ([], f)) = some (touched, f') := h
  split at served
  · next onFiles =>
    obtain ⟨_, -, same⟩ := Option.map_eq_some_iff.mp served
    cases same
    refine ⟨?_, fun _ _ hb => .inl hb⟩
    simpa using hP ((inFiles_iff rfl).mp onFiles)
  · cases served
    exact ⟨fun v hv => absurd hv List.not_mem_nil, fun _ _ hb => .inl hb⟩

/-- RESTORE_BACKUP touches the disk's own file. -/
theorem touches_restoreBackup {b : BackupRow} {target : TargetRow} (hP : P d.volumeId) :
    Touches t P B (restoreBackupRequest vm b target d) := by
  intro f reply touched f' h
  have served : restoreVolume f (restoreBackupRequest vm b target d) = some (touched, f') := h
  simp only [restoreVolume] at served
  split at served
  · cases served
  · cases served
    refine ⟨fun v hv => ?_, fun q v hb => .inl ?_⟩
    · rw [List.mem_singleton] at hv
      exact hv ▸ hP
    · exact (backing_update hb).resolve_right (by simp)

/-- START_VM touches the files of the VM's disks. -/
theorem touches_startVm (hP : ∀ v ∈ started t vm.uuid.str, P v) :
    Touches t P B (vmRequest vm .startVm) := by
  intro f reply touched f' h
  have served : some (started t vm.uuid.str, f) = some (touched, f') := h
  cases served
  exact ⟨hP, fun _ _ hb => .inl hb⟩

/-- A clone that the agent confirms adds one file. -/
theorem cloneVolume_some {f f' : Files} {r : AgentRequest} {reply : Option Dict}
    {touched : List String} (h : cloneVolume f r reply = some (touched, f')) :
    ∃ dest file, dest = pathFor (r.payload.getStr "storage_path" "") (r.payload.getStr "new_name" "") ∧
      touched = [dest] ∧ f' = Function.update f dest (some file) ∧
      ∀ b ∈ file.backing, b = r.payload.getStr "source_volume_id" "" := by
  obtain ⟨file, -, rest⟩ := Option.bind_eq_some_iff.mp h
  obtain ⟨-, made⟩ := Option.ite_none_right_eq_some.mp rest
  obtain ⟨rfl, rfl⟩ := Prod.mk.inj (Option.some.inj made)
  refine ⟨_, _, rfl, rfl, rfl, fun b hb => ?_⟩
  split at hb
  · exact (Option.some.inj hb).symm
  · cases hb

/-- A clone touches the new volume, and this one at most names the source. -/
theorem touches_cloneDisk {clone : VmRow} {linked : Bool}
    (hP : P (pathFor p.path (cloneName clone.uuid d.name))) (hB : B d.volumeId) :
    Touches t P B (cloneDiskRequest vm clone d p linked) := by
  intro f reply touched f' h
  have served : (if inFiles (cloneDiskRequest vm clone d p linked) then
      cloneVolume f (cloneDiskRequest vm clone d p linked) reply else some ([], f)) =
        some (touched, f') := h
  split at served
  · obtain ⟨dest, file, hdest, rfl, rfl, names⟩ := cloneVolume_some served
    refine ⟨fun v hv => ?_, fun q v hb => ?_⟩
    · rw [List.mem_singleton.mp hv, hdest]
      exact hP
    · refine (backing_update hb).imp_right fun new => ?_
      rw [names v new]
      exact hB
  · cases served
    exact ⟨fun v hv => absurd hv List.not_mem_nil, fun _ _ hb => .inl hb⟩

/-- Each file that was touched is one of `P`, and the files at that time name no backing file but
those of before and those of `B`. -/
theorem serveAll_touches {calls : List (AgentRequest × Option Dict)} {f f' : Files}
    {touched : List (String × Files)} (all : ∀ c ∈ calls, Touches t P B c.1)
    (h : serveAll t calls f = some (touched, f')) {v : String} {g : Files} (hv : (v, g) ∈ touched) :
    P v ∧ ∀ q b, g.backing q = some b → f.backing q = some b ∨ B b := by
  induction calls generalizing f f' touched with
  | nil =>
    cases h
    cases hv
  | cons c calls ih =>
    obtain ⟨r, reply⟩ := c
    obtain ⟨⟨now, f₁⟩, first, rest⟩ := Option.bind_eq_some_iff.mp h
    obtain ⟨⟨later, f₂⟩, second, done⟩ := Option.bind_eq_some_iff.mp rest
    cases done
    obtain ⟨hnow, named⟩ := all (r, reply) List.mem_cons_self f reply now f₁ first
    rcases List.mem_append.mp hv with hv | hv
    · obtain ⟨v', hv', same⟩ := List.mem_map.mp hv
      cases same
      exact ⟨hnow v hv', fun _ _ hb => .inl hb⟩
    · obtain ⟨hP, since⟩ := ih (fun c hc => all c (List.mem_cons_of_mem _ hc)) second hv
      refine ⟨hP, fun q b hb => ?_⟩
      rcases since q b hb with old | new
      · exact named q b old
      · exact .inr new

end Requests

/-! ## What an operation aims at -/

/-- The volumes that the operation removes or writes. A clone makes new ones only. -/
def Operation.targets (t : Tables) : Operation → List String
  | clone _ _ _ => []
  | start vm => (t.vms.filter (·.pk = vm)).flatMap fun v => started t v.uuid.str
  | delete vm => volumesWhere t fun d => d.vm = vm ∧ d.volumeId ≠ ""
  | detachDisk disk => volumesWhere t fun d => d.pk = disk ∧ d.volumeId ≠ ""
  | resizeDisk disk _ => volumesWhere t fun d => d.pk = disk
  | restoreBackup backup =>
    (((Table.get t.backups backup).bind fun b => t.primaryDisk b.vm).map DiskRow.volumeId).toList

/-- The volume of a disk is among those that are aimed at. -/
theorem mem_volumesWhere {t : Tables} {q : DiskRow → Bool} {d : DiskRow} {pool : PoolRow}
    (hd : d ∈ t.disks) (hq : q d) (found : Table.get t.pools d.storage = some pool)
    (onFiles : pool.type = .directory ∨ pool.type = .nfs) : d.volumeId ∈ volumesWhere t q := by
  refine List.mem_map_of_mem (List.mem_filter.mpr ⟨hd, ?_⟩)
  exact decide_eq_true ⟨hq, pool, found, onFiles⟩

/-- Every disk has a row of `t₀` with the same volume, every VM one with the same id, and the pools
are those of `t₀`. -/
structure Remains (t₀ t : Tables) : Prop where
  disks : ∀ d ∈ t.disks, ∃ d₀ ∈ t₀.disks,
    d₀.pk = d.pk ∧ d₀.vm = d.vm ∧ d₀.storage = d.storage ∧ d₀.volumeId = d.volumeId
  vms : ∀ v ∈ t.vms, ∃ v₀ ∈ t₀.vms, v₀.pk = v.pk ∧ v₀.uuid = v.uuid
  pools : t.pools = t₀.pools

/-- The writes of the operations that make no disks. -/
def sparing : Write → Prop
  | .vmSave _ _ | .vmDelete _ | .diskSize _ _ | .diskDelete _ => True
  | _ => False

section Tables

variable {t₀ t t' : Tables} {now : Nat} {uuid : Uuid} {x : Write}

theorem remains_start : Remains t₀ t₀.settled :=
  ⟨fun d hd => ⟨d, hd, rfl, rfl, rfl, rfl⟩, fun v hv => ⟨v, hv, rfl, rfl⟩, rfl⟩

/-- A sparing write leaves the disks that were there. -/
theorem remains_write (hx : sparing x) (h : Remains t₀ t) (hw : t.write now uuid x = .ok t') :
    Remains t₀ t' := by
  cases x with
  | vmSave vm fields =>
    obtain ⟨rows, hrows, rfl⟩ := except_bind_ok hw
    refine ⟨h.disks, fun v hv => ?_, h.pools⟩
    rw [saveRow_ok hrows] at hv
    obtain ⟨v', hv', rfl | rfl⟩ := Table.mem_modify hv
    · exact h.vms v hv'
    · exact h.vms v' hv'
  | vmDelete vm =>
    cases hw
    exact ⟨fun d hd => h.disks d (List.mem_of_mem_filter hd),
      fun v hv => h.vms v (List.mem_of_mem_filter hv), h.pools⟩
  | diskSize disk size =>
    obtain ⟨rows, hrows, rfl⟩ := except_bind_ok hw
    refine ⟨fun d hd => ?_, h.vms, h.pools⟩
    rw [saveRow_ok hrows] at hd
    obtain ⟨d', hd', rfl | rfl⟩ := Table.mem_modify hd
    · exact h.disks d hd'
    · exact h.disks d' hd'
  | diskDelete disk =>
    cases hw
    exact ⟨fun d hd => h.disks d (List.mem_of_mem_filter hd), h.vms, h.pools⟩
  | _ => cases hx

/-- A disk that is read is, for what an operation aims at, one of the disks of `t₀`. -/
theorem Remains.target (h : Remains t₀ t) {q : DiskRow → Bool} {d : DiskRow} {pool : PoolRow}
    (hd : d ∈ t.disks) (hq : ∀ d₀ : DiskRow, d₀.pk = d.pk → d₀.vm = d.vm →
      d₀.volumeId = d.volumeId → q d₀) (found : Table.get t.pools d.storage = some pool)
    (onFiles : pool.type = .directory ∨ pool.type = .nfs) : d.volumeId ∈ volumesWhere t₀ q := by
  obtain ⟨d₀, hd₀, pk, vm, storage, volume⟩ := h.disks d hd
  rw [← volume]
  refine mem_volumesWhere hd₀ (hq d₀ pk vm volume) ?_ onFiles
  rw [storage, ← h.pools]
  exact found

theorem unmoved_start : Unmoved t₀ t₀.settled := ⟨rfl, rfl, fun _ => rfl⟩

end Tables

/-! ## Tasks -/

section Tasks

variable {t : Tables} {jobId : Nat}

/-- The task leaves what `Remains`, and touches the operation's targets only. -/
abbrev Spared (t : Tables) (targets : List String) (x : TaskM Unit Unit) : Prop :=
  Obeys (answersIn (Remains t) fun _ => True)
    (Op.within (Touches t (· ∈ targets) fun _ => False) sparing False) (fun _ => True) x

/-- A start spares all but its targets. -/
theorem spared_start {vm : Nat} :
    Spared t ((Operation.start vm).targets t) (startVmTask jobId vm) := by
  refine routine_within.simpleLifecycleTask (fun t' row ht found => ?_) (fun _ => .inr trivial)
    fun _ _ => .inr trivial
  have remains : Remains t t'.settled := ht
  obtain ⟨row₀, hrow₀, pk, uuid⟩ := remains.vms row (Table.mem_of_get found)
  have key : row₀.pk = vm := pk.trans (Table.pk_of_get found)
  refine touches_startVm fun v hv => List.mem_flatMap.mpr ⟨row₀, ?_, uuid ▸ hv⟩
  exact List.mem_filter.mpr ⟨hrow₀, decide_eq_true key⟩

/-- A deletion spares all but its targets. -/
theorem spared_delete {vm : Nat} :
    Spared t ((Operation.delete vm).targets t) (deleteVmTask jobId vm) := by
  refine routine_within.deleteVmTask (fun _ => touches_idle fun _ _ => rfl)
    (fun t' row d p ht hd named => ?_) (fun _ => .inr trivial) (fun _ _ => .inr trivial)
    fun _ => .inr trivial
  have remains : Remains t t'.settled := ht
  obtain ⟨mem, owner, pool⟩ := Tables.mem_disksWithStorage.mp hd
  refine touches_deleteDisk (remains.target mem (fun d₀ _ owned volume => ?_) pool)
  exact decide_eq_true ⟨owned.trans owner, volume ▸ named⟩

/-- Detaching a disk spares all but its targets. -/
theorem spared_detach {disk : Nat} :
    Spared t ((Operation.detachDisk disk).targets t) (detachDiskTask jobId disk) := by
  refine routine_within.detachDiskTask (fun _ _ _ => touches_idle fun _ _ => rfl)
    (fun t' vm d p ht loaded named => ?_) (.inr trivial)
  have remains : Remains t t'.settled := ht
  obtain ⟨mem, key, pool⟩ := loadDisk_some loaded
  refine touches_deleteDisk (remains.target mem (fun d₀ same _ volume => ?_) pool)
  exact decide_eq_true ⟨same.trans key, volume ▸ named⟩

/-- Resizing a disk spares all but its targets. -/
theorem spared_resize {disk size : Nat} :
    Spared t ((Operation.resizeDisk disk size).targets t) (resizeDiskTask jobId disk size) := by
  refine routine_within.resizeDiskTask (fun t' vm d p ht loaded => ?_) (.inr trivial)
  have remains : Remains t t'.settled := ht
  obtain ⟨mem, key, pool⟩ := loadDisk_some loaded
  refine touches_resizeDisk (remains.target mem (fun d₀ same _ _ => ?_) pool)
  exact decide_eq_true (same.trans key)

/-- A restore spares all but its targets. -/
theorem spared_restore {backup : Nat} :
    Obeys (answersIn (Unmoved t) fun _ => True)
      (Op.within (Touches t (· ∈ (Operation.restoreBackup backup).targets t) fun _ => False)
        (fun x => ∃ pk fields, x = .backupSave pk fields) False) (fun _ => True)
      (restoreBackupTask jobId backup : TaskM Unit Unit) := by
  refine routine_within.restoreBackupTask (fun t₁ b vm target t₂ d ht₁ loaded ht₂ primary => ?_)
    fun fields => .inr ⟨backup, fields, rfl⟩
  obtain ⟨b₀, found₀, -, disk⟩ := Unmoved.primary ht₁ ht₂ loaded primary
  refine touches_restoreBackup ?_
  simp [Operation.targets, found₀, disk]

end Tasks

/-! ## Clones -/

/-- The paths at which an execution can make volumes for its clone. -/
def Execution.drawn (x : Execution) (t : Tables) (path : String) : Prop :=
  ∃ i, ∃ d ∈ t.disks, ∃ p ∈ t.pools, path = pathFor p.path (cloneName (x.script i).uuid d.name)

/-- The VM is there if it was in `t₀`, its disks are disks of `t₀`, and the pools are those of `t₀`. -/
structure Source (t₀ : Tables) (vm : Nat) (t : Tables) : Prop where
  here : (Table.get t.vms vm).isSome = (Table.get t₀.vms vm).isSome
  disks : ∀ d ∈ t.disks, d.vm = vm → d ∈ t₀.disks
  pools : t.pools = t₀.pools

/-- The writes of a clone: no disk is added to the VM that is cloned. -/
def cloning (vm : Nat) : Write → Prop
  | .vmSave _ _ | .nicCreate _ => True
  | .diskCreate row => row.vm ≠ vm
  | _ => False

section Clones

variable {t₀ t t' : Tables} {vm : Nat}

theorem source_start : Source t₀ vm t₀.settled := ⟨rfl, fun _ hd _ => hd, rfl⟩

/-- A clone's writes leave the disks of its source. -/
theorem source_write {now : Nat} {uuid : Uuid} {x : Write} (hx : cloning vm x) (h : Source t₀ vm t)
    (hw : t.write now uuid x = .ok t') : Source t₀ vm t' := by
  cases x with
  | vmSave pk fields =>
    obtain ⟨rows, hrows, rfl⟩ := except_bind_ok hw
    refine ⟨?_, h.disks, h.pools⟩
    rw [← h.here, saveRow_ok hrows]
    show (Table.get (Table.modify t.vms pk fields.apply) vm).isSome = _
    rw [Table.get_modify (f := fields.apply) fun _ => rfl]
    split <;> simp
  | nicCreate row =>
    obtain ⟨-, rfl⟩ := Tables.write_nicCreate hw
    exact ⟨h.here, h.disks, h.pools⟩
  | diskCreate row =>
    obtain ⟨-, rfl⟩ := Tables.write_diskCreate hw
    refine ⟨h.here, fun d hd owned => ?_, h.pools⟩
    rcases List.mem_append.mp hd with old | new
    · exact h.disks d old owned
    · rw [List.mem_singleton.mp new] at owned
      exact absurd owned hx
  | _ => cases hx

/-- A new VM leaves the disks of the source. -/
theorem source_createVm {uuid domainUuid : Uuid} {row row' : VmRow}
    (exists₀ : (Table.get t₀.vms vm).isSome) (h : Source t₀ vm t)
    (made : t.createVm uuid domainUuid row = .ok (row', t')) :
    row'.pk ≠ vm ∧ row'.uuid = uuid ∧ Source t₀ vm t' := by
  obtain ⟨v, found⟩ := Option.isSome_iff_exists.mp (h.here.trans exists₀)
  unfold Tables.createVm at made
  split at made
  · cases made
  · split at made
    · cases made
    · cases made
      have other : Table.nextPk t.vms ≠ vm := Table.nextPk_ne found
      refine ⟨other, rfl, ?_, h.disks, h.pools⟩
      rw [← h.here]
      exact congrArg Option.isSome (Table.get_append_ne other)

/-- The requests of a clone make volumes at drawn paths, as copies or overlays of disks' volumes. -/
theorem spared_clone {x : Execution} {jobId : Nat} {newName : String} {linked : Bool} :
    Obeys (answersIn (Source t vm) fun row => row.pk ≠ vm ∧ ∃ i, row.uuid = (x.script i).uuid)
      (Op.within (Touches t (x.drawn t) fun v => v ∈ t.disks.map DiskRow.volumeId) (cloning vm)
        (Table.get t.vms vm).isSome) (fun _ => True)
      (cloneVmTask jobId vm newName linked : TaskM Unit Unit) := by
  refine routine_within.cloneVmTask
    (C := fun row => row.pk ≠ vm ∧ ∃ i, row.uuid = (x.script i).uuid)
    (fun t' row ht here => ?_) (fun _ _ h => h) (fun t' source clone d p ht made hd => ?_)
    (fun node r hr => ?_) (fun clone row made owner => .inr ?_) (fun _ => .inr trivial)
    fun _ _ _ _ => .inr trivial
  · have source : Source t vm t'.settled := ht
    exact source.here.symm.trans here
  · have source : Source t vm t'.settled := ht
    obtain ⟨mem, owner, pool⟩ := Tables.mem_disksWithStorage.mp hd
    obtain ⟨-, i, uuid⟩ := made
    have known : d ∈ t.disks := source.disks d mem owner
    have listed : p ∈ t.pools := by
      rw [← source.pools]
      exact Table.mem_of_get pool
    refine touches_cloneDisk ⟨i, d, known, p, listed, ?_⟩ (List.mem_map_of_mem known)
    rw [uuid]
  · refine touches_idle fun f reply => ?_
    simp only [serve, hr]
  · show row.vm ≠ vm
    rw [owner]
    exact made.1

end Clones

/-! ## Runs -/

/-- The volume is the backing file of a disk. -/
def State.backs (s : State) (volume : String) : Prop :=
  ∃ d ∈ s.db.disks, s.files.backing d.volumeId = some volume

instance (s : State) (volume : String) : Decidable (s.backs volume) :=
  inferInstanceAs (Decidable (∃ d ∈ s.db.disks, s.files.backing d.volumeId = some volume))

/-- No volume that the operation removes or writes is the backing file of a disk. -/
def Event.spares : Event → State → Prop
  | .execute x, s => ∀ v ∈ x.operation.targets s.db, ¬ s.backs v
  | .elsewhere _, _ => True

instance : (e : Event) → (s : State) → Decidable (e.spares s)
  | .execute x, s => inferInstanceAs (Decidable (∀ v ∈ x.operation.targets s.db, ¬ s.backs v))
  | .elsewhere _, _ => inferInstanceAs (Decidable True)

/-- The operation clones a VM. -/
def Operation.isClone : Operation → Prop
  | clone _ _ _ => True
  | _ => False

/-- `uuid4` draws no identifier twice: where a clone makes its volumes, no disk has its volume and
no file its backing file. -/
def Event.fresh : Event → State → Prop
  | .execute x, s => x.operation.isClone → ∀ path, x.drawn s.db path →
    path ∉ s.db.disks.map DiskRow.volumeId ∧ ∀ q, s.files.backing q ≠ some path
  | .elsewhere _, _ => True

section Runs

variable {x : Execution} {s s' : State}

/-- What was carried out was sent. -/
theorem mem_carriedOut {w : World} {c : AgentRequest × Option Dict} (h : c ∈ carriedOut w) :
    ∃ timeout o, Entry.call c.1 timeout o ∈ w.trace := by
  rw [carriedOut, List.mem_reverse, List.mem_filterMap] at h
  obtain ⟨e, he, same⟩ := h
  split at same
  · cases same
    exact ⟨_, _, he⟩
  · cases same
    exact ⟨_, _, he⟩
  · cases same

/-- What a task keeps to, its execution in a state keeps to. -/
theorem world_within {K : Tables → Prop} {A : AgentRequest → Prop} {W : Write → Prop} {N : Prop}
    {C : VmRow → Prop} (start : K s.db.settled)
    (writes : ∀ y now uuid t t', W y → K t → t.write now uuid y = .ok t' → K t')
    (creates : ∀ i row row' t t', N → K t →
      t.createVm (x.script i).uuid (x.script i).domainUuid row = .ok (row', t') → C row' ∧ K t')
    (keeps : Obeys (answersIn K C) (Op.within A W N) (fun _ => True)
      (x.operation.task.body x.jobId)) :
    K (x.world s).db.settled ∧ ∀ c ∈ carriedOut (x.world s), A c.1 := by
  have kept : Within K A x.script (x.world s) :=
    execute_within writes creates _ keeps ⟨start, fun _ _ _ h => absurd h List.not_mem_nil, rfl⟩
  refine ⟨kept.tables, fun c hc => ?_⟩
  obtain ⟨timeout, o, made⟩ := mem_carriedOut hc
  exact kept.requests c.1 timeout o made

/-- The execution touches the operation's targets only, and leaves no disk but those of before. -/
structure Confined (x : Execution) (s : State) : Prop where
  disks : ∀ d ∈ (x.world s).db.disks, ∃ d₀ ∈ s.db.disks, d₀.volumeId = d.volumeId
  calls : ∀ c ∈ carriedOut (x.world s),
    Touches s.db (· ∈ x.operation.targets s.db) (fun _ => False) c.1

/-- A task that spares all but its targets touches these only. -/
theorem Spared.confined
    (keeps : Spared s.db (x.operation.targets s.db) (x.operation.task.body x.jobId)) :
    Confined x s := by
  obtain ⟨kept, calls⟩ := world_within remains_start (fun _ _ _ _ _ => remains_write)
    (fun _ _ _ _ _ none => False.elim none) keeps
  refine ⟨fun d hd => ?_, calls⟩
  obtain ⟨d₀, hd₀, -, -, -, volume⟩ := kept.disks d hd
  exact ⟨d₀, hd₀, volume⟩

/-- Every operation but a clone touches its targets only. -/
theorem confined_of_not_clone (other : ¬ x.operation.isClone) : Confined x s := by
  obtain ⟨taskId, jobId, operation, busy, script⟩ := x
  cases operation with
  | clone vm newName linked => exact absurd trivial other
  | start vm => exact Spared.confined spared_start
  | delete vm => exact Spared.confined spared_delete
  | detachDisk disk => exact Spared.confined spared_detach
  | resizeDisk disk size => exact Spared.confined spared_resize
  | restoreBackup backup =>
    obtain ⟨kept, calls⟩ := world_within
      (x := ⟨taskId, jobId, .restoreBackup backup, busy, script⟩) (s := s) unmoved_start
      (fun _ _ _ _ _ => unmoved_write) (fun _ _ _ _ _ none => False.elim none) spared_restore
    refine ⟨fun d hd => ⟨d, ?_, rfl⟩, calls⟩
    rw [← kept.disks]
    exact hd

/-- A clone touches its own new volumes. -/
theorem world_drawn (clone : x.operation.isClone) : ∀ c ∈ carriedOut (x.world s),
    Touches s.db (x.drawn s.db) (fun v => v ∈ s.db.disks.map DiskRow.volumeId) c.1 := by
  obtain ⟨taskId, jobId, operation, busy, script⟩ := x
  cases operation with
  | clone vm newName linked =>
    refine (world_within source_start (fun _ _ _ _ _ => source_write)
      (fun i row row' t t' here source made => ?_) spared_clone).2
    obtain ⟨other, uuid, kept⟩ := source_createVm here source made
    exact ⟨⟨other, i, uuid⟩, kept⟩
  | start | delete | detachDisk | resizeDisk | restoreBackup => exact clone.elim

/-- Files that are touched spoil nothing as long as they are no disk's backing file. -/
theorem step_spoilt {P B : String → Prop} (clean : s.spoilt = [])
    (calls : ∀ c ∈ carriedOut (x.world s), Touches s.db P B c.1)
    (apart : ∀ v, P v → ¬ B v ∧ ∀ d ∈ s.db.disks ++ (x.world s).db.disks,
      s.files.backing d.volumeId ≠ some v)
    (taken : step (.execute x) s = some s') : s'.spoilt = [] := by
  obtain ⟨⟨touched, files⟩, served, done⟩ := Option.bind_eq_some_iff.mp taken
  cases done
  show s.spoilt ++ _ = []
  rw [clean, List.nil_append, List.flatMap_eq_nil_iff]
  rintro ⟨v, g⟩ hv
  obtain ⟨hP, named⟩ := serveAll_touches calls served hv
  obtain ⟨foreign, free⟩ := apart v hP
  refine List.map_eq_nil_iff.mpr (List.filter_eq_nil_iff.mpr fun d hd backed => ?_)
  rcases named d.volumeId v (of_decide_eq_true backed) with before | new
  · exact free d hd before
  · exact foreign new

/-- A step that spares the backing files leaves them unspoilt. -/
theorem step_keeps {e : Event} (clean : s.spoilt = []) (fresh : e.fresh s) (spares : e.spares s)
    (taken : step e s = some s') : s'.spoilt = [] := by
  cases e with
  | elsewhere db =>
    cases taken
    exact clean
  | execute x =>
    by_cases clone : x.operation.isClone
    · refine step_spoilt clean (world_drawn clone) (fun v drawn => ?_) taken
      obtain ⟨unused, unnamed⟩ := fresh clone v drawn
      exact ⟨unused, fun d _ => unnamed d.volumeId⟩
    · obtain ⟨old, calls⟩ : Confined x s := confined_of_not_clone clone
      refine step_spoilt clean calls (fun v target => ⟨id, fun d hd backed => ?_⟩) taken
      refine spares v target ?_
      rcases List.mem_append.mp hd with hd | hd
      · exact ⟨d, hd, backed⟩
      · obtain ⟨d₀, hd₀, same⟩ := old d hd
        exact ⟨d₀, hd₀, same ▸ backed⟩

/-- **A run in which no step's target is a backing file leaves every overlay its base.** -/
theorem bases_kept {events : List Event} (clean : s.spoilt = [])
    (fresh : Along step Event.fresh events s) (spares : Along step Event.spares events s) :
    ∀ t ∈ visited step events s, t.spoilt = [] := by
  intro t ht
  refine visited_keeps (I := fun s : State => s.spoilt = []) ?_ clean (fresh.and spares) ht
  intro e s s' clean conditions taken
  exact step_keeps clean conditions.1 conditions.2 taken

/-! ## A linked clone -/

/-- A stopped VM with one disk, and a backup of it. -/
def sourceVm : State :=
  { db :=
      { jobs := (List.range 6).map fun pk => { pk := pk, uuid := ⟨0⟩, type := .vmClone }
        vms := [{ pk := 1, uuid := ⟨1⟩, domainUuid := ⟨2⟩, organization := 1, project := 1, node := some 1
                  name := "web", status := .stopped, provisioningState := .ready }]
        disks := [{ pk := 1, uuid := ⟨3⟩, vm := 1, storage := 1, name := "root"
                    volumeId := "/pool/base", sizeBytes := 10 * 1024 ^ 3 }]
        pools := [{ pk := 1, uuid := ⟨4⟩, node := 1, name := "default", type := .directory, path := "/pool" }]
        targets := [{ pk := 1, type := .local }]
        backups := [{ pk := 1, uuid := ⟨5⟩, vm := 1, target := 1, status := .completed }] }
    files := fun p => if p = "/pool/base" then some {} else none }

/-- The volume of the clone. -/
def overlay : String := pathFor "/pool" (cloneName ⟨6⟩ "root")

/-- The VM is cloned with `linked=True`. -/
def linkedClone : Event := .execute
  { jobId := 1, operation := .clone 1 "copy" true
    script := fun _ => { uuid := ⟨6⟩, domainUuid := ⟨7⟩, agent := .ok [("volume_id", .str overlay)] } }

/-- The clone is grown, started and deleted, and then its source is grown. -/
def cloneFirst : List Event :=
  [linkedClone, .execute { jobId := 2, operation := .resizeDisk 2 (20 * 1024 ^ 3) },
    .execute { jobId := 3, operation := .start 2 }, .execute { jobId := 4, operation := .delete 2 },
    .execute { jobId := 5, operation := .resizeDisk 1 (20 * 1024 ^ 3) }]

theorem fresh_linkedClone : linkedClone.fresh sourceVm := by
  rintro - path ⟨i, d, hd, p, hp, rfl⟩
  cases List.mem_singleton.mp hd
  cases List.mem_singleton.mp hp
  refine ⟨show overlay ∉ ["/pool/base"] by decide +kernel, fun q => ?_⟩
  show ((if q = "/pool/base" then some {} else none : Option VolumeFile).bind _) ≠ _
  split <;> simp

theorem bases_kept_cloneFirst :
    (visited step cloneFirst sourceVm).length = 6 ∧
    ∀ t ∈ visited step cloneFirst sourceVm, t.spoilt = [] := by
  refine ⟨by decide +kernel, bases_kept rfl ⟨fresh_linkedClone, ?_⟩ (by decide +kernel)⟩
  split
  · refine Along.of_forall (fun e he s => ?_) _
    simp only [List.mem_cons, List.not_mem_nil, or_false] at he
    rcases he with rfl | rfl | rfl | rfl <;> exact False.elim
  · trivial

/-- The clone is there as an overlay, and whatever is done to its source spoils it. -/
theorem base_lost :
    (runFrom step [linkedClone] sourceVm).map
      (fun t => (t.db.vms.map VmRow.status, t.files.backing overlay, t.spoilt)) =
        some ([.stopped, .stopped], some "/pool/base", []) ∧
    ∀ o ∈ [Operation.start 1, .delete 1, .detachDisk 1, .resizeDisk 1 (20 * 1024 ^ 3),
        .restoreBackup 1],
      ¬ ∀ t ∈ visited step [linkedClone, .execute { jobId := 2, operation := o }] sourceVm,
        t.spoilt = [] := by
  decide +kernel

end Runs

end Volumes

end NodePilot
