import NodePilot.Laws.Footprints
import NodePilot.PrimaryDisks

/-!
# The disk that a restore writes

A restore goes to the disk that is primary when it runs. `restores_always` says when that is the disk
the backup was read from: no request or task may have put another disk in its place meanwhile.
-/

namespace NodePilot.PrimaryDisks

open Lib Lib.Script

/-! ## What a restore promises -/

/-- The request would write this volume. -/
def Writes (c : AgentRequest × AgentOutcome) (volumeId : String) : Prop :=
  c.1.operation = .restoreBackup → c.2.sent → c.1.payload.getStr "volume_id" "" = volumeId

instance (c : AgentRequest × AgentOutcome) (volumeId : String) : Decidable (Writes c volumeId) :=
  inferInstanceAs (Decidable (_ → _ → _))

/-- RESTORE_BACKUP has left the controller. -/
def sentRestore (w : World) : Bool :=
  w.exchanges.any fun c => c.1.operation = .restoreBackup ∧ c.2.sent

/-- The execution writes nothing but the volume that was read, and nothing at all when the VM has no
disk with it any more. -/
structure Restored (x : Execution) (s : State) (r : Read) : Prop where
  same : ∀ c ∈ (x.run s).2.exchanges, Writes c r.volumeId
  gone : (∀ d ∈ s.db.disks, d.vm = r.vm → d.volumeId ≠ r.volumeId) →
    (x.run s).1.isOk = false ∧ sentRestore (x.run s).2 = false

instance (x : Execution) (s : State) (r : Read) : Decidable (Restored x s r) :=
  decidable_of_iff ((∀ c ∈ (x.run s).2.exchanges, Writes c r.volumeId) ∧
      ((∀ d ∈ s.db.disks, d.vm = r.vm → d.volumeId ≠ r.volumeId) →
        (x.run s).1.isOk = false ∧ sentRestore (x.run s).2 = false))
    ⟨fun h => ⟨h.1, h.2⟩, fun h => ⟨h.same, h.gone⟩⟩

/-- A restore goes where each backup came from. -/
def restores : Event → State → Prop
  | .run x, s => ∀ r ∈ s.reads, x.task = .restoreBackup r.backup → Restored x s r
  | _, _ => True

instance : (e : Event) → (s : State) → Decidable (restores e s)
  | .run x, s => inferInstanceAs (Decidable
      (∀ r ∈ s.reads, x.task = .restoreBackup r.backup → Restored x s r))
  | .request _, _ | .provision _ _, _ | .elsewhere _ _, _ | .reorder _, _ => isTrue trivial

/-! ## When it keeps that -/

/-- The disks among which the primary one is chosen. -/
def candidates (t : Tables) (vm : Nat) : List DiskRow := (t.disksWithStorage vm).map Prod.fst

/-- The disk `d` is chosen before `e`, in whatever order the rows come. -/
def Before (d e : DiskRow) : Prop :=
  d.bootable = true ∧ e.bootable = false ∨ d.bootable = e.bootable ∧ d.bootIndex < e.bootIndex

instance (d e : DiskRow) : Decidable (Before d e) := inferInstanceAs (Decidable (_ ∨ _))

/-- The disk is the VM's primary disk, and no other disk of the VM ties with it. -/
structure Leads (t : Tables) (vm : Nat) (d : DiskRow) : Prop where
  candidate : d ∈ candidates t vm
  before : ∀ e ∈ candidates t vm, e.pk ≠ d.pk → Before d e

/-- A backup of the VM was read. -/
def backedUp (s : State) (vm : Nat) : Bool := s.reads.any (·.vm = vm)

/-- The condition on a task. While a VM has no backup, nothing is asked of it. -/
def carefulTask (s : State) : Task → Prop
  -- the primary disk stays as it is
  | .attachDisk disk | .detachDisk disk => ∀ vm ∈ s.reads.map Read.vm,
      ∀ d ∈ s.db.primaryDisk vm, d.pk ≠ disk
  -- no other disk ties with the one that is read
  | .createBackup backup => ∀ found ∈ s.db.loadBackup backup,
      ∀ d ∈ s.db.primaryDisk found.2.1.pk, ∀ e ∈ candidates s.db found.2.1.pk,
        e.pk ≠ d.pk → Before d e
  | _ => True

instance (s : State) : DecidablePred (carefulTask s)
  | .attachDisk disk | .detachDisk disk => inferInstanceAs (Decidable
      (∀ vm ∈ s.reads.map Read.vm, ∀ d ∈ s.db.primaryDisk vm, d.pk ≠ disk))
  | .createBackup backup => inferInstanceAs (Decidable (∀ found ∈ s.db.loadBackup backup,
      ∀ d ∈ s.db.primaryDisk found.2.1.pk, ∀ e ∈ candidates s.db found.2.1.pk,
        e.pk ≠ d.pk → Before d e))
  | .provisionVm _ | .startVm _ | .stopVm _ | .rebootVm _ | .pauseVm _ | .resumeVm _ | .deleteVm _
  | .cloneVm _ _ _ | .resizeDisk _ _ | .attachNic _ | .detachNic _ | .createSnapshot _
  | .deleteSnapshot _ | .rollbackSnapshot _ | .restoreBackup _ | .createNetwork _
  | .deleteNetwork _ | .createStoragePool _ => isTrue trivial

/-- The condition on an event. -/
def careful : Event → State → Prop
  -- a new disk comes after another one
  | .request (.attachDisk _ vm _ _ _), s => backedUp s vm →
      ∃ d ∈ candidates s.db vm, d.bootable ∨ d.bootIndex < diskCount s.db vm
  | .provision vm _, s => backedUp s vm = false
  | .run x, s => carefulTask s x.task
  | _, _ => True

instance : (e : Event) → (s : State) → Decidable (careful e s)
  | .request (.attachDisk _ vm _ _ _), s => inferInstanceAs (Decidable (backedUp s vm →
      ∃ d ∈ candidates s.db vm, d.bootable ∨ d.bootIndex < diskCount s.db vm))
  | .provision vm _, s => inferInstanceAs (Decidable (backedUp s vm = false))
  | .run x, s => inferInstanceAs (Decidable (carefulTask s x.task))
  | .request (.createVm ..), _ | .request (.createFromTemplate ..), _ | .request (.detachDisk _), _
  | .request (.resizeDisk _ _), _ | .request (.createBackup ..), _ | .request (.restoreBackup _), _
  | .elsewhere _ _, _ | .reorder _, _ => isTrue trivial

/-! ## The primary disk -/

section Primary

variable {t : Tables} {vm : Nat} {d e : DiskRow}

/-- The candidates are the VM's disks that have a pool. -/
theorem mem_candidates :
    d ∈ candidates t vm ↔ d ∈ t.disks ∧ d.vm = vm ∧ (Table.get t.pools d.storage).isSome := by
  unfold candidates
  constructor
  · intro h
    obtain ⟨⟨d', p⟩, mem, rfl⟩ := List.mem_map.mp h
    obtain ⟨hd, hvm, hp⟩ := Tables.mem_disksWithStorage.mp mem
    exact ⟨hd, hvm, by rw [hp]; rfl⟩
  · rintro ⟨hd, hvm, hp⟩
    obtain ⟨p, hp⟩ := Option.isSome_iff_exists.mp hp
    exact List.mem_map.mpr ⟨(d, p), Tables.mem_disksWithStorage.mpr ⟨hd, hvm, hp⟩, rfl⟩

/-- The candidates come by their boot index. -/
theorem candidates_sorted : (candidates t vm).Pairwise fun a b => a.bootIndex ≤ b.bootIndex := by
  have total : Std.Total fun a b : DiskRow => a.bootIndex ≤ b.bootIndex := ⟨fun _ _ => Nat.le_total _ _⟩
  have trans : IsTrans DiskRow fun a b => a.bootIndex ≤ b.bootIndex := ⟨fun _ _ _ => Nat.le_trans⟩
  have sorted := List.pairwise_insertionSort (fun a b : DiskRow => a.bootIndex ≤ b.bootIndex)
    (t.disks.filter (·.vm = vm))
  unfold candidates Tables.disksWithStorage Tables.disksOf
  rw [List.pairwise_map, List.pairwise_filterMap]
  refine sorted.imp fun le a ha b hb => ?_
  obtain ⟨p, -, rfl⟩ := Option.map_eq_some_iff.mp ha
  obtain ⟨q, -, rfl⟩ := Option.map_eq_some_iff.mp hb
  exact le

/-- Two disks with one key are one disk. -/
theorem eq_of_pk (keyed : (t.disks.map DiskRow.pk).Nodup) (hd : d ∈ candidates t vm)
    (he : e ∈ candidates t vm) (same : e.pk = d.pk) : e = d :=
  List.inj_on_of_nodup_map keyed (mem_candidates.mp he).1 (mem_candidates.mp hd).1 same

/-- **The leading disk is the primary one.** -/
theorem Leads.primaryDisk (keyed : (t.disks.map DiskRow.pk).Nodup) (h : Leads t vm d) :
    t.primaryDisk vm = some d := by
  have sorted : (candidates t vm).Pairwise fun a b => a.bootIndex ≤ b.bootIndex := candidates_sorted
  have only (e : DiskRow) (he : e ∈ candidates t vm) : e = d ∨ Before d e := by
    by_cases same : e.pk = d.pk
    · exact .inl (eq_of_pk keyed h.candidate he same)
    · exact .inr (h.before e he same)
  show ((candidates t vm).find? (·.bootable)).or (candidates t vm).head? = some d
  by_cases bootable : d.bootable = true
  · cases found : (candidates t vm).find? (·.bootable) with
    | none => exact absurd bootable (List.find?_eq_none.mp found d h.candidate)
    | some e =>
      obtain ⟨he, before, after, split, none⟩ := List.find?_eq_some_iff_append.mp found
      have mem : e ∈ candidates t vm := List.mem_of_find?_eq_some found
      rcases only e mem with rfl | ⟨-, not⟩ | ⟨-, lt⟩
      · rfl
      · rw [he] at not
        cases not
      · have place := h.candidate
        rw [split] at place sorted
        rcases List.mem_append.mp place with early | late
        · have := none d early
          simp [bootable] at this
        · rcases List.mem_cons.mp late with rfl | later
          · rfl
          · have le := (List.pairwise_append.mp sorted).2.1
            have := List.rel_of_pairwise_cons le later
            omega
  · have none : (candidates t vm).find? (·.bootable) = none := by
      refine List.find?_eq_none.mpr fun e he hb => ?_
      rcases only e he with rfl | ⟨yes, -⟩ | ⟨same, -⟩
      · exact bootable hb
      · exact bootable yes
      · exact bootable (same.trans hb)
    rw [none, Option.none_or]
    cases list : candidates t vm with
    | nil =>
      have := h.candidate
      rw [list] at this
      cases this
    | cons e rest =>
      rw [list] at sorted
      have place := h.candidate
      rw [list] at place
      rcases List.mem_cons.mp place with rfl | later
      · rfl
      · have le := List.rel_of_pairwise_cons sorted later
        rcases only e (list ▸ List.mem_cons_self) with rfl | ⟨yes, -⟩ | ⟨-, lt⟩
        · rfl
        · exact absurd yes bootable
        · omega

/-- What the choice of the primary disk looks at. -/
def place (d : DiskRow) : Nat × Nat × Nat × Bool × Nat :=
  (d.pk, d.vm, d.storage, d.bootable, d.bootIndex)

/-- The leading disk goes on leading while the other disks of the VM are old ones, or come after it. -/
theorem Leads.transfer {t' : Tables} {d' : DiskRow} (h : Leads t vm d) (pools : t'.pools = t.pools)
    (hd : d' ∈ t'.disks) (same : place d' = place d)
    (others : ∀ e ∈ t'.disks, e.vm = vm →
      (∃ e₀ ∈ t.disks, place e = place e₀) ∨ Before d' e) : Leads t' vm d' := by
  simp only [place, Prod.mk.injEq] at same
  obtain ⟨pk, dvm, storage, bootable, bootIndex⟩ := same
  obtain ⟨-, hvm, pool⟩ := mem_candidates.mp h.candidate
  refine ⟨mem_candidates.mpr ⟨hd, dvm.trans hvm, ?_⟩, fun e he other => ?_⟩
  · rw [pools, storage]
    exact pool
  · obtain ⟨mem, evm, epool⟩ := mem_candidates.mp he
    rcases others e mem evm with ⟨e₀, mem₀, same⟩ | before
    · simp only [place, Prod.mk.injEq] at same
      obtain ⟨epk, evm', estorage, ebootable, ebootIndex⟩ := same
      have candidate : e₀ ∈ candidates t vm := by
        refine mem_candidates.mpr ⟨mem₀, evm' ▸ evm, ?_⟩
        rw [← estorage, ← pools]
        exact epool
      have before := h.before e₀ candidate (by rw [← epk, ← pk]; exact other)
      unfold Before at before ⊢
      rw [bootable, bootIndex, ebootable, ebootIndex]
      exact before
    · exact before

end Primary

/-! ## Tracing a backup to its disk -/

/-- The volume that was read is that of the VM's leading disk, which has the key `disk`. -/
structure Traced (t : Tables) (disk : Nat) (r : Read) : Prop where
  vm : ∃ v ∈ t.vms, v.pk = r.vm
  backup : ∃ b, Table.get t.backups r.backup = some b ∧ b.vm = r.vm
  disk : ∃ d ∈ t.disks, d.pk = disk ∧ d.volumeId = r.volumeId ∧ Leads t r.vm d

/-- No two disks have one key. -/
def Keyed (t : Tables) : Prop := (t.disks.map DiskRow.pk).Nodup

/-- The backup can be traced. -/
structure Held (disk : Nat) (r : Read) (t : Tables) : Prop where
  keyed : Keyed t
  traced : Traced t disk r

/-- The tasks that the requests send. -/
def onDisks : Task → Prop
  | .attachDisk _ | .detachDisk _ | .resizeDisk _ _ | .createBackup _ | .restoreBackup _ => True
  | _ => False

/-- The writes that do not take the disk away or give it another volume. -/
def sparing (disk : Nat) : Write → Prop
  | .diskSave k _ _ _ | .diskDelete k => k ≠ disk
  | .diskSize _ _ | .backupSave _ _ => True
  | _ => False

section Keyed

variable {t t' : Tables} {disk now : Nat} {uuid : Uuid}

theorem Keyed.congr (h : Keyed t) (same : t'.disks.map DiskRow.pk = t.disks.map DiskRow.pk) :
    Keyed t' := by
  unfold Keyed
  rw [same]
  exact h

/-- A change that keeps the keys keeps them distinct. -/
theorem Keyed.modify {k : Nat} {f : DiskRow → DiskRow} (h : Keyed t) (hf : ∀ d, (f d).pk = d.pk) :
    Keyed { t with disks := Table.modify t.disks k f } :=
  h.congr (Table.map_modify DiskRow.pk hf)

/-- A sparing write keeps the keys distinct. -/
theorem Keyed.write {x : Write} (h : Keyed t) (hx : sparing disk x)
    (written : t.write now uuid x = .ok t') : Keyed t' := by
  cases x with
  | diskSave | diskSize =>
    obtain ⟨rows, hrows, rfl⟩ := except_bind_ok written
    rw [saveRow_ok hrows]
    exact h.modify fun _ => rfl
  | diskDelete =>
    cases written
    exact h.sublist (List.filter_sublist.map _)
  | backupSave =>
    obtain ⟨rows, hrows, rfl⟩ := except_bind_ok written
    exact h
  | _ => cases hx

/-- New disks have new keys. -/
theorem Keyed.append {rows : List DiskRow} (h : Keyed t) (fresh : (rows.map DiskRow.pk).Nodup)
    (new : ∀ row ∈ rows, Table.nextPk t.disks ≤ row.pk) : Keyed { t with disks := t.disks ++ rows } := by
  unfold Keyed
  rw [List.map_append, List.nodup_append]
  refine ⟨h, fresh, ?_⟩
  rintro _ old _ added rfl
  obtain ⟨d, hd, same⟩ := List.mem_map.mp old
  obtain ⟨row, hrow, key⟩ := List.mem_map.mp added
  have lt : d.pk < Table.nextPk t.disks := Table.lt_nextPk hd
  have le := new row hrow
  omega

end Keyed

section Held

variable {t t' : Tables} {disk now : Nat} {uuid : Uuid} {r : Read}

/-- A disk row that is rewritten keeps its place. -/
theorem Held.modify {k : Nat} {f : DiskRow → DiskRow} (h : Held disk r t)
    (hf : ∀ d, place (f d) = place d)
    (volume : k = disk → ∀ d, (f d).volumeId = d.volumeId) :
    Held disk r { t with disks := Table.modify t.disks k f } := by
  have key (d : DiskRow) : (f d).pk = d.pk := congrArg Prod.fst (hf d)
  have placed (d : DiskRow) : place (if Row.pk d = k then f d else d) = place d := by
    split
    · exact hf d
    · rfl
  obtain ⟨d, hd, hk, hv, leads⟩ := h.traced.disk
  have mem : (if Row.pk d = k then f d else d) ∈ Table.modify t.disks k f := List.mem_map_of_mem hd
  refine ⟨h.keyed.modify key, h.traced.vm, h.traced.backup, _, mem, ?_, ?_,
    leads.transfer rfl mem (placed d) fun e he _ => .inl ?_⟩
  · exact (congrArg Prod.fst (placed d)).trans hk
  · split
    · next same => exact (volume (same.symm.trans hk) d).trans hv
    · exact hv
  · obtain ⟨e₀, mem₀, rfl⟩ := List.mem_map.mp he
    exact ⟨e₀, mem₀, placed e₀⟩

/-- A sparing write leaves the disk in its place. -/
theorem Held.write {x : Write} (h : Held disk r t) (hx : sparing disk x)
    (written : t.write now uuid x = .ok t') : Held disk r t' := by
  cases x with
  | diskSave k volumeId device format =>
    obtain ⟨rows, hrows, rfl⟩ := except_bind_ok written
    rw [saveRow_ok hrows]
    exact h.modify (fun _ => rfl) fun same => absurd same hx
  | diskSize k sizeBytes =>
    obtain ⟨rows, hrows, rfl⟩ := except_bind_ok written
    rw [saveRow_ok hrows]
    exact h.modify (fun _ => rfl) fun _ _ => rfl
  | diskDelete k =>
    cases written
    obtain ⟨d, hd, hk, hv, leads⟩ := h.traced.disk
    have mem : d ∈ Table.remove t.disks k :=
      List.mem_filter.mpr ⟨hd, decide_eq_true fun same => hx (same.symm.trans hk)⟩
    refine ⟨h.keyed.sublist (List.filter_sublist.map _), h.traced.vm, h.traced.backup, d, mem, hk, hv,
      leads.transfer rfl mem rfl fun e he _ => .inl ⟨e, (List.mem_filter.mp he).1, rfl⟩⟩
  | backupSave k fields =>
    obtain ⟨rows, hrows, rfl⟩ := except_bind_ok written
    rw [saveRow_ok hrows]
    obtain ⟨b, found, vm⟩ := h.traced.backup
    refine ⟨h.keyed, h.traced.vm, ?_, h.traced.disk.imp fun d hd => ?_⟩
    · have kept : ∀ b : BackupRow, Row.pk (fields.apply b) = Row.pk b := fun _ => rfl
      rw [Table.get_modify kept, found]
      by_cases same : r.backup = k
      · exact ⟨fields.apply b, by simp [same], vm⟩
      · exact ⟨b, by simp [same], vm⟩
    · exact ⟨hd.1, hd.2.1, hd.2.2.1, hd.2.2.2.transfer rfl hd.1 rfl fun e he _ => .inl ⟨e, he, rfl⟩⟩
  | _ => cases hx

/-! ### Other changes -/

/-- Saving a volume leaves a disk in its place. -/
theorem place_provisioned {vm : Nat} {saved : DiskRow → String × String × String} (d : DiskRow) :
    place (provisioned vm saved d) = place d := by
  unfold provisioned
  split <;> rfl

/-- Provisioning keeps the keys distinct. -/
theorem Keyed.provision {vm : Nat} {saved : DiskRow → String × String × String} (h : Keyed t) :
    Keyed { t with disks := t.disks.map (provisioned vm saved) } := by
  refine h.congr ?_
  rw [List.map_map]
  exact List.map_congr_left fun d _ => congrArg Prod.fst (place_provisioned d)

/-- The disks of another VM are provisioned. -/
theorem Held.provision {vm : Nat} {saved : DiskRow → String × String × String} (h : Held disk r t)
    (other : r.vm ≠ vm) : Held disk r { t with disks := t.disks.map (provisioned vm saved) } := by
  obtain ⟨d, hd, hk, hv, leads⟩ := h.traced.disk
  have own : provisioned vm saved d = d :=
    if_neg fun same => other ((mem_candidates.mp leads.candidate).2.1 ▸ same)
  have mem : d ∈ t.disks.map (provisioned vm saved) := List.mem_map.mpr ⟨d, hd, own⟩
  refine ⟨h.keyed.provision, h.traced.vm, h.traced.backup, d, mem, hk, hv,
    leads.transfer rfl mem rfl fun e he _ => .inl ?_⟩
  obtain ⟨e₀, mem₀, rfl⟩ := List.mem_map.mp he
  exact ⟨e₀, mem₀, place_provisioned e₀⟩

/-- The order of the rows is no matter of their keys. -/
theorem Keyed.reorder {disks : List DiskRow} (h : Keyed t) (perm : disks.Perm t.disks) :
    Keyed { t with disks := disks } := (perm.map _).nodup_iff.mpr h

/-- Nor of where a disk stands. -/
theorem Held.reorder {disks : List DiskRow} (h : Held disk r t) (perm : disks.Perm t.disks) :
    Held disk r { t with disks := disks } := by
  refine ⟨h.keyed.reorder perm, h.traced.vm, h.traced.backup, ?_⟩
  obtain ⟨d, hd, hk, hv, leads⟩ := h.traced.disk
  have mem : d ∈ disks := perm.mem_iff.mpr hd
  exact ⟨d, mem, hk, hv, leads.transfer rfl mem rfl fun e he _ => .inl ⟨e, perm.mem_iff.mp he, rfl⟩⟩

/-- The other rows matter no more than this. -/
theorem Held.elsewhere (h : Held disk r t) (disks : t'.disks = t.disks) (pools : t'.pools = t.pools)
    (backups : t'.backups = t.backups) (vms : ∀ v ∈ t.vms, ∃ v' ∈ t'.vms, v'.pk = v.pk) :
    Held disk r t' := by
  refine ⟨h.keyed.congr (by rw [disks]), ?_, backups ▸ h.traced.backup, ?_⟩
  · obtain ⟨v, hv, same⟩ := h.traced.vm
    obtain ⟨v', hv', same'⟩ := vms v hv
    exact ⟨v', hv', same'.trans same⟩
  · obtain ⟨d, hd, hk, hv, leads⟩ := h.traced.disk
    rw [disks]
    exact ⟨d, hd, hk, hv, leads.transfer pools (disks ▸ hd) rfl fun e he _ => .inl ⟨e, disks ▸ he, rfl⟩⟩

/-- Jobs are no matter of where a disk stands. -/
theorem held_settled : Held disk r t.settled ↔ Held disk r t :=
  ⟨fun h => h.elsewhere rfl rfl rfl fun v hv => ⟨v, hv, rfl⟩,
    fun h => h.elsewhere rfl rfl rfl fun v hv => ⟨v, hv, rfl⟩⟩

/-- New disks, of other VMs or after another disk of the VM. -/
theorem Held.append {rows : List DiskRow} (h : Held disk r t)
    (fresh : (rows.map DiskRow.pk).Nodup) (new : ∀ row ∈ rows, Table.nextPk t.disks ≤ row.pk)
    (after : ∀ d, Leads t r.vm d → ∀ row ∈ rows, row.vm = r.vm → Before d row) :
    Held disk r { t with disks := t.disks ++ rows } := by
  obtain ⟨d, hd, hk, hv, leads⟩ := h.traced.disk
  have mem : d ∈ t.disks ++ rows := List.mem_append_left _ hd
  refine ⟨h.keyed.append fresh new, h.traced.vm, h.traced.backup, d, mem, hk, hv,
    leads.transfer rfl mem rfl fun e he evm => ?_⟩
  rcases List.mem_append.mp he with old | added
  · exact .inl ⟨e, old, rfl⟩
  · exact .inr (after d leads e added evm)

/-- A new backup moves no disk. -/
theorem Held.newBackup {row : BackupRow} (h : Held disk r t) :
    Held disk r { t with backups := t.backups ++ [row] } := by
  obtain ⟨b, found, vm⟩ := h.traced.backup
  refine ⟨h.keyed, h.traced.vm, ⟨b, ?_, vm⟩, h.traced.disk.imp fun d hd => ?_⟩
  · unfold Table.get
    rw [List.find?_append, show t.backups.find? _ = some b from found, Option.some_or]
  · exact ⟨hd.1, hd.2.1, hd.2.2.1, hd.2.2.2.transfer rfl hd.1 rfl fun e he _ => .inl ⟨e, he, rfl⟩⟩

/-! ### Requests -/

/-- The disks of a new VM have fresh keys and boot in their order. -/
theorem diskRows_spec {vm pk index : Nat} {diskUuid : Nat → Uuid} {specs : List DiskSpec}
    {rows : List DiskRow} (h : diskRows vm diskUuid pk index specs = some rows) :
    (rows.map DiskRow.pk).Nodup ∧ ∀ row ∈ rows, pk ≤ row.pk ∧ row.vm = vm := by
  induction specs generalizing pk index rows with
  | nil =>
    cases h
    exact ⟨List.nodup_nil, fun _ hrow => (List.not_mem_nil hrow).elim⟩
  | cons spec rest ih =>
    obtain ⟨storage, -, h⟩ := Option.bind_eq_some_iff.mp h
    obtain ⟨later, hlater, h⟩ := Option.bind_eq_some_iff.mp h
    cases h
    obtain ⟨nodup, all⟩ := ih hlater
    refine ⟨?_, ?_⟩
    · rw [List.map_cons, List.nodup_cons]
      refine ⟨fun mem => ?_, nodup⟩
      obtain ⟨row, hrow, same⟩ := List.mem_map.mp mem
      have := (all row hrow).1
      simp only at same
      omega
    · intro row hrow
      rcases List.mem_cons.mp hrow with rfl | hrow
      · exact ⟨Nat.le_refl _, rfl⟩
      · have := all row hrow
        exact ⟨by omega, this.2⟩

/-- What `create_vm` leaves. -/
theorem createVm_spec {domainUuid : Uuid} {diskUuid : Nat → Uuid} {vm vm' : VmRow}
    {disks : List DiskSpec}
    (created : createVm uuid domainUuid diskUuid vm disks t = some (vm', t')) :
    ∃ row rows, t' = { t with vms := t.vms ++ [row], disks := t.disks ++ rows } ∧
      (rows.map DiskRow.pk).Nodup ∧
      ∀ d ∈ rows, Table.nextPk t.disks ≤ d.pk ∧ d.vm = Table.nextPk t.vms := by
  obtain ⟨⟨row, t₁⟩, inserted, created⟩ := Option.bind_eq_some_iff.mp created
  obtain ⟨rows, hrows, same⟩ := Option.bind_eq_some_iff.mp created
  cases same
  obtain ⟨rfl, key⟩ := Tables.createVm_ok (ok_of_toOption inserted)
  obtain ⟨nodup, all⟩ := diskRows_spec hrows
  exact ⟨vm', rows, rfl, nodup, fun d hd => ⟨(all d hd).1, key ▸ (all d hd).2⟩⟩

/-- What a request does to the tables. -/
inductive Accepted (t : Tables) : Request → Tables → Prop
  | vm {q : Request} (row : VmRow) (rows : List DiskRow) (nodup : (rows.map DiskRow.pk).Nodup)
      (new : ∀ d ∈ rows, Table.nextPk t.disks ≤ d.pk ∧ d.vm = Table.nextPk t.vms) :
      Accepted t q { t with vms := t.vms ++ [row], disks := t.disks ++ rows }
  | attach (uuid : Uuid) (vm storage sizeGb : Nat) (bus : DiskBus) :
      Accepted t (.attachDisk uuid vm storage sizeGb bus)
        { t with disks := t.disks ++ [attachedRow t uuid vm storage sizeGb bus] }
  | backup {q : Request} (row : BackupRow) : Accepted t q { t with backups := t.backups ++ [row] }
  | none {q : Request} : Accepted t q t

/-- A request that is accepted does one of these things, and sends a task that works on disks. -/
theorem accept_spec {q : Request} {task : Option Task} (accepted : q.accept t = some (t', task)) :
    Accepted t q t' ∧ ∀ x ∈ task.toList, onDisks x := by
  have sent {x : Task} (h : onDisks x) : ∀ y ∈ (some x).toList, onDisks y := by
    intro y hy
    rwa [List.mem_singleton.mp hy]
  cases q with
  | createVm uuid domainUuid diskUuid vm disks
  | createFromTemplate uuid domainUuid diskUuid vm storage image sizeGb =>
    obtain ⟨⟨vm', t₁⟩, created, same⟩ := Option.bind_eq_some_iff.mp accepted
    cases same
    obtain ⟨row, rows, rfl, nodup, new⟩ := createVm_spec created
    exact ⟨.vm row rows nodup new, fun _ none => (List.not_mem_nil none).elim⟩
  | attachDisk uuid vm storage sizeGb bus =>
    obtain ⟨row, -, same⟩ := Option.bind_eq_some_iff.mp accepted
    cases same
    exact ⟨.attach uuid vm storage sizeGb bus, sent trivial⟩
  | detachDisk disk | resizeDisk disk newSizeGb =>
    obtain ⟨row, -, same⟩ := Option.bind_eq_some_iff.mp accepted
    split at same
    · cases same
    · cases same
      exact ⟨.none, sent trivial⟩
  | createBackup uuid vm target type =>
    obtain ⟨row, -, same⟩ := Option.bind_eq_some_iff.mp accepted
    cases same
    exact ⟨.backup _, sent trivial⟩
  | restoreBackup backup =>
    obtain ⟨row, -, rest⟩ := Option.bind_eq_some_iff.mp accepted
    obtain ⟨vm, -, same⟩ := Option.bind_eq_some_iff.mp rest
    split at same
    · cases same
      exact ⟨.none, sent trivial⟩
    · cases same

/-- An accepted request keeps the keys distinct. -/
theorem Keyed.accept {q : Request} (h : Keyed t) (accepted : Accepted t q t') : Keyed t' := by
  cases accepted with
  | vm row rows nodup new => exact h.append nodup fun d hd => (new d hd).1
  | attach uuid vm storage sizeGb bus =>
    refine h.append (List.nodup_singleton _) fun row hrow => ?_
    rw [List.mem_singleton.mp hrow]
    exact Nat.le_refl _
  | backup | none => exact h

/-- A disk that comes after a candidate comes after the leading one. -/
theorem Leads.before_attached {d e row : DiskRow} (keyed : Keyed t) (leads : Leads t r.vm d)
    (he : e ∈ candidates t r.vm) (new : row.bootable = false)
    (ahead : e.bootable ∨ e.bootIndex < row.bootIndex) : Before d row := by
  unfold Before
  rw [new]
  cases hb : d.bootable with
  | true => exact .inl ⟨rfl, rfl⟩
  | false =>
    refine .inr ⟨rfl, ?_⟩
    by_cases own : e.pk = d.pk
    · obtain rfl := eq_of_pk keyed leads.candidate he own
      exact ahead.resolve_left (by rw [hb]; exact Bool.false_ne_true)
    · rcases leads.before e he own with ⟨yes, -⟩ | ⟨same, lt⟩
      · exact absurd (hb.symm.trans yes) Bool.false_ne_true
      · have later := ahead.resolve_left (by rw [← same, hb]; exact Bool.false_ne_true)
        exact Nat.lt_trans lt later

/-- A request that is accepted and careful keeps what can be traced. -/
theorem Held.accept {s : State} {q : Request} (h : Held disk r s.db) (mem : r ∈ s.reads)
    (careful : careful (.request q) s) (accepted : Accepted s.db q t') : Held disk r t' := by
  cases accepted with
  | vm row rows nodup new =>
    have wider : Held disk r { s.db with vms := s.db.vms ++ [row] } :=
      h.elsewhere rfl rfl rfl fun v hv => ⟨v, List.mem_append_left _ hv, rfl⟩
    refine wider.append nodup (fun d hd => (new d hd).1) fun _ _ d hd same => ?_
    obtain ⟨v, hv, hvm⟩ := h.traced.vm
    have lt : v.pk < Table.nextPk s.db.vms := Table.lt_nextPk hv
    have := (new d hd).2
    omega
  | attach uuid vm storage sizeGb bus =>
    refine h.append (List.nodup_singleton _) (fun row hrow => ?_) fun d leads row hrow same => ?_
    · rw [List.mem_singleton.mp hrow]
      exact Nat.le_refl _
    · rw [List.mem_singleton.mp hrow] at same ⊢
      have same : vm = r.vm := same
      obtain ⟨e, he, ahead⟩ := careful (List.any_eq_true.mpr ⟨r, mem, decide_eq_true same.symm⟩)
      rw [same] at he
      exact leads.before_attached h.keyed he rfl ahead
  | backup row => exact h.newBackup
  | none => exact h

end Held

/-! ### Tasks -/

section Tasks

variable {x : Execution} {s : State} {disk backup : Nat} {r : Read}

/-- What a task keeps to, its execution keeps to. -/
theorem run_within {K : Tables → Prop} {A : AgentRequest → Prop} {W : Write → Prop}
    (start : K s.db.settled) (writes : ∀ y now uuid t t', W y → K t → t.write now uuid y = .ok t' → K t')
    (keeps : Obeys (answersIn K fun _ => True) (Op.within A W False) (fun _ => True)
      (x.task.body x.jobId)) :
    K (x.run s).2.db.settled ∧ ∀ c ∈ (x.run s).2.exchanges, A c.1 := by
  have kept : Within K A x.script (x.run s).2 := execute_within writes
    (fun _ _ _ _ _ never => never.elim) x.taskId keeps ⟨start, fun _ _ _ h => absurd h List.not_mem_nil, rfl⟩
  exact ⟨kept.tables, kept.exchanges⟩

/-- A backup that can be traced is restored to its disk. -/
theorem Held.restore {t t' : Tables} {b : BackupRow} {v : VmRow} {target : TargetRow} {d : DiskRow}
    (ht : Held disk r t) (ht' : Held disk r t') (loaded : t.loadBackup r.backup = some (b, v, target))
    (primary : t'.primaryDisk v.pk = some d) : d.volumeId = r.volumeId := by
  obtain ⟨found, -, key⟩ := loadBackup_some loaded
  obtain ⟨b', found', vm⟩ := ht.traced.backup
  obtain ⟨d', -, -, volume, leads⟩ := ht'.traced.disk
  have same : b' = b := Option.some.inj (found'.symm.trans found)
  have chosen : t'.primaryDisk r.vm = some d' := leads.primaryDisk ht'.keyed
  rw [key, ← same, vm, chosen] at primary
  exact Option.some.inj primary ▸ volume

/-- A careful task keeps what can be traced. -/
theorem Held.run (h : Held disk r s.db) (mem : r ∈ s.reads) (kind : onDisks x.task)
    (careful : carefulTask s x.task) :
    Held disk r (x.run s).2.db ∧
      (x.task = .restoreBackup r.backup → ∀ c ∈ (x.run s).2.exchanges, Writes c r.volumeId) := by
  have writes (y : Write) (now : Nat) (uuid : Uuid) (t t' : Tables) (hy : sparing disk y)
      (ht : Held disk r t) (written : t.write now uuid y = .ok t') : Held disk r t' :=
    ht.write hy written
  have other (k : Nat) (task : x.task = .attachDisk k ∨ x.task = .detachDisk k) : k ≠ disk := by
    obtain ⟨d, -, key, -, leads⟩ := h.traced.disk
    have asked : ∀ vm ∈ s.reads.map Read.vm, ∀ d ∈ s.db.primaryDisk vm, d.pk ≠ k := by
      rcases task with task | task <;> rw [task] at careful <;> exact careful
    have := asked r.vm (List.mem_map_of_mem mem) d (leads.primaryDisk h.keyed)
    exact fun same => this (key.trans same.symm)
  suffices keeps : Obeys (answersIn (Held disk r) fun _ => True)
      (Op.within (fun q => x.task = .restoreBackup r.backup → q.operation = .restoreBackup →
        q.payload.getStr "volume_id" "" = r.volumeId) (sparing disk) False) (fun _ => True)
      (x.task.body x.jobId) by
    obtain ⟨after, calls⟩ := run_within (x := x) (s := s) (held_settled.mpr h) writes keeps
    exact ⟨held_settled.mp after, fun task c hc operation _ => calls c hc task operation⟩
  cases task : x.task with
  | attachDisk k =>
    exact routine_within.attachDiskTask (fun _ _ _ same => by cases same)
      (fun _ _ _ => .inr (other k (.inl task))) fun _ _ _ same => by cases same
  | detachDisk k =>
    exact routine_within.detachDiskTask (fun _ _ _ same => by cases same)
      (fun _ _ _ _ _ _ _ same => by cases same) (.inr (other k (.inr task)))
  | resizeDisk k size =>
    exact routine_within.resizeDiskTask (fun _ _ _ _ _ _ same => by cases same) (.inr trivial)
  | createBackup backup =>
    exact routine_within.createBackupTask trivial
      (fun _ _ _ _ _ _ _ _ _ _ same => by cases same) fun _ => .inr trivial
  | restoreBackup backup =>
    refine routine_within.restoreBackupTask (fun t b v target t' d ht loaded ht' primary same _ => ?_)
      fun _ => .inr trivial
    cases same
    exact Held.restore (held_settled.mp ht) (held_settled.mp ht') loaded primary
  | _ =>
    rw [task] at kind
    cases kind

/-! ### New backups -/

/-- The primary disk is one of the candidates. -/
theorem primaryDisk_mem {t : Tables} {vm : Nat} {d : DiskRow} (h : t.primaryDisk vm = some d) :
    d ∈ candidates t vm := by
  have h : ((candidates t vm).find? (·.bootable)).or (candidates t vm).head? = some d := h
  rcases Option.or_eq_some_iff.mp h with found | ⟨-, first⟩
  · exact List.mem_of_find?_eq_some found
  · exact List.mem_of_mem_head? first

/-- The disk that was read is the leading one, and goes on being it. -/
theorem held_of_read {t₀ t : Tables} {b : BackupRow} {v : VmRow} {target : TargetRow} {d : DiskRow}
    {volumeId : String} (vms : t.vms = t₀.vms) (h : Unmoved t₀ t) (keyed : Keyed t₀)
    (loaded : t₀.loadBackup backup = some (b, v, target)) (primary : t₀.primaryDisk v.pk = some d)
    (volume : d.volumeId = volumeId) (before : ∀ e ∈ candidates t₀ v.pk, e.pk ≠ d.pk → Before d e) :
    Held d.pk ⟨backup, v.pk, volumeId⟩ t := by
  obtain ⟨found, hv, key⟩ := loadBackup_some loaded
  have mem : d ∈ candidates t₀ v.pk := primaryDisk_mem primary
  have hd : d ∈ t.disks := h.disks ▸ (mem_candidates.mp mem).1
  have leads : Leads t₀ v.pk d := ⟨mem, before⟩
  refine ⟨keyed.congr (by rw [h.disks]), ⟨v, vms ▸ hv, rfl⟩, ?_, d, hd, rfl, volume,
    leads.transfer h.pools hd rfl fun e he _ => .inl ⟨e, h.disks ▸ he, rfl⟩⟩
  have kept := h.backups backup
  rw [found] at kept
  obtain ⟨b', found', same⟩ := Option.map_eq_some_iff.mp kept
  exact ⟨b', found', same.trans key.symm⟩

/-- **What a careful backup has read can be traced.** -/
theorem held_of_reads (keyed : Keyed s.db) (careful : carefulTask s x.task)
    (mem : r ∈ x.reads s) : ∃ disk, Held disk r (x.run s).2.db := by
  unfold Execution.reads at mem
  split at mem
  · next backup task =>
    split at mem
    · next b v target loaded =>
      have keeps : Obeys (answersIn (fun t => t.vms = s.db.vms ∧ Unmoved s.db t) fun _ => True)
          (Op.within (fun q => q.operation = .createBackup → ∃ d, s.db.primaryDisk v.pk = some d ∧
            q.payload.getStr "volume_id" "" = d.volumeId)
            (fun y => ∃ pk fields, y = .backupSave pk fields) False) (fun _ => True)
          (x.task.body x.jobId) := by
        rw [task]
        refine routine_within.createBackupTask trivial
          (fun t b' v' target' t' d ht loaded' ht' primary _ => ⟨d, ?_, rfl⟩)
          fun fields => .inr ⟨backup, fields, rfl⟩
        obtain ⟨b₀, found, -, disk⟩ := Unmoved.primary ht.2 ht'.2 loaded' primary
        obtain ⟨found', -, key⟩ := loadBackup_some loaded
        have same : b = b₀ := Option.some.inj (found'.symm.trans found)
        rw [key, same]
        exact disk
      have writes (y : Write) (now : Nat) (uuid : Uuid) (t t' : Tables)
          (hy : ∃ pk fields, y = .backupSave pk fields) (ht : t.vms = s.db.vms ∧ Unmoved s.db t)
          (written : t.write now uuid y = .ok t') : t'.vms = s.db.vms ∧ Unmoved s.db t' := by
        refine ⟨?_, unmoved_write hy ht.2 written⟩
        obtain ⟨pk, fields, rfl⟩ := hy
        obtain ⟨rows, -, rfl⟩ := except_bind_ok written
        exact ht.1
      obtain ⟨⟨vms, after⟩, calls⟩ := run_within (x := x) (s := s)
        (K := fun t => t.vms = s.db.vms ∧ Unmoved s.db t) ⟨rfl, rfl, rfl, fun _ => rfl⟩ writes keeps
      have rest : Unmoved s.db (x.run s).2.db := ⟨after.disks, after.pools, after.backups⟩
      obtain ⟨c, hc, made⟩ := List.mem_filterMap.mp mem
      split at made
      · next q data =>
        split at made
        · next operation =>
          cases made
          obtain ⟨d, primary, volume⟩ := calls _ hc operation
          have asked : ∀ found ∈ s.db.loadBackup backup, ∀ d ∈ s.db.primaryDisk found.2.1.pk,
              ∀ e ∈ candidates s.db found.2.1.pk, e.pk ≠ d.pk → Before d e := by
            rw [task] at careful
            exact careful
          exact ⟨d.pk, held_of_read vms rest keyed loaded primary volume.symm (asked _ loaded d primary)⟩
        · cases made
      · cases made
    · exact (List.not_mem_nil mem).elim
  · exact (List.not_mem_nil mem).elim

/-- A task on disks keeps the keys distinct. -/
theorem Keyed.run (h : Keyed s.db) (kind : onDisks x.task) : Keyed (x.run s).2.db := by
  have writes (y : Write) (now : Nat) (uuid : Uuid) (t t' : Tables) (hy : ∃ disk, sparing disk y)
      (ht : Keyed t) (written : t.write now uuid y = .ok t') : Keyed t' :=
    hy.elim fun _ hy => ht.write hy written
  have own (k : Nat) : ∃ disk, k ≠ disk := ⟨k + 1, by omega⟩
  refine (run_within (x := x) (s := s) (A := fun _ => True) h writes ?_).1
  cases task : x.task with
  | attachDisk k =>
    exact routine_within.attachDiskTask (fun _ _ _ => trivial) (fun _ _ _ => .inr (own k))
      fun _ _ _ => trivial
  | detachDisk k =>
    exact routine_within.detachDiskTask (fun _ _ _ => trivial) (fun _ _ _ _ _ _ _ => trivial)
      (.inr (own k))
  | resizeDisk k size =>
    exact routine_within.resizeDiskTask (fun _ _ _ _ _ _ => trivial) (.inr ⟨0, trivial⟩)
  | createBackup backup =>
    exact routine_within.createBackupTask trivial (fun _ _ _ _ _ _ _ _ _ _ => trivial)
      fun _ => .inr ⟨0, trivial⟩
  | restoreBackup backup =>
    exact routine_within.restoreBackupTask (fun _ _ _ _ _ _ _ _ _ _ => trivial)
      fun _ => .inr ⟨0, trivial⟩
  | _ =>
    rw [task] at kind
    cases kind

end Tasks

/-! ## Runs -/

/-- Every backup that was read can be traced to its disk. -/
structure Traceable (s : State) : Prop where
  keyed : Keyed s.db
  queue : ∀ task ∈ s.queue, onDisks task
  reads : ∀ r ∈ s.reads, ∃ disk, Held disk r s.db

/-- **A careful event leaves every backup its disk.** -/
theorem Traceable.step {e : Event} {s s' : State} (h : Traceable s) (ok : careful e s)
    (next : step e s = some s') : Traceable s' := by
  cases e with
  | request q =>
    dsimp only [PrimaryDisks.step] at next
    split at next
    · next db task accepted =>
      cases next
      obtain ⟨accepted, sent⟩ := accept_spec accepted
      refine ⟨h.keyed.accept accepted, fun x hx => ?_, fun r hr => ?_⟩
      · exact (List.mem_append.mp hx).elim (h.queue x) (sent x)
      · exact (h.reads r hr).imp fun _ held => held.accept hr ok accepted
    · cases next
      exact h
  | provision vm saved =>
    cases next
    refine ⟨h.keyed.provision, h.queue, fun r hr => ?_⟩
    have free : s.reads.any (·.vm = vm) = false := ok
    have other : r.vm ≠ vm := fun same => by
      have none := List.any_eq_false.mp free r hr
      exact none (decide_eq_true same)
    exact (h.reads r hr).imp fun _ held => held.provision other
  | run x =>
    have next : (if x.task ∈ s.queue then
      some { s with db := (x.run s).2.db, reads := s.reads ++ x.reads s } else none) = some s' := next
    split at next
    · next queued =>
      cases next
      have kind := h.queue _ queued
      refine ⟨h.keyed.run kind, h.queue, fun r hr => ?_⟩
      rcases List.mem_append.mp hr with old | new
      · exact (h.reads r old).imp fun _ held => (held.run old kind ok).1
      · exact held_of_reads h.keyed ok new
    · cases next
  | elsewhere db status =>
    cases next
    refine ⟨h.keyed, h.queue, fun r hr => (h.reads r hr).imp fun _ held => ?_⟩
    exact held.elsewhere rfl rfl rfl fun v hv => ⟨_, List.mem_map_of_mem hv, rfl⟩
  | reorder position =>
    cases next
    have perm := List.perm_insertionSort (fun a b => position a ≤ position b) s.db.disks
    exact ⟨h.keyed.reorder perm, h.queue, fun r hr => (h.reads r hr).imp fun _ held =>
      held.reorder perm⟩

/-- **A restore goes to the disk that its backup can be traced to.** -/
theorem Traceable.restores {e : Event} {s : State} (h : Traceable s) (ok : careful e s) :
    restores e s := by
  cases e with
  | run x =>
    intro r hr task
    obtain ⟨disk, held⟩ := h.reads r hr
    have kind : onDisks x.task := by
      rw [task]
      trivial
    refine ⟨(held.run hr kind ok).2 task, fun gone => ?_⟩
    obtain ⟨d, hd, -, volume, leads⟩ := held.traced.disk
    exact absurd volume (gone d hd (mem_candidates.mp leads.candidate).2.1)
  | request | provision | elsewhere | reorder => trivial

/-- **In a run in which the primary disk of a VM with a backup stays primary, every restore writes the
disk its backup was read from.** -/
theorem restores_always (s : State) (keyed : (s.db.disks.map DiskRow.pk).Nodup)
    (queue : s.queue = []) (reads : s.reads = []) (events : List Event)
    (ok : Along step careful events s) : Along step restores events s := by
  have start : Traceable s := by
    refine ⟨keyed, fun _ mem => ?_, fun _ mem => ?_⟩
    · rw [queue] at mem
      cases mem
    · rw [reads] at mem
      cases mem
  exact ok.implies (fun _ _ _ h ok next => Traceable.step h ok next)
    (fun _ _ h ok => Traceable.restores h ok) start

/-! ## Two runs -/

/-- A pool, a target of backups, and queued jobs. -/
def equipped : Tables :=
  { nodes := [⟨1, "node-1"⟩]
    pools := [{ pk := 1, uuid := ⟨1⟩, node := 1, name := "pool", type := .lvm, path := "vg0" }]
    targets := [{ pk := 1, type := .nfs }]
    jobs := [{ pk := 1, uuid := ⟨1⟩, type := .backupCreate },
      { pk := 2, uuid := ⟨2⟩, type := .diskDetach },
      { pk := 3, uuid := ⟨3⟩, type := .backupRestore }] }

/-- A stopped VM of the API with two disks, as `create_vm` and `provision_vm` leave it. -/
def vmWithTwoDisks : List Event :=
  [.request (.createVm ⟨11⟩ ⟨12⟩ (fun i => ⟨20 + i⟩)
      { pk := 0, uuid := ⟨0⟩, domainUuid := ⟨0⟩, organization := 1, project := 1, node := some 1
        name := "db-1" }
      [{ storage := 1, name := "system", sizeGb := 20 }, { storage := 1, name := "data", sizeGb := 50 }]),
    .provision 1 fun d => (if d.bootIndex = 0 then "vg0/system" else "vg0/data", "vda", "raw"),
    .elsewhere equipped fun _ => .stopped]

/-- The VM is backed up and loses a disk, and the backup is restored. -/
def restoreAfterDetach (disk : Nat) : List Event :=
  vmWithTwoDisks ++
    [.request (.createBackup ⟨31⟩ 1 1 .full), .run { jobId := 1, task := .createBackup 1 },
      .request (.detachDisk disk), .run { jobId := 2, task := .detachDisk disk },
      .request (.restoreBackup 1), .run { jobId := 3, task := .restoreBackup 1 }]

/-- The second disk is detached. -/
theorem restores_always_detached : Along step restores (restoreAfterDetach 2) { db := equipped } :=
  restores_always { db := equipped } List.nodup_nil rfl rfl _ (by decide +kernel)

/-- The first disk is detached, and the second is overwritten. -/
theorem other_disk_overwritten :
    ¬ ∀ s : State, (s.db.disks.map DiskRow.pk).Nodup → s.queue = [] → s.reads = [] →
      ∀ events, Along step restores events s := by
  intro always
  have run := always { db := equipped } List.nodup_nil rfl rfl (restoreAfterDetach 1)
  exact absurd run (by decide +kernel)

end NodePilot.PrimaryDisks
