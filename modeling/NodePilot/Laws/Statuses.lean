import NodePilot.Laws.Outcomes

/-!
# Statuses

What the statements of a task do to the statuses of the VMs, the snapshots and the backups. A save restates
those that it names, and a later save of the same fields absorbs it.
-/

namespace NodePilot

open Lib Lib.Script

/-- The statuses of the VMs, the snapshots and the backups. -/
@[ext]
structure Statuses where
  vms : Nat → Option (VMStatus × ProvisioningState)
  snapshots : Nat → Option SnapshotStatus
  backups : Nat → Option BackupStatus

def Tables.statuses (t : Tables) : Statuses where
  vms k := (Table.get t.vms k).map fun v => (v.status, v.provisioningState)
  snapshots k := (Table.get t.snapshots k).map SnapshotRow.status
  backups k := (Table.get t.backups k).map BackupRow.status

/-- What a save does to the statuses. -/
def Write.restates : Write → Statuses → Statuses
  | .vmSave pk fields, s => { s with
      vms := fun k => if k = pk then
        (s.vms k).map fun p => (fields.status.getD p.1, fields.provisioningState.getD p.2) else s.vms k }
  | .snapshotSave pk fields, s => { s with
      snapshots := fun k => if k = pk then (s.snapshots k).map fun _ => fields.status else s.snapshots k }
  | .backupSave pk fields, s => { s with
      backups := fun k => if k = pk then (s.backups k).map fun _ => fields.status else s.backups k }
  | _, s => s

/-- The write removes no row that has a status. -/
def Write.keepsRows : Write → Prop
  | .vmDelete _ | .snapshotDelete _ => False
  | _ => True

/-- What `y` has made of the statuses is lost under `x`. -/
def Write.Absorbs (x y : Write) : Prop := y.keepsRows ∧ ∀ s, x.restates (y.restates s) = x.restates s

section Restates

variable {now : Nat} {uuid : Uuid} {t t' : Tables} {x : Write} {s : Statuses}

theorem statuses_eq_of_settled (h : t.settled = t'.settled) : t.statuses = t'.statuses := by
  have vms : t.vms = t'.vms := (congrArg Tables.vms h :)
  have snapshots : t.snapshots = t'.snapshots := (congrArg Tables.snapshots h :)
  have backups : t.backups = t'.backups := (congrArg Tables.backups h :)
  unfold Tables.statuses
  rw [vms, snapshots, backups]

theorem map_modify {ρ α : Type} [Row ρ] {rows : List ρ} {pk k : Nat} {f : ρ → ρ} {g : ρ → α} {u : α → α}
    (hpk : ∀ r, Row.pk (f r) = Row.pk r) (hu : ∀ r, g (f r) = u (g r)) :
    (Table.get (Table.modify rows pk f) k).map g =
      if k = pk then ((Table.get rows k).map g).map u else (Table.get rows k).map g := by
  rw [Table.get_modify hpk]
  split
  · rw [Option.map_map, Option.map_map]
    exact congrFun (congrArg Option.map (funext hu)) _
  · rfl

/-- A save restates what it names; other statements leave the statuses alone. -/
theorem Tables.write_statuses (hx : x.keepsRows) (h : t.write now uuid x = .ok t') :
    t'.statuses = x.restates t.statuses := by
  cases x with
  | vmSave pk fields =>
    obtain ⟨rows, saved, rfl⟩ := except_bind_ok h
    rw [saveRow_ok saved]
    exact Statuses.ext (funext fun k => map_modify (f := fields.apply) (fun _ => rfl) fun _ => rfl) rfl rfl
  | snapshotSave pk fields =>
    obtain ⟨rows, saved, rfl⟩ := except_bind_ok h
    rw [saveRow_ok saved]
    exact Statuses.ext rfl (funext fun k => map_modify (f := fields.apply) (fun _ => rfl) fun _ => rfl) rfl
  | backupSave pk fields =>
    obtain ⟨rows, saved, rfl⟩ := except_bind_ok h
    rw [saveRow_ok saved]
    exact Statuses.ext rfl rfl (funext fun k => map_modify (f := fields.apply) (fun _ => rfl) fun _ => rfl)
  | jobTransition =>
    simp only [Tables.write] at h
    split at h
    · cases h
    · split at h
      · cases h
        rfl
      · cases h
  | jobProgress | jobResourceId | diskSave | diskSize | networkStatus | poolStatus | poolInfo =>
    obtain ⟨rows, -, rfl⟩ := except_bind_ok h
    rfl
  | diskCreate =>
    obtain ⟨-, rfl⟩ := write_diskCreate h
    rfl
  | nicCreate =>
    obtain ⟨-, rfl⟩ := write_nicCreate h
    rfl
  | networkDelete =>
    simp only [Tables.write] at h
    split at h
    · cases h
    · cases h
      rfl
  | vmDelete | snapshotDelete => exact hx.elim
  | jobLogs | jobCeleryTaskId | diskDelete | nicDelete =>
    cases h
    rfl

/-- A later save of the same fields absorbs an earlier one. -/
theorem absorbs_vmSave {pk : Nat} {f g : VmFields} (status : f.status.isSome ∨ g.status = none)
    (state : f.provisioningState.isSome ∨ g.provisioningState = none) :
    (Write.vmSave pk f).Absorbs (.vmSave pk g) := by
  refine ⟨trivial, fun s => Statuses.ext (funext fun k => ?_) rfl rfl⟩
  simp only [Write.restates]
  split
  · rw [Option.map_map]
    refine congrFun (congrArg Option.map (funext fun p => ?_)) _
    have first : f.status.getD (g.status.getD p.1) = f.status.getD p.1 := by
      rcases status with given | none
      · obtain ⟨v, hv⟩ := Option.isSome_iff_exists.mp given
        rw [hv]
        rfl
      · rw [none]
        rfl
    have second : f.provisioningState.getD (g.provisioningState.getD p.2) = f.provisioningState.getD p.2 := by
      rcases state with given | none
      · obtain ⟨v, hv⟩ := Option.isSome_iff_exists.mp given
        rw [hv]
        rfl
      · rw [none]
        rfl
    exact Prod.ext first second
  · rfl

theorem absorbs_snapshotSave {pk : Nat} {f g : SnapshotFields} :
    (Write.snapshotSave pk f).Absorbs (.snapshotSave pk g) := by
  refine ⟨trivial, fun s => Statuses.ext rfl (funext fun k => ?_) rfl⟩
  simp only [Write.restates]
  split
  · rw [Option.map_map]
    rfl
  · rfl

theorem absorbs_backupSave {pk : Nat} {f g : BackupFields} :
    (Write.backupSave pk f).Absorbs (.backupSave pk g) := by
  refine ⟨trivial, fun s => Statuses.ext rfl rfl (funext fun k => ?_)⟩
  simp only [Write.restates]
  split
  · rw [Option.map_map]
    rfl
  · rfl

theorem restates_onJobs {y : Write} (h : y.onJobs) : y.keepsRows ∧ y.restates s = s := by
  cases y <;> first | exact ⟨trivial, rfl⟩ | cases h

/-- The save of a status changes nothing where it already is that. -/
theorem restates_eq_iff {α β : Type} [DecidableEq β] {f : β → Option α} {pk : β} {u : α → α} :
    (fun k => if k = pk then (f k).map u else f k) = f ↔ ∀ a, f pk = some a → u a = a := by
  constructor
  · intro same a found
    have here := congrFun same pk
    simp only [if_true, found, Option.map_some, Option.some.injEq] at here
    exact here
  · intro fixed
    funext k
    split
    · next here =>
      subst here
      cases found : f k with
      | none => rfl
      | some a => exact congrArg some (fixed a found)
    · rfl

end Restates

end NodePilot
