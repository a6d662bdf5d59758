import NodePilot.Lib.Tally
import NodePilot.Quotas

/-!
# What is counted

`current_usage` goes through the VMs of a project and adds up what hangs off them. Rows that are
deleted make every total smaller, and so do VMs that leave the count (`Shrinks`); rows that are
inserted add what they weigh at most, and rows of other projects nothing.
-/

namespace NodePilot.Quotas

open Lib

/-! ## Counting -/

/-- What is counted of a VM itself. -/
def VirtualMachine.size (v : VirtualMachine) : Nat × Nat × Nat := (v.pk, v.cpuCount, v.memoryMb)

theorem diskBytes_eq (disks : List VMDisk) : diskBytes disks = tally VMDisk.vm VMDisk.sizeBytes disks :=
  rfl

theorem snapshotCount_eq (snapshots : List Snapshot) :
    snapshotCount snapshots = tally Snapshot.vm (fun _ => 1) snapshots := by
  funext vm
  simp [snapshotCount, tally]

structure QuotaUsage.Le (u u' : QuotaUsage) : Prop where
  vms : u.vms ≤ u'.vms
  vcpu : u.vcpu ≤ u'.vcpu
  memoryMb : u.memoryMb ≤ u'.memoryMb
  storageGb : u.storageGb ≤ u'.storageGb
  snapshots : u.snapshots ≤ u'.snapshots

def QuotaUsage.add (u : QuotaUsage) (a : Additional) : QuotaUsage where
  vms := u.vms + a.vms
  vcpu := u.vcpu + a.vcpu
  memoryMb := u.memoryMb + a.memoryMb
  storageGb := u.storageGb + a.storageGb
  snapshots := u.snapshots + a.snapshots

/-- The usage is at most the quota, in all five dimensions. -/
structure QuotaUsage.Within (u : QuotaUsage) (q : Quota) : Prop where
  vms : u.vms ≤ q.maxVms
  vcpu : u.vcpu ≤ q.maxVcpu
  memoryMb : u.memoryMb ≤ q.maxMemoryMb
  storageGb : u.storageGb ≤ q.maxStorageGb
  snapshots : u.snapshots ≤ q.maxSnapshots

theorem QuotaUsage.Within.mono {u u' : QuotaUsage} {q : Quota} (h : u'.Within q) (le : u.Le u') :
    u.Within q :=
  ⟨le.vms.trans h.vms, le.vcpu.trans h.vcpu, le.memoryMb.trans h.memoryMb,
    le.storageGb.trans h.storageGb, le.snapshots.trans h.snapshots⟩

theorem QuotaUsage.Le.add {u u' : QuotaUsage} (h : u.Le u') (a : Additional) :
    (u.add a).Le (u'.add a) :=
  ⟨Nat.add_le_add_right h.vms _, Nat.add_le_add_right h.vcpu _, Nat.add_le_add_right h.memoryMb _,
    Nat.add_le_add_right h.storageGb _, Nat.add_le_add_right h.snapshots _⟩

/-- The checks find nothing that exceeds the quota. -/
theorem within_of_checks {q : Quota} {u : QuotaUsage} {a : Additional}
    (h : ((q.checks u a).find? fun c => c.limit < c.projected) = none) : (u.add a).Within q := by
  have le : ∀ c ∈ q.checks u a, c.projected ≤ c.limit := by
    simpa using h
  simp only [Quota.checks, List.forall_mem_cons] at le
  exact ⟨le.1, le.2.1, le.2.2.1, le.2.2.2.1, le.2.2.2.2.1⟩

section Shrinking

variable {organization project : Nat} {r r' r'' : Rows}

/-- The VMs that count for the project. -/
abbrev Rows.counted (organization project : Nat) (r : Rows) : List VirtualMachine :=
  Quotas.counted organization (some project) r.vms

theorem Rows.mem_counted {v : VirtualMachine} : v ∈ r.counted organization project ↔
    v ∈ r.vms ∧ v.organization = organization ∧ v.status ≠ .deleting ∧ v.project = project := by
  simp [Rows.counted, Quotas.counted]

/-- Of the project's VMs none comes and none grows. -/
structure Shrinks (organization project : Nat) (r r' : Rows) : Prop where
  vms : ((r'.counted organization project).map VirtualMachine.size).Sublist
    ((r.counted organization project).map VirtualMachine.size)
  disks : ∀ v ∈ r'.counted organization project,
    diskBytes r'.disks v.pk ≤ diskBytes r.disks v.pk
  snapshots : ∀ v ∈ r'.counted organization project,
    snapshotCount r'.snapshots v.pk ≤ snapshotCount r.snapshots v.pk

theorem Shrinks.refl : Shrinks organization project r r :=
  ⟨.refl _, fun _ _ => Nat.le_refl _, fun _ _ => Nat.le_refl _⟩

/-- A VM that counts after has counted before, under its key. -/
theorem Shrinks.counted_before (h : Shrinks organization project r r') {v : VirtualMachine}
    (hv : v ∈ r'.counted organization project) :
    ∃ v' ∈ r.counted organization project, v'.pk = v.pk := by
  obtain ⟨v', hv', same⟩ := List.mem_map.mp (h.vms.subset (List.mem_map_of_mem hv))
  exact ⟨v', hv', congrArg Prod.fst same⟩

theorem Shrinks.trans (h : Shrinks organization project r r')
    (h' : Shrinks organization project r' r'') : Shrinks organization project r r'' := by
  refine ⟨h'.vms.trans h.vms, fun v hv => ?_, fun v hv => ?_⟩
  · obtain ⟨v', hv', same⟩ := h'.counted_before hv
    have disks := h.disks v' hv'
    rw [same] at disks
    exact (h'.disks v hv).trans disks
  · obtain ⟨v', hv', same⟩ := h'.counted_before hv
    have snapshots := h.snapshots v' hv'
    rw [same] at snapshots
    exact (h'.snapshots v hv).trans snapshots

/-- A sum over fewer VMs, each of which adds less. -/
theorem Shrinks.sum_le (h : Shrinks organization project r r') {f g : VirtualMachine → Nat}
    {e : Nat × Nat × Nat → Nat} (hg : ∀ v, g v = e v.size)
    (le : ∀ v ∈ r'.counted organization project, f v ≤ g v) :
    ((r'.counted organization project).map f).sum ≤ ((r.counted organization project).map g).sum := by
  have sizes (vms : List VirtualMachine) : vms.map g = (vms.map VirtualMachine.size).map e := by
    rw [List.map_map]
    exact List.map_congr_left fun v _ => hg v
  calc ((r'.counted organization project).map f).sum
      ≤ ((r'.counted organization project).map g).sum := List.sum_le_sum le
    _ ≤ ((r.counted organization project).map g).sum := by
      rw [sizes, sizes]
      exact (h.vms.map e).sum_le_sum fun _ _ => Nat.zero_le _

/-- **What three queries have counted bounds what there is**, as long as it can only shrink. -/
theorem usage_le_totals {r₁ r₂ r₃ : Rows} (h₁ : Shrinks organization project r₁ r)
    (h₂ : Shrinks organization project r₂ r) (h₃ : Shrinks organization project r₃ r) :
    (r.usage organization (some project)).Le
      (totals (r₁.counted organization project) r₂.disks r₃.snapshots) where
  vms := by simpa [Rows.usage, totals] using h₁.vms.length_le
  vcpu := h₁.sum_le (e := fun x => x.2.1) (fun _ => rfl) fun _ _ => Nat.le_refl _
  memoryMb := h₁.sum_le (e := fun x => x.2.2) (fun _ => rfl) fun _ _ => Nat.le_refl _
  storageGb := Nat.div_le_div_right
    (h₁.sum_le (e := fun x => diskBytes r₂.disks x.1) (fun _ => rfl) h₂.disks)
  snapshots := h₁.sum_le (e := fun x => snapshotCount r₃.snapshots x.1) (fun _ => rfl) h₃.snapshots

theorem Shrinks.usage_le (h : Shrinks organization project r r') :
    (r'.usage organization (some project)).Le (r.usage organization (some project)) :=
  usage_le_totals h h h

end Shrinking

section Growing

variable {organization project : Nat} {r n : Rows} {a : Additional}

@[simp] theorem Rows.append_vms : (r ++ n).vms = r.vms ++ n.vms := rfl
@[simp] theorem Rows.append_disks : (r ++ n).disks = r.disks ++ n.disks := rfl
@[simp] theorem Rows.append_snapshots : (r ++ n).snapshots = r.snapshots ++ n.snapshots := rfl

theorem Rows.append_empty : r ++ ({} : Rows) = r := by
  show Rows.mk (r.vms ++ []) (r.disks ++ []) (r.snapshots ++ []) = r
  simp only [List.append_nil]

theorem Rows.counted_append : (r ++ n).counted organization project =
    r.counted organization project ++ n.counted organization project :=
  List.filter_append ..

/-- The new rows add no more than what was reserved. -/
structure Rows.Covered (n : Rows) (a : Additional) : Prop where
  vms : n.vms.length ≤ a.vms
  vcpu : (n.vms.map VirtualMachine.cpuCount).sum ≤ a.vcpu
  memoryMb : (n.vms.map VirtualMachine.memoryMb).sum ≤ a.memoryMb
  disks : (n.disks.map VMDisk.sizeBytes).sum ≤ a.storageGb * gib
  snapshots : n.snapshots.length ≤ a.snapshots

/-- Rows that hang off VMs, some of them new. A new row counts once, and none of the others hangs off
a new VM. -/
theorem sum_tally_append_le {β : Type} {key : β → Nat} {old new : List VirtualMachine}
    {bs : List β} (weight : β → Nat) (bs' : List β) (nodup : ((old ++ new).map VirtualMachine.pk).Nodup)
    (apart : ∀ b ∈ bs, ∀ v ∈ new, key b ≠ v.pk) :
    ((old ++ new).map fun v => tally key weight (bs ++ bs') v.pk).sum ≤
      (old.map fun v => tally key weight bs v.pk).sum + (bs'.map weight).sum := by
  have none : (new.map fun v => tally key weight bs v.pk).sum = 0 := by
    refine List.sum_eq_zero fun m hm => ?_
    obtain ⟨v, hv, rfl⟩ := List.mem_map.mp hm
    exact tally_eq_zero fun b hb => apart b hb v hv
  have once : ((old ++ new).map fun v => tally key weight bs' v.pk).sum ≤ (bs'.map weight).sum := by
    have le := sum_tally_le key weight bs' nodup
    rwa [List.map_map] at le
  calc ((old ++ new).map fun v => tally key weight (bs ++ bs') v.pk).sum
      = ((old ++ new).map fun v => tally key weight bs v.pk).sum +
          ((old ++ new).map fun v => tally key weight bs' v.pk).sum := by
        rw [← List.sum_map_add]
        congr 1
        exact List.map_congr_left fun v _ => tally_append
    _ ≤ (old.map fun v => tally key weight bs v.pk).sum + (bs'.map weight).sum := by
        rw [List.map_append, List.sum_append, none, Nat.add_zero]
        exact Nat.add_le_add_left once _

theorem usage_append_le (nodup : ((r ++ n).vms.map VirtualMachine.pk).Nodup)
    (disks : ∀ d ∈ r.disks, ∀ v ∈ n.vms, d.vm ≠ v.pk)
    (snapshots : ∀ x ∈ r.snapshots, ∀ v ∈ n.vms, x.vm ≠ v.pk) (covered : n.Covered a) :
    ((r ++ n).usage organization (some project)).Le
      ((r.usage organization (some project)).add a) := by
  have new : (n.counted organization project).Sublist n.vms := List.filter_sublist
  have keys : ((r.counted organization project ++ n.counted organization project).map
      VirtualMachine.pk).Nodup := by
    rw [← Rows.counted_append]
    exact nodup.sublist (List.filter_sublist.map _)
  have sums (f : VirtualMachine → Nat) :
      ((n.counted organization project).map f).sum ≤ (n.vms.map f).sum :=
    (new.map f).sum_le_sum fun _ _ => Nat.zero_le _
  refine ⟨?_, ?_, ?_, ?_, ?_⟩
  · show ((r ++ n).counted organization project).length ≤ _ + a.vms
    rw [Rows.counted_append, List.length_append]
    exact Nat.add_le_add_left (new.length_le.trans covered.vms) _
  · show (((r ++ n).counted organization project).map _).sum ≤ _ + a.vcpu
    rw [Rows.counted_append, List.map_append, List.sum_append]
    exact Nat.add_le_add_left ((sums VirtualMachine.cpuCount).trans covered.vcpu) _
  · show (((r ++ n).counted organization project).map _).sum ≤ _ + a.memoryMb
    rw [Rows.counted_append, List.map_append, List.sum_append]
    exact Nat.add_le_add_left ((sums VirtualMachine.memoryMb).trans covered.memoryMb) _
  · have bytes := (sum_tally_append_le VMDisk.sizeBytes n.disks keys
      fun d hd v hv => disks d hd v (new.subset hv)).trans
        (Nat.add_le_add_left covered.disks _)
    have whole := Nat.div_le_div_right (c := gib) bytes
    rw [Nat.add_mul_div_right _ _ (by decide : 0 < gib)] at whole
    rw [← Rows.counted_append] at whole
    exact whole
  · have count := sum_tally_append_le (fun _ => 1) n.snapshots keys
      fun x hx v hv => snapshots x hx v (new.subset hv)
    have ones : (n.snapshots.map fun _ => 1).sum ≤ a.snapshots := by simpa using covered.snapshots
    have le := count.trans (Nat.add_le_add_left ones _)
    rw [← Rows.counted_append, ← snapshotCount_eq, ← snapshotCount_eq] at le
    exact le

/-- Rows of other projects leave the project as it is. -/
theorem shrinks_append
    (vms : ∀ v ∈ n.vms, ¬ (v.organization = organization ∧ v.project = project))
    (disks : ∀ d ∈ n.disks, ∀ v ∈ r.counted organization project, d.vm ≠ v.pk)
    (snapshots : ∀ x ∈ n.snapshots, ∀ v ∈ r.counted organization project, x.vm ≠ v.pk) :
    Shrinks organization project r (r ++ n) := by
  have none : n.counted organization project = [] := by
    rw [List.eq_nil_iff_forall_not_mem]
    intro v hv
    obtain ⟨hv, org, -, proj⟩ := Rows.mem_counted.mp hv
    exact vms v hv ⟨org, proj⟩
  have same : (r ++ n).counted organization project = r.counted organization project := by
    rw [Rows.counted_append, none, List.append_nil]
  refine ⟨by rw [same], fun v hv => ?_, fun v hv => ?_⟩
  · rw [same] at hv
    rw [diskBytes_eq, diskBytes_eq, Rows.append_disks, tally_append,
      tally_eq_zero fun d hd => disks d hd v hv]
    exact Nat.le_refl _
  · rw [same] at hv
    rw [snapshotCount_eq, snapshotCount_eq, Rows.append_snapshots, tally_append,
      tally_eq_zero fun x hx => snapshots x hx v hv]
    exact Nat.le_refl _

end Growing

end NodePilot.Quotas
