import Mathlib.Data.List.Nodup
import NodePilot.Inventory

/-!
# Whose objects a virtual machine refers to

A request names several objects by uuid, and each is looked up in its whole table. `Coherent` says of
the objects that an accepted request names that they belong together: the project, the node, the
template and the image to the organization that the VM will be of, the pools and networks to its
node, the target of a backup to the organization of the VM. Nothing else keeps the rows of a VM
within its organization, so they stay there exactly as long as every accepted request is coherent.
-/

namespace NodePilot.Inventory

open Lib Access

/-! ## The invariant of the data model -/

/-- Everything that a VM refers to is of its organization, or of its node. -/
structure VirtualMachine.Tenant (v : VirtualMachine) : Prop where
  project : v.project.organization = v.organization
  node : v.node.organization = v.organization
  template : ∀ t, v.template = some t → t.organization = v.organization
  storage : ∀ d ∈ v.disks, d.storage.node = v.node.uuid
  image : ∀ d ∈ v.disks, ∀ i, d.sourceImage = some i → i.organization = v.organization
  network : ∀ n ∈ v.nics, n.node = v.node.uuid
  backup : ∀ t ∈ v.backups, t.organization = v.organization

structure Rows.Tenant (s : Rows) : Prop where
  vms : ∀ v ∈ s.vms, v.Tenant
  schedules : ∀ v ∈ s.vms, ∀ b ∈ s.schedules, b.vm = v.uuid →
    b.target.organization = v.organization

/-! ## Requests that name what belongs together -/

/-- The objects that an accepted request names belong together. -/
def Order.Coherent (s : Rows) : Order → Prop
  | .newVm _ organization project node template disks nics _ _ =>
    project.organization = organization ∧ node.organization = organization ∧
      (∀ t, template = some t → t.organization = organization) ∧
      (∀ d ∈ disks, d.storage.node = node.uuid) ∧
      (∀ d ∈ disks, ∀ i, d.sourceImage = some i → i.organization = organization) ∧
      ∀ n ∈ nics, n.node = node.uuid
  | .disk vm storage => storage.node = vm.node.uuid
  | .nic vm network => network.node = vm.node.uuid
  | .backup vm target => target.organization = vm.organization
  | .schedule _ _ vm target => target.organization = vm.organization
  | .reschedule b _ vm target => ∀ v ∈ s.vms, v.uuid = (vm.map VirtualMachine.uuid).getD b.vm →
      (target.getD b.target).organization = v.organization
  | .existing | .clone _ _ _ | .cloneDisk _ _ _ | .cloneNic _ _ _ => True

/-- If the request is accepted, then what it names belongs together. -/
def Coherent (cat : Catalog) (g : Grants) (request : Request) (s : Rows) : Prop :=
  ∀ order, accept cat g s request = .ok order → order.Coherent s

/-! ## What an accepted request names -/

/-- The rows of an order are rows of the tables, and the uuids it draws are new. -/
def Order.From (s : Rows) : Order → Prop
  | .newVm uuid _ _ _ _ _ _ _ _ => ∀ v ∈ s.vms, v.uuid ≠ uuid
  | .existing => True
  | .disk vm _ | .nic vm _ | .backup vm _ => vm ∈ s.vms
  | .clone uuid source _ => source ∈ s.vms ∧ ∀ v ∈ s.vms, v.uuid ≠ uuid
  | .cloneDisk v w d => (v.uuid, w.uuid) ∈ s.clones ∧ v ∈ s.vms ∧ w ∈ s.vms ∧ d ∈ v.disks
  | .cloneNic v w n => (v.uuid, w.uuid) ∈ s.clones ∧ v ∈ s.vms ∧ w ∈ s.vms ∧ n ∈ v.nics
  | .schedule uuid _ vm _ => vm ∈ s.vms ∧ ∀ b ∈ s.schedules, b.uuid ≠ uuid
  | .reschedule b _ vm _ => b ∈ s.schedules ∧ ∀ v, vm = some v → v ∈ s.vms

section Accept

variable {cat : Catalog} {g : Grants} {s : Rows} {α : Type}

theorem Rows.vm_some {uuid : Uuid} {v : VirtualMachine} (h : s.vm uuid = some v) :
    v ∈ s.vms ∧ v.uuid = uuid :=
  ⟨List.mem_of_find?_eq_some h, by simpa using List.find?_some h⟩

theorem Rows.vm_none {uuid : Uuid} (h : ¬ (s.vm uuid).isSome) : ∀ v ∈ s.vms, v.uuid ≠ uuid := by
  rw [Option.not_isSome_iff_eq_none] at h
  simpa [Rows.vm] using h

theorem resolve_ok {field : String} {found : Option α} {a : α}
    (h : resolve field found = .ok a) : found = some a := by
  cases found with
  | none => cases h
  | some b => cases h; rfl

theorem resolve?_ok {field : String} {uuid : Option Uuid} {find : Uuid → Option α} {a : α}
    (h : resolve? field uuid find = .ok (some a)) : ∃ u, find u = some a := by
  cases uuid with
  | none => cases h
  | some u =>
    obtain ⟨b, hb, same⟩ := bind_eq_ok h
    cases same
    exact ⟨u, resolve_ok hb⟩

theorem getObject_ok {client : Client} {codename : String} {organization : α → Nat}
    {found : Option α} {a : α} (h : getObject g client codename organization found = .ok a) :
    found = some a := by
  unfold getObject at h
  split at h
  · cases h
  · split at h
    · cases h
    · split at h
      · cases h
      · split at h
        · cases h; rfl
        · cases h

theorem createVm_from {organization : Nat} {project : Project} {node : Option Node}
    {template : Option Template} {disks : List VMDisk} {nics : List Network} {createdBy : Nat}
    {key : String} {draw : Draw} {order : Order}
    (h : createVm cat s organization project node template disks nics createdBy key draw =
      .ok order) : order.From s := by
  unfold createVm at h
  split at h
  · cases h
    trivial
  · obtain ⟨-, -, h⟩ := bind_eq_ok h
    obtain ⟨chosen, -, h⟩ := bind_eq_ok h
    split at h
    · cases h
    · next fresh =>
      cases h
      exact Rows.vm_none fun taken => fresh (.inr taken)

theorem copied_ok {source clone : Uuid} {elements : VirtualMachine → List α} {index : Nat}
    {v w : VirtualMachine} {a : α} (h : copied s source clone elements index = .ok (v, w, a)) :
    (v.uuid, w.uuid) ∈ s.clones ∧ v ∈ s.vms ∧ w ∈ s.vms ∧ a ∈ elements v := by
  unfold copied at h
  split at h
  · cases h
  · next begun =>
    split at h
    · next hv hw =>
      split at h
      · next found =>
        cases h
        obtain ⟨hv, rfl⟩ := Rows.vm_some hv
        obtain ⟨hw, rfl⟩ := Rows.vm_some hw
        exact ⟨not_not.mp begun, ‹_›, ‹_›, List.mem_of_getElem? found⟩
      · cases h
    · cases h

/-- Whatever is accepted names rows that are there. -/
theorem accept_from {request : Request} {order : Order}
    (h : accept cat g s request = .ok order) : order.From s := by
  cases request with
  | create client body draw =>
    obtain ⟨-, -, h⟩ := bind_eq_ok h
    obtain ⟨project, -, h⟩ := bind_eq_ok h
    obtain ⟨node, -, h⟩ := bind_eq_ok h
    obtain ⟨template, -, h⟩ := bind_eq_ok h
    obtain ⟨storages, -, h⟩ := bind_eq_ok h
    obtain ⟨networks, -, h⟩ := bind_eq_ok h
    split at h
    · cases h
    · exact createVm_from h
  | deploy client template body draw =>
    obtain ⟨template, -, h⟩ := bind_eq_ok h
    obtain ⟨project, -, h⟩ := bind_eq_ok h
    obtain ⟨node, -, h⟩ := bind_eq_ok h
    obtain ⟨storage, -, h⟩ := bind_eq_ok h
    obtain ⟨network, -, h⟩ := bind_eq_ok h
    split at h
    · cases h
    · exact createVm_from h
  | attachDisk client vm storage draw =>
    obtain ⟨v, hv, h⟩ := bind_eq_ok h
    obtain ⟨storage, -, h⟩ := bind_eq_ok h
    obtain ⟨-, -, h⟩ := bind_eq_ok h
    cases h
    exact (Rows.vm_some (getObject_ok hv)).1
  | attachNic client vm network draw =>
    obtain ⟨v, hv, h⟩ := bind_eq_ok h
    obtain ⟨network, -, h⟩ := bind_eq_ok h
    obtain ⟨-, -, h⟩ := bind_eq_ok h
    cases h
    exact (Rows.vm_some (getObject_ok hv)).1
  | clone client vm draw =>
    obtain ⟨v, hv, h⟩ := bind_eq_ok h
    obtain ⟨-, -, h⟩ := bind_eq_ok h
    split at h
    · cases h
    · next fresh =>
      cases h
      exact ⟨(Rows.vm_some (getObject_ok hv)).1, Rows.vm_none fresh⟩
  | cloneDisk source clone index =>
    obtain ⟨⟨v, w, disk⟩, found, h⟩ := bind_eq_ok h
    cases h
    exact copied_ok found
  | cloneNic source clone index =>
    obtain ⟨⟨v, w, network⟩, found, h⟩ := bind_eq_ok h
    cases h
    exact copied_ok found
  | createBackup client query vm target draw =>
    obtain ⟨-, -, h⟩ := bind_eq_ok h
    obtain ⟨v, hv, h⟩ := bind_eq_ok h
    obtain ⟨target, -, h⟩ := bind_eq_ok h
    obtain ⟨-, -, h⟩ := bind_eq_ok h
    cases h
    exact (Rows.vm_some (resolve_ok hv)).1
  | createSchedule client query organization vm target draw =>
    obtain ⟨-, -, h⟩ := bind_eq_ok h
    obtain ⟨organization, -, h⟩ := bind_eq_ok h
    obtain ⟨v, hv, h⟩ := bind_eq_ok h
    obtain ⟨target, -, h⟩ := bind_eq_ok h
    obtain ⟨-, -, h⟩ := bind_eq_ok h
    split at h
    · cases h
    · next fresh =>
      cases h
      refine ⟨(Rows.vm_some (resolve_ok hv)).1, ?_⟩
      intro b hb same
      exact fresh (List.any_eq_true.mpr ⟨b, hb, decide_eq_true same⟩)
  | updateSchedule client schedule organization vm target draw =>
    obtain ⟨b, hb, h⟩ := bind_eq_ok h
    obtain ⟨organization, -, h⟩ := bind_eq_ok h
    obtain ⟨v, hv, h⟩ := bind_eq_ok h
    obtain ⟨target, -, h⟩ := bind_eq_ok h
    obtain ⟨-, -, h⟩ := bind_eq_ok h
    cases h
    refine ⟨List.mem_of_find?_eq_some (getObject_ok hb), ?_⟩
    rintro w rfl
    obtain ⟨u, found⟩ := resolve?_ok hv
    exact (Rows.vm_some found).1

end Accept

/-! ## What an accepted request writes -/

/-- **The invariant**: the rows are tenants; uuids are unique, schedules are for VMs that are there,
and a clone is on the node of its source. -/
structure Rows.Sound (s : Rows) : Prop where
  tenant : s.Tenant
  uuids : (s.vms.map VirtualMachine.uuid).Nodup
  schedules : (s.schedules.map BackupSchedule.uuid).Nodup
  known : ∀ b ∈ s.schedules, ∃ v ∈ s.vms, v.uuid = b.vm
  clones : ∀ p ∈ s.clones, ∃ v ∈ s.vms, ∃ w ∈ s.vms, v.uuid = p.1 ∧ w.uuid = p.2 ∧ w.node = v.node

section Apply

variable {s : Rows} {uuid : Uuid} {f : VirtualMachine → VirtualMachine} {v w : VirtualMachine}

theorem Rows.Sound.unique (h : s.Sound) (hv : v ∈ s.vms) (hw : w ∈ s.vms) (same : v.uuid = w.uuid) :
    v = w := List.inj_on_of_nodup_map h.uuids hv hw same

/-- A clone is on the node of its source. -/
theorem Rows.Sound.on_node (h : s.Sound) (begun : (v.uuid, w.uuid) ∈ s.clones) (hv : v ∈ s.vms)
    (hw : w ∈ s.vms) : w.node = v.node := by
  obtain ⟨v', hv', w', hw', sameV, sameW, node⟩ := h.clones _ begun
  rw [h.unique hv' hv sameV, h.unique hw' hw sameW] at node
  exact node

/-- What a rewrite keeps of a VM. -/
structure Stays (f : VirtualMachine → VirtualMachine) : Prop where
  uuid : ∀ v, (f v).uuid = v.uuid
  organization : ∀ v, (f v).organization = v.organization
  node : ∀ v, (f v).node = v.node

theorem mem_rewrite (hv : v ∈ s.vms) :
    (if v.uuid = uuid then f v else v) ∈ (s.rewrite uuid f).vms :=
  List.mem_map_of_mem (f := fun v => if v.uuid = uuid then f v else v) hv

theorem of_mem_rewrite (stays : Stays f) (hv : v ∈ (s.rewrite uuid f).vms) :
    ∃ w ∈ s.vms, w.uuid = v.uuid ∧ w.organization = v.organization ∧ w.node = v.node ∧
      v = if w.uuid = uuid then f w else w := by
  obtain ⟨w, hw, rfl⟩ := List.mem_map.mp hv
  refine ⟨w, hw, ?_⟩
  split
  · exact ⟨(stays.uuid w).symm, (stays.organization w).symm, (stays.node w).symm, rfl⟩
  · exact ⟨rfl, rfl, rfl, rfl⟩

/-- A rewrite of one VM that keeps its place keeps the invariant, if the VM is still a tenant. -/
theorem Rows.Sound.rewrite (h : s.Sound) (stays : Stays f)
    (tenant : ∀ v ∈ s.vms, v.uuid = uuid → (f v).Tenant) : (s.rewrite uuid f).Sound where
  tenant := by
    refine ⟨?_, ?_⟩
    · intro v hv
      obtain ⟨w, hw, -, -, -, rfl⟩ := of_mem_rewrite stays hv
      split
      · next same => exact tenant w hw same
      · exact h.tenant.vms w hw
    · intro v hv b hb same
      obtain ⟨w, hw, uuid, organization, -⟩ := of_mem_rewrite stays hv
      rw [← organization]
      exact h.tenant.schedules w hw b hb (same.trans uuid.symm)
  uuids := by
    have same : (s.rewrite uuid f).vms.map VirtualMachine.uuid = s.vms.map VirtualMachine.uuid := by
      rw [Rows.rewrite, List.map_map]
      refine List.map_congr_left fun v _ => ?_
      by_cases here : v.uuid = uuid
      · simp [here, stays.uuid v]
      · simp [here]
    rw [same]
    exact h.uuids
  schedules := h.schedules
  known b hb := by
    obtain ⟨v, hv, same⟩ := h.known b hb
    refine ⟨_, mem_rewrite hv, ?_⟩
    split
    · exact (stays.uuid v).trans same
    · exact same
  clones p hp := by
    obtain ⟨v, hv, w, hw, hvp, hwp, node⟩ := h.clones p hp
    refine ⟨_, mem_rewrite hv, _, mem_rewrite hw, ?_⟩
    split <;> split <;> simp [stays.uuid, stays.node, hvp, hwp, node]

/-- If the VM is a tenant after a rewrite, it was rewritten into a tenant. -/
theorem tenant_of_rewrite (tenant : (s.rewrite v.uuid f).Tenant) (hv : v ∈ s.vms) : (f v).Tenant := by
  have there : (if v.uuid = v.uuid then f v else v) ∈ (s.rewrite v.uuid f).vms := mem_rewrite hv
  rw [if_pos rfl] at there
  exact tenant.vms _ there

/-- A new VM is of its own uuid, so no schedule is for it yet. -/
theorem Rows.Sound.add (h : s.Sound) (fresh : ∀ w ∈ s.vms, w.uuid ≠ v.uuid) (tenant : v.Tenant) :
    ({ s with vms := s.vms ++ [v] } : Rows).Sound where
  tenant := by
    refine ⟨?_, ?_⟩
    · intro w hw
      rcases List.mem_append.mp hw with old | new
      · exact h.tenant.vms w old
      · rw [List.mem_singleton.mp new]
        exact tenant
    · intro w hw b hb same
      rcases List.mem_append.mp hw with old | new
      · exact h.tenant.schedules w old b hb same
      · obtain ⟨u, hu, known⟩ := h.known b hb
        rw [List.mem_singleton.mp new] at same
        exact absurd (known.trans same) (fresh u hu)
  uuids := by
    rw [List.map_append, List.nodup_append]
    refine ⟨h.uuids, List.nodup_singleton _, ?_⟩
    intro a ha b hb
    obtain ⟨u, hu, rfl⟩ := List.mem_map.mp ha
    rw [List.mem_singleton.mp hb]
    exact fresh u hu
  schedules := h.schedules
  known b hb := by
    obtain ⟨u, hu, known⟩ := h.known b hb
    exact ⟨u, List.mem_append_left _ hu, known⟩
  clones p hp := by
    obtain ⟨a, ha, b, hb, both⟩ := h.clones p hp
    exact ⟨a, List.mem_append_left _ ha, b, List.mem_append_left _ hb, both⟩

/-- A VM with one more disk is a tenant exactly if the disk is on its node. -/
theorem VirtualMachine.Tenant.disk {storage : StoragePool} (h : v.Tenant) :
    ({ v with disks := v.disks ++ [{ storage := storage }] } : VirtualMachine).Tenant ↔
      storage.node = v.node.uuid := by
  constructor
  · intro after
    exact after.storage ⟨storage, none⟩ (by simp)
  · intro here
    refine ⟨h.project, h.node, h.template, ?_, ?_, h.network, h.backup⟩
    · intro d hd
      rcases List.mem_append.mp hd with old | new
      · exact h.storage d old
      · rw [List.mem_singleton.mp new]
        exact here
    · intro d hd i hi
      rcases List.mem_append.mp hd with old | new
      · exact h.image d old i hi
      · rw [List.mem_singleton.mp new] at hi
        cases hi

theorem VirtualMachine.Tenant.nic {network : Network} (h : v.Tenant) :
    ({ v with nics := v.nics ++ [network] } : VirtualMachine).Tenant ↔
      network.node = v.node.uuid := by
  constructor
  · intro after
    exact after.network network (by simp)
  · intro here
    refine ⟨h.project, h.node, h.template, h.storage, h.image, ?_, h.backup⟩
    intro n hn
    rcases List.mem_append.mp hn with old | new
    · exact h.network n old
    · rw [List.mem_singleton.mp new]
      exact here

theorem VirtualMachine.Tenant.target {target : BackupTarget} (h : v.Tenant) :
    ({ v with backups := v.backups ++ [target] } : VirtualMachine).Tenant ↔
      target.organization = v.organization := by
  constructor
  · intro after
    exact after.backup target (by simp)
  · intro here
    refine ⟨h.project, h.node, h.template, h.storage, h.image, h.network, ?_⟩
    intro t ht
    rcases List.mem_append.mp ht with old | new
    · exact h.backup t old
    · rw [List.mem_singleton.mp new]
      exact here

/-- A rewrite of a VM that is there keeps the invariant exactly if it makes a tenant of it. -/
theorem Rows.Sound.rewrite_iff {coherent : Prop} (h : s.Sound) (stays : Stays f) (hv : v ∈ s.vms)
    (tenant : (f v).Tenant ↔ coherent) :
    (coherent → (s.rewrite v.uuid f).Sound) ∧ ((s.rewrite v.uuid f).Tenant → coherent) := by
  constructor
  · intro here
    refine h.rewrite stays fun w hw same => ?_
    rw [h.unique hw hv same]
    exact tenant.mpr here
  · exact fun after => tenant.mp (tenant_of_rewrite after hv)

/-- A new schedule. -/
theorem Rows.Sound.schedule {b : BackupSchedule} (h : s.Sound)
    (fresh : ∀ b' ∈ s.schedules, b'.uuid ≠ b.uuid) (hv : v ∈ s.vms) (same : b.vm = v.uuid) :
    (b.target.organization = v.organization →
      ({ s with schedules := s.schedules ++ [b] } : Rows).Sound) ∧
    (({ s with schedules := s.schedules ++ [b] } : Rows).Tenant →
      b.target.organization = v.organization) := by
  constructor
  · intro here
    refine ⟨⟨h.tenant.vms, ?_⟩, h.uuids, ?_, ?_, h.clones⟩
    · intro w hw b' hb' hvm
      rcases List.mem_append.mp hb' with old | new
      · exact h.tenant.schedules w hw b' old hvm
      · rw [List.mem_singleton.mp new] at hvm ⊢
        rw [h.unique hw hv (hvm.symm.trans same)]
        exact here
    · rw [List.map_append, List.nodup_append]
      refine ⟨h.schedules, List.nodup_singleton _, ?_⟩
      intro a ha c hc
      obtain ⟨b', hb', rfl⟩ := List.mem_map.mp ha
      rw [List.mem_singleton.mp hc]
      exact fresh b' hb'
    · intro b' hb'
      rcases List.mem_append.mp hb' with old | new
      · exact h.known b' old
      · rw [List.mem_singleton.mp new]
        exact ⟨v, hv, same.symm⟩
  · intro after
    exact after.schedules v hv b (by simp) same

/-- A schedule rewritten. -/
theorem Rows.Sound.reschedule {b : BackupSchedule} (h : s.Sound) (hb : b ∈ s.schedules)
    (change : BackupSchedule → BackupSchedule) (uuid : ∀ b, (change b).uuid = b.uuid)
    (known : ∃ v ∈ s.vms, v.uuid = (change b).vm) :
    ((∀ v ∈ s.vms, v.uuid = (change b).vm → (change b).target.organization = v.organization) →
      ({ s with schedules := s.schedules.map fun b' =>
          if b'.uuid = b.uuid then change b' else b' } : Rows).Sound) ∧
    (({ s with schedules := s.schedules.map fun b' =>
        if b'.uuid = b.uuid then change b' else b' } : Rows).Tenant →
      ∀ v ∈ s.vms, v.uuid = (change b).vm → (change b).target.organization = v.organization) := by
  have only : ∀ b' ∈ s.schedules, b'.uuid = b.uuid → b' = b :=
    fun b' hb' same => List.inj_on_of_nodup_map h.schedules hb' hb same
  constructor
  · intro here
    refine ⟨⟨h.tenant.vms, ?_⟩, h.uuids, ?_, ?_, h.clones⟩
    · intro v hv c hc hvm
      obtain ⟨b', hb', rfl⟩ := List.mem_map.mp hc
      split at hvm
      · next same =>
        rw [if_pos same, only b' hb' same]
        rw [only b' hb' same] at hvm
        exact here v hv hvm.symm
      · next other =>
        rw [if_neg other]
        exact h.tenant.schedules v hv b' hb' hvm
    · rw [List.map_map]
      have same : s.schedules.map (BackupSchedule.uuid ∘ fun b' =>
          if b'.uuid = b.uuid then change b' else b') = s.schedules.map BackupSchedule.uuid := by
        refine List.map_congr_left fun b' _ => ?_
        by_cases here : b'.uuid = b.uuid <;> simp [here, uuid b']
      rw [same]
      exact h.schedules
    · intro c hc
      obtain ⟨b', hb', rfl⟩ := List.mem_map.mp hc
      split
      · next same =>
        rw [only b' hb' same]
        exact known
      · exact h.known b' hb'
  · intro after v hv hvm
    have changed := after.schedules v hv (change b)
      (List.mem_map.mpr ⟨b, hb, if_pos rfl⟩) hvm.symm
    exact changed

/-- What an order writes keeps the invariant where it is coherent, and only there. -/
theorem Rows.Sound.apply {order : Order} (h : s.Sound) (origin : order.From s) :
    (order.Coherent s → (apply s order).Sound) ∧ ((apply s order).Tenant → order.Coherent s) := by
  cases order with
  | existing => exact ⟨fun _ => h, fun _ => trivial⟩
  | newVm uuid organization project node template disks nics createdBy key =>
    constructor
    · rintro ⟨hproject, hnode, htemplate, hstorage, himage, hnetwork⟩
      exact h.add origin ⟨hproject, hnode, htemplate, hstorage, himage, hnetwork, nofun⟩
    · intro after
      have new := after.vms _ (List.mem_append_right _ (List.mem_singleton_self _))
      exact ⟨new.project, new.node, new.template, new.storage, new.image, new.network⟩
  | disk vm storage =>
    exact h.rewrite_iff ⟨fun _ => rfl, fun _ => rfl, fun _ => rfl⟩ origin
      (h.tenant.vms vm origin).disk
  | nic vm network =>
    exact h.rewrite_iff ⟨fun _ => rfl, fun _ => rfl, fun _ => rfl⟩ origin (h.tenant.vms vm origin).nic
  | backup vm target =>
    exact h.rewrite_iff ⟨fun _ => rfl, fun _ => rfl, fun _ => rfl⟩ origin
      (h.tenant.vms vm origin).target
  | clone uuid source createdBy =>
    obtain ⟨hsource, fresh⟩ := origin
    have tenant := h.tenant.vms source hsource
    refine ⟨fun _ => ?_, fun _ => trivial⟩
    have added := h.add (v := ⟨uuid, source.organization, source.project, source.node, none,
      createdBy, "", [], [], []⟩) fresh ⟨tenant.project, tenant.node, nofun, nofun, nofun, nofun, nofun⟩
    refine ⟨⟨added.tenant.vms, added.tenant.schedules⟩, added.uuids, added.schedules, added.known, ?_⟩
    intro p hp
    rcases List.mem_cons.mp hp with rfl | old
    · exact ⟨source, List.mem_append_left _ hsource, _,
        List.mem_append_right _ (List.mem_singleton_self _), rfl, rfl, rfl⟩
    · exact added.clones p old
  | cloneDisk source copy d =>
    obtain ⟨begun, hsource, hcopy, hd⟩ := origin
    have here := h.on_node begun hsource hcopy
    exact h.rewrite_iff ⟨fun _ => rfl, fun _ => rfl, fun _ => rfl⟩ hcopy
      ((h.tenant.vms copy hcopy).disk.trans
        (iff_true_intro (by rw [here]; exact (h.tenant.vms source hsource).storage d hd)))
  | cloneNic source copy n =>
    obtain ⟨begun, hsource, hcopy, hn⟩ := origin
    have here := h.on_node begun hsource hcopy
    exact h.rewrite_iff ⟨fun _ => rfl, fun _ => rfl, fun _ => rfl⟩ hcopy
      ((h.tenant.vms copy hcopy).nic.trans
        (iff_true_intro (by rw [here]; exact (h.tenant.vms source hsource).network n hn)))
  | schedule uuid organization vm target =>
    obtain ⟨hvm, fresh⟩ := origin
    exact h.schedule (b := ⟨uuid, organization, vm.uuid, target⟩) fresh hvm rfl
  | reschedule b organization vm target =>
    obtain ⟨hb, hvm⟩ := origin
    refine h.reschedule hb (fun b => { b with
      organization := organization.getD b.organization
      vm := (vm.map VirtualMachine.uuid).getD b.vm
      target := target.getD b.target }) (fun _ => rfl) ?_
    cases vm with
    | none => exact h.known b hb
    | some v => exact ⟨v, hvm v rfl, rfl⟩

end Apply

/-! ## All the requests -/

theorem Rows.Sound.step {cat : Catalog} {g : Grants} {request : Request} {s s' : Rows}
    (h : s.Sound) (hstep : step cat g request s = some s') :
    (Coherent cat g request s → s'.Sound) ∧ (s'.Tenant → Coherent cat g request s) := by
  unfold Inventory.step at hstep
  split at hstep
  · next order accepted =>
    cases hstep
    obtain ⟨keeps, meets⟩ := h.apply (accept_from accepted)
    refine ⟨fun coherent => keeps (coherent order accepted), fun tenant order' accepted' => ?_⟩
    rw [accepted] at accepted'
    cases accepted'
    exact meets tenant
  · next refused =>
    cases hstep
    refine ⟨fun _ => h, fun _ order accepted => ?_⟩
    rw [refused] at accepted
    cases accepted

/-- **When the rows of a VM stay within its organization.** For any users, permissions and other
rows, and any sequence of requests: in every state every VM's project, node, template and source
images are of its organization, its pools and networks are of its own node, and the targets of its
backups and schedules are of its organization, if and only if every request that was accepted named
objects that belong together. -/
theorem tenancy_iff (cat : Catalog) (g : Grants) (requests : List Request) :
    (∀ s ∈ visited (step cat g) requests {}, s.Tenant) ↔
      Along (step cat g) (Coherent cat g) requests {} := by
  have first : Rows.Sound {} :=
    ⟨⟨nofun, nofun⟩, List.nodup_nil, List.nodup_nil, nofun, nofun⟩
  refine visited_iff (F := fun _ _ => True) (fun _ h => h.tenant) (fun _ _ _ h _ hs => h.step hs) ?_
    first (Along.of_forall (fun _ _ _ => trivial) _)
  intro request s refused
  unfold step at refused
  split at refused <;> cases refused

/-! ## A VM of several organizations -/

/-- Two organizations, each with a node, a pool, a network and a template. -/
def twoOrganizations : Catalog where
  organizations := [⟨1, ⟨1⟩⟩, ⟨2, ⟨2⟩⟩]
  projects := [⟨⟨11⟩, 1⟩, ⟨⟨12⟩, 2⟩]
  nodes := [⟨⟨21⟩, 1⟩, ⟨⟨22⟩, 2⟩]
  pools := [⟨⟨31⟩, ⟨21⟩⟩, ⟨⟨32⟩, ⟨22⟩⟩]
  networks := [⟨⟨41⟩, ⟨21⟩⟩, ⟨⟨42⟩, ⟨22⟩⟩]
  templates := [{ uuid := ⟨51⟩, organization := 1, image := { uuid := ⟨61⟩, organization := 1 } }]
  targets := [⟨⟨71⟩, 1⟩, ⟨⟨72⟩, 2⟩]

/-- A member of the first organization, and of no other. -/
def memberOfOne : Grants where
  assignments := [{ user := 5, organization := 1
                    codenames := ["vm.create", "vm.update", "backup.create"] }]
  memberships := [(5, 1)]

def ordinaryUser : Client := { user := { pk := 5 }, ordinary := rfl }

/-- A VM of the first organization that names only what is of it. -/
def ownVm : CreateBody where
  organization := some ⟨1⟩
  project := some ⟨11⟩
  node := some ⟨21⟩
  storages := [⟨31⟩]
  networks := [⟨41⟩]

/-- The same with the node, the pool and the network of the second organization. -/
def foreignVm : CreateBody :=
  { ownVm with node := some ⟨22⟩, storages := [⟨32⟩], networks := [⟨42⟩] }

/-- A member of the first organization gets a VM on the node of the second one, one in its project,
and a backup to its target. -/
theorem tenancy_broken :
    (∃ s ∈ visited (step twoOrganizations memberOfOne)
        [.create ordinaryUser foreignVm { uuid := ⟨91⟩ }] {},
      (∃ v ∈ s.vms, v.organization = 1 ∧ v.node.organization = 2) ∧ ¬ s.Tenant) ∧
    (∃ s ∈ visited (step twoOrganizations memberOfOne)
        [.deploy ordinaryUser ⟨51⟩ { project := ⟨12⟩, node := some ⟨21⟩, storage := ⟨31⟩, network := ⟨41⟩ }
          { uuid := ⟨91⟩ }] {},
      (∃ v ∈ s.vms, v.organization = 1 ∧ v.project.organization = 2) ∧ ¬ s.Tenant) ∧
    ∃ s ∈ visited (step twoOrganizations memberOfOne)
        [.create ordinaryUser ownVm { uuid := ⟨91⟩ }, .attachDisk ordinaryUser ⟨91⟩ ⟨32⟩ { uuid := ⟨0⟩ },
          .attachNic ordinaryUser ⟨91⟩ ⟨42⟩ { uuid := ⟨0⟩ },
          .createBackup ordinaryUser none ⟨91⟩ ⟨72⟩ { uuid := ⟨0⟩ }] {},
      (∃ v ∈ s.vms, v.organization = 1 ∧ (∃ d ∈ v.disks, d.storage.node ≠ v.node.uuid) ∧
        (∃ n ∈ v.nics, n.node ≠ v.node.uuid) ∧ ∃ t ∈ v.backups, t.organization = 2) ∧ ¬ s.Tenant := by
  refine ⟨⟨_, List.mem_of_getElem? (i := 1) rfl, ⟨_, List.mem_cons_self, rfl, rfl⟩, ?_⟩,
    ⟨_, List.mem_of_getElem? (i := 1) rfl, ⟨_, List.mem_cons_self, rfl, rfl⟩, ?_⟩,
    _, List.mem_of_getElem? (i := 4) rfl, ⟨_, List.mem_cons_self, rfl, ?_, ?_, ?_⟩, ?_⟩
  · intro tenant
    cases (tenant.vms _ List.mem_cons_self).node
  · intro tenant
    cases (tenant.vms _ List.mem_cons_self).project
  · exact ⟨_, List.mem_of_getElem? (i := 1) rfl, by decide⟩
  · exact ⟨_, List.mem_of_getElem? (i := 1) rfl, by decide⟩
  · exact ⟨_, List.mem_cons_self, rfl⟩
  · intro tenant
    cases (tenant.vms _ List.mem_cons_self).backup _ List.mem_cons_self

end NodePilot.Inventory
