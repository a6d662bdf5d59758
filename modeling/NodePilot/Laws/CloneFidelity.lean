import NodePilot.Laws.Outcomes

/-!
# What a clone is a copy of

`clone_vm_task` copies a VM field by field, and CREATE_VM is built from the copy. The payload is to be that of
the source but for what identifies the domain and its devices. Three fields that the payload reads are in no
list of the task: `ballooning_enabled` and `boot_order` of the VM, and `rate_limit_mbps` of a NIC take the
defaults of their models in the clone.
-/

namespace NodePilot

open Lib Lib.Script

/-! ## Payloads -/

/-- `_build_domain_payload`, of the rows as they are. -/
def Tables.buildDomainPayload (t : Tables) (vm : VmRow) : Dict :=
  domainPayload vm (t.disksWithStorage vm.pk) (t.nicsWithNetwork vm.pk)

/-- An object without some of its keys. -/
def Json.without (keys : List String) : Json → Json
  | .obj fields => .obj (fields.filter (·.1 ∉ keys))
  | j => j

def Json.eachWithout (keys : List String) : Json → Json
  | .arr xs => .arr (xs.map (Json.without keys))
  | j => j

/-- A domain payload without what identifies the domain and its devices, and without what the agent reports of
a volume. -/
def anonymous (payload : Dict) : Dict :=
  (payload.filter (·.1 ∉ ["domain_uuid", "name"])).map fun e =>
    if e.1 = "disks" then (e.1, e.2.eachWithout ["uuid", "volume_id", "format"])
    else if e.1 = "nics" then (e.1, e.2.eachWithout ["uuid", "mac_address"])
    else e

/-- Nothing that identifies the clone or a device of it identifies the source or one of its devices. -/
structure OwnIdentity (t : Tables) (source clone : VmRow) : Prop where
  domainUuid : clone.domainUuid ≠ source.domainUuid
  name : clone.name ≠ source.name
  disks : ∀ d ∈ t.disksWithStorage clone.pk, ∀ e ∈ t.disksWithStorage source.pk, d.1.uuid ≠ e.1.uuid
  volumes : ∀ d ∈ t.disksWithStorage clone.pk, ∀ e ∈ t.disksWithStorage source.pk, d.1.volumeId ≠ e.1.volumeId
  nics : ∀ n ∈ t.nicsWithNetwork clone.pk, ∀ m ∈ t.nicsWithNetwork source.pk,
    n.1.uuid ≠ m.1.uuid ∧ n.1.macAddress ≠ m.1.macAddress

/-- The clone is the source, but for its identity. -/
def Faithful (t : Tables) (source clone : VmRow) : Prop :=
  anonymous (t.buildDomainPayload clone) = anonymous (t.buildDomainPayload source) ∧
    OwnIdentity t source clone

/-- The volumes that the agent has reported for CLONE_DISK. -/
def volumesReported (calls : List (AgentRequest × Dict)) : List String :=
  (calls.filter (·.1.operation = .cloneDisk)).map fun c => c.2.getStr "volume_id" ""

/-- What the task copies is all that the payload reads: ballooning is on, the boot order is the default, and no
NIC has a rate limit. -/
def Tables.plain (t : Tables) (vm : VmRow) : Prop :=
  vm.ballooningEnabled = true ∧ (vm.bootOrder = [] ∨ vm.bootOrder = ["disk"]) ∧
    ∀ n ∈ t.nicsWithNetwork vm.pk, n.1.rateLimitMbps = none

/-- Every disk and every NIC belongs to a VM, as the foreign keys have it. -/
structure Tables.Owned (t : Tables) : Prop where
  disks : ∀ d ∈ t.disks, (Table.get t.vms d.vm).isSome
  nics : ∀ n ∈ t.nics, (Table.get t.vms n.vm).isSome

/-! ### What the payload shows -/

/-- A disk without its identity. -/
def DiskRow.traits (d : DiskRow) : DiskRow :=
  { d with pk := 0, uuid := ⟨0⟩, vm := 0, sourceImage := none, volumeId := "" }

/-- A NIC without its identity. -/
def NicRow.traits (n : NicRow) : NicRow := { n with pk := 0, uuid := ⟨0⟩, vm := 0, macAddress := "" }

/-- A disk's entry without what identifies it. -/
def anonymousDisk (d : DiskRow × PoolRow) : Json := (domainDisk d.1 d.2).without ["uuid", "volume_id", "format"]

/-- A NIC's entry without what identifies it. -/
def anonymousNic (n : NicRow × NetworkRow) : Json := (domainNic n.1 n.2).without ["uuid", "mac_address"]

theorem anonymous_domainPayload {vm : VmRow} {disks : List (DiskRow × PoolRow)} {nics : List (NicRow × NetworkRow)} :
    anonymous (domainPayload vm disks nics) =
      [("os_type", .str vm.osType), ("firmware", .str vm.firmware.value), ("machine_type", .str vm.machineType),
       ("cpu", .obj [("count", .int vm.cpuCount), ("sockets", .int vm.cpuSockets), ("cores", .int vm.cpuCores),
         ("threads", .int vm.cpuThreads), ("model", .str vm.cpuModel)]),
       ("memory_mb", .int vm.memoryMb), ("ballooning_enabled", .bool vm.ballooningEnabled),
       ("boot_order", .arr ((if vm.bootOrder = [] then ["disk"] else vm.bootOrder).map .str)),
       ("disks", .arr (disks.map anonymousDisk)), ("nics", .arr (nics.map anonymousNic))] := by
  simp [anonymous, domainPayload, Json.eachWithout, anonymousDisk, anonymousNic, Function.comp_def]

section Lists

variable {t t' : Tables} {k : Nat}

/-- Rows that are alike show alike, each joined to what it refers to. -/
theorem map_joined {ρ κ ν : Type} (get : ρ → Option κ) (traits : ρ → ρ) {view : ρ × κ → ν}
    (hget : ∀ r, get (traits r) = get r) (hview : ∀ r x, view (traits r, x) = view (r, x)) {rows : List ρ}
    {joined : List (ρ × κ)} (found : ∀ x ∈ joined, get x.1 = some x.2)
    (same : rows.map traits = joined.map fun x => traits x.1) :
    (rows.filterMap fun r => (get r).map (r, ·)).map view = joined.map view := by
  induction joined generalizing rows with
  | nil =>
    rw [List.map_eq_nil_iff.mp same]
    rfl
  | cons x joined ih =>
    obtain ⟨r, rest, rfl, here, later⟩ := List.map_eq_cons_iff.mp same
    obtain ⟨this, others⟩ := List.forall_mem_cons.mp found
    have joins : get r = some x.2 := by rw [← hget, here, hget, this]
    have shows : view (r, x.2) = view x := by rw [← hview, here, hview]
    simp [joins, shows, ih others later]

/-- The pool of a disk in the payload is the one it names. -/
theorem disksWithStorage_get {d : DiskRow × PoolRow} (h : d ∈ t.disksWithStorage k) :
    Table.get t.pools d.1.storage = some d.2 := (Tables.mem_disksWithStorage.mp h).2.2

/-- The network of a NIC in the payload is the one it names. -/
theorem nicsWithNetwork_get {n : NicRow × NetworkRow} (h : n ∈ t.nicsWithNetwork k) :
    Table.get t.networks n.1.network = some n.2 := by
  obtain ⟨m, -, joined⟩ := List.mem_filterMap.mp h
  obtain ⟨net, found, rfl⟩ := Option.map_eq_some_iff.mp joined
  exact found

/-- The NICs of a VM are those that name it. -/
theorem mem_nicsOf {n : NicRow} : n ∈ t.nicsOf k ↔ n ∈ t.nics ∧ n.vm = k := by
  simp [Tables.nicsOf, List.mem_insertionSort]

theorem mem_nicsOf_of_joined {n : NicRow × NetworkRow} (h : n ∈ t.nicsWithNetwork k) : n.1 ∈ t.nicsOf k := by
  obtain ⟨m, hm, joined⟩ := List.mem_filterMap.mp h
  obtain ⟨net, -, rfl⟩ := Option.map_eq_some_iff.mp joined
  exact hm

theorem disksWithStorage_sorted :
    (t.disksWithStorage k).Pairwise fun a b => a.1.bootIndex ≤ b.1.bootIndex := by
  have total : Std.Total fun a b : DiskRow => a.bootIndex ≤ b.bootIndex := ⟨fun a b => Nat.le_total _ _⟩
  have sorted : (t.disksOf k).Pairwise fun a b => a.bootIndex ≤ b.bootIndex := List.pairwise_insertionSort _ _
  refine sorted.filterMap _ fun a b le x hx y hy => ?_
  obtain ⟨_, -, rfl⟩ := Option.map_eq_some_iff.mp hx
  obtain ⟨_, -, rfl⟩ := Option.map_eq_some_iff.mp hy
  exact le

theorem nicsWithNetwork_sorted :
    (t.nicsWithNetwork k).Pairwise fun a b => a.1.bootIndex ≤ b.1.bootIndex := by
  have total : Std.Total fun a b : NicRow => a.bootIndex ≤ b.bootIndex := ⟨fun a b => Nat.le_total _ _⟩
  have sorted : (t.nicsOf k).Pairwise fun a b => a.bootIndex ≤ b.bootIndex := List.pairwise_insertionSort _ _
  refine sorted.filterMap _ fun a b le x hx y hy => ?_
  obtain ⟨_, -, rfl⟩ := Option.map_eq_some_iff.mp hx
  obtain ⟨_, -, rfl⟩ := Option.map_eq_some_iff.mp hy
  exact le

/-- Rows that are alike come in the same order. -/
theorem sorted_of_traits {ρ κ : Type} (traits : ρ → ρ) (index : ρ → Nat) (htraits : ∀ r, index (traits r) = index r)
    {rows : List ρ} {joined : List (ρ × κ)} (same : rows.map traits = joined.map fun x => traits x.1)
    (sorted : joined.Pairwise fun a b => index a.1 ≤ index b.1) :
    rows.Pairwise fun a b => index a ≤ index b := by
  have alike : (rows.map traits).Pairwise fun a b => index a ≤ index b := by
    rw [same, List.pairwise_map]
    simpa only [htraits] using sorted
  rw [List.pairwise_map] at alike
  simpa only [htraits] using alike

/-- The disks of a VM that has only new ones. -/
theorem disksOf_new {made : List DiskRow} (disks : t'.disks = t.disks ++ made) (none : ∀ d ∈ t.disks, d.vm ≠ k)
    (own : ∀ m ∈ made, m.vm = k) (sorted : made.Pairwise fun a b => a.bootIndex ≤ b.bootIndex) :
    t'.disksOf k = made := by
  have old : t.disks.filter (·.vm = k) = [] := List.filter_eq_nil_iff.mpr (by simpa using none)
  have new : made.filter (·.vm = k) = made := List.filter_eq_self.mpr (by simpa using own)
  unfold Tables.disksOf
  rw [disks, List.filter_append, old, new, List.nil_append]
  exact sorted.insertionSort_eq

/-- The disks of a VM that has no new ones. -/
theorem disksOf_old {made : List DiskRow} (disks : t'.disks = t.disks ++ made) (other : ∀ m ∈ made, m.vm ≠ k) :
    t'.disksOf k = t.disksOf k := by
  have new : made.filter (·.vm = k) = [] := List.filter_eq_nil_iff.mpr (by simpa using other)
  unfold Tables.disksOf
  rw [disks, List.filter_append, new, List.append_nil]

/-- The NICs of a new VM are those that were made for it. -/
theorem nicsOf_new {made : List NicRow} (nics : t'.nics = t.nics ++ made) (none : ∀ n ∈ t.nics, n.vm ≠ k)
    (own : ∀ m ∈ made, m.vm = k) (sorted : made.Pairwise fun a b => a.bootIndex ≤ b.bootIndex) :
    t'.nicsOf k = made := by
  have old : t.nics.filter (·.vm = k) = [] := List.filter_eq_nil_iff.mpr (by simpa using none)
  have new : made.filter (·.vm = k) = made := List.filter_eq_self.mpr (by simpa using own)
  unfold Tables.nicsOf
  rw [nics, List.filter_append, old, new, List.nil_append]
  exact sorted.insertionSort_eq

/-- New NICs are no other VM's. -/
theorem nicsOf_old {made : List NicRow} (nics : t'.nics = t.nics ++ made) (other : ∀ m ∈ made, m.vm ≠ k) :
    t'.nicsOf k = t.nicsOf k := by
  have new : made.filter (·.vm = k) = [] := List.filter_eq_nil_iff.mpr (by simpa using other)
  unfold Tables.nicsOf
  rw [nics, List.filter_append, new, List.append_nil]

end Lists

/-! ## What the task has done -/

section Task

variable {L : Type} {l l' : L} {s s' : Ledger} {u : Unit} {source clone : VmRow} {linked : Bool}

/-- What a loop over the source's disks has added: their copies, on the volumes that the agent reported. -/
structure DisksCloned (source clone : VmRow) (ds : List (DiskRow × PoolRow)) (s s' : Ledger) (made : List DiskRow)
    (calls : List (AgentRequest × Dict)) : Prop where
  ledger : s' = ⟨{ s.rows with disks := s.rows.disks ++ made }, s.calls ++ calls⟩
  traits : made.map DiskRow.traits = ds.map fun d => d.1.traits
  own : ∀ m ∈ made, m.vm = clone.pk
  drawn : ∀ m ∈ made, ∀ d ∈ s.rows.disks, m.uuid ≠ d.uuid
  volumes : calls.map (fun c => c.2.getStr "volume_id" "") = made.map DiskRow.volumeId
  asked : ∃ linked, calls.map Prod.fst = ds.map fun d => cloneDiskRequest source clone d.1 d.2 linked

/-- Every call for the disks is a CLONE_DISK. -/
theorem DisksCloned.operation {ds : List (DiskRow × PoolRow)} {made : List DiskRow}
    {calls : List (AgentRequest × Dict)} (h : DisksCloned source clone ds s s' made calls) :
    ∀ c ∈ calls, c.1.operation = .cloneDisk := by
  obtain ⟨linked, asked⟩ := h.asked
  intro c hc
  have sent : c.1 ∈ calls.map Prod.fst := List.mem_map_of_mem hc
  rw [asked] at sent
  obtain ⟨d, -, same⟩ := List.mem_map.mp sent
  rw [← same]
  rfl

/-- A disk that was cloned has its call and its row. -/
theorem Yields.cloneDisk {d : DiskRow} {p : PoolRow}
    (h : Yields (NodePilot.cloneDisk source clone d p linked) l s u l' s') :
    l' = l ∧ ∃ m data, DisksCloned source clone [(d, p)] s s' [m]
      [(cloneDiskRequest source clone d p linked, data)] := by
  obtain ⟨data, l₁, s₁, sent, saved⟩ := h.bind
  obtain ⟨rfl, rfl⟩ := sent.sendOperation
  obtain ⟨rfl, now, uuid, t, written, rfl⟩ := saved.save rfl
  obtain ⟨free, rfl⟩ := Tables.write_diskCreate written
  refine ⟨rfl, _, data, rfl, rfl, by simp, ?_, rfl, linked, rfl⟩
  simpa using fun d hd => Ne.symm (free d hd)

/-- So have all disks. -/
theorem Yields.cloneDisks {ds : List (DiskRow × PoolRow)}
    (h : Yields (ds.forM fun d => NodePilot.cloneDisk source clone d.1 d.2 linked) l s u l' s') :
    l' = l ∧ ∃ made calls, DisksCloned source clone ds s s' made calls := by
  -- every round asks with the same `linked`
  suffices l' = l ∧ ∃ made calls, DisksCloned source clone ds s s' made calls ∧
      calls.map Prod.fst = ds.map fun d => cloneDiskRequest source clone d.1 d.2 linked by
    obtain ⟨same, made, calls, cloned, -⟩ := this
    exact ⟨same, made, calls, cloned⟩
  refine h.forM (P := fun ds l s l' s' => l' = l ∧ ∃ made calls, DisksCloned source clone ds s s' made calls ∧
    calls.map Prod.fst = ds.map fun d => cloneDiskRequest source clone d.1 d.2 linked) (fun l s =>
    ⟨rfl, [], [], ⟨by simp, rfl, by simp, by simp, rfl, linked, rfl⟩, rfl⟩) ?_
  rintro d ds l s u l₁ s₁ l' s' first ⟨rfl, made, calls, rest, asked⟩
  obtain ⟨rfl, m, data, here⟩ := first.cloneDisk
  obtain rfl := here.ledger
  have all : ((cloneDiskRequest source clone d.1 d.2 linked, data) :: calls).map Prod.fst =
      (d :: ds).map fun d => cloneDiskRequest source clone d.1 d.2 linked := by simp [asked]
  refine ⟨rfl, m :: made, (cloneDiskRequest source clone d.1 d.2 linked, data) :: calls,
    ⟨?_, ?_, ?_, ?_, ?_, linked, all⟩, all⟩
  · rw [rest.ledger]
    simp
  · simpa [rest.traits] using here.traits
  · exact List.forall_mem_cons.mpr ⟨here.own m List.mem_cons_self, rest.own⟩
  · exact List.forall_mem_cons.mpr ⟨here.drawn m List.mem_cons_self, fun x hx d hd =>
      rest.drawn x hx d (List.mem_append_left _ hd)⟩
  · simpa [rest.volumes] using here.volumes

/-- A NIC as the task copies it. -/
def unlimited (n : NicRow × NetworkRow) : NicRow × NetworkRow := ({ n.1 with rateLimitMbps := none }, n.2)

/-- What a loop over the source's NICs has added: their copies, without a rate limit. -/
structure NicsCloned (clone : Nat) (ns : List (NicRow × NetworkRow)) (s s' : Ledger) (made : List NicRow) :
    Prop where
  ledger : s' = { s with rows := { s.rows with nics := s.rows.nics ++ made } }
  traits : made.map NicRow.traits = (ns.map unlimited).map fun n => n.1.traits
  own : ∀ m ∈ made, m.vm = clone
  drawn : ∀ m ∈ made, ∀ n ∈ s.rows.nics, m.uuid ≠ n.uuid ∧ m.macAddress ≠ n.macAddress

/-- An unrecorded operation that returns leaves nothing. -/
theorem Yields.unrecorded {o : Op} {a : Ans o} (ho : o.unrecorded)
    (h : Yields (Script.perform o : TaskM L (Ans o)) l s a l' s') : l' = l ∧ s' = s :=
  Unrecorded.yields (fun l s => Keeps.perform (Op.unrecorded.opKeeps ho l s)) h

/-- A NIC that was cloned has its row. -/
theorem Yields.cloneNic {n : NicRow} {net : NetworkRow} (h : Yields (NodePilot.cloneNic clone n) l s u l' s') :
    l' = l ∧ ∃ m, NicsCloned clone.pk [(n, net)] s s' [m] := by
  obtain ⟨mac, l₁, s₁, drawn, saved⟩ := h.bind
  obtain ⟨rfl, rfl⟩ := Yields.unrecorded rfl drawn
  obtain ⟨rfl, now, uuid, t, written, rfl⟩ := saved.save rfl
  obtain ⟨free, rfl⟩ := Tables.write_nicCreate written
  refine ⟨rfl, _, rfl, rfl, by simp, ?_⟩
  simpa using fun n hn => ⟨Ne.symm (free n hn).2, Ne.symm (free n hn).1⟩

/-- So have all NICs. -/
theorem Yields.cloneNics {ns : List (NicRow × NetworkRow)}
    (h : Yields (ns.forM fun n => NodePilot.cloneNic clone n.1) l s u l' s') :
    l' = l ∧ ∃ made, NicsCloned clone.pk ns s s' made := by
  refine h.forM (P := fun ns l s l' s' => l' = l ∧ ∃ made, NicsCloned clone.pk ns s s' made) (fun l s =>
    ⟨rfl, [], by simp, rfl, by simp, by simp⟩) ?_
  rintro n ns l s u l₁ s₁ l' s' first ⟨rfl, made, rest⟩
  obtain ⟨rfl, m, here⟩ := @Yields.cloneNic _ _ _ _ _ _ clone n.1 n.2 first
  obtain rfl := here.ledger
  refine ⟨rfl, m :: made, ?_, ?_, ?_, ?_⟩
  · rw [rest.ledger]
    simp
  · simpa [rest.traits] using here.traits
  · exact List.forall_mem_cons.mpr ⟨here.own m List.mem_cons_self, rest.own⟩
  · exact List.forall_mem_cons.mpr ⟨here.drawn m List.mem_cons_self, fun x hx n hn =>
      rest.drawn x hx n (List.mem_append_left _ hn)⟩

/-- The request is built from the rows as they are. -/
theorem Yields.buildDomainRequest {vm : VmRow} {r : AgentRequest}
    (h : Yields (NodePilot.buildDomainRequest vm) l s r l' s') :
    l' = l ∧ s' = s ∧ r = vmRequest vm .createVm (s.rows.buildDomainPayload vm) := by
  obtain ⟨t, l₁, s₁, readDisks, h₁⟩ := h.bind
  obtain ⟨ht, rfl, rfl⟩ := readDisks.query
  obtain ⟨t', l₂, s₂, readNics, h₂⟩ := h₁.bind
  obtain ⟨ht', rfl, rfl⟩ := readNics.query
  obtain ⟨rfl, rfl, rfl⟩ := h₂.pure
  have disks : t.disksWithStorage vm.pk = s'.rows.disksWithStorage vm.pk := by rw [← ht]; rfl
  have nics : t'.nicsWithNetwork vm.pk = s'.rows.nicsWithNetwork vm.pk := by rw [← ht']; rfl
  rw [disks, nics]
  exact ⟨rfl, rfl, rfl⟩

/-- What a clone that succeeds has done: its rows, and the calls that the agent has confirmed. -/
structure Cloned (source clone : VmRow) (newName : String) (s s' : Ledger) (disks : List DiskRow)
    (nics : List NicRow) (calls : List (AgentRequest × Dict)) : Prop where
  fields : ∃ job uuid domainUuid, clone = { cloneRow job source newName with
    pk := Table.nextPk s.rows.vms, uuid := uuid, domainUuid := domainUuid
    status := .stopped, provisioningState := .ready }
  row : Table.get s'.rows.vms clone.pk = some clone
  drawn : ∀ v ∈ s.rows.vms, (v.project = source.project → v.name ≠ newName) ∧ v.domainUuid ≠ clone.domainUuid
  pools : s'.rows.pools = s.rows.pools
  networks : s'.rows.networks = s.rows.networks
  addedDisks : s'.rows.disks = s.rows.disks ++ disks
  addedNics : s'.rows.nics = s.rows.nics ++ nics
  cloned : ∃ s₁ s₂, DisksCloned source clone (s.rows.disksWithStorage source.pk) s₁ s₂ disks calls ∧
    s₁.rows.disks = s.rows.disks
  copied : ∃ s₁ s₂, NicsCloned clone.pk (s.rows.nicsWithNetwork source.pk) s₁ s₂ nics ∧
    s₁.rows.nics = s.rows.nics
  calls : ∃ data, s'.calls = s.calls ++
    (calls ++ [(vmRequest clone .createVm (s'.rows.buildDomainPayload clone), data)])

/-- A clone that returns has its disks, its NICs and its domain. -/
theorem Yields.cloneSteps {job : JobRow} {newName : String} {made : VmRow}
    (h : Yields (NodePilot.cloneSteps job source newName linked) l s made l' s') :
    l' = l ∧ ∃ clone disks nics calls, Cloned source clone newName s s' disks nics calls := by
  -- "Preparing clone"
  obtain ⟨clone, l₁, s₁, prepared, h₁⟩ := h.bind
  obtain ⟨row, l₂, s₂, inserted, h₂⟩ := prepared.jobRun.bind
  obtain ⟨rfl, uuid, domainUuid, t, created, rfl⟩ := inserted.insertVm
  obtain ⟨_, l₃, s₃, pointed, h₃⟩ := h₂.bind
  obtain ⟨rfl, rfl⟩ := (unrecorded_save rfl).yields pointed
  obtain ⟨rfl, rfl, rfl⟩ := h₃.pure
  -- "Cloning disks"
  obtain ⟨_, l₄, s₄, disking, h₄⟩ := h₁.bind
  obtain ⟨t₁, l₅, s₅, read, h₅⟩ := disking.jobRun.bind
  obtain ⟨ht₁, rfl, rfl⟩ := read.query
  obtain ⟨_, l₆, s₆, looped, saved⟩ := h₅.bind
  obtain ⟨rfl, disks, calls, cloned⟩ := looped.cloneDisks
  obtain ⟨rfl, rfl⟩ := saved.vmSave
  -- "Assigning new network identity"
  obtain ⟨_, l₇, s₇, networking, h₇⟩ := h₄.bind
  obtain ⟨t₂, l₈, s₈, reread, h₈⟩ := networking.jobRun.bind
  obtain ⟨ht₂, rfl, rfl⟩ := reread.query
  obtain ⟨_, l₉, s₉, nicked, entered⟩ := h₈.bind
  obtain ⟨rfl, nics, copied⟩ := nicked.cloneNics
  obtain ⟨rfl, rfl⟩ := entered.vmSave
  -- "Creating cloned domain"
  obtain ⟨_, l₁₀, s₁₀, defining, h₁₀⟩ := h₇.bind
  obtain ⟨rfl, rfl, rfl⟩ := h₁₀.pure
  obtain ⟨r, l₁₁, s₁₁, built, h₁₁⟩ := defining.jobRun.bind
  obtain ⟨rfl, rfl, rfl⟩ := built.buildDomainRequest
  obtain ⟨data, l₁₂, s₁₂, sent, finished⟩ := h₁₁.bind
  obtain ⟨rfl, rfl⟩ := sent.sendOperation
  obtain ⟨rfl, rfl⟩ := finished.vmSave
  obtain rfl := cloned.ledger
  obtain rfl := copied.ledger
  obtain ⟨rfl, pk⟩ := Tables.createVm_ok created
  obtain ⟨fields, fresh⟩ := Tables.createVm_fresh created
  have sourceDisks : t₁.disksWithStorage source.pk = s.rows.disksWithStorage source.pk := by
    show t₁.settled.disksWithStorage source.pk = _
    rw [ht₁]
    rfl
  have sourceNics : t₂.nicsWithNetwork source.pk = s.rows.nicsWithNetwork source.pk := by
    show t₂.settled.nicsWithNetwork source.pk = _
    rw [ht₂]
    rfl
  rw [sourceDisks] at cloned
  rw [sourceNics] at copied
  refine ⟨rfl, { made with status := .stopped, provisioningState := .ready }, disks, nics, calls,
    ⟨job, uuid, domainUuid, ?_⟩, ?_, ?_, rfl, rfl, rfl, rfl, ⟨_, _, ⟨cloned.ledger, cloned.traits, cloned.own, cloned.drawn, cloned.volumes, cloned.asked⟩, rfl⟩,
    ⟨_, _, copied, rfl⟩, data, ?_⟩
  · rw [fields]
  · have inserted : Table.get (s.rows.vms ++ [made]) made.pk = some made := by
      rw [pk]
      exact Table.get_append_new pk
    have saved (fields : VmFields) (vms : List VmRow) :
        Table.get (Table.modify vms made.pk fields.apply) made.pk = (Table.get vms made.pk).map fields.apply :=
      Table.get_modify_self fun _ => rfl
    simp only [Tables.vmSaved, saved, inserted]
    rfl
  · intro v hv
    rw [fields]
    exact ⟨(fresh v hv).1, (fresh v hv).2.2⟩
  · exact List.append_assoc _ _ _

/-- What a clone that succeeds has done. -/
theorem Yields.cloneVmTask {jobId vm : Nat} {newName : String}
    (h : Yields (NodePilot.cloneVmTask jobId vm newName linked) l s u l' s') :
    ∃ source clone disks nics calls, Table.get s.rows.vms vm = some source ∧
      Cloned source clone newName s s' disks nics calls := by
  obtain ⟨job, l₁, s₁, gotJob, h₁⟩ := h.bind
  obtain ⟨-, rfl, rfl⟩ := gotJob.getJob
  obtain ⟨source, l₂, s₂, gotVm, h₂⟩ := h₁.bind
  obtain ⟨found, rfl, rfl⟩ := gotVm.getVm
  have body := h₂.tryCatch fun _ => Raises.bind fun _ => Raises.throw
  obtain ⟨made, l₃, s₃, locked, h₃⟩ := body.bind
  obtain ⟨_, l₄, s₄, succeeded, h₄⟩ := h₃.bind
  obtain ⟨rfl, rfl⟩ := unrecorded_transition.yields succeeded
  obtain ⟨rfl, rfl⟩ := unrecorded_emitVmEvent.yields h₄
  obtain ⟨-, clone, disks, nics, calls, cloned⟩ := locked.withLock.withLock.cloneSteps
  exact ⟨source, clone, disks, nics, calls, found, cloned⟩

end Task

/-! ## Fidelity -/

section Fidelity

variable {source clone : VmRow} {newName : String} {s s' : Ledger} {disks : List DiskRow} {nics : List NicRow}
variable {calls : List (AgentRequest × Dict)}

/-- The source stays as it was. -/
theorem Cloned.source_kept (h : Cloned source clone newName s s' disks nics calls) (other : clone.pk ≠ source.pk) :
    s'.rows.disksWithStorage source.pk = s.rows.disksWithStorage source.pk ∧
      s'.rows.nicsWithNetwork source.pk = s.rows.nicsWithNetwork source.pk := by
  obtain ⟨_, _, cloned, -⟩ := h.cloned
  obtain ⟨_, _, copied, -⟩ := h.copied
  unfold Tables.disksWithStorage Tables.nicsWithNetwork
  rw [disksOf_old h.addedDisks fun m hm => cloned.own m hm ▸ other,
    nicsOf_old h.addedNics fun m hm => copied.own m hm ▸ other, h.pools, h.networks]
  exact ⟨rfl, rfl⟩

/-- The clone has the next key. -/
theorem Cloned.pk (h : Cloned source clone newName s s' disks nics calls) :
    clone.pk = Table.nextPk s.rows.vms := by
  obtain ⟨job, uuid, domainUuid, fields⟩ := h.fields
  rw [fields]

/-- The disks of the clone are those that were made for it. -/
theorem Cloned.disksOf_clone (h : Cloned source clone newName s s' disks nics calls) (owned : s.rows.Owned) :
    s'.rows.disksOf clone.pk = disks := by
  obtain ⟨_, _, cloned, -⟩ := h.cloned
  refine disksOf_new h.addedDisks (fun d hd own => ?_) cloned.own
    (sorted_of_traits DiskRow.traits DiskRow.bootIndex (fun _ => rfl) cloned.traits disksWithStorage_sorted)
  have owner := owned.disks d hd
  rw [own, h.pk, Table.get_nextPk] at owner
  cases owner

/-- The NICs of the clone are those that were made for it. -/
theorem Cloned.nicsOf_clone (h : Cloned source clone newName s s' disks nics calls) (owned : s.rows.Owned) :
    s'.rows.nicsOf clone.pk = nics := by
  obtain ⟨_, _, copied, -⟩ := h.copied
  refine nicsOf_new h.addedNics (fun n hn own => ?_) copied.own (sorted_of_traits NicRow.traits NicRow.bootIndex
    (fun _ => rfl) copied.traits (List.pairwise_map.mpr nicsWithNetwork_sorted))
  have owner := owned.nics n hn
  rw [own, h.pk, Table.get_nextPk] at owner
  cases owner

/-- What is left of a disk's entry depends on what is copied only. -/
theorem anonymousDisk_traits (d : DiskRow) (p : PoolRow) : anonymousDisk (d.traits, p) = anonymousDisk (d, p) := by
  simp [anonymousDisk, domainDisk, Json.without, DiskRow.traits]

/-- What is left of a NIC's entry depends on what is copied only. -/
theorem anonymousNic_traits (n : NicRow) (net : NetworkRow) : anonymousNic (n.traits, net) = anonymousNic (n, net) := by
  simp [anonymousNic, domainNic, Json.without, NicRow.traits]

/-- A NIC shows the same without its rate limit if it has none. -/
theorem anonymousNic_unlimited {n : NicRow × NetworkRow} :
    anonymousNic (unlimited n) = anonymousNic n ↔ n.1.rateLimitMbps = none := by
  cases limit : n.1.rateLimitMbps <;>
    simp [anonymousNic, domainNic, Json.without, unlimited, limit, Json.ofNat?]

/-- The disks of the clone show what the source's show. -/
theorem Cloned.disks_alike (h : Cloned source clone newName s s' disks nics calls) (owned : s.rows.Owned) :
    (s'.rows.disksWithStorage clone.pk).map anonymousDisk =
      (s.rows.disksWithStorage source.pk).map anonymousDisk := by
  obtain ⟨_, _, cloned, -⟩ := h.cloned
  rw [Tables.disksWithStorage, h.disksOf_clone owned, h.pools]
  exact map_joined (fun d : DiskRow => Table.get s.rows.pools d.storage) DiskRow.traits (fun _ => rfl)
    anonymousDisk_traits (fun _ => disksWithStorage_get) cloned.traits

/-- The NICs of the clone show what the source's show, without a rate limit. -/
theorem Cloned.nics_alike (h : Cloned source clone newName s s' disks nics calls) (owned : s.rows.Owned) :
    (s'.rows.nicsWithNetwork clone.pk).map anonymousNic =
      ((s.rows.nicsWithNetwork source.pk).map unlimited).map anonymousNic := by
  obtain ⟨_, _, copied, -⟩ := h.copied
  rw [Tables.nicsWithNetwork, h.nicsOf_clone owned, h.networks]
  refine map_joined (fun n : NicRow => Table.get s.rows.networks n.network) NicRow.traits (fun _ => rfl)
    anonymousNic_traits (fun x hx => ?_) copied.traits
  obtain ⟨n, hn, rfl⟩ := List.mem_map.mp hx
  exact nicsWithNetwork_get (n := n) hn

/-- The default boot order is that of a VM without one. -/
theorem bootOrder_iff {order : List String} :
    [Json.str "disk"] = (if order = [] then ["disk"] else order).map .str ↔ order = [] ∨ order = ["disk"] := by
  split
  · next none => simp [none]
  · next some =>
    rw [or_iff_right some, ← List.map_singleton, List.map_inj_right fun _ _ => Json.str.inj, eq_comm]

/-- The clone's payload is the source's, but for its identity, if the source is plain. -/
theorem Cloned.payload_iff (h : Cloned source clone newName s s' disks nics calls) (owned : s.rows.Owned)
    (other : clone.pk ≠ source.pk) :
    anonymous (s'.rows.buildDomainPayload clone) = anonymous (s'.rows.buildDomainPayload source) ↔
      s.rows.plain source := by
  obtain ⟨disksKept, nicsKept⟩ := h.source_kept other
  have limits : ((s.rows.nicsWithNetwork source.pk).map unlimited).map anonymousNic =
      (s.rows.nicsWithNetwork source.pk).map anonymousNic ↔
        ∀ n ∈ s.rows.nicsWithNetwork source.pk, n.1.rateLimitMbps = none := by
    rw [List.map_map, List.map_inj_left]
    exact forall₂_congr fun n _ => anonymousNic_unlimited
  obtain ⟨job, uuid, domainUuid, fields⟩ := h.fields
  have bootOrder : clone.bootOrder = [] := by rw [fields]; rfl
  have ballooning : clone.ballooningEnabled = true := by rw [fields]; rfl
  have same : clone.osType = source.osType ∧ clone.firmware = source.firmware ∧
      clone.machineType = source.machineType ∧ clone.cpuCount = source.cpuCount ∧
      clone.cpuSockets = source.cpuSockets ∧ clone.cpuCores = source.cpuCores ∧
      clone.cpuThreads = source.cpuThreads ∧ clone.cpuModel = source.cpuModel ∧ clone.memoryMb = source.memoryMb := by
    rw [fields]
    exact ⟨rfl, rfl, rfl, rfl, rfl, rfl, rfl, rfl, rfl⟩
  obtain ⟨osType, firmware, machineType, count, sockets, cores, threads, model, memory⟩ := same
  simp only [Tables.buildDomainPayload, anonymous_domainPayload, disksKept, nicsKept, h.disks_alike owned,
    h.nics_alike owned, osType, firmware, machineType, count, sockets, cores, threads, model, memory, bootOrder,
    ballooning, List.cons.injEq, Prod.mk.injEq, Json.bool.injEq, Json.arr.injEq, true_and, and_true, limits,
    if_true, List.map_cons, List.map_nil, bootOrder_iff, Tables.plain, eq_comm (a := true)]

/-- A disk of the clone copies one of the source. -/
theorem Cloned.mem_disks (h : Cloned source clone newName s s' disks nics calls) (owned : s.rows.Owned) {m : DiskRow} :
    m ∈ disks ↔ ∃ p, (m, p) ∈ s'.rows.disksWithStorage clone.pk := by
  obtain ⟨_, _, cloned, -⟩ := h.cloned
  unfold Tables.disksWithStorage
  rw [h.disksOf_clone owned, h.pools]
  constructor
  · intro hm
    have alike := List.mem_map_of_mem (f := DiskRow.traits) hm
    rw [cloned.traits] at alike
    obtain ⟨d, hd, same⟩ := List.mem_map.mp alike
    have storage : m.storage = d.1.storage := (congrArg DiskRow.storage same).symm
    refine ⟨d.2, List.mem_filterMap.mpr ⟨m, hm, ?_⟩⟩
    rw [storage, disksWithStorage_get hd]
    rfl
  · rintro ⟨p, hp⟩
    obtain ⟨m', hm, joined⟩ := List.mem_filterMap.mp hp
    obtain ⟨p', -, same⟩ := Option.map_eq_some_iff.mp joined
    cases same
    exact hm

/-- A volume of the clone is one that the agent reported. -/
theorem Cloned.volumesReported (h : Cloned source clone newName s s' disks nics calls) :
    NodePilot.volumesReported calls = disks.map DiskRow.volumeId := by
  obtain ⟨_, _, cloned, -⟩ := h.cloned
  rw [← cloned.volumes, NodePilot.volumesReported, List.filter_eq_self.mpr (by simpa using cloned.operation)]

/-- Nothing identifies the clone that identifies the source, where the agent has reported other volumes. -/
theorem Cloned.ownIdentity_iff (h : Cloned source clone newName s s' disks nics calls) (owned : s.rows.Owned)
    (found : source ∈ s.rows.vms) (other : clone.pk ≠ source.pk) : OwnIdentity s'.rows source clone ↔
      ∀ v ∈ NodePilot.volumesReported calls, ∀ d ∈ s.rows.disksWithStorage source.pk, v ≠ d.1.volumeId := by
  obtain ⟨disksKept, nicsKept⟩ := h.source_kept other
  rw [h.volumesReported]
  constructor
  · intro own v hv d hd
    obtain ⟨m, hm, rfl⟩ := List.mem_map.mp hv
    obtain ⟨p, listed⟩ := (h.mem_disks owned).mp hm
    exact own.volumes (m, p) listed d (disksKept ▸ hd)
  · intro reported
    obtain ⟨_, _, cloned, disksThen⟩ := h.cloned
    obtain ⟨_, _, copied, nicsThen⟩ := h.copied
    obtain ⟨job, uuid, domainUuid, fields⟩ := h.fields
    have name : clone.name = newName := by rw [fields]; rfl
    refine ⟨Ne.symm (h.drawn source found).2, name ▸ Ne.symm ((h.drawn source found).1 rfl), fun d hd e he => ?_,
      fun d hd e he => ?_, fun n hn m hm => ?_⟩
    · rw [disksKept] at he
      refine cloned.drawn d.1 ((h.mem_disks owned).mpr ⟨d.2, hd⟩) e.1 ?_
      rw [disksThen]
      exact (Tables.mem_disksWithStorage.mp he).1
    · rw [disksKept] at he
      exact reported _ (List.mem_map_of_mem ((h.mem_disks owned).mpr ⟨d.2, hd⟩)) e he
    · rw [nicsKept] at hm
      refine copied.drawn n.1 ?_ m.1 ?_
      · have listed := mem_nicsOf_of_joined hn
        rwa [h.nicsOf_clone owned] at listed
      · rw [nicsThen]
        exact (mem_nicsOf.mp (mem_nicsOf_of_joined hm)).1

/-- What identifies a VM is no matter of jobs. -/
theorem ownIdentity_settled {t : Tables} : OwnIdentity t.settled source clone ↔ OwnIdentity t source clone :=
  ⟨fun h => ⟨h.domainUuid, h.name, h.disks, h.volumes, h.nics⟩,
    fun h => ⟨h.domainUuid, h.name, h.disks, h.volumes, h.nics⟩⟩

end Fidelity

/-! ## The task -/

/-- **A clone is its source, but for its identity**, exactly if the source is plain and the agent has reported no
volume of the source as one of the clone's. -/
theorem clone_faithful_iff {taskId newName : String} {jobId vm : Nat} {linked : Bool} {w w' : World}
    (owned : w.db.Owned) (quiet : w.trace = [])
    (done : (Task.cloneVm vm newName linked).succeed taskId jobId w = some w') :
    ∃ source clone, Table.get w.db.vms vm = some source ∧
      Table.get w'.db.vms (Table.nextPk w.db.vms) = some clone ∧
      (∃ data, (vmRequest clone .createVm (w'.db.buildDomainPayload clone), data) ∈ w'.confirmed) ∧
      (Faithful w'.db source clone ↔ w.db.plain source ∧
        ∀ v ∈ volumesReported w'.confirmed, ∀ d ∈ w.db.disksWithStorage vm, v ≠ d.1.volumeId) := by
  obtain ⟨source, clone, disks, nics, calls, found, cloned⟩ := (Task.succeed_yields done).cloneVmTask
  have found : Table.get w.db.vms vm = some source := found
  have owned : w.ledger.rows.Owned := ⟨owned.disks, owned.nics⟩
  have pk : source.pk = vm := Table.pk_of_get found
  have other : clone.pk ≠ source.pk := by
    rw [cloned.pk, pk]
    exact Table.nextPk_ne found
  obtain ⟨data, called⟩ := cloned.calls
  have confirmed : w'.confirmed =
      calls ++ [(vmRequest clone .createVm (w'.db.buildDomainPayload clone), data)] := by
    have none : w.ledger.calls = [] := by simp [World.ledger, World.confirmed, quiet]
    rw [none] at called
    exact called
  have reported : volumesReported w'.confirmed = volumesReported calls := by
    rw [confirmed]
    simp [volumesReported, vmRequest]
  refine ⟨source, clone, found, ?_, ⟨data, ?_⟩, ?_⟩
  · exact cloned.pk ▸ cloned.row
  · rw [confirmed]
    simp
  · rw [reported, ← pk]
    exact and_congr (cloned.payload_iff owned other)
      (ownIdentity_settled.symm.trans (cloned.ownIdentity_iff owned (Table.mem_of_get found) other))

/-- A stopped VM with a disk and a NIC. -/
def webVm : VmRow :=
  { pk := 1, uuid := ⟨1⟩, domainUuid := ⟨2⟩, organization := 1, project := 1, node := some 1, name := "web"
    status := .stopped, provisioningState := .ready }

/-- A VM with one disk and one NIC. -/
def webTables : Tables :=
  { jobs := [{ pk := 1, uuid := ⟨3⟩, type := .vmClone }]
    vms := [webVm]
    disks := [{ pk := 1, uuid := ⟨4⟩, vm := 1, storage := 1, name := "root", volumeId := "/pool/root", sizeBytes := 1 }]
    nics := [{ pk := 1, uuid := ⟨5⟩, vm := 1, network := 1, macAddress := "52:54:00:00:00:01" }]
    pools := [{ pk := 1, uuid := ⟨6⟩, node := 1, name := "p", type := .directory, path := "/pool" }]
    networks := [{ pk := 1, uuid := ⟨7⟩, node := 1, name := "n", bridge := "br0" }] }

/-- The surroundings of a clone: identifiers that are not in use, and an agent that reports a new volume. -/
def cloneChoice (i : Nat) : Choice :=
  { agent := .ok [("volume_id", .str "/pool/copy")], uuid := ⟨100 + i⟩, domainUuid := ⟨200 + i⟩
    mac := "52:54:00:00:00:02" }

/-- The agent confirms whatever it is asked for. -/
def webWorld : World := { db := webTables, script := cloneChoice }

theorem clone_faithful_iff_web : ∃ w' source clone,
    (Task.cloneVm 1 "web-2" false).succeed "t" 1 webWorld = some w' ∧
    Table.get webTables.vms 1 = some source ∧ Table.get w'.db.vms 2 = some clone ∧
    (Faithful w'.db source clone ↔ webTables.plain source ∧
      ∀ v ∈ volumesReported w'.confirmed, ∀ d ∈ webTables.disksWithStorage 1, v ≠ d.1.volumeId) := by
  have owned : webTables.Owned := ⟨by decide, by decide⟩
  obtain ⟨w', done⟩ := Option.isSome_iff_exists.mp
    (by decide +kernel : ((Task.cloneVm 1 "web-2" false).succeed "t" 1 webWorld).isSome)
  obtain ⟨source, clone, found, made, -, faithful⟩ := clone_faithful_iff owned rfl done
  exact ⟨w', source, clone, done, found, made, faithful⟩

/-- The same VM, without ballooning. -/
def fixedMemory : World := { webWorld with db := { webTables with vms := [{ webVm with ballooningEnabled := false }] } }

theorem clone_loses_ballooning : ¬ ∀ (taskId newName : String) (jobId vm : Nat) (linked : Bool) (w w' : World),
    w.db.Owned → w.trace = [] → (Task.cloneVm vm newName linked).succeed taskId jobId w = some w' →
    ∀ source clone, Table.get w.db.vms vm = some source →
      Table.get w'.db.vms (Table.nextPk w.db.vms) = some clone → Faithful w'.db source clone := by
  intro h
  have owned : fixedMemory.db.Owned := ⟨by decide, by decide⟩
  have run : ∃ w', (Task.cloneVm 1 "web-2" false).succeed "t" 1 fixedMemory = some w' ∧
      (Table.get w'.db.vms 2).any (·.ballooningEnabled) := by
    refine (Option.any_eq_true _ _).mp ?_
    decide +kernel
  obtain ⟨w', done, made⟩ := run
  obtain ⟨clone, found, ballooning⟩ := (Option.any_eq_true _ _).mp made
  obtain ⟨alike, -⟩ := h _ _ _ _ _ _ w' owned rfl done _ clone rfl found
  simp only [Tables.buildDomainPayload, anonymous_domainPayload] at alike
  simp [ballooning] at alike

end NodePilot
