import NodePilot.Creation
import NodePilot.Lib.Rely

/-!
# What a call of `create_vm` does

A call keeps to itself until its commit, and what it commits is whole: the VM, a row for each of its disks and
NICs, and its job. The log has no more than that of a call, and the task.
-/

namespace NodePilot.Creation

open Lib Lib.Script

/-! ## What a call makes -/

/-- The row of a disk of the VM. -/
def DiskOf (vm : Nat) (spec : DiskSpec × Nat) (row : DiskRow) : Prop :=
  ∃ storage, spec.1.storage = some storage ∧
    row = { spec.1.row vm storage spec.2 with pk := row.pk, uuid := row.uuid }

/-- The row of a NIC of the VM, with the address that was asked for, if any. -/
def NicOf (vm : Nat) (spec : NicSpec × Nat) (row : NicRow) : Prop :=
  row = { spec.1.row vm row.macAddress spec.2 with pk := row.pk, uuid := row.uuid } ∧
    ∀ m ∈ spec.1.macAddress, m ≠ "" → row.macAddress = m

/-- The rows of a new VM, all of them and no others. -/
structure Whole (spec : NewVm) (vm : VirtualMachine) (job : Job) (rows : Rows) : Prop where
  made : ∃ node,
    vm = { spec.vmRow node with pk := vm.pk, uuid := vm.uuid, domainUuid := vm.domainUuid } ∧
    job = { spec.jobRow node vm with pk := job.pk, uuid := job.uuid }
  vms : rows.vms = [vm]
  disks : List.Forall₂ (DiskOf vm.pk) spec.diskSpecs.zipIdx rows.disks
  nics : List.Forall₂ (NicOf vm.pk) spec.nics.zipIdx rows.nics
  jobs : rows.jobs = [job]

/-- What the log has of one call. -/
inductive Story (spec : NewVm) : List Entry → Prop
  | nothing : Story spec []
  | committed {vm job rows} (whole : Whole spec vm job rows) : Story spec [.committed rows]
  | enqueued {vm job rows} (whole : Whole spec vm job rows) :
      Story spec [.committed rows, .enqueued job.pk vm.pk]

/-- The entries of one call. -/
def Db.story (s : Db) (i : Nat) : List Entry := (s.log.filter (·.1 = i)).map (·.2)

/-- The VMs of both are there. -/
@[simp] theorem append_vms (a b : Rows) : (a ++ b).vms = a.vms ++ b.vms := rfl
@[simp] theorem append_disks (a b : Rows) : (a ++ b).disks = a.disks ++ b.disks := rfl
@[simp] theorem append_nics (a b : Rows) : (a ++ b).nics = a.nics ++ b.nics := rfl
@[simp] theorem append_jobs (a b : Rows) : (a ++ b).jobs = a.jobs ++ b.jobs := rfl

/-- Nothing is added. -/
@[simp] theorem append_empty (a : Rows) : a ++ {} = a := by
  show Rows.mk _ _ _ _ = a
  simp

/-! ## What a statement does -/

namespace Db

variable {s s' : Db} {i j : Nat} {c : Choice} {rows : Rows}

/-- What is pending for a call is what it was set to. -/
@[simp] theorem setPending_self : (s.setPending i rows).pending i = rows := if_pos rfl

/-- What is pending for the others stays. -/
theorem setPending_ne (h : j ≠ i) : (s.setPending i rows).pending j = s.pending j := if_neg h

/-- A statement that nobody else notices, for now. -/
structure Quiet (i : Nat) (s s' : Db) : Prop where
  rows : s'.rows = s.rows
  pending : ∀ j, j ≠ i → s'.pending j = s.pending j
  drawn : s.drawn ⊆ s'.drawn
  calls : s'.calls = s.calls
  log : s'.log = s.log

/-- Nothing happened. -/
theorem Quiet.refl : Quiet i s s := ⟨rfl, fun _ _ => rfl, List.Subset.refl _, rfl, rfl⟩

/-- Changing what is pending is not seen by the others. -/
theorem quiet_setPending : Quiet i s (s.setPending i rows) :=
  ⟨rfl, fun _ => setPending_ne, List.Subset.refl _, rfl, rfl⟩

/-- An insertion takes its row, unless it fails. -/
theorem insert_cases {ρ : Type} {t : Table ρ} {row : ρ} {r : Except Exn ρ}
    (h : s.insert c i t row = some (r, s')) :
    Quiet i s s' ∧ ((∃ e, r = .error e) ∧ s'.pending i = s.pending i ∨
      r = .ok row ∧ s'.pending i = s.pending i ++ t.single row ∧
        brokenBy row (t.rows (s.seen i)) (s.elsewhere i t) t.constraints = some none) := by
  have drawn : s.drawn ⊆ (t.name, c.pk) :: s.drawn := List.subset_cons_self _ _
  unfold insert at h
  split at h
  · cases h
    exact ⟨.refl, .inl ⟨⟨_, rfl⟩, rfl⟩⟩
  · split at h
    · cases h
    · simp only at h
      split at h
      · cases h
      · cases h
        exact ⟨⟨rfl, fun _ _ => rfl, drawn, rfl, rfl⟩, .inl ⟨⟨_, rfl⟩, rfl⟩⟩
      · next fits =>
        cases h
        exact ⟨⟨rfl, fun _ hj => setPending_ne hj, drawn, rfl, rfl⟩, .inr ⟨rfl, setPending_self, fits⟩⟩

/-- What the others notice of a statement: nothing, or a commit, or a task. -/
theorem act_cases {o : Op} {a : Ans o} (h : act c i o s = some (a, s')) :
    Quiet i s s' ∨
    (c.fails = none ∧ s' = { s.setPending i {} with
      rows := s.seen i, log := s.log ++ [(i, .committed (s.pending i))] }) ∨
    ∃ job vm, s' = { s with log := s.log ++ [(i, .enqueued job vm)] } := by
  cases o with
  | enter | rollback =>
    cases h
    exact .inl quiet_setPending
  | leave =>
    simp only [act] at h
    split at h
    · cases h
      exact .inl quiet_setPending
    · next accepted =>
      cases h
      exact .inr (.inl ⟨accepted, rfl⟩)
  | read | selectNode | generateMacAddress =>
    cases h
    exact .inl .refl
  | reserve =>
    simp only [act] at h
    split at h <;> cases h <;> exact .inl .refl
  | insertVm | insertDisk | insertNic | insertJob => exact .inl (insert_cases h).1
  | delay job vm =>
    simp only [act] at h
    split at h
    · cases h
      exact .inl .refl
    · cases h
      exact .inr (.inr ⟨job, vm, rfl⟩)

end Db

/-! ## The discipline -/

namespace Db

/-- Every call has a story so far. -/
structure Told (s : Db) : Prop where
  story : ∀ i spec, s.calls[i]? = some spec → Story spec (s.story i)
  later : ∀ i, s.calls.length ≤ i → s.story i = []

/-- What a call may count on between two of its statements. -/
structure Relies (i : Nat) (s s' : Db) : Prop where
  pending : s'.pending i = s.pending i
  story : s'.story i = s.story i
  call : ∀ spec, s.calls[i]? = some spec → s'.calls[i]? = some spec

variable {s s' s'' : Db} {i j : Nat} {e : Entry}

/-- A call may rely on nothing happening. -/
theorem Relies.refl : Relies i s s := ⟨rfl, rfl, fun _ h => h⟩

/-- What others do adds up. -/
theorem Relies.trans (h : Relies i s s') (h' : Relies i s' s'') : Relies i s s'' :=
  ⟨h'.pending.trans h.pending, h'.story.trans h.story, fun spec hi => h'.call spec (h.call spec hi)⟩

/-- A call's story is what the log says of it. -/
theorem story_congr (h : s'.log = s.log) : s'.story i = s.story i := by rw [story, story, h]

/-- One entry of the log is one entry of one story. -/
theorem story_append (h : s'.log = s.log ++ [(i, e)]) :
    s'.story j = if j = i then s.story j ++ [e] else s.story j := by
  by_cases same : j = i
  · subst same
    simp [story, h]
  · simp [story, h, same, Ne.symm same]

/-- The others may rely on a quiet step. -/
theorem Quiet.relies (h : Quiet i s s') (hj : j ≠ i) : Relies j s s' :=
  ⟨h.pending j hj, story_congr h.log, fun spec hi => by rwa [h.calls]⟩

/-- A quiet step tells nothing. -/
theorem Quiet.told (h : Quiet i s s') (told : s.Told) : s'.Told := by
  constructor
  · intro j spec hj
    rw [story_congr h.log]
    exact told.story j spec (by rwa [h.calls] at hj)
  · intro j hj
    rw [story_congr h.log]
    exact told.later j (by rwa [h.calls] at hj)

/-- A step that adds to the story of its call. -/
structure Tells (i : Nat) (e : Entry) (s s' : Db) : Prop where
  pending : ∀ j, j ≠ i → s'.pending j = s.pending j
  calls : s'.calls = s.calls
  log : s'.log = s.log ++ [(i, e)]

/-- The others may rely on a step that tells of this call. -/
theorem Tells.relies (h : Tells i e s s') (hj : j ≠ i) : Relies j s s' := by
  refine ⟨h.pending j hj, ?_, fun spec hi => by rwa [h.calls]⟩
  rw [story_append h.log, if_neg hj]

/-- What is told stays in order with the new entry. -/
theorem Tells.told {spec : NewVm} (h : Tells i e s s') (told : s.Told) (called : s.calls[i]? = some spec)
    (next : Story spec (s.story i ++ [e])) : s'.Told := by
  constructor
  · intro j spec' hj
    rw [h.calls] at hj
    rw [story_append h.log]
    by_cases same : j = i
    · subst same
      rw [called] at hj
      cases hj
      rwa [if_pos rfl]
    · rw [if_neg same]
      exact told.story j spec' hj
  · intro j hj
    rw [h.calls] at hj
    have other : j ≠ i := by
      rintro rfl
      have := (List.getElem?_eq_some_iff.mp called).1
      omega
    rw [story_append h.log, if_neg other]
    exact told.later j hj

end Db

/-- What a call may rely on, and how it ends. -/
def discipline : Discipline system where
  ok _ _ _ _ := True
  inv := Db.Told
  rely := Db.Relies
  guar i s s' := ∀ j, j ≠ i → Db.Relies j s s'
  rely_refl _ _ := .refl
  rely_trans _ _ _ _ := .trans
  guar_rely _ j _ _ hne h := h j (Ne.symm hne)

section Calls

variable {i : Nat} {α : Type} {spec : NewVm} {P : Db → Prop}

/-- From a state of `P` the call keeps to the discipline, and returns in `Q`. -/
abbrev Keeps (i : Nat) (P : Db → Prop) (x : CallM α) (Q : α → Db → Prop) : Prop :=
  Safe discipline i P x Q fun _ _ => True

/-- A call, with its story so far. -/
structure Called (i : Nat) (spec : NewVm) (story : List Entry) (s : Db) : Prop where
  call : s.calls[i]? = some spec
  story : s.story i = story

/-- A call in its transaction, with what it has inserted. -/
structure At (i : Nat) (spec : NewVm) (rows : Rows) (s : Db) : Prop extends Called i spec [] s where
  pending : s.pending i = rows

/-- An assertion that the other calls respect. -/
def Stable (i : Nat) (P : Db → Prop) : Prop := ∀ s s', Db.Relies i s s' → P s → P s'

/-- Nobody else adds to a call's story. -/
theorem stable_called {story : List Entry} : Stable i (Called i spec story) :=
  fun _ _ step h => ⟨step.call spec h.call, step.story.trans h.story⟩

/-- Nobody else changes what is pending for a call. -/
theorem stable_at {rows : Rows} : Stable i (At i spec rows) :=
  fun s s' step h => ⟨stable_called s s' step h.toCalled, step.pending.trans h.pending⟩

/-- A quiet step adds nothing to the story. -/
theorem Called.quiet {story : List Entry} {s s' : Db} (h : Called i spec story s) (quiet : s.Quiet i s') :
    Called i spec story s' :=
  ⟨by rw [quiet.calls]; exact h.call, (Db.story_congr quiet.log).trans h.story⟩

/-- A statement that is quiet. -/
theorem keeps_quiet {o : Op} {Q : Ans o → Db → Prop} (stable : Stable i P)
    (quiet : ∀ c s a s', P s → Db.act c i o s = some (a, s') → s.Quiet i s' ∧ Q a s') :
    Keeps i P (perform o) Q := by
  refine Safe.perform stable ?_
  intro s c a s' hP told _ hact
  obtain ⟨step, after⟩ := quiet c s a s' hP hact
  exact ⟨step.told told, fun j hj => step.relies hj, after⟩

/-- A statement that returns has kept what its script keeps. -/
theorem keeps_statement {x : CallM (Except Exn α)} {Q : α → Db → Prop}
    (h : Keeps i P x fun r s => ∀ a, r = .ok a → Q a s) : Keeps i P (statement x) Q := by
  refine Safe.bind h fun r => ?_
  cases r with
  | ok a => exact Safe.pure fun s hs => hs a rfl
  | error e => exact Safe.throw fun _ _ => trivial

/-- A call that has inserted rows of some kind. -/
def Has (i : Nat) (spec : NewVm) (F : Rows → Prop) (s : Db) : Prop := ∃ rows, F rows ∧ At i spec rows s

/-- What is said of the pending rows is stable. -/
theorem stable_has {F : Rows → Prop} : Stable i (Has i spec F) :=
  fun s s' step ⟨rows, inserted, here⟩ => ⟨rows, inserted, stable_at s s' step here⟩

/-! ### Insertions -/

/-- A quiet step takes the pending rows as far as it says. -/
theorem Has.quiet {F G : Rows → Prop} {s s' : Db} (h : Has i spec F s) (quiet : s.Quiet i s')
    (next : F (s.pending i) → G (s'.pending i)) : Has i spec G s' := by
  obtain ⟨rows, inserted, here⟩ := h
  obtain rfl := here.pending
  exact ⟨_, next inserted, here.toCalled.quiet quiet, rfl⟩

/-- A row that is inserted joins those of the call. -/
theorem Has.insert {ρ : Type} {t : Table ρ} {row : ρ} {r : Except Exn ρ} {F G : Rows → Prop} {c : Choice}
    {s s' : Db} (h : Has i spec F s) (act : s.insert c i t row = some (r, s'))
    (next : ∀ rows, F rows → G (rows ++ t.single row)) :
    s.Quiet i s' ∧ ∀ x, r = .ok x → x = row ∧ Has i spec G s' := by
  obtain ⟨quiet, ⟨⟨e, rfl⟩, -⟩ | ⟨rfl, pending, -⟩⟩ := Db.insert_cases act
  · exact ⟨quiet, fun x hx => by cases hx⟩
  · refine ⟨quiet, fun x hx => ?_⟩
    cases hx
    exact ⟨rfl, h.quiet quiet fun inserted => by rw [pending]; exact next _ inserted⟩

/-- A statement that inserts nothing. -/
theorem keeps_still {o : Op} {F : Rows → Prop}
    (still : ∀ c s a s', Db.act c i o s = some (a, s') → s' = s) :
    Keeps i (Has i spec F) (perform o) fun _ => Has i spec F := by
  refine keeps_quiet stable_has ?_
  intro c s a s' here hact
  obtain rfl := still c s a s' hact
  exact ⟨.refl, here⟩

/-- The rows of a new VM, as far as they are inserted. -/
structure Filling (vm : VirtualMachine) (disks : List (DiskSpec × Nat)) (nics : List (NicSpec × Nat))
    (rows : Rows) : Prop where
  vms : rows.vms = [vm]
  disks : List.Forall₂ (DiskOf vm.pk) disks rows.disks
  nics : List.Forall₂ (NicOf vm.pk) nics rows.nics
  jobs : rows.jobs = []

variable {vm : VirtualMachine} {ds : List (DiskSpec × Nat)} {ns : List (NicSpec × Nat)}

/-- One more disk is there. -/
theorem Filling.disk {rows : Rows} {d : DiskSpec × Nat} {row : DiskRow} (h : Filling vm ds ns rows)
    (new : DiskOf vm.pk d row) : Filling vm (ds ++ [d]) ns (rows ++ vmDisks.single row) where
  vms := by simp [vmDisks, h.vms]
  disks := List.rel_append h.disks (.cons new .nil)
  nics := by simpa [vmDisks] using h.nics
  jobs := by simp [vmDisks, h.jobs]

/-- One more NIC is there. -/
theorem Filling.nic {rows : Rows} {n : NicSpec × Nat} {row : NicRow} (h : Filling vm ds ns rows)
    (new : NicOf vm.pk n row) : Filling vm ds (ns ++ [n]) (rows ++ vmNics.single row) where
  vms := by simp [vmNics, h.vms]
  disks := by simpa [vmNics] using h.disks
  nics := List.rel_append h.nics (.cons new .nil)
  jobs := by simp [vmNics, h.jobs]

/-- A disk is added as the call asks for it. -/
theorem keeps_createDisk {d : DiskSpec × Nat} : Keeps i (Has i spec (Filling vm ds ns))
    (createDisk vm.pk d.1 d.2) fun _ => Has i spec (Filling vm (ds ++ [d]) ns) := by
  unfold createDisk
  cases stored : d.1.storage with
  | none => exact Safe.throw fun _ _ => trivial
  | some storage =>
    refine Safe.bind (Q := fun _ => Has i spec (Filling vm (ds ++ [d]) ns))
      (keeps_statement (keeps_quiet stable_has ?_)) fun _ => Safe.pure fun _ h => h
    intro c s r s' here hact
    obtain ⟨quiet, taken⟩ := here.insert hact fun rows filling =>
      filling.disk (d := d) ⟨storage, stored, rfl⟩
    exact ⟨quiet, fun x hx => (taken x hx).2⟩

/-- An address for a NIC is the one that was asked for, if any. -/
theorem keeps_macAddressOf {n : NicSpec} {F : Rows → Prop} :
    Keeps i (Has i spec F) (macAddressOf n) fun m s =>
      (∀ m' ∈ n.macAddress, m' ≠ "" → m = m') ∧ Has i spec F s := by
  unfold macAddressOf
  split
  · next m given =>
    refine Safe.pure fun s here => ⟨fun m' hm' _ => ?_, here⟩
    have same := (Option.filter_eq_some_iff.mp given).1
    exact Option.some.inj (same.symm.trans hm')
  · next free =>
    refine Safe.conseq (keeps_still fun c s a s' hact => ?_) (fun _ h => h) (fun m s here => ?_)
      fun _ _ _ => trivial
    · cases hact
      rfl
    · refine ⟨fun m' hm' nonempty => ?_, here⟩
      rw [Option.mem_def.mp hm', Option.filter_eq_none_iff] at free
      exact absurd (by simpa using nonempty) (free m' rfl)

/-- A NIC is added as the call asks for it. -/
theorem keeps_createNic {n : NicSpec × Nat} : Keeps i (Has i spec (Filling vm ds ns))
    (createNic vm.pk n.1 n.2) fun _ => Has i spec (Filling vm ds (ns ++ [n])) := by
  refine Safe.bind keeps_macAddressOf fun m => ?_
  have stable : Stable i fun s => (∀ m' ∈ n.1.macAddress, m' ≠ "" → m = m') ∧
      Has i spec (Filling vm ds ns) s := fun s s' step h => ⟨h.1, stable_has s s' step h.2⟩
  refine Safe.bind (Q := fun _ => Has i spec (Filling vm ds (ns ++ [n])))
    (keeps_statement (keeps_quiet stable ?_)) fun _ => Safe.pure fun _ h => h
  intro c s r s' ⟨asked, here⟩ hact
  obtain ⟨quiet, taken⟩ := here.insert hact fun rows filling => filling.nic (n := n) ⟨rfl, asked⟩
  exact ⟨quiet, fun x hx => (taken x hx).2⟩

/-- All rows of a new VM. -/
theorem keeps_insertRows {node : Nat} : Keeps i (Has i spec (· = {})) (insertRows spec node)
    fun made => Has i spec (Whole spec made.1 made.2) := by
  let NewRow (vm : VirtualMachine) : Prop :=
    vm = { spec.vmRow node with pk := vm.pk, uuid := vm.uuid, domainUuid := vm.domainUuid }
  have first : Keeps i (Has i spec (· = {})) (perform (Op.insertVm (spec.vmRow node))) fun r s =>
      ∀ vm, r = .ok vm → NewRow vm ∧ Has i spec (Filling vm [] []) s := by
    refine keeps_quiet stable_has ?_
    intro c s r s' here hact
    let row : VirtualMachine :=
      { spec.vmRow node with pk := c.pk, uuid := c.uuid, domainUuid := c.domainUuid }
    obtain ⟨quiet, taken⟩ := here.insert (G := Filling row [] []) hact fun rows empty => by
      rw [empty]
      exact ⟨rfl, .nil, .nil, rfl⟩
    refine ⟨quiet, fun vm hvm => ?_⟩
    obtain ⟨rfl, filled⟩ := taken vm hvm
    exact ⟨rfl, filled⟩
  refine Safe.bind (keeps_statement first) fun vm => ?_
  -- the loops go through the lists, the VM is known
  intro l s ⟨new, here⟩
  have disks : Keeps i (Has i spec (Filling vm [] [])) (spec.diskSpecs.zipIdx.forM fun d =>
      createDisk vm.pk d.1 d.2) fun _ => Has i spec (Filling vm spec.diskSpecs.zipIdx []) :=
    Safe.forM (P := fun ds => Has i spec (Filling vm ds [])) fun d _ ds => keeps_createDisk
  have nics : Keeps i (Has i spec (Filling vm spec.diskSpecs.zipIdx [])) (spec.nics.zipIdx.forM fun n =>
      createNic vm.pk n.1 n.2) fun _ => Has i spec (Filling vm spec.diskSpecs.zipIdx spec.nics.zipIdx) :=
    Safe.forM (P := fun ns => Has i spec (Filling vm spec.diskSpecs.zipIdx ns)) fun n _ ns =>
      keeps_createNic
  have last : Keeps i (Has i spec (Filling vm spec.diskSpecs.zipIdx spec.nics.zipIdx))
      (perform (Op.insertJob (spec.jobRow node vm))) fun r s =>
        ∀ job, r = .ok job → Has i spec (Whole spec vm job) s := by
    refine keeps_quiet stable_has ?_
    intro c s r s' here hact
    let row : Job := { spec.jobRow node vm with pk := c.pk, uuid := c.uuid }
    obtain ⟨quiet, taken⟩ := here.insert (G := Whole spec vm row) hact fun rows filling =>
      { made := ⟨node, new, rfl⟩
        vms := by simp [jobs, filling.vms]
        disks := by simpa [jobs] using filling.disks
        nics := by simpa [jobs] using filling.nics
        jobs := by
          rw [append_jobs, filling.jobs]
          rfl }
    refine ⟨quiet, fun job hjob => ?_⟩
    obtain ⟨rfl, whole⟩ := taken job hjob
    exact whole
  refine Safe.bind disks (fun _ => Safe.bind nics fun _ => Safe.bind (keeps_statement last)
    fun job => ?_) l s here
  exact Safe.pure fun _ h => h

/-- The transaction, up to its end. -/
theorem keeps_transaction : Keeps i (Has i spec (· = {})) (transaction spec)
    fun made => Has i spec (Whole spec made.1 made.2) := by
  have looked : Keeps i (Has i spec (· = {})) (findExisting spec) fun _ => Has i spec (· = {}) := by
    unfold findExisting
    split
    · exact Safe.pure fun _ h => h
    · refine Safe.bind (keeps_still fun c s a s' hact => ?_) fun _ => Safe.pure fun _ h => h
      cases hact
      rfl
  refine Safe.bind looked fun found => ?_
  cases found with
  | some vm => exact Safe.throw fun _ _ => trivial
  | none =>
    have reserved : Keeps i (Has i spec (· = {})) (statement (perform (Op.reserve spec.organization
        spec.project spec.cpuCount spec.memoryMb spec.totalDiskGb))) fun _ => Has i spec (· = {}) := by
      refine keeps_statement (Safe.conseq (keeps_still fun c s a s' hact => ?_) (fun _ h => h)
        (fun _ _ h _ _ => h) fun _ _ h => h)
      simp only [Db.act] at hact
      split at hact <;> cases hact <;> rfl
    have placed : Keeps i (Has i spec (· = {})) (placeVm spec) fun _ => Has i spec (· = {}) := by
      unfold placeVm
      cases spec.node with
      | some node => exact Safe.pure fun _ h => h
      | none =>
        refine keeps_statement (Safe.conseq (keeps_still fun c s a s' hact => ?_) (fun _ h => h)
          (fun _ _ h _ _ => h) fun _ _ h => h)
        cases hact
        rfl
    exact Safe.bind reserved fun _ => Safe.bind placed fun node => keeps_insertRows

/-! ### The end -/

/-- The commit of the rows of a new VM. -/
theorem keeps_leave {F : Rows → Prop} (whole : ∀ rows, F rows → Story spec [.committed rows]) :
    Keeps i (Has i spec F) (perform Op.leave) fun r s => ∀ u, r = .ok u →
      ∃ rows, F rows ∧ Called i spec [.committed rows] s := by
  refine Safe.perform stable_has ?_
  intro s c r s' ⟨rows, inserted, here⟩ told _ hact
  simp only [system, Db.act] at hact
  split at hact
  · cases hact
    exact ⟨Db.quiet_setPending.told told, fun j hj => Db.quiet_setPending.relies hj,
      fun u hu => by cases hu⟩
  · cases hact
    obtain rfl := here.pending
    have tells : Db.Tells i (.committed (s.pending i)) s { s.setPending i {} with
        rows := s.seen i, log := s.log ++ [(i, .committed (s.pending i))] } :=
      ⟨fun j hj => Db.setPending_ne hj, rfl, rfl⟩
    have story := Db.story_append (j := i) tells.log
    rw [if_pos rfl, here.story] at story
    refine ⟨tells.told told here.call ?_, fun j hj => tells.relies hj,
      fun u _ => ⟨_, inserted, here.call, story⟩⟩
    rw [here.story]
    exact whole _ inserted

/-- The task of a VM that is committed. -/
theorem keeps_delay {vm : VirtualMachine} {job : Job} :
    Keeps i (fun s => ∃ rows, Whole spec vm job rows ∧ Called i spec [.committed rows] s)
      (perform (Op.delay job.pk vm.pk)) fun r s => ∀ u, r = .ok u → ∃ rows, Whole spec vm job rows ∧
        Called i spec [.committed rows, .enqueued job.pk vm.pk] s := by
  refine Safe.perform (fun s s' step ⟨rows, whole, here⟩ =>
    ⟨rows, whole, stable_called s s' step here⟩) ?_
  intro s c r s' ⟨rows, whole, here⟩ told _ hact
  simp only [system, Db.act] at hact
  split at hact
  · cases hact
    exact ⟨told, fun _ _ => .refl, fun u hu => by cases hu⟩
  · cases hact
    have tells : Db.Tells i (.enqueued job.pk vm.pk) s
        { s with log := s.log ++ [(i, .enqueued job.pk vm.pk)] } := ⟨fun _ _ => rfl, rfl, rfl⟩
    have story := Db.story_append (j := i) tells.log
    rw [if_pos rfl, here.story] at story
    refine ⟨tells.told told here.call ?_, fun j hj => tells.relies hj,
      fun u _ => ⟨rows, whole, here.call, story⟩⟩
    rw [here.story]
    exact .enqueued whole

/-- **`create_vm`**: what is returned is committed, whole, and enqueued. -/
theorem keeps_createVm : Keeps i (Called i spec []) (createVm spec) fun made s =>
    ∃ rows, Whole spec made.1 made.2 rows ∧
      Called i spec [.committed rows, .enqueued made.2.pk made.1.pk] s := by
  have entered : Keeps i (Called i spec []) (perform Op.enter) fun _ => Has i spec (· = {}) := by
    refine keeps_quiet stable_called ?_
    intro c s a s' here hact
    cases hact
    exact ⟨Db.quiet_setPending, {}, rfl, here.quiet Db.quiet_setPending, Db.setPending_self⟩
  have undone (e : Exn) : Keeps i (fun _ => True)
      (do perform Op.rollback; throw e : CallM (VirtualMachine × Job))
      fun made => Has i spec (Whole spec made.1 made.2) := by
    refine Safe.bind (Q := fun _ _ => True) (keeps_quiet (fun _ _ _ h => h) ?_) fun _ =>
      Safe.throw fun _ _ => trivial
    intro c s a s' _ hact
    cases hact
    exact ⟨Db.quiet_setPending, trivial⟩
  refine Safe.bind (Q := fun made s => ∃ rows, Whole spec made.1 made.2 rows ∧
    Called i spec [.committed rows] s) ?_ fun made => ?_
  · refine Safe.bind entered fun _ => Safe.bind (Safe.tryCatch keeps_transaction undone) fun made => ?_
    exact Safe.bind (keeps_statement (keeps_leave fun rows whole => .committed whole)) fun _ =>
      Safe.pure fun _ h => h
  · exact Safe.bind (keeps_statement keeps_delay) fun _ => Safe.pure fun _ h => h

end Calls

/-! ## Runs -/

/-- The calls so far, and the database. -/
abbrev Calls : Type := Pool NewVm Op Ans (Except Exn (VirtualMachine × Job) × Unit) Db

/-- Nobody has called yet. -/
def start : Calls := { shared := {} }

/-- The call has returned. -/
def Returned (p : Calls) (i : Nat) (made : VirtualMachine × Job) : Prop :=
  ∃ spec l, p.threads[i]? = some ⟨spec, .ret (.ok made, l)⟩

/-- The call has raised. -/
def Raised (p : Calls) (i : Nat) (e : Exn) : Prop :=
  ∃ spec l, p.threads[i]? = some ⟨spec, .ret (.error e, l)⟩

/-- What a call has done when it returns. -/
def Ends (i : Nat) (spec : NewVm) (r : Except Exn (VirtualMachine × Job) × Unit) (s : Db) : Prop :=
  ∀ made, r.1 = .ok made → ∃ rows, Whole spec made.1 made.2 rows ∧
    Called i spec [.committed rows, .enqueued made.2.pk made.1.pk] s

/-- How a call ended is not undone by the others. -/
theorem ends_relies {i : Nat} {spec : NewVm} {r : Except Exn (VirtualMachine × Job) × Unit} {s s' : Db}
    (step : Db.Relies i s s') (h : Ends i spec r s) : Ends i spec r s' := by
  intro made hr
  obtain ⟨rows, whole, called⟩ := h made hr
  exact ⟨rows, whole, stable_called s s' step called⟩

/-- Every call that has ended did so as it says, and there is one thread for each. -/
structure Sound (p : Calls) : Prop where
  ending : discipline.Ending Ends p
  calls : p.threads.length = p.shared.calls.length

section Runs

variable {p p' : Calls} {ls : List (Label Choice Event)} {s s' : Db} {i : Nat}

/-- No operation adds a call. -/
theorem act_calls {c : Choice} {o : Op} {a : Ans o} (h : Db.act c i o s = some (a, s')) :
    s'.calls = s.calls := by
  rcases Db.act_cases h with quiet | ⟨-, rfl⟩ | ⟨job, vm, rfl⟩
  · exact quiet.calls
  · rfl
  · rfl

/-- A new call has no story yet. -/
theorem told_call {spec : NewVm} (told : s.Told) : Db.Told { s with calls := s.calls ++ [spec] } := by
  constructor
  · intro i spec' hi
    by_cases old : i < s.calls.length
    · exact told.story i spec' ((List.getElem?_append_left old).symm.trans hi)
    · show Story spec' (s.story i)
      rw [told.later i (Nat.not_lt.mp old)]
      exact .nothing
  · intro i hi
    rw [List.length_append] at hi
    exact told.later i (by omega)

/-- Every step keeps this. -/
theorem sound_step {l : Label Choice Event} (h : Sound p) (step : system.step l p = some p') :
    Sound p' := by
  cases l with
  | act i c =>
    refine ⟨h.ending.act (fun _ _ _ _ _ => ends_relies) step fun _ _ _ _ => trivial, ?_⟩
    obtain ⟨tag, o, k, a, s, -, hact, rfl⟩ := System.step_act step
    rw [List.length_set, h.calls, act_calls hact]
  | env event =>
    constructor
    · refine h.ending.env (fun _ _ _ _ _ => ends_relies) step fun ts s hs => ?_
      cases event with
      | call spec =>
        cases hs
        refine ⟨told_call h.ending.inv, fun j => ⟨rfl, rfl, fun spec' hj => ?_⟩, fun j t ht => ?_⟩
        · exact (List.getElem?_append_left (List.getElem?_eq_some_iff.mp hj).1).trans hj
        · cases j with
          | succ j => cases ht
          | zero =>
            cases ht
            have new : Called (p.threads.length + 0) spec []
                { p.shared with calls := p.shared.calls ++ [spec] } := by
              refine ⟨?_, h.ending.inv.later _ (by rw [h.calls]; exact Nat.le_refl _)⟩
              rw [h.calls]
              exact List.getElem?_concat_length
            refine (keeps_createVm () _ new).mono ?_
            rintro ⟨e | made, _⟩ s' ends made' hmade
            · cases hmade
            · cases hmade
              exact ends
      | elsewhere e =>
        cases hs
        exact ⟨⟨h.ending.inv.story, h.ending.inv.later⟩, fun _ => ⟨rfl, rfl, fun _ hi => hi⟩,
          fun j t ht => by cases ht⟩
    · obtain ⟨ts, s, hs, rfl⟩ := System.step_env step
      cases event with
      | call spec =>
        cases hs
        simp [h.calls]
      | elsewhere e =>
        cases hs
        simpa using h.calls

/-- It holds along every run. -/
theorem sound (run : runFrom system.step ls start = some p) : Sound p := by
  refine runFrom_keeps (C := fun _ _ => True) (fun l p p' h _ => sound_step h) ?_
    (.of_forall (fun _ _ _ => trivial) _) run
  exact ⟨⟨⟨fun i spec hi => (by cases hi), fun _ _ => rfl⟩, fun j t ht => by cases ht⟩, rfl⟩

end Runs

end NodePilot.Creation
