import NodePilot.Laws.Rollback.Record

/-!
# Provisioning, step by step

Each step of `provision_vm` takes one phase to the next, or raises where the cleanup can work: the
row of every disk whose volume exists has its id, and the VM's state says whether there is a domain.
-/

namespace NodePilot

open Lib Lib.Script

/-! ## The steps of provisioning -/

section Steps

variable {vm₀ : VmRow} {t₀ : Tables} {α β : Type} {P Q S : VmRow → World → Prop}

/-- A part of provisioning that takes `P` to `Q`, or raises where the cleanup can work. -/
abbrev Phase (vm₀ : VmRow) (t₀ : Tables) (P Q : VmRow → World → Prop) (x : TaskM VmRow α) : Prop :=
  Triple World.handle P x (fun _ => Q) fun e l w => Raised vm₀ t₀ l w ∧ ¬ e.isLock

theorem Phase.of_keeps {x : TaskM VmRow α} (raised : ∀ l w, P l w → Raised vm₀ t₀ l w)
    (hx : Keeps World.handle P (fun e => ¬ e.isLock) x) : Phase vm₀ t₀ P P x :=
  hx.conseq (fun _ _ => id) (fun _ _ _ => id) fun _ l w h => ⟨raised l w h.1, h.2⟩

theorem keeps_plainSave (stable : Stable P) {x : Write} (hx : x.plain) :
    Keeps World.handle P (fun e => ¬ e.isLock) (save x) :=
  Keeps.save (fun _ => Exn.not_isLock_of_operation) (stable.opKeeps hx)

theorem keeps_plainSend (stable : Stable P) {node : Option Nat} {r : AgentRequest}
    {timeout : Option Nat} (hr : r.operation.tracked = false) :
    Keeps World.handle P (fun e => ¬ e.isLock) (sendOperation node r timeout) :=
  Keeps.sendOperation (fun _ => Exn.not_isLock_of_operation) (stable.opKeeps hr)

theorem keeps_plainGetRow (stable : Stable P) {model : String} {row : Tables → Option α} :
    Keeps World.handle P (fun e => ¬ e.isLock) (getRow model row) :=
  Keeps.getRow (fun _ => Exn.not_isLock_of_operation) (stable.opKeeps trivial)

theorem keeps_plainTransition (stable : Stable P) {j : JobRow} {new : JobStatus}
    {message error : Option String} :
    Keeps World.handle P (fun e => ¬ e.isLock) (transition j new message error) :=
  keeps_plainSave stable rfl

/-- `job_run` around a phase: what it writes itself is plain. -/
theorem phase_jobRun {j : JobRow} {step : String} {body : TaskM VmRow α} (stable : Stable P)
    (raised : ∀ l w, P l w → Raised vm₀ t₀ l w) (hbody : Phase vm₀ t₀ P Q body) :
    Phase vm₀ t₀ P Q (jobRun j step body) := by
  refine Triple.bind (Phase.of_keeps raised (Keeps.onlyIf fun _ => keeps_plainTransition stable))
    fun _ => ?_
  refine Triple.bind (Phase.of_keeps raised (Keeps.bind (Keeps.query (stable.opKeeps trivial))
    fun _ => Keeps.pure _)) fun _ => ?_
  refine Triple.bind (Phase.of_keeps raised (Keeps.onlyIf fun _ => Keeps.throw (by simp [Exn.isLock])))
    fun _ => ?_
  refine Triple.bind (Phase.of_keeps raised (Keeps.onlyIf fun _ => ?_)) fun _ => ?_
  · refine Keeps.bind (keeps_plainSave stable rfl) fun _ => ?_
    exact Keeps.bind (keeps_plainGetRow stable) fun _ => keeps_plainSave stable rfl
  · refine Triple.tryCatch hbody fun exc => ?_
    rintro l w ⟨hraised, unlocked⟩
    have record : Keeps World.handle (Raised vm₀ t₀) (fun e => ¬ e.isLock)
        (jobRunExcept j exc) := by
      cases exc <;> exact keeps_plainTransition raised_stable
    exact Triple.bind record (fun _ => Triple.throw fun _ _ h => ⟨h, unlocked⟩) l w hraised

/-- Entering a state that has a domain is enough for the cleanup to know of it. -/
theorem phase_enterDomain {state : ProvisioningState} (hstate : state.hasDomain) :
    Phase vm₀ t₀ (Between vm₀ t₀) (Late vm₀ t₀) (enter state) := by
  refine Triple.bind (Q := fun _ => Late vm₀ t₀) (Triple.modify fun l w h => ?_) fun _ => ?_
  · exact ⟨⟨⟨h.1.pk, h.1.node, h.1.disks, h.1.pools⟩, h.2⟩, hstate⟩
  · exact Phase.of_keeps (fun _ _ => Late.raised)
      (Keeps.bind Keeps.get fun _ => keeps_plainSave late_stable rfl)

theorem phase_enterEarly {done : DiskRow → Prop} {state : ProvisioningState} :
    Phase vm₀ t₀ (Early vm₀ t₀ done) (Early vm₀ t₀ done) (enter state) := by
  refine Phase.of_keeps (fun _ _ => Early.raised) (Keeps.bind (Keeps.modify fun l w h => ?_)
    fun _ => Keeps.bind Keeps.get fun _ => keeps_plainSave early_stable rfl)
  exact ⟨⟨h.1.pk, h.1.node, h.1.disks, h.1.pools⟩, h.2⟩

/-- "Creating domain". A CREATE_VM that is not confirmed was not carried out. -/
theorem phase_createDomain :
    Phase vm₀ t₀ (Early vm₀ t₀ fun _ => True) (Late vm₀ t₀) createDomain := by
  refine Triple.get_bind fun vm _ => ?_
  refine Triple.bind (Q := fun r l w => r.operation = .createVm ∧ Early vm₀ t₀ (fun _ => True) l w)
    ?_ fun r => ?_
  · refine Triple.query_bind (early_stable.opKeeps trivial) fun _ _ => ?_
    refine Triple.query_bind (early_stable.opKeeps trivial) fun _ _ => ?_
    exact Triple.pure fun _ _ h => ⟨rfl, h⟩
  · refine Triple.bind (Q := fun _ => Between vm₀ t₀) (Triple.sendOperation
      (fun l w h => ⟨h.1, early_stable.turn l w h.2⟩) ?_ ?_ ?_) fun _ =>
        phase_enterDomain rfl
    · rintro l w ⟨-, h⟩ -
      exact ⟨h.raised, by simp [Exn.isLock]⟩
    · rintro l w data ⟨hr, h⟩ -
      refine ⟨⟨h.1.pk, h.1.node, h.1.disks, h.1.pools⟩, fun fair => ?_⟩
      have old := h.2 fair.2
      exact ⟨old.1.cons (by simp [Entry.created, hr]),
        old.2.1.cons (by simp [Entry.operation, hr])⟩
    · rintro l w o e ⟨hr, h⟩ - unconfirmed he
      refine ⟨⟨⟨h.1.pk, h.1.node, h.1.disks, h.1.pools⟩, fun fair => ?_⟩,
        Exn.not_isLock_of_operation he⟩
      have old := h.2 fair.2
      have undone : o.performed = false := by
        cases o with
        | timedOut done => exact fair.1.2.1 hr
        | ok => cases unconfirmed
        | noAgent | notConnected | failed => rfl
      refine ⟨old.1.cons ?_, old.2.1.cons (by simp [Entry.operation, hr]),
        .inl (old.2.2.cons (by simp [Entry.performed, undone]))⟩
      cases o <;> simp [Entry.created, hr]

/-! ### Disks -/

theorem map_fst_filterMap {γ δ : Type} (g : γ → Option δ) (xs : List γ) :
    (xs.filterMap fun x => (g x).map (x, ·)).map Prod.fst = xs.filter fun x => (g x).isSome := by
  induction xs with
  | nil => rfl
  | cons x xs ih => cases hx : g x <;> simp [hx, ih]

/-- The disks a loop visits have different keys. -/
theorem nodup_disksWithStorage {t : Tables} {k : Nat} (unique : (t.disks.map DiskRow.pk).Nodup) :
    ((t.disksWithStorage k).map fun d => d.1.pk).Nodup := by
  have fsts : (t.disksWithStorage k).map (fun d => d.1.pk) =
      ((t.disksOf k).filter fun d => (Table.get t.pools d.storage).isSome).map DiskRow.pk := by
    rw [← map_fst_filterMap, List.map_map]
    rfl
  rw [fsts]
  refine (List.Sublist.map _ List.filter_sublist).nodup ?_
  refine ((List.perm_insertionSort _ _).map DiskRow.pk).nodup_iff.mpr ?_
  exact (List.Sublist.map _ List.filter_sublist).nodup unique

/-- The volume has been made and the row of its disk has not been saved: the newest entry is the
confirmation, and before it all was well. -/
def Made (vm₀ : VmRow) (t₀ : Tables) (done : DiskRow → Prop) (r : AgentRequest)
    (timeout : Option Nat) (data : Dict) (l : VmRow) (w : World) : Prop :=
  ∃ before, w.trace = .call r timeout (.ok data) :: before ∧
    Early vm₀ t₀ done l { w with trace := before }

theorem made_turn {done : DiskRow → Prop} {r : AgentRequest} {timeout : Option Nat} {data : Dict}
    (l : VmRow) (w : World) (h : Made vm₀ t₀ done r timeout data l w) :
    Made vm₀ t₀ done r timeout data l w.next := by
  obtain ⟨before, htrace, h⟩ := h
  have step : PlainStep { w with trace := before } { w.next with trace := before } :=
    ⟨requestCancel_disks.1, requestCancel_disks.2, .inl rfl⟩
  exact ⟨before, htrace, early_stable l _ _ step h⟩

/-- Saving the row of a disk whose volume was just made. -/
theorem made_saved {done : DiskRow → Prop} {vm : VmRow} {d : DiskRow} {p : PoolRow}
    {image : Option ImageRow} {timeout : Option Nat} {data : Dict} {l : VmRow} {w : World}
    {device format : String}
    (h : Made vm₀ t₀ done (createDiskRequest vm d p image) timeout data l w)
    (hd : d.shape ∈ t₀.disks.map DiskRow.shape) (hvm : d.vm = vm₀.pk)
    (hpool : Table.get t₀.pools d.storage = some p) (fresh : ∀ d', done d' → d'.pk ≠ d.pk) :
    Early vm₀ t₀ (fun d' => done d' ∨ d'.pk = d.pk) l
      { w with
        db := { w.db with disks := Table.modify w.db.disks d.pk fun r =>
          { r with volumeId := data.getStr "volume_id" "", device := device, format := format } }
        trace := .write (.diskSave d.pk (data.getStr "volume_id" "") device format) true ::
          w.trace } := by
  obtain ⟨before, htrace, base, h⟩ := h
  refine ⟨⟨base.pk, base.node, ?_, base.pools⟩, fun fair => ?_⟩
  · refine Eq.trans (Table.map_modify DiskRow.shape ?_) base.disks
    exact fun _ => rfl
  have fair' : FairTrace before := by
    rw [htrace] at fair
    exact fair.2.2
  obtain ⟨recorded, undeleted, undefined⟩ := h fair'
  refine ⟨?_, ?_, ?_⟩
  · intro e he volume name hcreated
    rw [htrace] at he
    simp only [List.mem_cons] at he
    rcases he with rfl | rfl | he
    · cases hcreated
    · -- the new volume is in the row that was saved
      simp only [Entry.created, createDiskRequest, vmRequest, if_true, Option.some.injEq,
        Prod.mk.injEq] at hcreated
      obtain ⟨rfl, rfl⟩ := hcreated
      rw [← base.disks] at hd
      obtain ⟨d', hd', shape⟩ := List.mem_map.mp hd
      obtain ⟨pk, vm, name, storage⟩ := DiskRow.of_shape shape
      refine ⟨_, List.mem_map.mpr ⟨d', hd', rfl⟩, ?_⟩
      rw [if_pos (show Row.pk d' = d.pk from pk)]
      refine ⟨vm.trans hvm, ?_, .inr pk, rfl, ?_⟩
      · have pools : w.db.pools = t₀.pools := base.pools
        simp [pools, storage, hpool]
      · rw [name]
        cases image <;> rfl
    · -- the earlier ones are in rows with other keys
      obtain ⟨d', hd', hvm', hpool', hdone, hvolume, hname⟩ := recorded e he volume name hcreated
      refine ⟨d', List.mem_map.mpr ⟨d', hd', if_neg (fresh d' hdone)⟩, hvm', hpool', .inl hdone,
        hvolume, hname⟩
  · intro e he
    rw [htrace] at he
    simp only [List.mem_cons] at he
    rcases he with rfl | rfl | he
    · exact ⟨nofun, nofun⟩
    · exact ⟨nofun, nofun⟩
    · exact undeleted e he
  · intro e he
    rw [htrace] at he
    simp only [List.mem_cons] at he
    rcases he with rfl | rfl | he
    · rfl
    · rfl
    · exact undefined e he

/-- One round of "Creating disks". -/
theorem phase_createDisk {done : DiskRow → Prop} {vm : VmRow} {d : DiskRow} {p : PoolRow}
    {image : Option ImageRow} (hd : d.shape ∈ t₀.disks.map DiskRow.shape) (hvm : d.vm = vm₀.pk)
    (hpool : Table.get t₀.pools d.storage = some p) (fresh : ∀ d', done d' → d'.pk ≠ d.pk) :
    Phase vm₀ t₀ (Early vm₀ t₀ done) (Early vm₀ t₀ fun d' => done d' ∨ d'.pk = d.pk)
      (createDisk vm d p image) := by
  refine Triple.bind (Q := Made vm₀ t₀ done (createDiskRequest vm d p image)
      (if image.isSome then some 3600 else none))
    (Triple.sendOperation early_stable.turn ?_ ?_ ?_) fun data => Triple.save made_turn ?_ ?_
  · rintro l w h -
    exact ⟨h.raised, by simp [Exn.isLock]⟩
  · rintro l w data h -
    exact ⟨w.trace, rfl, h⟩
  · rintro l w o e h - unconfirmed he
    refine ⟨⟨⟨h.1.pk, h.1.node, h.1.disks, h.1.pools⟩, fun fair => ?_⟩,
      Exn.not_isLock_of_operation he⟩
    have old := h.2 fair.2
    refine ⟨old.1.all.cons ?_, old.2.1.cons ⟨nofun, nofun⟩, .inl (old.2.2.cons rfl)⟩
    cases o <;> first | rfl | cases unconfirmed
  · rintro l w now uuid db h hdb
    obtain ⟨rows, hrows, rfl⟩ := except_bind_ok hdb
    rw [saveRow_ok hrows]
    exact made_saved h hd hvm hpool fresh
  · rintro l w e ⟨before, htrace, base, -⟩ he
    exact ⟨⟨⟨base.pk, base.node, base.disks, base.pools⟩, fun fair => absurd (fair.1 rfl) nofun⟩,
      Exn.not_isLock_of_operation he⟩

/-- The loop, by induction on the disks still to visit. -/
theorem phase_createDisks_loop {vm : VmRow} (images : DiskRow → Option ImageRow)
    (ds : List (DiskRow × PoolRow)) (done : DiskRow → Prop)
    (hds : ∀ d ∈ ds, d.1.shape ∈ t₀.disks.map DiskRow.shape ∧ d.1.vm = vm₀.pk ∧
      Table.get t₀.pools d.1.storage = some d.2)
    (unique : (ds.map fun d => d.1.pk).Nodup)
    (fresh : ∀ d ∈ ds, ∀ d', done d' → d'.pk ≠ d.1.pk) :
    Phase vm₀ t₀ (Early vm₀ t₀ done) (Early vm₀ t₀ fun _ => True)
      (ds.forM fun d => createDisk vm d.1 d.2 (images d.1)) := by
  induction ds generalizing done with
  | nil => exact Triple.pure fun _ _ h => ⟨h.1, fun fair => ⟨(h.2 fair).1.all, (h.2 fair).2⟩⟩
  | cons d ds ih =>
    rw [List.map_cons, List.nodup_cons] at unique
    obtain ⟨hd, hvm, hpool⟩ := hds d List.mem_cons_self
    refine Triple.bind (phase_createDisk hd hvm hpool (fresh d List.mem_cons_self)) fun _ => ?_
    refine ih _ (fun d' hd' => hds d' (List.mem_cons_of_mem d hd')) unique.2 ?_
    rintro d' hd' d'' (hdone | hpk)
    · exact fresh d' (List.mem_cons_of_mem d hd') d'' hdone
    · rw [hpk]
      exact fun same => unique.1 (List.mem_map.mpr ⟨d', hd', same.symm⟩)

theorem phase_createDisks {vm : VmRow} (unique : (t₀.disks.map DiskRow.pk).Nodup)
    (hvm : vm.pk = vm₀.pk) :
    Phase vm₀ t₀ (Early vm₀ t₀ fun _ => False) (Early vm₀ t₀ fun _ => True) (createDisks vm) := by
  refine Triple.query_bind (early_stable.opKeeps trivial) fun t ⟨l, w, h, ht⟩ => ?_
  have disks : t.disks.map DiskRow.shape = t₀.disks.map DiskRow.shape := ht ▸ h.1.disks
  have pools : t.pools = t₀.pools := ht ▸ h.1.pools
  have pks : t.disks.map DiskRow.pk = t₀.disks.map DiskRow.pk := by
    have mapped := congrArg (List.map DiskRow.pk) disks
    rwa [List.map_map, List.map_map] at mapped
  refine phase_createDisks_loop (fun d => d.sourceImage.bind (Table.get t.images)) _
    (fun _ => False) (fun d hd => ?_) (nodup_disksWithStorage (pks ▸ unique)) fun _ _ _ => False.elim
  obtain ⟨mem, vm_eq, pool⟩ := Tables.mem_disksWithStorage.mp hd
  exact ⟨disks ▸ List.mem_map_of_mem mem, vm_eq.trans hvm, pools ▸ pool⟩

/-! ### All of provisioning -/

theorem keeps_saveStatusAndState : Keeps World.handle (Late vm₀ t₀) (fun e => ¬ e.isLock)
    saveStatusAndState :=
  Keeps.bind Keeps.get fun _ => keeps_plainSave late_stable rfl

theorem phase_startOrStop {j : JobRow} {vm : VmRow} :
    Phase vm₀ t₀ (Late vm₀ t₀) (Late vm₀ t₀) (startOrStop j vm) := by
  refine Triple.ite (fun _ => phase_jobRun late_stable (fun _ _ => Late.raised) ?_) fun _ => ?_
  · refine Phase.of_keeps (fun _ _ => Late.raised) (Keeps.bind Keeps.get fun _ =>
      Keeps.bind (keeps_plainSend late_stable rfl) fun _ => Keeps.bind (Keeps.modify ?_) fun _ =>
        keeps_saveStatusAndState)
    exact fun l w h => ⟨⟨⟨h.1.1.pk, h.1.1.node, h.1.1.disks, h.1.1.pools⟩, h.1.2⟩, rfl⟩
  · refine Triple.modify fun l w h => ?_
    exact ⟨⟨⟨h.1.1.pk, h.1.1.node, h.1.1.disks, h.1.1.pools⟩, h.1.2⟩, h.2⟩

/-- A write of the database, as a plain step. -/
theorem plainStep_written {x : Write} (hx : x.plain) {w : World} {now : Nat} {uuid : Uuid}
    {db : Tables} (h : w.db.write now uuid x = .ok db) :
    PlainStep w { w with db := db, trace := .write x true :: w.trace } :=
  ⟨(write_plain hx h).1, (write_plain hx h).2, .inr ⟨_, rfl, Entry.plain_of_silent rfl⟩⟩

/-- The step to READY. The state in memory no longer tells of the domain, so an exception here is
what `FairTrace` excludes. -/
theorem phase_ready :
    Phase vm₀ t₀ (Late vm₀ t₀) (Between vm₀ t₀) (do
      modify fun vm => { vm with provisioningState := .ready }
      saveStatusAndState) := by
  refine Triple.bind (Q := fun _ l w => Between vm₀ t₀ l w ∧ l.provisioningState = .ready)
    (Triple.modify fun l w h => ?_) fun _ => Triple.get_bind fun vm ⟨_, _, ready⟩ => ?_
  · exact ⟨⟨⟨h.1.1.pk, h.1.1.node, h.1.1.disks, h.1.1.pools⟩, h.1.2⟩, rfl⟩
  · refine Triple.save (fun l w h => ⟨between_stable.turn l w h.1, h.2⟩) ?_ ?_
    · rintro l w now uuid db ⟨h, -⟩ hdb
      exact between_stable l _ _ (plainStep_written rfl hdb) h
    · rintro l w e ⟨h, -⟩ he
      refine ⟨⟨⟨h.1.pk, h.1.node, h.1.disks, h.1.pools⟩, fun fair => ?_⟩,
        Exn.not_isLock_of_operation he⟩
      exact absurd (fair.1 (decide_eq_true (congrArg some ready))) nofun

theorem phase_provisionSteps {j : JobRow} (unique : (t₀.disks.map DiskRow.pk).Nodup) :
    Phase vm₀ t₀ (Early vm₀ t₀ fun _ => False) (Between vm₀ t₀) (provisionSteps j) := by
  have early : ∀ {done : DiskRow → Prop}, ∀ l w, Early vm₀ t₀ done l w → Raised vm₀ t₀ l w :=
    fun _ _ => Early.raised
  have late : ∀ l w, Late vm₀ t₀ l w → Raised vm₀ t₀ l w := fun _ _ => Late.raised
  refine Triple.get_bind fun vm ⟨_, hvm⟩ => ?_
  refine Triple.bind (phase_jobRun early_stable early phase_enterEarly) fun _ => ?_
  refine Triple.bind (phase_jobRun early_stable early
    (Triple.bind (phase_createDisks unique hvm.1.pk) fun _ => phase_enterEarly)) fun _ => ?_
  refine Triple.bind (phase_jobRun early_stable early phase_enterEarly) fun _ => ?_
  refine Triple.bind (phase_jobRun early_stable early phase_createDomain) fun _ => ?_
  refine Triple.bind (Q := fun _ => Late vm₀ t₀) (Triple.ite (fun _ => ?_) fun _ =>
    Triple.pure fun _ _ h => h) fun _ => ?_
  · refine phase_jobRun late_stable late (Phase.of_keeps late ?_)
    exact Keeps.bind (keeps_plainSend late_stable rfl) fun _ => Keeps.pure _
  · refine Triple.bind (Triple.conseq (phase_enterDomain rfl) (fun _ _ h => h.1) (fun _ _ _ => id)
      fun _ _ _ => id) fun _ => ?_
    exact Triple.bind phase_startOrStop fun _ => phase_ready

end Steps

end NodePilot
