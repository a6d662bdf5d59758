import NodePilot.Laws.Rollback.Record

/-!
# The cleanup after a failed provisioning

`_cleanup_partial_vm` from a state in which the rows know what the record shows: the domain first,
then the volumes, and an event that names what could not be undone.
-/

namespace NodePilot

open Lib Lib.Script

/-! ## The cleanup -/

section Cleanup

variable {vm₀ vm : VmRow} {t₀ : Tables} {L : Type}

/-- A line of `problems` about `what`. -/
def Complained (what : String) (problems : List String) : Prop :=
  ∃ reason, what ++ ": " ++ reason ∈ problems

/-- The domain has been dealt with: there is none, or DELETE_VM was sent, or there is a problem. A
domain that is still there was not reachable, or refused to go. -/
structure DomainDone (vm : VmRow) (problems : List String) (w : World) : Prop where
  undone : Undefined w ∨ (∃ e ∈ w.trace, e.sent .deleteVm) ∨ Complained "domain cleanup" problems
  stays : domainDefined false w.trace → vm.node = none ∨
    ∃ e ∈ w.trace, e.operation = some .deleteVm ∧ e.performed .deleteVm = false

/-- No DELETE_DISK was sent while a domain is there. -/
def Ordered (w : World) : Prop := domainDefined false w.trace → ∀ e ∈ w.trace, ¬ e.sent .deleteDisk

/-- Every volume made is among those to delete. -/
def Listed (volumes : List (DiskRow × PoolRow)) (w : World) : Prop :=
  ∀ e ∈ w.trace, ∀ volume name, e.created = some (volume, name) →
    ∃ d ∈ volumes, d.1.volumeId = volume ∧ d.1.name = name

theorem domainDefined_cons {there : Bool} {e : Entry} {before : List Entry}
    (hc : e.performed .createVm = false) (hd : e.performed .deleteVm = false) :
    domainDefined there (e :: before) = domainDefined there before := by
  simp [domainDefined, hc, hd]

theorem domainDefined_of_undefined {trace : List Entry}
    (h : ∀ e ∈ trace, e.performed .createVm = false) : domainDefined false trace = false := by
  induction trace with
  | nil => rfl
  | cons e before ih =>
    have rest := ih fun e' he' => h e' (List.mem_cons_of_mem e he')
    simp [domainDefined, h e List.mem_cons_self, rest]

/-- A step that records nothing, or one entry that is not about the domain. -/
theorem domainDefined_plain {there : Bool} {w w' : World} (step : PlainStep w w') :
    domainDefined there w'.trace = domainDefined there w.trace := by
  rcases step.trace with same | ⟨e, added, plain⟩
  · rw [same]
  · rw [added]
    exact domainDefined_cons (plain.performed rfl) (plain.performed rfl)

theorem exists_trace_plain {w w' : World} (step : PlainStep w w') {p : Entry → Prop}
    (h : ∃ e ∈ w.trace, p e) : ∃ e ∈ w'.trace, p e := by
  obtain ⟨e, he, hp⟩ := h
  rcases step.trace with same | ⟨e', added, -⟩
  · exact ⟨e, same ▸ he, hp⟩
  · exact ⟨e, added ▸ List.mem_cons_of_mem e' he, hp⟩

theorem Entry.plain.sent {e : Entry} (h : e.plain) {op : OperationType} (hop : op.tracked) :
    e.sent op = false := by
  unfold Entry.sent
  split
  · next r timeout o =>
    refine decide_eq_false fun hsent => ?_
    have untracked := h r.operation rfl
    rw [hsent.1, hop] at untracked
    cases untracked
  · rfl

theorem DomainDone.plain {problems : List String} {w w' : World} (step : PlainStep w w')
    (h : DomainDone vm problems w) : DomainDone vm problems w' where
  undone := by
    rcases h.undone with undefined | sent | complained
    · exact .inl (undefined.plain step)
    · exact .inr (.inl (exists_trace_plain step sent))
    · exact .inr (.inr complained)
  stays hdefined := by
    rw [domainDefined_plain step] at hdefined
    exact (h.stays hdefined).imp_right (exists_trace_plain step)

theorem Ordered.plain {w w' : World} (step : PlainStep w w') (h : Ordered w) : Ordered w' := by
  intro hdefined
  rw [domainDefined_plain step] at hdefined
  refine forall_trace_plain step (h hdefined) fun e plain => ?_
  rw [plain.sent rfl]
  nofun

theorem Listed.plain {volumes : List (DiskRow × PoolRow)} {w w' : World} (step : PlainStep w w')
    (h : Listed volumes w) : Listed volumes w' := by
  refine forall_trace_plain step h fun e plain volume name hcreated => ?_
  rw [plain.created] at hcreated
  cases hcreated

/-! ### The domain -/

/-- After the cleanup of the domain. -/
def DomainCleaned (vm₀ : VmRow) (t₀ : Tables) (vm : VmRow) (problems : List String)
    (w : World) : Prop :=
  Base vm₀ t₀ vm w ∧ (FairTrace w.trace →
    Recorded vm₀ (fun _ => True) w ∧ DomainDone vm problems w ∧
      ∀ e ∈ w.trace, e.operation ≠ some .deleteDisk)

theorem domainCleaned_stable {problems : List String} :
    Stable (fun (_ : L) => DomainCleaned vm₀ t₀ vm problems) := fun _ _ _ step h =>
  ⟨h.1.plain step, fun fair =>
    have old := h.2 (fairTrace_plain step fair)
    ⟨old.1.plain step, old.2.1.plain step,
      forall_trace_plain step old.2.2 fun _ plain => plain.operation_ne rfl⟩⟩

/-- A call of the cleanup: it returns no problem, or one. -/
theorem triple_attempt {P : World → Prop} {Q : List String → World → Prop} {what : String}
    {x : TaskM L Dict}
    (hx : Triple World.handle (fun _ => P) x (fun _ _ => Q []) fun e _ => Q [what ++ ": " ++ e.str]) :
    Triple World.handle (fun _ => P) (attempt what x) (fun problems _ => Q problems)
      fun _ _ _ => False :=
  Triple.tryCatch (Triple.bind hx fun _ => Triple.pure fun _ _ h => h) fun _ =>
    Triple.pure fun _ _ h => h

theorem triple_cleanupDomain :
    Triple World.handle (fun (_ : L) => Raised vm₀ t₀ vm) (cleanupDomain vm)
      (fun problems _ => DomainCleaned vm₀ t₀ vm problems) fun _ _ _ => False := by
  refine Triple.ite (fun _ => triple_attempt (Triple.sendOperation
    (fun l w h => raised_stable.turn vm w h) ?_ ?_ ?_)) fun hstate => Triple.pure fun _ w h => ?_
  · rintro l w h hnode
    refine ⟨h.1, fun fair => ?_⟩
    obtain ⟨recorded, undeleted, -⟩ := h.2 fair
    exact ⟨recorded, ⟨.inr (.inr ⟨_, List.mem_singleton.mpr rfl⟩), fun _ => .inl hnode⟩,
      fun e he => (undeleted e he).2⟩
  · rintro l w data h -
    refine ⟨⟨h.1.pk, h.1.node, h.1.disks, h.1.pools⟩, fun fair => ?_⟩
    obtain ⟨recorded, undeleted, -⟩ := h.2 fair.2
    refine ⟨recorded.cons rfl, ⟨.inr (.inl ⟨_, List.mem_cons_self, rfl⟩), nofun⟩, ?_⟩
    exact List.forall_mem_cons.mpr ⟨nofun, fun e he => (undeleted e he).2⟩
  · rintro l w o e h - unconfirmed he
    refine ⟨⟨h.1.pk, h.1.node, h.1.disks, h.1.pools⟩, fun fair => ?_⟩
    obtain ⟨recorded, undeleted, -⟩ := h.2 fair.2
    refine ⟨recorded.cons ?_, ⟨.inr (.inr ⟨_, List.mem_singleton.mpr rfl⟩), fun hdefined => ?_⟩, ?_⟩
    · cases o <;> rfl
    · -- still defined: the DELETE_VM just recorded was not carried out
      refine .inr ⟨_, List.mem_cons_self, rfl, ?_⟩
      cases hperformed : Entry.performed .deleteVm (.call (deleteVmRequest vm false) none o) with
      | false => rfl
      | true =>
        have notCreate : Entry.performed .createVm (.call (deleteVmRequest vm false) none o) = false :=
          rfl
        simp [domainDefined, notCreate, hperformed] at hdefined
    · exact List.forall_mem_cons.mpr ⟨nofun, fun e he => (undeleted e he).2⟩
  · refine ⟨h.1, fun fair => ?_⟩
    obtain ⟨recorded, undeleted, undefined | known⟩ := h.2 fair
    · refine ⟨recorded, ⟨.inl undefined, fun hdefined => ?_⟩, fun e he => (undeleted e he).2⟩
      rw [domainDefined_of_undefined undefined] at hdefined
      cases hdefined
    · exact absurd known hstate

/-! ### The volumes -/

/-- A fair confirmation names its volume. -/
theorem created_nonempty {trace : List Entry} (fair : FairTrace trace) {e : Entry}
    (he : e ∈ trace) {volume name : String} (hcreated : e.created = some (volume, name)) :
    volume ≠ "" := by
  induction trace with
  | nil => cases he
  | cons e' before ih =>
    rcases List.mem_cons.mp he with rfl | he
    · unfold Entry.created at hcreated
      split at hcreated
      · split at hcreated
        · next hop =>
          cases hcreated
          exact of_decide_eq_true (fair.1.1 hop)
        · cases hcreated
      · cases hcreated
    · exact ih fair.2 he

/-- While the volumes are deleted. -/
def Cleaning (vm : VmRow) (problems : List String) (volumes : List (DiskRow × PoolRow))
    (w : World) : Prop :=
  FairTrace w.trace → DomainDone vm problems w ∧ Ordered w ∧ Listed volumes w

theorem cleaning_stable {problems : List String} {volumes : List (DiskRow × PoolRow)} :
    Stable (fun (_ : L) => Cleaning vm problems volumes) := fun _ _ _ step h fair =>
  have old := h (fairTrace_plain step fair)
  ⟨old.1.plain step, old.2.1.plain step, old.2.2.plain step⟩

/-- The volumes are read from the rows, where every volume made has been recorded. -/
theorem triple_volumesOf {problems : List String} :
    Triple World.handle (fun (_ : L) w => DomainCleaned vm₀ t₀ vm problems w) (volumesOf vm)
      (fun volumes _ w => Cleaning vm problems volumes w) fun _ _ _ => False := by
  refine Triple.bind (Q := fun t _ w => DomainCleaned vm₀ t₀ vm problems w ∧ w.db = t)
    (Triple.perform fun l w h => ⟨domainCleaned_stable.turn l w h, rfl⟩) fun t => ?_
  refine Triple.pure fun l w ⟨h, ht⟩ fair => ?_
  obtain ⟨recorded, domain, undeleted⟩ := h.2 fair
  refine ⟨domain, fun _ e he hsent => ?_, fun e he volume name hcreated => ?_⟩
  · refine undeleted e he ?_
    unfold Entry.sent at hsent
    split at hsent
    · exact congrArg some (of_decide_eq_true hsent).1
    · cases hsent
  · obtain ⟨d, hd, hvm, hpool, -, hvolume, hname⟩ := recorded e he volume name hcreated
    obtain ⟨p, hp⟩ := Option.isSome_iff_exists.mp hpool
    refine ⟨(d, p), List.mem_filter.mpr ⟨?_, ?_⟩, hvolume, hname⟩
    · exact Tables.mem_disksWithStorage.mpr ⟨ht ▸ hd, hvm.trans h.1.pk.symm, ht ▸ hp⟩
    · simpa [hvolume] using created_nonempty fair he hcreated

/-- What became of one volume: DELETE_DISK was sent, or there is a problem. -/
def VolumeDone (problems : List String) (w : World) (d : DiskRow × PoolRow) : Prop :=
  (∃ e ∈ w.trace, e.deletes d.1.volumeId) ∨ Complained ("disk " ++ d.1.name) problems

theorem VolumeDone.mono {problems more : List String} {w w' : World} {d : DiskRow × PoolRow}
    (h : VolumeDone problems w d) (hw : ∀ e ∈ w.trace, e ∈ w'.trace)
    (hp : ∀ line ∈ problems, line ∈ more) : VolumeDone more w' d := by
  rcases h with ⟨e, he, hdeletes⟩ | ⟨reason, hline⟩
  · exact .inl ⟨e, hw e he, hdeletes⟩
  · exact .inr ⟨reason, hp _ hline⟩

/-- A DELETE_DISK of the cleanup. Fairness keeps it from a domain that is still there. -/
theorem Cleaning.deleteDisk {problems : List String} {volumes : List (DiskRow × PoolRow)}
    {w : World} {d : DiskRow} {p : PoolRow} {o : AgentOutcome} (h : Cleaning vm problems volumes w)
    (hnode : vm.node.isSome) :
    Cleaning vm problems volumes
      { w with trace := .call (deleteDiskRequest vm d p) none o :: w.trace } := by
  rintro ⟨fair, fairBefore⟩
  obtain ⟨domain, ordered, listed⟩ := h fairBefore
  have same : domainDefined false (.call (deleteDiskRequest vm d p) none o :: w.trace) =
      domainDefined false w.trace := domainDefined_cons rfl rfl
  refine ⟨⟨?_, fun hdefined => ?_⟩, fun hdefined => List.forall_mem_cons.mpr ⟨fun hsent => ?_, ?_⟩, ?_⟩
  · rcases domain.undone with undefined | ⟨e, he, sent⟩ | complained
    · exact .inl (undefined.cons rfl)
    · exact .inr (.inl ⟨e, List.mem_cons_of_mem _ he, sent⟩)
    · exact .inr (.inr complained)
  · rw [same] at hdefined
    refine (domain.stays hdefined).imp_right ?_
    rintro ⟨e, he, hkept⟩
    exact ⟨e, List.mem_cons_of_mem _ he, hkept⟩
  · rw [same] at hdefined
    have reached : o.sent := (of_decide_eq_true hsent).2
    rcases domain.stays hdefined with none | ⟨e, he, hop, unperformed⟩
    · rw [none] at hnode
      cases hnode
    · have performed := fair.2.2 reached e he hop
      rw [unperformed] at performed
      cases performed
  · exact ordered (same ▸ hdefined)
  · intro e he volume name hcreated
    rcases List.mem_cons.mp he with rfl | he
    · cases o <;> cases hcreated
    · exact listed e he volume name hcreated

/-- The deletion of the volumes, by induction on those still to visit. -/
theorem triple_cleanupVolumes {problems : List String} {volumes : List (DiskRow × PoolRow)}
    (rest seen : List (DiskRow × PoolRow)) (lines : List String) :
    Triple World.handle
      (fun (_ : L) w => Cleaning vm problems volumes w ∧ ∀ d ∈ seen, VolumeDone lines w d)
      (cleanupVolumes vm rest)
      (fun more _ w => Cleaning vm problems volumes w ∧
        ∀ d ∈ seen ++ rest, VolumeDone (lines ++ more) w d) fun _ _ _ => False := by
  induction rest generalizing seen lines with
  | nil =>
    refine Triple.pure fun _ w h => ?_
    simpa using h
  | cons d rest ih =>
    obtain ⟨disk, pool⟩ := d
    refine Triple.bind (Q := fun problem _ w => Cleaning vm problems volumes w ∧
      ∀ d ∈ seen ++ [(disk, pool)], VolumeDone (lines ++ problem) w d)
      (triple_attempt (Q := fun problem w => Cleaning vm problems volumes w ∧
        ∀ d ∈ seen ++ [(disk, pool)], VolumeDone (lines ++ problem) w d) ?_) fun problem => ?_
    · have kept : ∀ {w w' : World} {more : List String}, (∀ e ∈ w.trace, e ∈ w'.trace) →
          (∀ d ∈ seen, VolumeDone lines w d) → VolumeDone (lines ++ more) w' (disk, pool) →
          ∀ d ∈ seen ++ [(disk, pool)], VolumeDone (lines ++ more) w' d := by
        intro w w' more hw old new d hd
        rcases List.mem_append.mp hd with hd | hd
        · exact (old d hd).mono hw fun line => List.mem_append_left more
        · rw [List.mem_singleton.mp hd]
          exact new
      refine Triple.sendOperation (fun l w h => ⟨cleaning_stable.turn l w h.1, h.2⟩) ?_ ?_ ?_
      · rintro l w ⟨h, old⟩ -
        exact ⟨h, kept (fun _ => id) old (.inr ⟨_, List.mem_append_right lines
          (List.mem_singleton.mpr rfl)⟩)⟩
      · rintro l w data ⟨h, old⟩ hnode
        refine ⟨h.deleteDisk hnode, kept (fun _ => List.mem_cons_of_mem _) old (.inl
          ⟨_, List.mem_cons_self, ?_⟩)⟩
        exact decide_eq_true ⟨rfl, rfl, rfl⟩
      · rintro l w o e ⟨h, old⟩ hnode - -
        exact ⟨h.deleteDisk hnode, kept (fun _ => List.mem_cons_of_mem _) old (.inr
          ⟨_, List.mem_append_right lines (List.mem_singleton.mpr rfl)⟩)⟩
    · refine Triple.bind (ih (seen ++ [(disk, pool)]) (lines ++ problem)) fun more =>
        Triple.pure fun _ w h => ?_
      simpa [List.append_assoc] using h

/-! ### The event, and the end -/

/-- The outcome of a run that the cleanup could undo, where the host had no domain before it. -/
def Undone (w : World) : Prop := FairTrace w.trace → RolledBack false w.trace

theorem undone_stable : Stable (fun (_ : L) => Undone) := by
  intro _ w w' step h fair
  have old := h (fairTrace_plain step fair)
  refine ⟨?_, fun hconfirmed => ?_, Ordered.plain step old.order⟩
  · refine forall_trace_plain step (fun e he volume name hcreated => ?_) fun e plain volume name
      hcreated => ?_
    · exact (old.volumes e he volume name hcreated).imp (exists_trace_plain step)
        (exists_trace_plain step)
    · rw [plain.created] at hcreated
      cases hcreated
  · have before : ∃ e ∈ w.trace, e.confirmed .createVm := by
      obtain ⟨e, he, hc⟩ := hconfirmed
      rcases step.trace with same | ⟨e', added, plain⟩
      · exact ⟨e, same ▸ he, hc⟩
      · rw [added] at he
        rcases List.mem_cons.mp he with rfl | he
        · unfold Entry.confirmed at hc
          split at hc
          · next r timeout o =>
            have untracked := plain r.operation rfl
            rw [(of_decide_eq_true hc).1] at untracked
            cases untracked
          · cases hc
        · exact ⟨e, he, hc⟩
    exact (old.domain before).imp (exists_trace_plain step) (exists_trace_plain step)

theorem Entry.confirmed_performed {e : Entry} {op : OperationType} (h : e.confirmed op) :
    e.performed op := by
  unfold Entry.confirmed at h
  split at h
  · next r timeout o =>
    obtain ⟨hop, hconfirmed⟩ := of_decide_eq_true h
    refine decide_eq_true ⟨hop, ?_⟩
    cases o with
    | ok => rfl
    | _ => cases hconfirmed
  · cases h

/-- The rollback is complete once every problem is in an event. -/
theorem rolledBack_of_reported {domain more : List String} {volumes : List (DiskRow × PoolRow)}
    {w : World} (fair : FairTrace w.trace) (h : Cleaning vm domain volumes w)
    (done : ∀ d ∈ volumes, VolumeDone more w d)
    (reported : ∀ what, Complained what (domain ++ more) → ∃ e ∈ w.trace, e.names what) :
    RolledBack false w.trace := by
  obtain ⟨domainDone, ordered, listed⟩ := h fair
  refine ⟨fun e he volume name hcreated => ?_, ?_, ordered⟩
  · obtain ⟨d, hd, rfl, rfl⟩ := listed e he volume name hcreated
    rcases done d hd with deleted | ⟨reason, hline⟩
    · exact .inl deleted
    · exact .inr (reported _ ⟨reason, List.mem_append_right domain hline⟩)
  · rintro ⟨e, he, hconfirmed⟩
    rcases domainDone.undone with undefined | sent | ⟨reason, hline⟩
    · have performed := Entry.confirmed_performed hconfirmed
      rw [undefined e he] at performed
      cases performed
    · exact .inl sent
    · exact .inr (reported _ ⟨reason, List.mem_append_left more hline⟩)

/-- An event is a plain entry. -/
theorem plainStep_event (w : World) (event : Event) (done : Bool) :
    PlainStep w { w with trace := .event event done :: w.trace } :=
  ⟨rfl, rfl, .inr ⟨_, rfl, Entry.plain_of_silent rfl⟩⟩

theorem triple_cleanupPartialVm :
    Triple World.handle (fun (_ : L) => Raised vm₀ t₀ vm) (cleanupPartialVm vm)
      (fun _ _ => Undone) fun _ _ _ => False := by
  refine Triple.bind triple_cleanupDomain fun domain => Triple.bind triple_volumesOf fun volumes => ?_
  refine Triple.bind (Q := fun more _ w => Cleaning vm domain volumes w ∧
    ∀ d ∈ volumes, VolumeDone more w d) ?_ fun more => ?_
  · exact Triple.conseq (triple_cleanupVolumes volumes [] [])
      (fun _ w h => ⟨h, fun d hd => absurd hd List.not_mem_nil⟩) (fun _ _ _ => id) fun _ _ _ => id
  refine Triple.ite (fun _ => ?_) fun quiet => Triple.pure fun _ w ⟨h, done⟩ fair => ?_
  · refine Triple.tryCatch (R := fun _ _ => Undone) (Triple.emitEvent
      (fun l w h => ⟨cleaning_stable.turn l w h.1, h.2⟩) ?_ ?_) fun _ => Triple.pure fun _ _ h => h
    · rintro l w ⟨h, done⟩ fair
      refine rolledBack_of_reported fair (cleaning_stable l w _ (plainStep_event w _ _) h)
        (fun d hd => (done d hd).mono (fun _ => List.mem_cons_of_mem _) fun _ => id) ?_
      rintro what ⟨reason, hline⟩
      exact ⟨_, List.mem_cons_self, rfl, _, reason, rfl, List.mem_map_of_mem hline⟩
    · rintro l w e - - fair
      exact absurd (fair.1 rfl) nofun
  · refine rolledBack_of_reported fair h done ?_
    rintro what ⟨reason, hline⟩
    rw [not_not.mp quiet] at hline
    cases hline

end Cleanup

end NodePilot
