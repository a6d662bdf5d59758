import NodePilot.Laws.CreateOnce.Calls

/-!
# One call for each key

Two calls under one key do not both commit: where the rest of the program leaves the job of the first one, the
index of the jobs turns away the second.
-/

namespace NodePilot.Creation

open Lib

/-- The rows of an entry. -/
def Entry.rows : Entry → Rows
  | .committed rows => rows
  | .enqueued _ _ => {}

namespace Db

/-- The call is one of the user under the key. -/
def under (s : Db) (user : Nat) (key : String) (i : Nat) : Bool := s.calls[i]?.any (NewVm.under user key)

/-- What the calls of the user under the key have done. -/
def done (s : Db) (user : Nat) (key : String) : List Entry :=
  (s.log.filter fun x => s.under user key x.1).map (·.2)

/-- All that was committed by calls. -/
def made (s : Db) : Rows where
  vms := s.log.flatMap (·.2.rows.vms)
  disks := s.log.flatMap (·.2.rows.disks)
  nics := s.log.flatMap (·.2.rows.nics)
  jobs := s.log.flatMap (·.2.rows.jobs)

/-- The calls of the user under the key that have done something are one. -/
def Single (user : Nat) (key : String) (s : Db) : Prop :=
  ∀ x ∈ s.log, ∀ y ∈ s.log, s.under user key x.1 → s.under user key y.1 → x.1 = y.1

end Db

/-- What the calls of the user under the key have come to: the rows of one VM, all of them, and one task,
which is what every call returns that does. The tables have no second VM or job under the key. -/
structure Idempotent (user : Nat) (key : String) (p : Calls) : Prop where
  done : p.shared.done user key = [] ∨
    ∃ spec ∈ p.shared.calls, spec.under user key ∧ Story spec (p.shared.done user key)
  returned : ∀ i made, p.shared.under user key i → Returned p i made → ∃ rows,
    rows.vms = [made.1] ∧ rows.jobs = [made.2] ∧
      p.shared.done user key = [.committed rows, .enqueued made.2.pk made.1.pk]
  same : ∀ i j made made', p.shared.under user key i → p.shared.under user key j →
    Returned p i made → Returned p j made' → made = made'
  vms : ((p.shared.rows.vms.filter (VirtualMachine.under user key)).map (·.pk)).Sublist
    (((p.shared.done user key).flatMap (·.rows.vms)).map (·.pk))
  jobs : ((p.shared.rows.jobs.filter (Job.under user key)).map (·.pk)).Sublist
    (((p.shared.done user key).flatMap (·.rows.jobs)).map (·.pk))

section Single

variable {user : Nat} {key : String} {s s' : Db} {i : Nat} {spec : NewVm} {p p' : Calls}
  {ls : List (Label Choice Event)}

theorem under_iff : s.under user key i ↔ ∃ spec, s.calls[i]? = some spec ∧ spec.under user key := by
  unfold Db.under
  cases s.calls[i]? <;> simp

theorem Whole.vm_under {vm : VirtualMachine} {job : Job} {rows : Rows} (h : Whole spec vm job rows) :
    vm.under user key = spec.under user key := by
  obtain ⟨node, hvm, -⟩ := h.made
  rw [hvm]
  simp [VirtualMachine.under, NewVm.under, NewVm.vmRow]

theorem Whole.job_under {vm : VirtualMachine} {job : Job} {rows : Rows} (h : Whole spec vm job rows) :
    job.under user key = spec.under user key := by
  obtain ⟨node, -, hjob⟩ := h.made
  rw [hjob]
  simp [Job.under, NewVm.under, NewVm.jobRow]

/-- What a call commits is under its key. -/
theorem Story.filter_vms {es : List Entry} (h : Story spec es) {e : Entry} (he : e ∈ es) :
    e.rows.vms.filter (VirtualMachine.under user key) =
      if spec.under user key then e.rows.vms else [] := by
  have one {vm job rows} (whole : Whole spec vm job rows) :
      rows.vms.filter (VirtualMachine.under user key) =
        if spec.under user key then rows.vms else [] := by
    rw [whole.vms, List.filter_singleton, whole.vm_under]
    cases spec.under user key <;> rfl
  cases h with
  | nothing => cases he
  | committed whole =>
    obtain rfl := List.mem_singleton.mp he
    exact one whole
  | enqueued whole =>
    rcases List.mem_cons.mp he with rfl | he
    · exact one whole
    · obtain rfl := List.mem_singleton.mp he
      simp [Entry.rows]

theorem Story.filter_jobs {es : List Entry} (h : Story spec es) {e : Entry} (he : e ∈ es) :
    e.rows.jobs.filter (Job.under user key) = if spec.under user key then e.rows.jobs else [] := by
  have one {vm job rows} (whole : Whole spec vm job rows) :
      rows.jobs.filter (Job.under user key) = if spec.under user key then rows.jobs else [] := by
    rw [whole.jobs, List.filter_singleton, whole.job_under]
    cases spec.under user key <;> rfl
  cases h with
  | nothing => cases he
  | committed whole =>
    obtain rfl := List.mem_singleton.mp he
    exact one whole
  | enqueued whole =>
    rcases List.mem_cons.mp he with rfl | he
    · exact one whole
    · obtain rfl := List.mem_singleton.mp he
      simp [Entry.rows]

/-- An entry is part of the story of a call. -/
theorem Db.Told.entry (told : s.Told) {x : Nat × Entry} (hx : x ∈ s.log) :
    ∃ spec, s.calls[x.1]? = some spec ∧ Story spec (s.story x.1) ∧ x.2 ∈ s.story x.1 := by
  have mem : x.2 ∈ s.story x.1 := List.mem_map_of_mem (List.mem_filter.mpr ⟨hx, by simp⟩)
  cases called : s.calls[x.1]? with
  | none =>
    rw [told.later x.1 (List.getElem?_eq_none_iff.mp called)] at mem
    cases mem
  | some spec => exact ⟨spec, rfl, told.story x.1 spec called, mem⟩

/-- The rows under the key, of all that was committed. -/
theorem filter_made {ρ : Type} {f : Entry → List ρ} {q : ρ → Bool} (told : s.Told)
    (each : ∀ spec es, Story spec es → ∀ e ∈ es,
      (f e).filter q = if spec.under user key then f e else []) :
    (s.log.flatMap fun x => f x.2).filter q = (s.done user key).flatMap f := by
  have entries : ∀ log : List (Nat × Entry), (∀ x ∈ log, x ∈ s.log) →
      (log.flatMap fun x => f x.2).filter q =
        ((log.filter fun x => s.under user key x.1).map (·.2)).flatMap f := by
    intro log
    induction log with
    | nil => exact fun _ => rfl
    | cons x log ih =>
      intro sub
      obtain ⟨spec, called, story, mem⟩ := told.entry (sub x List.mem_cons_self)
      have same : s.under user key x.1 = spec.under user key := by simp [Db.under, called]
      rw [List.flatMap_cons, List.filter_append, ih fun y hy => sub y (List.mem_cons_of_mem x hy),
        each spec _ story x.2 mem, List.filter_cons, same]
      cases spec.under user key <;> simp
  exact entries s.log fun _ hx => hx

/-- Where only one call has done something, that is its story. -/
theorem Db.Single.done_eq (single : s.Single user key) {x : Nat × Entry} (hx : x ∈ s.log)
    (under : s.under user key x.1) : s.done user key = s.story x.1 := by
  unfold Db.done Db.story
  congr 1
  refine List.filter_congr fun y hy => ?_
  by_cases same : y.1 = x.1
  · simp [same, under]
  · have other : ¬ s.under user key y.1 := fun h => same (single y hy x hx h under)
    simp [same, other]

theorem Db.mem_story {e : Entry} (h : e ∈ s.story i) : (i, e) ∈ s.log := by
  obtain ⟨⟨j, e'⟩, hx, rfl⟩ := List.mem_map.mp h
  obtain ⟨mem, same⟩ := List.mem_filter.mp hx
  obtain rfl : j = i := by simpa using same
  exact mem

/-! ### Tables -/

/-- No rows under the key but those of the calls. -/
structure Tabled (user : Nat) (key : String) (s : Db) : Prop where
  vms : ((s.rows.vms.filter (VirtualMachine.under user key)).map (·.pk)).Sublist
    ((s.made.vms.filter (VirtualMachine.under user key)).map (·.pk))
  jobs : ((s.rows.jobs.filter (Job.under user key)).map (·.pk)).Sublist
    ((s.made.jobs.filter (Job.under user key)).map (·.pk))

theorem tabled_step {l : Label Choice Event} (nonempty : key ≠ "") (h : Tabled user key p.shared)
    (step : system.step l p = some p') : Tabled user key p'.shared := by
  cases l with
  | act i c =>
    obtain ⟨tag, o, k, a, s, -, hact, rfl⟩ := System.step_act step
    rcases Db.act_cases hact with quiet | ⟨-, rfl⟩ | ⟨job, vm, rfl⟩
    · constructor
      · simpa [Db.made, quiet.rows, quiet.log] using h.vms
      · simpa [Db.made, quiet.rows, quiet.log] using h.jobs
    · constructor
      · simp only [Db.made, Db.seen, Entry.rows, append_vms, List.flatMap_append, List.flatMap_cons,
          List.flatMap_nil, List.append_nil, List.filter_append, List.map_append]
        exact h.vms.append (List.Sublist.refl _)
      · simp only [Db.made, Db.seen, Entry.rows, append_jobs, List.flatMap_append, List.flatMap_cons,
          List.flatMap_nil, List.append_nil, List.filter_append, List.map_append]
        exact h.jobs.append (List.Sublist.refl _)
    · constructor
      · simpa [Db.made, Entry.rows] using h.vms
      · simpa [Db.made, Entry.rows] using h.jobs
  | env event =>
    obtain ⟨ts, s, hs, rfl⟩ := System.step_env step
    cases event with
    | call spec =>
      cases hs
      exact ⟨h.vms, h.jobs⟩
    | elsewhere e =>
      cases hs
      exact ⟨(e.vms _ _ _ nonempty).trans h.vms, (e.jobs _ _ _ nonempty).trans h.jobs⟩

theorem tabled (nonempty : key ≠ "") (run : runFrom system.step ls start = some p) :
    Tabled user key p.shared :=
  runFrom_keeps (I := fun p => Tabled user key p.shared) (C := fun _ _ => True)
    (fun _ _ _ h _ => tabled_step nonempty h) ⟨.refl _, .refl _⟩
    (.of_forall (fun _ _ _ => trivial) _) run

/-- What has returned. -/
theorem Sound.returned (h : Sound p) {made : VirtualMachine × Job} (ret : Returned p i made) :
    ∃ spec rows, Whole spec made.1 made.2 rows ∧
      Called i spec [.committed rows, .enqueued made.2.pk made.1.pk] p.shared := by
  obtain ⟨spec, l, thread⟩ := ret
  obtain ⟨rows, whole, called⟩ := h.ending.safe i _ thread made rfl
  exact ⟨spec, rows, whole, called⟩

/-- **One call that has done something is enough for the rest.** -/
theorem idempotent_of_single (sound : Sound p) (tabled : Tabled user key p.shared)
    (single : p.shared.Single user key) : Idempotent user key p := by
  have told := sound.ending.inv
  have returned (i : Nat) (made : VirtualMachine × Job) (under : p.shared.under user key i)
      (ret : Returned p i made) : ∃ rows, rows.vms = [made.1] ∧ rows.jobs = [made.2] ∧
        p.shared.done user key = [.committed rows, .enqueued made.2.pk made.1.pk] := by
    obtain ⟨spec, rows, whole, called⟩ := sound.returned ret
    have mem : (i, Entry.committed rows) ∈ p.shared.log := by
      refine Db.mem_story ?_
      rw [called.story]
      exact List.mem_cons_self
    exact ⟨rows, whole.vms, whole.jobs, (single.done_eq mem under).trans called.story⟩
  constructor
  · by_cases any : ∃ x ∈ p.shared.log, p.shared.under user key x.1
    · obtain ⟨x, hx, under⟩ := any
      obtain ⟨spec, called, here⟩ := under_iff.mp under
      refine .inr ⟨spec, List.mem_of_getElem? called, here, ?_⟩
      rw [single.done_eq hx under]
      exact told.story x.1 spec called
    · refine .inl ?_
      unfold Db.done
      rw [List.filter_eq_nil_iff.mpr fun x hx under => any ⟨x, hx, under⟩]
      rfl
  · exact returned
  · intro i j made made' hi hj hmade hmade'
    obtain ⟨rows, vms, jobs, done⟩ := returned i made hi hmade
    obtain ⟨rows', vms', jobs', done'⟩ := returned j made' hj hmade'
    rw [done] at done'
    simp only [List.cons.injEq, Entry.committed.injEq, and_true] at done'
    obtain ⟨rfl, -⟩ := done'
    rw [vms] at vms'
    rw [jobs] at jobs'
    exact Prod.ext (List.singleton_inj.mp vms') (List.singleton_inj.mp jobs')
  · rw [← filter_made told fun spec es story e he => story.filter_vms he]
    exact tabled.vms
  · rw [← filter_made told fun spec es story e he => story.filter_jobs he]
    exact tabled.jobs

/-! ### Calls that are not overtaken -/

/-- No call goes on once another one of the user under the key has committed. -/
def Unovertaken (user : Nat) (key : String) : Label Choice Event → Calls → Prop
  | .act i _, p => p.shared.under user key i →
      ∀ x ∈ p.shared.log, p.shared.under user key x.1 → x.1 = i
  | .env _, _ => True

/-- A new call is none of those that have done something. -/
theorem under_call {x : Nat × Entry} (told : s.Told) (hx : x ∈ s.log) :
    Db.under { s with calls := s.calls ++ [spec] } user key x.1 = s.under user key x.1 := by
  obtain ⟨spec', called, -⟩ := told.entry hx
  unfold Db.under
  rw [List.getElem?_append_left (List.getElem?_eq_some_iff.mp called).1]

theorem Db.Single.call (single : s.Single user key) (told : s.Told) :
    Db.Single user key { s with calls := s.calls ++ [spec] } := by
  intro x hx y hy underX underY
  rw [under_call told hx] at underX
  rw [under_call told hy] at underY
  exact single x hx y hy underX underY

/-- An entry of a call that is the only one so far. -/
theorem Db.Single.tells {e : Entry} (single : s.Single user key) (calls : s'.calls = s.calls)
    (log : s'.log = s.log ++ [(i, e)])
    (only : s.under user key i → ∀ x ∈ s.log, s.under user key x.1 → x.1 = i) :
    s'.Single user key := by
  have under (j : Nat) : s'.under user key j = s.under user key j := by rw [Db.under, Db.under, calls]
  intro x hx y hy underX underY
  rw [log, List.mem_append, List.mem_singleton] at hx hy
  rw [under] at underX underY
  rcases hx with hx | rfl <;> rcases hy with hy | rfl
  · exact single x hx y hy underX underY
  · exact only underY x hx underX
  · exact (only underX y hy underY).symm
  · rfl

theorem Db.Single.quiet (single : s.Single user key) (quiet : s.Quiet i s') : s'.Single user key := by
  have under (j : Nat) : s'.under user key j = s.under user key j := by
    rw [Db.under, Db.under, quiet.calls]
  intro x hx y hy underX underY
  rw [quiet.log] at hx hy
  rw [under] at underX underY
  exact single x hx y hy underX underY

theorem single_unovertaken (run : runFrom system.step ls start = some p)
    (along : Along system.step (Unovertaken user key) ls start) : p.shared.Single user key := by
  have kept : ∀ l p p', Sound p ∧ p.shared.Single user key → Unovertaken user key l p →
      system.step l p = some p' → Sound p' ∧ p'.shared.Single user key := by
    intro l p p' ⟨sound, single⟩ only step
    refine ⟨sound_step sound step, ?_⟩
    cases l with
    | act i c =>
      obtain ⟨tag, o, k, a, s, -, hact, rfl⟩ := System.step_act step
      rcases Db.act_cases hact with quiet | ⟨-, rfl⟩ | ⟨job, vm, rfl⟩
      · exact single.quiet quiet
      · exact single.tells rfl rfl only
      · exact single.tells rfl rfl only
    | env event =>
      obtain ⟨ts, s, hs, rfl⟩ := System.step_env step
      cases event with
      | call spec =>
        cases hs
        exact single.call sound.ending.inv
      | elsewhere e =>
        cases hs
        exact single
  exact (runFrom_keeps kept ⟨@sound _ [] rfl, fun x hx => by cases hx⟩ along run).2

/-! ### Calls that find their job -/

/-- The rest of the program leaves the job there is under the key. -/
def JobsKept (user : Nat) (key : String) : Label Choice Event → Calls → Prop
  | .env (.elsewhere e), p => (∃ job ∈ p.shared.rows.jobs, job.under user key) →
      ∃ job ∈ (e.change p.shared.rows).jobs, job.under user key
  | _, _ => True

/-- The index of the jobs lets one transaction at a time have a job under the key, and only while none is
committed. -/
structure Indexed (user : Nat) (key : String) (s : Db) : Prop where
  later : ∀ i, s.calls.length ≤ i → s.pending i = {}
  apart : ∀ i, (∃ job ∈ (s.pending i).jobs, job.under user key) →
    (∀ job ∈ s.rows.jobs, ¬ job.under user key) ∧
      ∀ j, j ≠ i → ∀ job ∈ (s.pending j).jobs, ¬ job.under user key
  logged : (∃ x ∈ s.log, s.under user key x.1) → ∃ job ∈ s.rows.jobs, job.under user key
  single : s.Single user key

theorem brokenBy_none {ρ : Type} {row : ρ} {seen others : List ρ} {us : List (Unique ρ)}
    (h : brokenBy row seen others us = some none) :
    ∀ u ∈ us, (∀ x ∈ seen, ¬ u.clash row x) ∧ ∀ x ∈ others, ¬ u.clash row x := by
  induction us with
  | nil => exact fun u hu => by cases hu
  | cons v us ih =>
    rw [brokenBy] at h
    split at h
    · cases h
    · next unseen =>
      split at h
      · cases h
      · next apart =>
        intro u hu
        rcases List.mem_cons.mp hu with rfl | hu
        · exact ⟨fun x hx clash => unseen (List.any_eq_true.mpr ⟨x, hx, clash⟩),
            fun x hx clash => apart (List.any_eq_true.mpr ⟨x, hx, clash⟩)⟩
        · exact ih h u hu

theorem mem_elsewhere {ρ : Type} {t : Table ρ} {row : ρ} : row ∈ s.elsewhere i t ↔
    ∃ j, j < s.calls.length ∧ j ≠ i ∧ row ∈ t.rows (s.pending j) := by
  simp [Db.elsewhere, and_assoc]

theorem clash_of_under (nonempty : key ≠ "") {a b : Job} (ha : a.under user key)
    (hb : b.under user key) : uniqueJobKey.clash a b := by
  simp only [Job.under, decide_eq_true_eq] at ha hb
  obtain ⟨userA, typeA, rfl⟩ := ha
  obtain ⟨userB, typeB, keyB⟩ := hb
  simp [uniqueJobKey, userA, userB, typeA, typeB, keyB, nonempty]

/-- A statement gives its call no job under the key, or there was none in sight. -/
theorem act_jobs {c : Choice} {o : Op} {a : Ans o} (nonempty : key ≠ "")
    (h : Db.act c i o s = some (a, s')) :
    (∀ job ∈ (s'.pending i).jobs, job.under user key → job ∈ (s.pending i).jobs) ∨
    (∀ job ∈ (s.seen i).jobs, ¬ job.under user key) ∧
      ∀ j, j < s.calls.length → j ≠ i → ∀ job ∈ (s.pending j).jobs, ¬ job.under user key := by
  have old {ρ : Type} {t : Table ρ} {row : ρ} {r : Except Exn ρ}
      (none : (t.single row).jobs = []) (h : s.insert c i t row = some (r, s')) :
      ∀ job ∈ (s'.pending i).jobs, job.under user key → job ∈ (s.pending i).jobs := by
    intro job mem _
    obtain ⟨-, ⟨-, pending⟩ | ⟨-, pending, -⟩⟩ := Db.insert_cases h
    · rwa [pending] at mem
    · rwa [pending, append_jobs, none, List.append_nil] at mem
  cases o with
  | enter | rollback =>
    cases h
    exact .inl fun job mem _ => by simp at mem
  | leave =>
    simp only [Db.act] at h
    split at h <;> cases h
    · exact .inl fun job mem _ => by simp at mem
    · exact .inl fun job mem _ => by simp [Db.setPending] at mem
  | read | selectNode | generateMacAddress =>
    cases h
    exact .inl fun _ mem _ => mem
  | reserve =>
    simp only [Db.act] at h
    split at h <;> cases h <;> exact .inl fun _ mem _ => mem
  | delay job vm =>
    simp only [Db.act] at h
    split at h <;> cases h <;> exact .inl fun _ mem _ => mem
  | insertVm | insertDisk | insertNic => exact .inl (old rfl h)
  | insertJob row =>
    obtain ⟨-, ⟨-, pending⟩ | ⟨-, pending, fits⟩⟩ := Db.insert_cases h
    · exact .inl fun job mem _ => by rwa [pending] at mem
    · by_cases new : row.under user key
      · obtain ⟨unseen, apart⟩ := brokenBy_none fits uniqueJobKey List.mem_cons_self
        refine .inr ⟨fun job mem under => ?_, fun j hj other job mem under => ?_⟩
        · exact unseen job mem (clash_of_under nonempty new under)
        · exact apart job (mem_elsewhere.mpr ⟨j, hj, other, mem⟩) (clash_of_under nonempty new under)
      · refine .inl fun job mem under => ?_
        rw [pending] at mem
        rcases List.mem_append.mp mem with mem | mem
        · exact mem
        · rw [List.mem_singleton.mp mem] at under
          exact absurd under new

/-- What an entry adds to a story. -/
theorem Db.Told.tells {e : Entry} (told : s'.Told) (log : s'.log = s.log ++ [(i, e)])
    (called : s'.calls[i]? = some spec) :
    (∃ vm job rows, Whole spec vm job rows ∧ e = .committed rows) ∨
    ∃ rows, s.story i = [.committed rows] := by
  have story := told.story i spec called
  rw [Db.story_append log, if_pos rfl] at story
  generalize hes : s.story i = es at story
  generalize hfull : es ++ [e] = full at story
  cases story with
  | nothing => simp at hfull
  | committed whole =>
    obtain ⟨-, same⟩ := List.append_inj' (hfull.trans (List.nil_append _).symm) rfl
    exact .inl ⟨_, _, _, whole, List.singleton_inj.mp same⟩
  | enqueued whole =>
    obtain ⟨same, -⟩ := List.append_inj' (show es ++ [e] = [_] ++ [_] from hfull) rfl
    exact .inr ⟨_, same⟩

theorem Indexed.quiet {c : Choice} {o : Op} {a : Ans o} (nonempty : key ≠ "")
    (h : Indexed user key s) (running : i < s.calls.length) (hact : Db.act c i o s = some (a, s'))
    (quiet : s.Quiet i s') : Indexed user key s' := by
  have beyond : ∀ j, j ≠ i → ¬ j < s.calls.length → s.pending j = {} :=
    fun j _ hj => h.later j (Nat.not_lt.mp hj)
  refine ⟨fun j hj => ?_, fun j ⟨job, mem, under⟩ => ?_, fun ⟨x, hx, under⟩ => ?_,
    h.single.quiet quiet⟩
  · rw [quiet.calls] at hj
    rw [quiet.pending j (by omega)]
    exact h.later j hj
  · rw [quiet.rows]
    by_cases same : j = i
    · subst same
      rcases act_jobs nonempty hact with old | ⟨unseen, others⟩
      · obtain ⟨uncommitted, others⟩ := h.apart j ⟨job, old job mem under, under⟩
        refine ⟨uncommitted, fun k hk => ?_⟩
        rw [quiet.pending k hk]
        exact others k hk
      · refine ⟨fun x hx => unseen x (List.mem_append_left _ hx), fun k hk => ?_⟩
        rw [quiet.pending k hk]
        by_cases called : k < s.calls.length
        · exact others k called hk
        · rw [beyond k hk called]
          exact fun x hx => by cases hx
    · rw [quiet.pending j same] at mem
      obtain ⟨uncommitted, others⟩ := h.apart j ⟨job, mem, under⟩
      refine ⟨uncommitted, fun k hk x hx underX => ?_⟩
      by_cases mine : k = i
      · subst mine
        rcases act_jobs nonempty hact with old | ⟨-, apart⟩
        · exact others k hk x (old x hx underX) underX
        · by_cases called : j < s.calls.length
          · exact apart j called same job mem under
          · rw [beyond j same called] at mem
            cases mem
      · rw [quiet.pending k mine] at hx
        exact others k hk x hx underX
  · rw [quiet.log] at hx
    rw [Db.under, quiet.calls] at under
    rw [quiet.rows]
    exact h.logged ⟨x, hx, under⟩

/-- A commit under the key is the first one, and its job stays in the table. -/
theorem Indexed.commit (h : Indexed user key s) (running : i < s.calls.length)
    (log : s'.log = s.log ++ [(i, .committed (s.pending i))]) (calls : s'.calls = s.calls)
    (rows : s'.rows = s.seen i) (pending : s'.pending = (s.setPending i {}).pending)
    (told : s'.Told) : Indexed user key s' := by
  have whole : s.under user key i → ∃ job ∈ (s.pending i).jobs, job.under user key := by
    intro under
    obtain ⟨spec, called, here⟩ := under_iff.mp under
    rw [← calls] at called
    rcases told.tells log called with ⟨vm, job, rows, whole, same⟩ | ⟨rows, story⟩
    · cases same
      exact ⟨job, by rw [whole.jobs]; exact List.mem_singleton_self job, by rwa [whole.job_under]⟩
    · -- a second commit is no part of a story
      have twice := told.story i spec called
      rw [Db.story_append log, if_pos rfl, story] at twice
      cases twice
  refine ⟨fun j hj => ?_, fun j ⟨job, mem, under⟩ => ?_, fun ⟨x, hx, under⟩ => ?_,
    h.single.tells calls log fun under x hx underX => ?_⟩
  · rw [calls] at hj
    rw [pending, Db.setPending_ne (by omega)]
    exact h.later j hj
  · have other : j ≠ i := by
      rintro rfl
      rw [pending, Db.setPending_self] at mem
      cases mem
    rw [pending, Db.setPending_ne other] at mem
    obtain ⟨uncommitted, others⟩ := h.apart j ⟨job, mem, under⟩
    refine ⟨fun x hx => ?_, fun k hk x hx => ?_⟩
    · rw [rows] at hx
      rcases List.mem_append.mp hx with hx | hx
      · exact uncommitted x hx
      · exact others i (Ne.symm other) x hx
    · by_cases mine : k = i
      · rw [pending, mine, Db.setPending_self] at hx
        cases hx
      · rw [pending, Db.setPending_ne mine] at hx
        exact others k hk x hx
  · rw [Db.under, calls] at under
    rw [log, List.mem_append, List.mem_singleton] at hx
    rw [rows]
    rcases hx with hx | rfl
    · obtain ⟨job, mem, underJob⟩ := h.logged ⟨x, hx, under⟩
      exact ⟨job, List.mem_append_left _ mem, underJob⟩
    · obtain ⟨job, mem, underJob⟩ := whole under
      exact ⟨job, List.mem_append_right _ mem, underJob⟩
  · obtain ⟨job, mem, underJob⟩ := h.logged ⟨x, hx, underX⟩
    exact absurd underJob ((h.apart i (whole under)).1 job mem)

theorem indexed_step {l : Label Choice Event} (nonempty : key ≠ "") (sound : Sound p)
    (h : Indexed user key p.shared) (kept : JobsKept user key l p) (step : system.step l p = some p') :
    Indexed user key p'.shared := by
  have sound' := sound_step sound step
  cases l with
  | act i c =>
    obtain ⟨tag, o, k, a, s, hi, hact, rfl⟩ := System.step_act step
    have running : i < p.shared.calls.length := by
      rw [← sound.calls]
      exact (List.getElem?_eq_some_iff.mp hi).1
    rcases Db.act_cases hact with quiet | ⟨-, rfl⟩ | ⟨job, vm, rfl⟩
    · exact h.quiet nonempty running hact quiet
    · exact h.commit running rfl rfl rfl rfl sound'.ending.inv
    · have committed {x : Nat × Entry} (hx : x ∈ p.shared.log ++ [(i, .enqueued job vm)])
          (under : p.shared.under user key x.1) :
          ∃ y ∈ p.shared.log, p.shared.under user key y.1 ∧ y.1 = x.1 := by
        rcases List.mem_append.mp hx with hx | hx
        · exact ⟨x, hx, under, rfl⟩
        · obtain rfl := List.mem_singleton.mp hx
          obtain ⟨spec, called, -⟩ := under_iff.mp under
          rcases sound'.ending.inv.tells (s := p.shared) rfl called with ⟨_, _, _, -, other⟩ | ⟨rows, story⟩
          · cases other
          · refine ⟨(i, .committed rows), Db.mem_story ?_, under, rfl⟩
            rw [story]
            exact List.mem_cons_self
      refine ⟨h.later, h.apart, fun ⟨x, hx, under⟩ => ?_, fun x hx y hy underX underY => ?_⟩
      · obtain ⟨y, hy, underY, -⟩ := committed hx under
        exact h.logged ⟨y, hy, underY⟩
      · obtain ⟨x', hx', underX', sameX⟩ := committed hx underX
        obtain ⟨y', hy', underY', sameY⟩ := committed hy underY
        rw [← sameX, ← sameY]
        exact h.single x' hx' y' hy' underX' underY'
  | env event =>
    obtain ⟨ts, s, hs, rfl⟩ := System.step_env step
    cases event with
    | call spec =>
      cases hs
      refine ⟨fun j hj => h.later j ?_, h.apart, fun ⟨x, hx, under⟩ => h.logged ⟨x, hx, ?_⟩,
        h.single.call sound.ending.inv⟩
      · rw [List.length_append] at hj
        exact Nat.le_of_add_right_le hj
      · rwa [under_call sound.ending.inv hx] at under
    | elsewhere e =>
      cases hs
      refine ⟨h.later, fun j other => ?_, fun logged => kept (h.logged logged), h.single⟩
      obtain ⟨uncommitted, others⟩ := h.apart j other
      refine ⟨fun job mem under => ?_, others⟩
      have new : job.pk ∈ (((e.change p.shared.rows).jobs.filter (Job.under user key)).map (·.pk)) :=
        List.mem_map_of_mem (List.mem_filter.mpr ⟨mem, under⟩)
      obtain ⟨old, hold, -⟩ := List.mem_map.mp ((e.jobs _ _ _ nonempty).mem new)
      obtain ⟨hold, underOld⟩ := List.mem_filter.mp hold
      exact uncommitted old hold underOld

/-- **The index of the jobs lets one call commit.** -/
theorem single_jobsKept (nonempty : key ≠ "") (run : runFrom system.step ls start = some p)
    (along : Along system.step (JobsKept user key) ls start) : p.shared.Single user key := by
  have kept : ∀ l p p', Sound p ∧ Indexed user key p.shared → JobsKept user key l p →
      system.step l p = some p' → Sound p' ∧ Indexed user key p'.shared :=
    fun l p p' h kept step => ⟨sound_step h.1 step, indexed_step nonempty h.1 h.2 kept step⟩
  have empty : Indexed user key start.shared :=
    ⟨fun _ _ => rfl, fun i ⟨job, mem, _⟩ => (by cases mem), fun ⟨x, hx, _⟩ => (by cases hx),
      fun x hx => by cases hx⟩
  exact (runFrom_keeps kept ⟨@sound _ [] rfl, empty⟩ along run).2.single

/-- Where nothing else touches the tables, they hold what the calls have committed. -/
theorem rows_made (run : runFrom system.step ls start = some p)
    (untouched : ∀ e, .env (.elsewhere e) ∉ ls) : p.shared.rows = p.shared.made := by
  have kept : ∀ l p p', p.shared.rows = p.shared.made → (∀ e, l ≠ .env (.elsewhere e)) →
      system.step l p = some p' → p'.shared.rows = p'.shared.made := by
    intro l p p' h other step
    cases l with
    | act i c =>
      obtain ⟨tag, o, k, a, s, -, hact, rfl⟩ := System.step_act step
      rcases Db.act_cases hact with quiet | ⟨-, rfl⟩ | ⟨job, vm, rfl⟩
      · rw [Db.made, quiet.log, quiet.rows]
        exact h
      · simp only [Db.seen, h]
        simp only [Db.made, Entry.rows, List.flatMap_append, List.flatMap_cons, List.flatMap_nil,
          List.append_nil]
        rfl
      · simpa [Db.made, Entry.rows] using h
    | env event =>
      obtain ⟨ts, s, hs, rfl⟩ := System.step_env step
      cases event with
      | call spec =>
        cases hs
        exact h
      | elsewhere e => exact absurd rfl (other e)
  refine runFrom_keeps (I := fun p => p.shared.rows = p.shared.made)
    (C := fun l _ => ∀ e, l ≠ .env (.elsewhere e)) kept rfl (.of_forall (fun l hl s e same => ?_) _) run
  exact untouched e (same ▸ hl)

end Single

end NodePilot.Creation
