import Mathlib.Algebra.BigOperators.Ring.List
import NodePilot.Laws.Quota.Usage
import NodePilot.Lib.Rely

/-!
# Quotas hold

Fix an organization and a project, and their effective quota. Whoever holds the lock of the quota's
row keeps every other transaction from committing rows that count, so meanwhile the usage can only
shrink: what three queries have counted bounds the usage that there is, up to the commit. A
transaction commits what its check has left room for.

What hangs off a VM is found by the key of the VM, so a key must not change hands: `Public` keys are
those that no transaction has for a new VM.
-/

namespace NodePilot.Quotas

open Lib Lib.Script

/-! ## Keys -/

namespace Db

/-- The key was drawn, and no transaction has it for a new VM. -/
def Public (s : Db) (k : Nat) : Prop := k < s.sequence ∧ ∀ i, ∀ v ∈ (s.pending i).vms, v.pk ≠ k

/-- A VM with the key is of the project, if there is one. -/
structure Owned (s : Db) (k organization project : Nat) : Prop where
  isPublic : s.Public k
  pair : ∀ v ∈ s.rows.vms, v.pk = k → v.organization = organization ∧ v.project = project

/-- Every key has one VM at most, and what hangs off a key that was committed is committed. -/
structure Sound (s : Db) : Prop where
  nodup : (s.rows.vms.map VirtualMachine.pk).Nodup
  vms : ∀ v ∈ s.rows.vms, s.Public v.pk
  disks : ∀ d ∈ s.rows.disks, s.Public d.vm
  snapshots : ∀ x ∈ s.rows.snapshots, s.Public x.vm
  drawn : ∀ i, ∀ v ∈ (s.pending i).vms, v.pk < s.sequence
  each : ∀ i, ((s.pending i).vms.map VirtualMachine.pk).Nodup
  apart : ∀ i j, i ≠ j → ∀ v ∈ (s.pending i).vms, ∀ w ∈ (s.pending j).vms, v.pk ≠ w.pk
  saved : ∀ i, ∀ part ∈ (s.txs.of i).savepoints, part.writes = {}

variable {s s' : Db} {i : Nat}

/-- The pending rows of another transaction stay. -/
theorem pending_other (others : Transactions.Others i s.txs s'.txs) {j : Nat} (h : j ≠ i) :
    s'.pending j = s.pending j := by
  unfold pending
  rw [others.of j h]

/-- A statement that commits nothing: what it inserts has a new key. -/
structure Quiet (i : Nat) (s s' : Db) : Prop where
  rows : s'.rows = s.rows
  others : Transactions.Others i s.txs s'.txs
  sequence : s.sequence ≤ s'.sequence
  vms : ∀ v ∈ (s'.pending i).vms, v ∈ (s.pending i).vms ∨
    s.sequence ≤ v.pk ∧ v.pk < s'.sequence

/-- A committed VM stays committed through another's step. -/
theorem Quiet.isPublic (h : Quiet i s s') {k : Nat} (hk : s.Public k) : s'.Public k := by
  refine ⟨Nat.lt_of_lt_of_le hk.1 h.sequence, fun j v hv => ?_⟩
  by_cases same : j = i
  · subst same
    rcases h.vms v hv with old | ⟨new, -⟩
    · exact hk.2 j v old
    · have := hk.1
      omega
  · rw [pending_other h.others same] at hv
    exact hk.2 j v hv

/-- A VM stays where it is through another's step. -/
theorem Quiet.owned (h : Quiet i s s') {k organization project : Nat}
    (hk : s.Owned k organization project) : s'.Owned k organization project := by
  refine ⟨h.isPublic hk.isPublic, ?_⟩
  rw [h.rows]
  exact hk.pair

/-- Soundness is kept by a step that inserts nothing. -/
theorem Quiet.sound (h : Quiet i s s') (sound : s.Sound)
    (each : ((s'.pending i).vms.map VirtualMachine.pk).Nodup)
    (saved : ∀ part ∈ (s'.txs.of i).savepoints, part.writes = {}) : s'.Sound := by
  have new {j : Nat} (hj : j ≠ i) : ∀ v ∈ (s'.pending i).vms, ∀ w ∈ (s'.pending j).vms,
      v.pk ≠ w.pk := by
    intro v hv w hw
    rw [pending_other h.others hj] at hw
    rcases h.vms v hv with old | ⟨fresh, -⟩
    · exact sound.apart i j (Ne.symm hj) v old w hw
    · have := sound.drawn j w hw
      omega
  refine ⟨?_, ?_, ?_, ?_, ?_, ?_, ?_, ?_⟩
  · rw [h.rows]
    exact sound.nodup
  · rw [h.rows]
    exact fun v hv => h.isPublic (sound.vms v hv)
  · rw [h.rows]
    exact fun d hd => h.isPublic (sound.disks d hd)
  · rw [h.rows]
    exact fun x hx => h.isPublic (sound.snapshots x hx)
  · intro j v hv
    by_cases same : j = i
    · subst same
      rcases h.vms v hv with old | ⟨-, lt⟩
      · exact Nat.lt_of_lt_of_le (sound.drawn j v old) h.sequence
      · exact lt
    · rw [pending_other h.others same] at hv
      exact Nat.lt_of_lt_of_le (sound.drawn j v hv) h.sequence
  · intro j
    by_cases same : j = i
    · exact same ▸ each
    · rw [pending_other h.others same]
      exact sound.each j
  · intro j l hne v hv w hw
    by_cases same : j = i
    · subst same
      exact new (Ne.symm hne) v hv w hw
    · by_cases same' : l = i
      · subst same'
        exact (new same w hw v hv).symm
      · rw [pending_other h.others same] at hv
        rw [pending_other h.others same'] at hw
        exact sound.apart j l hne v hv w hw
  · intro j part hpart
    by_cases same : j = i
    · subst same
      exact saved part hpart
    · rw [h.others.of j same] at hpart
      exact sound.saved j part hpart

end Db

/-! ## The discipline -/

section Discipline

variable (organization project : Nat) (q : Quota)

/-- What a transaction may count on between two of its statements. -/
structure Relies (i : Nat) (s s' : Db) : Prop where
  tx : s'.txs.of i = s.txs.of i
  locks : ∀ k, s.txs.holder k = some i → s'.txs.holder k = some i
  shrinks : s.txs.holder q.pk = some i → Shrinks organization project s.rows s'.rows
  owned : ∀ k org proj, s.Owned k org proj → s'.Owned k org proj

variable {organization project q}

/-- A thread may rely on nothing happening. -/
theorem Relies.refl {i : Nat} {s : Db} : Relies organization project q i s s :=
  ⟨rfl, fun _ h => h, fun _ => .refl, fun _ _ _ h => h⟩

/-- What others do step by step may be relied on as a whole. -/
theorem Relies.trans {i : Nat} {s s' s'' : Db} (h : Relies organization project q i s s')
    (h' : Relies organization project q i s' s'') : Relies organization project q i s s'' :=
  ⟨h'.tx.trans h.tx, fun k hk => h'.locks k (h.locks k hk),
    fun hk => (h.shrinks hk).trans (h'.shrinks (h.locks _ hk)),
    fun k org proj hk => h'.owned k org proj (h.owned k org proj hk)⟩

variable (organization project q)

/-- The keys are sound and the usage is within the quota, while the quota is the effective one. -/
def discipline : Discipline system where
  ok _ _ _ s := effectiveQuota s.quotas organization (some project) = some q
  inv s := s.Sound ∧ (s.rows.usage organization (some project)).Within q
  rely := Relies organization project q
  guar i s s' := ∀ j, j ≠ i → Relies organization project q j s s'
  rely_refl _ _ := .refl
  rely_trans _ _ _ _ := .trans
  guar_rely _ j _ _ hne h := h j (Ne.symm hne)

end Discipline

section Statements

variable {organization project : Nat} {q : Quota} {i : Nat} {α : Type}

/-- From a state of `P` the script keeps to the discipline, and returns in `Q`. -/
abbrev Keeps (organization project : Nat) (q : Quota) (i : Nat) (P : Db → Prop) (x : TxM α)
    (Q : α → Db → Prop) : Prop :=
  Safe (discipline organization project q) i P x Q fun _ _ => True

/-- An assertion that the other transactions respect. -/
def Stable (organization project : Nat) (q : Quota) (i : Nat) (P : Db → Prop) : Prop :=
  ∀ s s', Relies organization project q i s s' → P s → P s'

/-- Two stable facts are stable together. -/
theorem Stable.and {P P' : Db → Prop} (h : Stable organization project q i P)
    (h' : Stable organization project q i P') :
    Stable organization project q i fun s => P s ∧ P' s :=
  fun s s' step both => ⟨h s s' step both.1, h' s s' step both.2⟩

/-- A quiet step keeps to the discipline. -/
theorem Db.Quiet.keeps {s s' : Db} (h : s.Quiet i s')
    (inv : s.Sound ∧ (s.rows.usage organization (some project)).Within q)
    (each : ((s'.pending i).vms.map VirtualMachine.pk).Nodup)
    (saved : ∀ part ∈ (s'.txs.of i).savepoints, part.writes = {}) :
    (s'.Sound ∧ (s'.rows.usage organization (some project)).Within q) ∧
      ∀ j, j ≠ i → Relies organization project q j s s' := by
  refine ⟨⟨h.sound inv.1 each saved, by rw [h.rows]; exact inv.2⟩, fun j hj => ?_⟩
  exact ⟨h.others.of j hj, h.others.holder j hj, fun _ => by rw [h.rows]; exact .refl,
    fun k org proj hk => h.owned hk⟩

/-- A statement that changes nothing. -/
theorem keeps_still {o : TxOp} {P : Db → Prop} (stable : Stable organization project q i P)
    (still : ∀ c s a s', Db.act c i o s = some (a, s') → s' = s) :
    Keeps organization project q i P (perform o) fun _ => P := by
  refine Safe.perform stable ?_
  intro s c a s' hP inv _ hact
  obtain rfl := still c s a s' hact
  exact ⟨inv, fun _ _ => .refl, hP⟩

/-- A statement that returns has kept what its script keeps. -/
theorem keeps_statement {P : Db → Prop} {x : TxM (Except Exn α)} {Q : α → Db → Prop}
    (h : Keeps organization project q i P x fun r s => ∀ a, r = .ok a → Q a s) :
    Keeps organization project q i P (statement x) Q := by
  refine Safe.bind h fun r => ?_
  cases r with
  | ok a => exact Safe.pure fun s hs => hs a rfl
  | error e => exact Safe.throw fun _ _ => trivial

/-- A query sees the committed rows and its own, and the quota. -/
theorem keeps_query {P : Db → Prop} (stable : Stable organization project q i P) :
    Keeps organization project q i P query fun v s => P s ∧ v.rows = s.rows ++ s.pending i ∧
      effectiveQuota v.quotas organization (some project) = some q := by
  refine Safe.perform stable ?_
  intro s c a s' hP inv effective hact
  cases hact
  exact ⟨inv, fun _ _ => .refl, hP, rfl, effective⟩

/-! ## Blocks -/

/-- A transaction in its `n`th block, with what it has inserted. -/
def At (i n : Nat) (X : Rows → Prop) (s : Db) : Prop :=
  (s.txs.of i).savepoints.length = n ∧ X (s.pending i)

/-- Of a transaction for the project: it holds the lock, and the quota has room for `a`. -/
def Reserved (organization project : Nat) (q : Quota) (i org proj : Nat) (a : Additional)
    (s : Db) : Prop :=
  org = organization → proj = project → s.txs.holder q.pk = some i ∧
    ((s.rows.usage organization (some project)).add a).Within q

variable {n org proj : Nat} {X : Rows → Prop} {a : Additional}

/-- Nobody else touches what is pending for a thread. -/
theorem stable_at : Stable organization project q i (At i n X) := by
  intro s s' step h
  have tx : s'.txs.of i = s.txs.of i := step.tx
  unfold At Db.pending at h ⊢
  rw [tx]
  exact h

/-- Nobody else takes what a thread has reserved. -/
theorem stable_reserved :
    Stable organization project q i (Reserved organization project q i org proj a) := by
  intro s s' step h horg hproj
  obtain ⟨locked, within⟩ := h horg hproj
  exact ⟨step.locks _ locked, within.mono ((step.shrinks locked).usage_le.add a)⟩

/-- Nobody else moves a VM. -/
theorem stable_owned {k : Nat} : Stable organization project q i fun s => s.Owned k org proj :=
  fun _ _ step h => step.owned k org proj h

/-- A step that leaves the VMs that the transaction has inserted. -/
theorem keeps_of_vms {s : Db} (s' : Db)
    (inv : s.Sound ∧ (s.rows.usage organization (some project)).Within q)
    (rows : s'.rows = s.rows) (others : Transactions.Others i s.txs s'.txs)
    (sequence : s.sequence ≤ s'.sequence) (vms : (s'.pending i).vms = (s.pending i).vms)
    (saved : ∀ part ∈ (s'.txs.of i).savepoints,
      part ∈ (s.txs.of i).savepoints ∨ part.writes = {}) :
    (s'.Sound ∧ (s'.rows.usage organization (some project)).Within q) ∧
      ∀ j, j ≠ i → Relies organization project q j s s' := by
  have quiet : s.Quiet i s' := ⟨rows, others, sequence, fun _ hv => .inl (vms ▸ hv)⟩
  refine quiet.keeps inv (by rw [vms]; exact inv.1.each i) fun part hpart => ?_
  rcases saved part hpart with old | empty
  · exact inv.1.saved i part old
  · exact empty

/-- `atomic` opens a savepoint over nothing pending. -/
theorem keeps_enter : Keeps organization project q i (At i n (· = {})) (perform TxOp.enter)
    fun _ => At i (n + 1) (· = {}) := by
  refine Safe.perform stable_at ?_
  intro s c u s' ⟨depth, empty⟩ inv _ hact
  cases hact
  have pending : Db.pending { s with txs := s.txs.enter i } i = s.pending i := by
    simp [Db.pending, Transactions.enter]
  have saved : ∀ part ∈ ((s.txs.enter i).of i).savepoints,
      part ∈ (s.txs.of i).savepoints ∨ part.writes = {} := by
    intro part hpart
    simp only [Transactions.enter, Transactions.of_set_self, List.mem_cons] at hpart
    rcases hpart with rfl | old
    · exact .inr empty
    · exact .inl old
  obtain ⟨kept, guar⟩ := keeps_of_vms { s with txs := s.txs.enter i } inv rfl
    Transactions.others_set (Nat.le_refl _) (congrArg Rows.vms pending) saved
  exact ⟨kept, guar, by simp [Transactions.enter, depth], pending.trans empty⟩

/-- A rollback gives up everything. -/
theorem keeps_rollback :
    Keeps organization project q i (fun _ => True) (perform TxOp.rollback) fun _ _ => True := by
  refine Safe.perform (fun _ _ _ h => h) ?_
  intro s c u s' _ inv _ hact
  cases hact
  cases saved : (s.txs.of i).savepoints with
  | nil =>
    have same : s.txs.rollback i = s.txs := by simp [Transactions.rollback, saved]
    rw [same]
    exact ⟨inv, fun _ _ => .refl, trivial⟩
  | cons part rest =>
    have back : (s.txs.rollback i).of i = ⟨part, rest⟩ := by simp [Transactions.rollback, saved]
    have none : Db.pending { s with txs := s.txs.rollback i } i = {} := by
      simp only [Db.pending, back]
      exact inv.1.saved i part (saved ▸ List.mem_cons_self)
    have quiet : s.Quiet i { s with txs := s.txs.rollback i } := by
      refine ⟨rfl, Transactions.others_rollback, Nat.le_refl _, fun v hv => ?_⟩
      rw [none] at hv
      cases hv
    obtain ⟨kept, guar⟩ := quiet.keeps inv (by rw [none]; exact List.nodup_nil) (by
      intro part' hpart'
      simp only [back] at hpart'
      exact inv.1.saved i part' (saved ▸ List.mem_cons_of_mem _ hpart'))
    exact ⟨kept, guar, trivial⟩

/-- The end of an inner block. The lock is not given back. -/
theorem keeps_release : Keeps organization project q i
    (fun s => At i (n + 2) X s ∧ Reserved organization project q i org proj a s)
    (perform TxOp.leave)
    fun _ s => At i (n + 1) X s ∧ Reserved organization project q i org proj a s := by
  refine Safe.perform (stable_at.and stable_reserved) ?_
  intro s c u s' ⟨⟨depth, inserted⟩, reserved⟩ inv _ hact
  simp only [system, Db.act] at hact
  split at hact
  · next outer inner rest saved =>
    cases hact
    have pending : Db.pending { s with txs := s.txs.release i } i = s.pending i := by
      simp [Db.pending, Transactions.release]
    have tail : ∀ part ∈ ((s.txs.release i).of i).savepoints,
        part ∈ (s.txs.of i).savepoints ∨ part.writes = {} := by
      intro part hpart
      simp only [Transactions.release, Transactions.of_set_self] at hpart
      exact .inl (List.mem_of_mem_tail hpart)
    obtain ⟨kept, guar⟩ := keeps_of_vms { s with txs := s.txs.release i } inv rfl
      Transactions.others_set (Nat.le_refl _) (congrArg Rows.vms pending) tail
    refine ⟨kept, guar, ⟨by simp [Transactions.release, depth], ?_⟩, reserved⟩
    rw [pending]
    exact inserted
  · next outermost =>
    -- there are two savepoints
    match hs : (s.txs.of i).savepoints, depth with
    | x :: y :: rest, _ => exact absurd hs (outermost x y rest)

/-- `select_for_update` -/
theorem keeps_lock {k : Nat} : Keeps organization project q i (At i n X)
    (perform (TxOp.lockQuota k)) fun r s => ∀ row, r = .ok row →
      At i n X s ∧ s.txs.holder k = some i := by
  refine Safe.perform stable_at ?_
  intro s c u s' ⟨depth, inserted⟩ inv _ hact
  simp only [system, Db.act] at hact
  split at hact
  · cases hact
    exact ⟨inv, fun _ _ => .refl, fun row h => by cases h⟩
  · obtain ⟨txs, htxs, same⟩ := Option.map_eq_some_iff.mp hact
    cases same
    obtain ⟨savepoints, writes⟩ := Transactions.of_lock htxs
    have pending : Db.pending { s with txs := txs } i = s.pending i := writes
    obtain ⟨kept, guar⟩ := keeps_of_vms { s with txs := txs } inv rfl
      (Transactions.others_lock htxs) (Nat.le_refl _) (congrArg Rows.vms pending) fun part hpart => .inl (savepoints ▸ hpart)
    refine ⟨kept, guar, fun row _ => ⟨⟨?_, ?_⟩, Transactions.holder_lock htxs⟩⟩
    · exact (congrArg List.length savepoints).trans depth
    · rw [pending]
      exact inserted

/-! ## Insertions -/

/-- A row that is no VM. -/
theorem keeps_insert {ρ : Type} {rows : ρ → Rows → Rows} {Y : Rows → Prop} {c : Choice} {row : ρ}
    {s s' : Db} {r : Except Exn ρ}
    (vms : ∀ p, (rows row p).vms = p.vms) (step : ∀ p, X p → Y (rows row p))
    (here : At i n X s ∧ Reserved organization project q i org proj a s)
    (inv : s.Sound ∧ (s.rows.usage organization (some project)).Within q)
    (done : s.insert c i row rows = (r, s')) :
    (s'.Sound ∧ (s'.rows.usage organization (some project)).Within q) ∧
      (∀ j, j ≠ i → Relies organization project q j s s') ∧
      ∀ x, r = .ok x → At i n Y s' ∧ Reserved organization project q i org proj a s' := by
  obtain ⟨⟨depth, inserted⟩, reserved⟩ := here
  unfold Db.insert at done
  split at done
  · cases done
    exact ⟨inv, fun _ _ => .refl, fun x hx => by cases hx⟩
  · cases done
    let after : Db := { s with sequence := s.sequence + 1, txs := s.txs.write i (rows row) }
    have pending : after.pending i = rows row (s.pending i) := by
      simp [after, Db.pending, Transactions.write]
    have saved : (after.txs.of i).savepoints = (s.txs.of i).savepoints := by
      simp [after, Transactions.write]
    obtain ⟨kept, guar⟩ := keeps_of_vms after inv rfl Transactions.others_set (Nat.le_succ _)
      (by rw [pending, vms]) fun part hpart => .inl (saved ▸ hpart)
    refine ⟨kept, guar, fun x _ => ⟨⟨?_, ?_⟩, reserved⟩⟩
    · exact (congrArg List.length saved).trans depth
    · show Y (after.pending i)
      rw [pending]
      exact step _ inserted

/-- A disk is added to what is pending. -/
theorem keeps_insertDisk {row : VMDisk} {Y : Rows → Prop}
    (step : ∀ p d, X p → d.vm = row.vm → d.sizeBytes = row.sizeBytes →
      Y { p with disks := p.disks ++ [d] }) :
    Keeps organization project q i
      (fun s => At i n X s ∧ Reserved organization project q i org proj a s)
      (perform (TxOp.insertDisk row)) fun r s => ∀ d, r = .ok d →
        At i n Y s ∧ Reserved organization project q i org proj a s := by
  refine Safe.perform (stable_at.and stable_reserved) ?_
  intro s c r s' here inv _ hact
  exact keeps_insert (fun _ => rfl) (fun p hp => step p { row with pk := s.sequence } hp rfl rfl) here inv
    (Option.some.inj hact)

/-- A snapshot is added to what is pending. -/
theorem keeps_insertSnapshot {row : Snapshot} {Y : Rows → Prop}
    (step : ∀ p x, X p → x.vm = row.vm → Y { p with snapshots := p.snapshots ++ [x] }) :
    Keeps organization project q i
      (fun s => At i n X s ∧ Reserved organization project q i org proj a s)
      (perform (TxOp.insertSnapshot row)) fun r s => ∀ x, r = .ok x →
        At i n Y s ∧ Reserved organization project q i org proj a s := by
  refine Safe.perform (stable_at.and stable_reserved) ?_
  intro s c r s' here inv _ hact
  exact keeps_insert (fun _ => rfl) (fun p hp => step p { row with pk := s.sequence } hp rfl) here inv
    (Option.some.inj hact)

/-- The first VM of a transaction. -/
theorem keeps_insertVm {row : VirtualMachine} :
    Keeps organization project q i
      (fun s => At i n (· = {}) s ∧ Reserved organization project q i org proj a s)
      (perform (TxOp.insertVm row)) fun r s => ∀ v, r = .ok v →
        (At i n (· = { vms := [v] }) s ∧ Reserved organization project q i org proj a s) ∧
          v = { row with pk := v.pk } := by
  refine Safe.perform (stable_at.and stable_reserved) ?_
  intro s c r s' ⟨⟨depth, empty⟩, reserved⟩ inv _ hact
  have done := Option.some.inj hact
  unfold Db.insert at done
  split at done
  · cases done
    exact ⟨inv, fun _ _ => .refl, fun x hx => by cases hx⟩
  · cases done
    let row' : VirtualMachine := { row with pk := s.sequence }
    let after : Db := { s with
      sequence := s.sequence + 1
      txs := s.txs.write i fun p => { p with vms := p.vms ++ [row'] } }
    have pending : after.pending i = { vms := [row'] } := by
      have write : after.pending i = { s.pending i with vms := (s.pending i).vms ++ [row'] } := by
        simp [after, Db.pending, Transactions.write]
      rw [write, empty]
      rfl
    have saved : (after.txs.of i).savepoints = (s.txs.of i).savepoints := by
      simp [after, Transactions.write]
    have quiet : s.Quiet i after := by
      refine ⟨rfl, Transactions.others_set, Nat.le_succ _, fun v hv => .inr ?_⟩
      rw [pending] at hv
      obtain rfl : v = row' := List.mem_singleton.mp hv
      exact ⟨Nat.le_refl _, Nat.lt_succ_self _⟩
    obtain ⟨kept, guar⟩ := quiet.keeps inv (by rw [pending]; exact List.nodup_singleton _)
      fun part hpart => inv.1.saved i part (saved ▸ hpart)
    refine ⟨kept, guar, fun v hv => ?_⟩
    cases hv
    exact ⟨⟨⟨(congrArg List.length saved).trans depth, pending⟩, reserved⟩, rfl⟩

/-! ## The commit -/

/-- A key of the project: that of a VM the transaction has inserted, or one that is public. -/
def Db.Mine (s : Db) (i org proj k : Nat) : Prop :=
  (∃ v ∈ (s.pending i).vms, v.pk = k) ∨ s.Owned k org proj

/-- What the transaction has inserted is of its project and was reserved. -/
structure Ready (organization project : Nat) (q : Quota) (i org proj : Nat) (a : Additional)
    (s : Db) : Prop where
  depth : (s.txs.of i).savepoints.length = 1
  vms : ∀ v ∈ (s.pending i).vms, v.organization = org ∧ v.project = proj
  disks : ∀ d ∈ (s.pending i).disks, s.Mine i org proj d.vm
  snapshots : ∀ x ∈ (s.pending i).snapshots, s.Mine i org proj x.vm
  covered : (s.pending i).Covered a
  reserved : s.pending i = {} ∨ Reserved organization project q i org proj a s

/-- What a thread owns stays its own. -/
theorem Db.Mine.rely {s s' : Db} {k : Nat} (step : Relies organization project q i s s')
    (h : s.Mine i org proj k) : s'.Mine i org proj k := by
  rcases h with own | owned
  · exact .inl (by unfold Db.pending at own ⊢; rw [step.tx]; exact own)
  · exact .inr (step.owned k org proj owned)

/-- Nobody else disturbs a thread that is ready to commit. -/
theorem stable_ready : Stable organization project q i (Ready organization project q i org proj a) := by
  intro s s' step h
  have pending : s'.pending i = s.pending i := by
    unfold Db.pending
    rw [step.tx]
  refine ⟨?_, ?_, ?_, ?_, ?_, ?_⟩
  · rw [step.tx]
    exact h.depth
  · rw [pending]
    exact h.vms
  · rw [pending]
    exact fun d hd => (h.disks d hd).rely step
  · rw [pending]
    exact fun x hx => (h.snapshots x hx).rely step
  · rw [pending]
    exact h.covered
  · rw [pending]
    exact h.reserved.imp id (stable_reserved s s' step)

namespace Db

variable {s : Db}

/-- The database after an accepted commit. -/
def committed (s : Db) (i : Nat) : Db :=
  { s with rows := s.rows ++ s.pending i, txs := s.txs.finish i {} }

/-- Nothing is pending after a commit. -/
theorem pending_committed : (s.committed i).pending i = {} := by
  simp [committed, pending, Transactions.finish]

/-- What a transaction has drawn for its VMs becomes public, and what is public stays so. -/
theorem committed_public {k : Nat} (sound : s.Sound)
    (h : s.Public k ∨ ∃ v ∈ (s.pending i).vms, v.pk = k) : (s.committed i).Public k := by
  have others : Transactions.Others i s.txs (s.committed i).txs := Transactions.others_finish
  refine ⟨?_, fun j w hw => ?_⟩
  · rcases h with isPublic | ⟨v, hv, rfl⟩
    · exact isPublic.1
    · exact sound.drawn i v hv
  · by_cases same : j = i
    · subst same
      rw [pending_committed] at hw
      cases hw
    · rw [pending_other others same] at hw
      rcases h with isPublic | ⟨v, hv, rfl⟩
      · exact isPublic.2 j w hw
      · exact sound.apart j i same w hw v hv

/-- A commit moves no VM. -/
theorem committed_owned {k : Nat} (sound : s.Sound) (h : s.Owned k org proj) :
    (s.committed i).Owned k org proj := by
  refine ⟨committed_public sound (.inl h.isPublic), fun v hv same => ?_⟩
  rcases List.mem_append.mp hv with old | new
  · exact h.pair v old same
  · exact absurd same (h.isPublic.2 i v new)

/-- The keys of the VMs that are committed and of those that will be. -/
theorem Sound.keys (sound : s.Sound) :
    ((s.rows ++ s.pending i).vms.map VirtualMachine.pk).Nodup := by
  rw [Rows.append_vms, List.map_append, List.nodup_append]
  refine ⟨sound.nodup, sound.each i, ?_⟩
  intro k hk k' hk' same
  obtain ⟨v, hv, rfl⟩ := List.mem_map.mp hk
  obtain ⟨w, hw, rfl⟩ := List.mem_map.mp hk'
  exact (sound.vms v hv).2 i w hw same.symm

/-- A commit of rows that hang off the thread's own VMs is sound. -/
theorem committed_sound (sound : s.Sound)
    (disks : ∀ d ∈ (s.pending i).disks, s.Mine i org proj d.vm)
    (snapshots : ∀ x ∈ (s.pending i).snapshots, s.Mine i org proj x.vm) :
    (s.committed i).Sound := by
  have others : Transactions.Others i s.txs (s.committed i).txs := Transactions.others_finish
  have mine {k : Nat} (h : s.Mine i org proj k) : (s.committed i).Public k := by
    rcases h with own | owned
    · exact committed_public sound (.inr own)
    · exact committed_public sound (.inl owned.isPublic)
  have less {j : Nat} {v : VirtualMachine} (hv : v ∈ ((s.committed i).pending j).vms) :
      j ≠ i ∧ v ∈ (s.pending j).vms := by
    by_cases same : j = i
    · subst same
      rw [pending_committed] at hv
      cases hv
    · rw [pending_other others same] at hv
      exact ⟨same, hv⟩
  refine ⟨sound.keys, ?_, ?_, ?_, ?_, ?_, ?_, ?_⟩
  · intro v hv
    rcases List.mem_append.mp hv with old | new
    · exact committed_public sound (.inl (sound.vms v old))
    · exact committed_public sound (.inr ⟨v, new, rfl⟩)
  · intro d hd
    rcases List.mem_append.mp hd with old | new
    · exact committed_public sound (.inl (sound.disks d old))
    · exact mine (disks d new)
  · intro x hx
    rcases List.mem_append.mp hx with old | new
    · exact committed_public sound (.inl (sound.snapshots x old))
    · exact mine (snapshots x new)
  · exact fun j v hv => sound.drawn j v (less hv).2
  · intro j
    by_cases same : j = i
    · subst same
      rw [pending_committed]
      exact List.nodup_nil
    · rw [pending_other others same]
      exact sound.each j
  · exact fun j l hne v hv w hw => sound.apart j l hne v (less hv).2 w (less hw).2
  · intro j part hpart
    by_cases same : j = i
    · subst same
      simp [committed, Transactions.finish] at hpart
    · rw [others.of j same] at hpart
      exact sound.saved j part hpart

end Db

/-- What a transaction commits: nothing that counts for the project, or what it has reserved. -/
theorem Ready.shrinks_or_within {s : Db} (h : Ready organization project q i org proj a s)
    (sound : s.Sound) :
    Shrinks organization project s.rows (s.rows ++ s.pending i) ∨
      s.txs.holder q.pk = some i ∧
        ((s.rows ++ s.pending i).usage organization (some project)).Within q := by
  rcases h.reserved with empty | reserved
  · rw [empty, Rows.append_empty]
    exact .inl .refl
  by_cases ours : org = organization ∧ proj = project
  · obtain ⟨locked, within⟩ := reserved ours.1 ours.2
    refine .inr ⟨locked, within.mono (usage_append_le sound.keys ?_ ?_ h.covered)⟩
    · exact fun d hd v hv => ((sound.disks d hd).2 i v hv).symm
    · exact fun x hx v hv => ((sound.snapshots x hx).2 i v hv).symm
  · have apart {k : Nat} (mine : s.Mine i org proj k) :
        ∀ v ∈ s.rows.counted organization project, k ≠ v.pk := by
      intro v hv same
      obtain ⟨hv, horg, -, hproj⟩ := Rows.mem_counted.mp hv
      rcases mine with ⟨w, hw, rfl⟩ | owned
      · exact (sound.vms v hv).2 i w hw same
      · obtain ⟨horg', hproj'⟩ := owned.pair v hv same.symm
        exact ours ⟨horg'.symm.trans horg, hproj'.symm.trans hproj⟩
    refine .inl (shrinks_append ?_ (fun d hd => apart (h.disks d hd))
      fun x hx => apart (h.snapshots x hx))
    intro v hv both
    obtain ⟨horg, hproj⟩ := h.vms v hv
    exact ours ⟨horg.symm.trans both.1, hproj.symm.trans both.2⟩

/-- A thread that is ready commits within the quota. -/
theorem keeps_commit : Keeps organization project q i (Ready organization project q i org proj a)
    (perform TxOp.leave) fun _ _ => True := by
  refine Safe.perform stable_ready ?_
  intro s c r s' ready inv _ hact
  obtain ⟨part, one⟩ : ∃ part, (s.txs.of i).savepoints = [part] :=
    List.length_eq_one_iff.mp ready.depth
  have others : Transactions.Others i s.txs (s.txs.finish i {}) := Transactions.others_finish
  simp only [system, Db.act, one, Db.commit] at hact
  split at hact
  · cases hact
    have none : Db.pending { s with txs := s.txs.finish i {} } i = {} := by
      simp [Db.pending, Transactions.finish]
    have quiet : s.Quiet i { s with txs := s.txs.finish i {} } := by
      refine ⟨rfl, others, Nat.le_refl _, fun v hv => ?_⟩
      rw [none] at hv
      cases hv
    obtain ⟨kept, guar⟩ := quiet.keeps inv (by rw [none]; exact List.nodup_nil) (by
      intro part hpart
      simp [Transactions.finish] at hpart)
    exact ⟨kept, guar, trivial⟩
  · cases hact
    have sound : (s.committed i).Sound := Db.committed_sound inv.1 ready.disks ready.snapshots
    have growth := ready.shrinks_or_within inv.1
    refine ⟨⟨sound, ?_⟩, fun j hj => ⟨others.of j hj, others.holder j hj, fun held => ?_, ?_⟩, trivial⟩
    · rcases growth with shrinks | ⟨-, within⟩
      · exact inv.2.mono shrinks.usage_le
      · exact within
    · rcases growth with shrinks | ⟨locked, -⟩
      · exact shrinks
      · exact absurd (Option.some.inj (held.symm.trans locked)) hj
    · exact fun k org proj owned => Db.committed_owned inv.1 owned

/-- What a transaction may carry along. -/
structure Framed (organization project : Nat) (q : Quota) (i : Nat) (F : Db → Prop) : Prop where
  rely : Stable organization project q i F
  guar : ∀ s s', (∀ j, j ≠ i → Relies organization project q j s s') → F s → F s'

theorem framed_true : Framed organization project q i fun _ => True :=
  ⟨fun _ _ _ h => h, fun _ _ _ h => h⟩

theorem framed_owned {k : Nat} : Framed organization project q i fun s => s.Owned k org proj :=
  ⟨stable_owned, fun _ _ step h => (step (i + 1) (Nat.succ_ne_self i)).owned k org proj h⟩

/-- A transaction that reserves what it inserts. -/
theorem keeps_atomic (org proj : Nat) (a : Additional) {body : TxM α} {F : Db → Prop}
    (framed : Framed organization project q i F)
    (h : Keeps organization project q i (fun s => At i 1 (· = {}) s ∧ F s) body
      fun _ => Ready organization project q i org proj a) :
    Keeps organization project q i (fun s => At i 0 (· = {}) s ∧ F s) (atomic body)
      fun _ _ => True := by
  refine Safe.bind (Safe.frame framed.rely framed.guar keeps_enter) fun _ =>
    Safe.bind (Safe.tryCatch h fun e => ?_) fun x => ?_
  · exact Safe.bind keeps_rollback fun _ => Safe.throw fun _ _ => trivial
  · refine Safe.bind (Q := fun _ _ => True) (keeps_statement ?_) fun _ => Safe.pure fun _ _ => trivial
    exact Safe.conseq keeps_commit (fun _ h => h) (fun _ _ _ _ _ => trivial) fun _ _ _ => trivial

/-! ## `check_and_reserve` -/

/-- A quota is one of the scope it was looked up for. -/
theorem project_of_quotaOf {quotas : List Quota} {scope : Option Nat} {quota : Quota}
    (h : quotaOf quotas org scope = some quota) : quota.project = scope := by
  have found := List.find?_some h
  exact (of_decide_eq_true found).2

/-- Two queries at two moments find the quota that is effective throughout. -/
theorem keeps_findQuota {P : Db → Prop} (stable : Stable organization project q i P) :
    Keeps organization project q i P (findQuota org (some proj)) fun r s =>
      P s ∧ (org = organization → proj = project → r = some q) := by
  refine Safe.bind (keeps_query stable) fun v => ?_
  cases own : quotaOf v.quotas org (some proj) with
  | some own' =>
    refine Safe.pure fun s h => ⟨h.1, ?_⟩
    rintro rfl rfl
    have effective := h.2.2
    rw [effectiveQuota, own, Option.some_or] at effective
    exact effective
  | none =>
    -- so the quota is the organization's, and at the second query it still is
    have first : ∀ s, (P s ∧ v.rows = s.rows ++ s.pending i ∧
        effectiveQuota v.quotas organization (some project) = some q) →
        P s ∧ (org = organization → proj = project → q.project = none) := by
      rintro s ⟨hP, -, effective⟩
      refine ⟨hP, ?_⟩
      rintro rfl rfl
      rw [effectiveQuota, own, Option.none_or] at effective
      exact project_of_quotaOf effective
    refine Safe.conseq (Safe.bind (keeps_query (stable.and fun _ _ _ h => h)) fun v' =>
      Safe.pure fun s h => ⟨h.1.1, ?_⟩) first (fun _ _ h => h) fun _ _ h => h
    rintro rfl rfl
    have effective := h.2.2
    have wide := h.1.2 rfl rfl
    cases own' : quotaOf v'.quotas org (some proj) with
    | none => rwa [effectiveQuota, own', Option.none_or] at effective
    | some other =>
      rw [effectiveQuota, own', Option.some_or] at effective
      cases effective
      have scope := project_of_quotaOf own'
      rw [wide] at scope
      cases scope

/-- Under the lock, what was counted bounds the usage. -/
theorem keeps_currentUsage {P : Db → Prop} (stable : Stable organization project q i P)
    (here : ∀ s, P s → s.pending i = {} ∧
      (org = organization → proj = project → s.txs.holder q.pk = some i)) :
    Keeps organization project q i P (currentUsage org (some proj)) fun u s =>
      P s ∧ (org = organization → proj = project →
        (s.rows.usage organization (some project)).Le u) := by
  have seen (r : Rows) : Stable organization project q i fun s =>
      P s ∧ (org = organization → proj = project → Shrinks organization project r s.rows) := by
    intro s s' step h
    refine ⟨stable s s' step h.1, fun horg hproj => ?_⟩
    exact (h.2 horg hproj).trans (step.shrinks ((here s h.1).2 horg hproj))
  have now {s : Db} {v : View} (hP : P s) (rows : v.rows = s.rows ++ s.pending i) :
      Shrinks organization project v.rows s.rows := by
    rw [rows, (here s hP).1, Rows.append_empty]
    exact .refl
  refine Safe.bind (keeps_query stable) fun v₁ => ?_
  refine Safe.conseq (Safe.bind (keeps_query (seen v₁.rows)) fun v₂ => ?_)
    (fun s h => ⟨h.1, fun _ _ => now h.1 h.2.1⟩) (fun _ _ h => h) fun _ _ h => h
  refine Safe.conseq (Safe.bind (keeps_query ((seen v₁.rows).and (seen v₂.rows))) fun v₃ => ?_)
    (fun s h => ⟨h.1, h.1.1, fun _ _ => now h.1.1 h.2.1⟩) (fun _ _ h => h) fun _ _ h => h
  refine Safe.pure fun s h => ⟨h.1.1.1, fun horg hproj => ?_⟩
  have bound := usage_le_totals (h.1.1.2 horg hproj) (h.1.2.2 horg hproj) (now h.1.1.1 h.2.1)
  rw [horg, hproj]
  exact bound

/-- In the block of `check_and_reserve`, with the lock. -/
def Locked (organization project : Nat) (q : Quota) (i org proj : Nat) (s : Db) : Prop :=
  At i 2 (· = {}) s ∧ (org = organization → proj = project → s.txs.holder q.pk = some i)

/-- Nobody else changes the usage while the quota's row is locked. -/
theorem stable_locked :
    Stable organization project q i (Locked organization project q i org proj) :=
  stable_at.and fun _ _ step h horg hproj => step.locks _ (h horg hproj)

/-- `locked_quota_for` returns with the row locked. -/
theorem keeps_lockedQuotaFor :
    Keeps organization project q i (At i 2 (· = {})) (lockedQuotaFor org (some proj)) fun _ =>
      Locked organization project q i org proj := by
  refine Safe.bind (keeps_findQuota stable_at) fun r => ?_
  cases r with
  | none =>
    refine Safe.pure fun s h => ⟨h.1, fun horg hproj => ?_⟩
    cases h.2 horg hproj
  | some quota =>
    have taken : Keeps organization project q i (At i 2 (· = {}))
        (statement (perform (TxOp.lockQuota quota.pk))) fun _ s =>
          At i 2 (· = {}) s ∧ s.txs.holder quota.pk = some i := keeps_statement keeps_lock
    refine Safe.bind (Q := fun _ => Locked organization project q i org proj) ?_ fun _ =>
      Safe.pure fun _ h => h
    intro l s hs
    refine Safe.conseq taken (fun _ h => h) (fun _ s' h => ⟨h.1, fun horg hproj => ?_⟩)
      (fun _ _ h => h) l s hs.1
    rw [← Option.some.inj (hs.2 horg hproj)]
    exact h.2

/-- `assert_quota_available` returns with the resources reserved. -/
theorem keeps_assertQuotaAvailable :
    Keeps organization project q i (Locked organization project q i org proj)
      (assertQuotaAvailable org (some proj) a) fun _ s =>
        At i 2 (· = {}) s ∧ Reserved organization project q i org proj a s := by
  refine Safe.bind (keeps_findQuota stable_locked) fun r => ?_
  cases r with
  | none =>
    refine Safe.pure fun s h => ⟨h.1.1, fun horg hproj => ?_⟩
    cases h.2 horg hproj
  | some quota =>
    have counts : Keeps organization project q i (Locked organization project q i org proj)
        (currentUsage org (some proj)) fun u s => Locked organization project q i org proj s ∧
          (org = organization → proj = project →
            (s.rows.usage organization (some project)).Le u) :=
      keeps_currentUsage stable_locked fun s h => ⟨h.1.2, h.2⟩
    intro l s hs
    refine Safe.bind counts (fun u => ?_) l s hs.1
    cases found : (quota.checks u a).find? fun c => c.limit < c.projected with
    | some exceeded => exact Safe.throw fun _ _ => trivial
    | none =>
      refine Safe.pure fun s' h => ⟨h.1.1, fun horg hproj => ⟨h.1.2 horg hproj, ?_⟩⟩
      have within := within_of_checks found
      rw [Option.some.inj (hs.2 horg hproj)] at within
      exact within.mono ((h.2 horg hproj).add a)

/-- `check_and_reserve` leaves its block with the lock, and with room for `a`. -/
theorem keeps_checkAndReserve :
    Keeps organization project q i (At i 1 (· = {})) (checkAndReserve org (some proj) a) fun _ s =>
      At i 1 (· = {}) s ∧ Reserved organization project q i org proj a s := by
  refine Safe.bind keeps_enter fun _ => Safe.bind (Safe.tryCatch
    (Safe.bind keeps_lockedQuotaFor fun _ => keeps_assertQuotaAvailable) fun e => ?_) fun _ => ?_
  · exact Safe.bind keeps_rollback fun _ => Safe.throw fun _ _ => trivial
  · have left : Keeps organization project q i (fun s => At i 2 (· = {}) s ∧
        Reserved organization project q i org proj a s) (statement (perform TxOp.leave)) fun _ s =>
          At i 1 (· = {}) s ∧ Reserved organization project q i org proj a s := by
      refine keeps_statement ?_
      exact Safe.conseq keeps_release (fun _ h => h) (fun _ _ h _ _ => h) fun _ _ h => h
    exact Safe.bind left fun _ => Safe.pure fun _ h => h

/-! ## Services -/

/-- The disks of a new VM are whole gibibytes. -/
theorem NewVm.totalDiskGb_mul (spec : NewVm) :
    spec.totalDiskGb * gib = (spec.diskSpecs.map DiskSpec.sizeBytes).sum := by
  refine Nat.div_mul_cancel (List.dvd_sum fun size h => ?_)
  obtain ⟨d, -, rfl⟩ := List.mem_map.mp h
  exact d.whole

/-- The rows of a new VM with key `k`, as far as they are inserted; `rest` bytes are to come. -/
structure NewVm.Filling (spec : NewVm) (k rest : Nat) (p : Rows) : Prop where
  vms : ∃ v, p.vms = [v] ∧ v.pk = k ∧ v.organization = spec.organization ∧
    v.project = spec.project ∧ v.cpuCount = spec.cpuCount ∧ v.memoryMb = spec.memoryMb
  snapshots : p.snapshots = []
  disks : ∀ d ∈ p.disks, d.vm = k
  bytes : (p.disks.map VMDisk.sizeBytes).sum + rest ≤ spec.totalDiskGb * gib

variable {spec : NewVm} {k rest : Nat}

/-- What `create_vm` reserves. -/
def NewVm.additional (spec : NewVm) : Additional :=
  { vms := 1, vcpu := spec.cpuCount, memoryMb := spec.memoryMb, storageGb := spec.totalDiskGb }

/-- All rows of the new VM are pending, so it is ready to commit. -/
theorem ready_of_filling {s : Db} (h : At i 1 (spec.Filling k rest) s)
    (reserved : Reserved organization project q i spec.organization spec.project spec.additional s) :
    Ready organization project q i spec.organization spec.project spec.additional s := by
  obtain ⟨v, vms, hk, horg, hproj, hcpu, hmemory⟩ := h.2.vms
  refine ⟨h.1, ?_, ?_, ?_, ?_, .inr reserved⟩
  · intro w hw
    rw [vms] at hw
    obtain rfl := List.mem_singleton.mp hw
    exact ⟨horg, hproj⟩
  · intro d hd
    exact .inl ⟨v, vms ▸ List.mem_singleton_self v, hk.trans (h.2.disks d hd).symm⟩
  · intro x hx
    rw [h.2.snapshots] at hx
    cases hx
  · refine ⟨?_, ?_, ?_, (Nat.le_add_right _ rest).trans h.2.bytes, ?_⟩
    · simp [vms, NewVm.additional]
    · simp [vms, NewVm.additional, hcpu]
    · simp [vms, NewVm.additional, hmemory]
    · simp [h.2.snapshots]

/-- The loop over the disks of a new VM. -/
theorem keeps_createDiskRows {ds : List (DiskSpec × Nat)} :
    Keeps organization project q i
      (fun s => At i 1 (spec.Filling k (ds.map fun d => d.1.sizeBytes).sum) s ∧
        Reserved organization project q i org proj a s)
      (ds.forM fun d => createDiskRow k d.1 d.2) fun _ s =>
        At i 1 (spec.Filling k 0) s ∧ Reserved organization project q i org proj a s := by
  induction ds with
  | nil => exact Safe.pure fun _ h => h
  | cons d ds ih =>
    have one : Keeps organization project q i
        (fun s => At i 1 (spec.Filling k ((d :: ds).map fun d => d.1.sizeBytes).sum) s ∧
          Reserved organization project q i org proj a s)
        (createDiskRow k d.1 d.2) fun _ s =>
          At i 1 (spec.Filling k (ds.map fun d => d.1.sizeBytes).sum) s ∧
            Reserved organization project q i org proj a s := by
      unfold createDiskRow
      cases d.1.storage with
      | none => exact Safe.throw fun _ _ => trivial
      | some storage =>
        refine Safe.bind (keeps_statement (keeps_insertDisk ?_)) fun _ => Safe.pure fun _ h => h
        intro p x hp hvm hsize
        refine ⟨hp.vms, hp.snapshots, ?_, ?_⟩
        · intro x' hx'
          rcases List.mem_append.mp hx' with old | new
          · exact hp.disks x' old
          · rw [List.mem_singleton.mp new]
            exact hvm
        · have bytes := hp.bytes
          simp only [List.map_cons, List.sum_cons] at bytes
          simp only [List.map_append, List.map_cons, List.map_nil, List.sum_append, List.sum_cons,
            List.sum_nil, hsize]
          omega
    exact Safe.bind one fun _ => ih

/-- The statements of other tables. -/
theorem still_insertNic {c : Choice} {vm network : Nat} {s s' : Db} {r : Except Exn Unit}
    (h : Db.act c i (.insertNic vm network) s = some (r, s')) : s' = s := by
  cases h
  rfl

/-- Making a job takes no resource. -/
theorem still_createJob {c : Choice} {type : JobType} {s s' : Db} {r : Except Exn Unit}
    (h : Db.act c i (.createJob type) s = some (r, s')) : s' = s := by
  cases h
  rfl

/-- Making a job keeps every stable fact. -/
theorem keeps_createJob {type : JobType} {P : Db → Prop} (stable : Stable organization project q i P) :
    Keeps organization project q i P (statement (perform (TxOp.createJob type))) fun _ => P :=
  keeps_statement (Safe.conseq (keeps_still stable fun _ _ _ _ => still_createJob) (fun _ h => h)
    (fun _ _ h _ _ => h) fun _ _ h => h)

/-- NICs take no resource. -/
theorem keeps_insertNics {vm : Nat} {networks : List Nat} {P : Db → Prop}
    (stable : Stable organization project q i P) :
    Keeps organization project q i P
      (networks.forM fun network => statement (perform (TxOp.insertNic vm network))) fun _ => P := by
  induction networks with
  | nil => exact Safe.pure fun _ h => h
  | cons network networks ih =>
    refine Safe.bind (keeps_statement ?_) fun _ => ih
    exact Safe.conseq (keeps_still stable fun _ _ _ _ => still_insertNic) (fun _ h => h)
      (fun _ _ h _ _ => h) fun _ _ h => h

/-- The rows of a new VM are pending, as reserved. -/
theorem keeps_insertVmRows {node : Nat} :
    Keeps organization project q i
      (fun s => At i 1 (· = {}) s ∧
        Reserved organization project q i spec.organization spec.project spec.additional s)
      (insertVmRows spec node) fun _ =>
        Ready organization project q i spec.organization spec.project spec.additional := by
  refine Safe.bind (keeps_statement keeps_insertVm) fun v => ?_
  have filled : Stable organization project q i fun s => At i 1 (spec.Filling v.pk 0) s ∧
      Reserved organization project q i spec.organization spec.project spec.additional s :=
    stable_at.and stable_reserved
  refine Safe.conseq (Safe.bind keeps_createDiskRows fun _ => Safe.bind (keeps_insertNics filled)
    fun _ => Safe.bind (keeps_createJob filled) fun _ => Safe.pure fun _ h =>
      ready_of_filling h.1 h.2) (fun s h => ⟨⟨h.1.1.1, ?_⟩, h.1.2⟩) (fun _ _ h => h) fun _ _ h => h
  obtain ⟨⟨⟨-, inserted⟩, -⟩, new⟩ := h
  have sizes : spec.diskSpecs.zipIdx.map (fun d => d.1.sizeBytes) =
      spec.diskSpecs.map DiskSpec.sizeBytes := by
    rw [← List.zipIdx_map_fst 0 spec.diskSpecs, List.map_map]
    simp [Function.comp_def]
  rw [inserted]
  refine ⟨⟨v, rfl, rfl, ?_⟩, rfl, fun d hd => absurd hd List.not_mem_nil, ?_⟩
  · rw [new]
    exact ⟨rfl, rfl, rfl, rfl⟩
  · rw [sizes, spec.totalDiskGb_mul]
    simp

/-- `create_vm` -/
theorem keeps_createVm :
    Keeps organization project q i (fun s => At i 0 (· = {}) s ∧ True) (createVm spec)
      fun _ _ => True := by
  refine keeps_atomic spec.organization spec.project spec.additional framed_true ?_
  have begun : Stable organization project q i (At i 1 (· = {})) := stable_at
  have looked : Keeps organization project q i (fun s => At i 1 (· = {}) s ∧ True)
      (findExisting spec) fun _ => At i 1 (· = {}) := by
    unfold findExisting
    split
    · exact Safe.pure fun _ h => h.1
    · exact Safe.conseq (Safe.bind (keeps_query begun) fun v => Safe.pure fun _ h => h.1)
        (fun _ h => h.1) (fun _ _ h => h) fun _ _ h => h
  refine Safe.bind looked fun found => ?_
  cases found with
  | some vm => exact Safe.throw fun _ _ => trivial
  | none =>
    refine Safe.bind keeps_checkAndReserve fun _ => Safe.bind (Q := fun _ s => At i 1 (· = {}) s ∧
      Reserved organization project q i spec.organization spec.project spec.additional s) ?_
      fun node => keeps_insertVmRows
    unfold placeVm
    cases spec.node with
    | some node => exact Safe.pure fun _ h => h
    | none =>
      refine keeps_statement (Safe.conseq (keeps_still (begun.and stable_reserved) ?_) (fun _ h => h)
        (fun _ _ h _ _ => h) fun _ _ h => h)
      intro c s r s' h
      simp only [Db.act] at h
      split at h <;> cases h <;> rfl

/-- The check of the storage lock keeps every stable fact. -/
theorem keeps_precheckStorage {vm : VirtualMachine} {message : String} {P : Db → Prop}
    (stable : Stable organization project q i P) :
    Keeps organization project q i P (precheckStorage vm message) fun _ => P := by
  have acquired : Keeps organization project q i P (perform (TxOp.acquire vm.pk)) fun _ => P := by
    refine keeps_still stable fun c s r s' h => ?_
    cases h
    rfl
  have released : Keeps organization project q i P (perform (TxOp.release vm.pk)) fun _ => P := by
    refine keeps_still stable fun c s r s' h => ?_
    cases h
    rfl
  refine Safe.bind acquired fun got => ?_
  cases got with
  | true => exact released
  | false => exact Safe.throw fun _ _ => trivial

/-- Rows of a VM that is committed, and nothing else. -/
theorem ready_of_owned {s : Db} {vm : Nat} (h : At i 1 X s)
    (inserted : ∀ p, X p → p.vms = [] ∧ (∀ d ∈ p.disks, d.vm = vm) ∧
      (∀ x ∈ p.snapshots, x.vm = vm) ∧ p.Covered a)
    (reserved : Reserved organization project q i org proj a s) (owned : s.Owned vm org proj) :
    Ready organization project q i org proj a s := by
  obtain ⟨vms, disks, snapshots, covered⟩ := inserted _ h.2
  refine ⟨h.1, ?_, ?_, ?_, covered, .inr reserved⟩
  · intro v hv
    rw [vms] at hv
    cases hv
  · intro d hd
    rw [disks d hd]
    exact .inr owned
  · intro x hx
    rw [snapshots x hx]
    exact .inr owned

variable {vm : VirtualMachine}

/-- `attach_disk` -/
theorem keeps_attachDisk {storage : StoragePool} {sizeGb : Nat} :
    Keeps organization project q i
      (fun s => At i 0 (· = {}) s ∧ s.Owned vm.pk vm.organization vm.project)
      (attachDisk vm storage sizeGb) fun _ _ => True := by
  refine keeps_atomic vm.organization vm.project { storageGb := sizeGb } framed_owned ?_
  have framed : Framed organization project q i fun s => s.Owned vm.pk vm.organization vm.project :=
    framed_owned
  let X (p : Rows) : Prop := ∃ d, p = { disks := [d] } ∧ d.vm = vm.pk ∧ d.sizeBytes = sizeGb * gib
  have begun : Stable organization project q i fun s => (At i 1 (· = {}) s ∧ Reserved organization
      project q i vm.organization vm.project { storageGb := sizeGb } s) ∧
        s.Owned vm.pk vm.organization vm.project :=
    (stable_at.and stable_reserved).and stable_owned
  have inserted : Stable organization project q i fun s => (At i 1 X s ∧ Reserved organization
      project q i vm.organization vm.project { storageGb := sizeGb } s) ∧
        s.Owned vm.pk vm.organization vm.project :=
    (stable_at.and stable_reserved).and stable_owned
  refine Safe.bind (Safe.frame framed.rely framed.guar keeps_checkAndReserve) fun _ => ?_
  have counted : Keeps organization project q i (fun s => (At i 1 (· = {}) s ∧ Reserved organization
      project q i vm.organization vm.project { storageGb := sizeGb } s) ∧
        s.Owned vm.pk vm.organization vm.project) (diskCount vm.pk) fun _ s =>
      (At i 1 (· = {}) s ∧ Reserved organization project q i vm.organization vm.project
        { storageGb := sizeGb } s) ∧ s.Owned vm.pk vm.organization vm.project :=
    Safe.bind (keeps_query begun) fun _ => Safe.pure fun _ h => h.1
  refine Safe.bind counted fun number => Safe.bind counted fun index => ?_
  refine Safe.bind (Safe.frame framed.rely framed.guar (keeps_statement
    (keeps_insertDisk (Y := X) ?_))) fun disk => ?_
  · intro p d hp hvm hsize
    subst hp
    exact ⟨d, rfl, hvm, hsize⟩
  · refine Safe.bind (Safe.bind (keeps_precheckStorage inserted) fun _ => keeps_createJob inserted)
      fun _ => Safe.pure fun s h => ready_of_owned h.1.1 ?_ h.1.2 h.2
    rintro p ⟨d, rfl, hvm, hsize⟩
    refine ⟨rfl, ?_, fun x hx => absurd hx List.not_mem_nil, ?_⟩
    · intro d' hd'
      rw [List.mem_singleton.mp hd']
      exact hvm
    · refine ⟨Nat.zero_le _, Nat.zero_le _, Nat.zero_le _, ?_, Nat.zero_le _⟩
      simp [hsize]

/-- `create_snapshot` -/
theorem keeps_createSnapshot {name description : String} :
    Keeps organization project q i
      (fun s => At i 0 (· = {}) s ∧ s.Owned vm.pk vm.organization vm.project)
      (createSnapshot vm name description) fun _ _ => True := by
  refine keeps_atomic vm.organization vm.project { snapshots := 1 } framed_owned ?_
  have framed : Framed organization project q i fun s => s.Owned vm.pk vm.organization vm.project :=
    framed_owned
  let X (p : Rows) : Prop := ∃ x, p = { snapshots := [x] } ∧ x.vm = vm.pk
  have entered : Stable organization project q i fun s =>
      At i 1 (· = {}) s ∧ s.Owned vm.pk vm.organization vm.project := stable_at.and stable_owned
  have begun : Stable organization project q i fun s => (At i 1 (· = {}) s ∧ Reserved organization
      project q i vm.organization vm.project { snapshots := 1 } s) ∧
        s.Owned vm.pk vm.organization vm.project :=
    (stable_at.and stable_reserved).and stable_owned
  have inserted : Stable organization project q i fun s => (At i 1 X s ∧ Reserved organization
      project q i vm.organization vm.project { snapshots := 1 } s) ∧
        s.Owned vm.pk vm.organization vm.project :=
    (stable_at.and stable_reserved).and stable_owned
  have capable : Keeps organization project q i
      (fun s => At i 1 (· = {}) s ∧ s.Owned vm.pk vm.organization vm.project)
      (assertSnapshotCapable vm) fun _ s =>
        At i 1 (· = {}) s ∧ s.Owned vm.pk vm.organization vm.project := by
    refine Safe.bind (keeps_query entered) fun v => ?_
    dsimp only
    split
    · exact Safe.throw fun _ _ => trivial
    · exact Safe.pure fun _ h => h.1
  refine Safe.bind capable fun _ => ?_
  refine Safe.bind (Safe.frame framed.rely framed.guar keeps_checkAndReserve) fun _ => ?_
  refine Safe.bind (keeps_precheckStorage begun) fun _ => ?_
  refine Safe.bind (Safe.frame framed.rely framed.guar (keeps_statement
    (keeps_insertSnapshot (Y := X) ?_))) fun snapshot => ?_
  · intro p x hp hvm
    subst hp
    exact ⟨x, rfl, hvm⟩
  · refine Safe.conseq (keeps_createJob inserted) (fun _ h => h)
      (fun _ s h => ready_of_owned h.1.1 ?_ h.1.2 h.2) fun _ _ h => h
    rintro p ⟨x, rfl, hvm⟩
    refine ⟨rfl, fun d hd => absurd hd List.not_mem_nil, ?_, ?_⟩
    · intro x' hx'
      rw [List.mem_singleton.mp hx']
      exact hvm
    · exact ⟨Nat.zero_le _, Nat.zero_le _, Nat.zero_le _, Nat.zero_le _, Nat.le_refl _⟩

end Statements

/-! ## Whole runs -/

section Runs

variable {organization project : Nat} {q : Quota} {r r' : Rows}

/-- Rows are deleted, and VMs may leave the count but not come to it. -/
structure Deletes (r r' : Rows) : Prop where
  vms : ∃ (p : VirtualMachine → Bool) (f : VirtualMachine → VirtualMachine),
    r'.vms = (r.vms.filter p).map f ∧ ∀ v, (f v).size = v.size ∧
      (f v).organization = v.organization ∧ (f v).project = v.project ∧
      (v.status = .deleting → (f v).status = .deleting)
  disks : r'.disks.Sublist r.disks
  snapshots : r'.snapshots.Sublist r.snapshots

/-- A deletion adds no VM. -/
theorem Deletes.keys (h : Deletes r r') :
    (r'.vms.map VirtualMachine.pk).Sublist (r.vms.map VirtualMachine.pk) := by
  obtain ⟨p, f, vms, same⟩ := h.vms
  have pk : VirtualMachine.pk ∘ f = VirtualMachine.pk :=
    funext fun v => congrArg Prod.fst (same v).1
  rw [vms, List.map_map, pk]
  exact List.filter_sublist.map _

/-- A VM that is left was there, in the same project. -/
theorem Deletes.before (h : Deletes r r') {v : VirtualMachine}
    (hv : v ∈ r'.vms) : ∃ w ∈ r.vms, w.pk = v.pk ∧ w.organization = v.organization ∧
      w.project = v.project := by
  obtain ⟨p, f, vms, same⟩ := h.vms
  rw [vms] at hv
  obtain ⟨w, hw, rfl⟩ := List.mem_map.mp hv
  exact ⟨w, (List.mem_filter.mp hw).1, (congrArg Prod.fst (same w).1).symm, (same w).2.1.symm,
    (same w).2.2.1.symm⟩

/-- A deletion frees resources. -/
theorem Deletes.shrinks (h : Deletes r r') :
    Shrinks organization project r r' := by
  obtain ⟨p, f, vms, same⟩ := h.vms
  refine ⟨?_, fun v _ => tally_le_of_sublist h.disks, fun v _ => ?_⟩
  · unfold Rows.counted counted
    rw [vms, List.filter_map, List.map_map]
    have size : VirtualMachine.size ∘ f = VirtualMachine.size := funext fun v => (same v).1
    rw [size]
    refine List.Sublist.map _ ?_
    rw [List.filter_filter]
    refine (List.monotone_filter_right r.vms fun v hv => ?_)
    simp only [Function.comp_apply, Bool.and_eq_true, decide_eq_true_eq] at hv ⊢
    obtain ⟨-, org, proj, deleting⟩ := same v
    refine ⟨org ▸ hv.1.1, fun gone => hv.1.2.1 (deleting gone), ?_⟩
    exact fun k hk => proj ▸ hv.1.2.2 k hk
  · rw [snapshotCount_eq, snapshotCount_eq]
    exact tally_le_of_sublist h.snapshots

/-- A deletion keeps to the discipline. -/
theorem Deletes.keeps {s : Db} {r' : Rows} (h : Deletes s.rows r')
    (inv : s.Sound ∧ (s.rows.usage organization (some project)).Within q) :
    (({ s with rows := r' } : Db).Sound ∧ (r'.usage organization (some project)).Within q) ∧
      ∀ j, Relies organization project q j s { s with rows := r' } := by
  refine ⟨⟨⟨?_, ?_, ?_, ?_, inv.1.drawn, inv.1.each, inv.1.apart, inv.1.saved⟩,
    inv.2.mono h.shrinks.usage_le⟩, fun j => ⟨rfl, fun _ hk => hk, fun _ => h.shrinks, ?_⟩⟩
  · exact inv.1.nodup.sublist h.keys
  · intro v hv
    obtain ⟨w, hw, pk, -⟩ := h.before hv
    rw [← pk]
    exact inv.1.vms w hw
  · exact fun d hd => inv.1.disks d (h.disks.subset hd)
  · exact fun x hx => inv.1.snapshots x (h.snapshots.subset hx)
  · intro k org proj owned
    refine ⟨owned.isPublic, fun v hv same => ?_⟩
    obtain ⟨w, hw, pk, horg, hproj⟩ := h.before hv
    obtain ⟨org', proj'⟩ := owned.pair w hw (pk.trans same)
    exact ⟨horg ▸ org', hproj ▸ proj'⟩

/-- A transaction that is not under way. -/
def unbegun : Transaction Rows Nat := ⟨⟨{}, []⟩, []⟩

/-- The threads keep to the discipline, and the transactions to come have not begun. -/
structure Orderly (organization project : Nat) (q : Quota)
    (p : Pool Request TxOp TxAns (Except Exn Unit × Unit) Db) : Prop where
  threaded : (discipline organization project q).Threaded p
  later : ∀ j, p.threads.length ≤ j → p.shared.txs.of j = unbegun

/-- A VM that was found is where its row says. -/
theorem owned_of_found {s : Db} {k : Nat} {v : VirtualMachine} (sound : s.Sound)
    (h : s.rows.vms.find? (·.pk = k) = some v) : s.Owned v.pk v.organization v.project := by
  have hv := List.mem_of_find?_eq_some h
  refine ⟨sound.vms v hv, fun w hw same => ?_⟩
  obtain rfl := List.inj_on_of_nodup_map sound.nodup hw hv same
  exact ⟨rfl, rfl⟩

/-- The transaction of a request keeps to the discipline. -/
theorem keeps_script {i : Nat} {s : Db} {request : Request} {x : TxM Unit} (sound : s.Sound)
    (fresh : s.txs.of i = unbegun) (h : request.script s.rows = some x) :
    (x.prog ()).Safe (discipline organization project q) i (fun _ _ => True) s := by
  have at0 : At i 0 (· = {}) s := by
    unfold At Db.pending
    rw [fresh]
    exact ⟨rfl, rfl⟩
  have done {α : Type} {P : Db → Prop} {y : TxM α}
      (hy : Keeps organization project q i P y fun _ _ => True) (hs : P s) :
      ((do let _ ← y : TxM Unit).prog ()).Safe (discipline organization project q) i
        (fun _ _ => True) s := by
    have all : Keeps organization project q i P (do let _ ← y : TxM Unit) fun _ _ => True :=
      Safe.bind hy fun _ => Safe.pure fun _ _ => trivial
    exact (all () s hs).mono fun _ _ _ => trivial
  cases request with
  | createVm spec =>
    cases h
    exact done keeps_createVm ⟨at0, trivial⟩
  | attachDisk vm storage sizeGb =>
    obtain ⟨v, found, rfl⟩ := Option.map_eq_some_iff.mp h
    exact done keeps_attachDisk ⟨at0, owned_of_found sound found⟩
  | createSnapshot vm name description =>
    obtain ⟨v, found, rfl⟩ := Option.map_eq_some_iff.mp h
    exact (keeps_createSnapshot () s ⟨at0, owned_of_found sound found⟩).mono fun _ _ _ => trivial

/-- A deletion keeps the threads orderly. -/
theorem Orderly.deleted {p p' : Pool Request TxOp TxAns (Except Exn Unit × Unit) Db} {e : Event}
    {r' : Rows} (h : Orderly organization project q p)
    (henv : Quotas.env e p.shared = some ([], { p.shared with rows := r' }))
    (deletes : Deletes p.shared.rows r') (hstep : system.step (.env e) p = some p') :
    Orderly organization project q p' := by
  refine ⟨Discipline.keeps_env h.threaded hstep fun ts s hs => ?_, ?_⟩
  · cases henv.symm.trans hs
    obtain ⟨inv, rely⟩ := deletes.keeps h.threaded.inv
    exact ⟨inv, rely, fun j t ht => by simp at ht⟩
  · obtain ⟨ts, s, hs, rfl⟩ := System.step_env hstep
    cases henv.symm.trans hs
    simpa using h.later

/-- What happens around the transactions. -/
theorem Orderly.env {p p' : Pool Request TxOp TxAns (Except Exn Unit × Unit) Db} {e : Event}
    (h : Orderly organization project q p) (hstep : system.step (.env e) p = some p') :
    Orderly organization project q p' := by
  cases e with
  | request r =>
    obtain ⟨ts, s, henv, rfl⟩ := System.step_env hstep
    obtain ⟨x, hx, same⟩ := Option.map_eq_some_iff.mp henv
    cases same
    refine ⟨Discipline.keeps_env h.threaded hstep fun ts s hs => ?_, ?_⟩
    · cases henv.symm.trans hs
      refine ⟨h.threaded.inv, fun _ => .refl, fun j t ht => ?_⟩
      obtain ⟨hj, rfl⟩ := List.getElem?_eq_some_iff.mp ht
      obtain rfl : j = 0 := by simpa using hj
      exact keeps_script h.threaded.inv.1 (h.later _ (Nat.le_refl _)) hx
    · intro j hj
      refine h.later j ?_
      simp only [List.length_append, List.length_singleton] at hj
      omega
  | deleteSnapshot snapshot =>
    refine h.deleted rfl ?_ hstep
    exact ⟨⟨fun _ => true, id, by simp, fun v => ⟨rfl, rfl, rfl, id⟩⟩, .refl _, List.filter_sublist⟩
  | detachDisk disk =>
    refine h.deleted rfl ?_ hstep
    exact ⟨⟨fun _ => true, id, by simp, fun v => ⟨rfl, rfl, rfl, id⟩⟩, List.filter_sublist, .refl _⟩
  | saveStatus vm status =>
    refine h.deleted rfl ?_ hstep
    refine ⟨⟨fun _ => true, _, congrArg _ (List.filter_true _).symm, fun v => ?_⟩, .refl _, .refl _⟩
    split
    · next saved => exact ⟨rfl, rfl, rfl, fun deleting => absurd deleting saved.2⟩
    · exact ⟨rfl, rfl, rfl, id⟩
  | deleteVm vm =>
    refine h.deleted rfl ?_ hstep
    exact ⟨⟨_, id, (List.map_id _).symm, fun v => ⟨rfl, rfl, rfl, id⟩⟩, List.filter_sublist,
      List.filter_sublist⟩
  | setQuotas quotas =>
    obtain ⟨ts, s, henv, rfl⟩ := System.step_env hstep
    cases henv
    refine ⟨Discipline.keeps_env h.threaded hstep fun ts s hs => ?_, by simpa using h.later⟩
    cases hs
    have inv := h.threaded.inv
    refine ⟨⟨⟨inv.1.nodup, inv.1.vms, inv.1.disks, inv.1.snapshots, inv.1.drawn, inv.1.each,
      inv.1.apart, inv.1.saved⟩, inv.2⟩, fun j => ⟨rfl, fun _ hk => hk, fun _ => .refl, ?_⟩, ?_⟩
    · exact fun k org proj owned => ⟨owned.isPublic, owned.pair⟩
    · exact fun j t ht => by simp at ht

/-- So does every step. -/
theorem Orderly.step {p p' : Pool Request TxOp TxAns (Except Exn Unit × Unit) Db}
    {l : Label Choice Event} (h : Orderly organization project q p)
    (fixed : effectiveQuota p.shared.quotas organization (some project) = some q)
    (hstep : system.step l p = some p') : Orderly organization project q p' := by
  cases l with
  | env e => exact h.env hstep
  | act i c =>
    refine ⟨Discipline.keeps_act i h.threaded hstep fun _ _ _ _ => fixed, fun j hj => ?_⟩
    have guar := Discipline.guar_act i h.threaded hstep fun _ _ _ _ => fixed
    obtain ⟨tag, o, k, a, s, hi, -, rfl⟩ := System.step_act hstep
    have lt := (List.getElem?_eq_some_iff.mp hi).1
    simp only [List.length_set] at hj
    have tx : s.txs.of j = p.shared.txs.of j := (guar j (by omega)).tx
    exact tx.trans (h.later j hj)

/-- The keys of the rows: the tables' constraints, and a sequence that is ahead of them. -/
structure Rows.Keyed (r : Rows) (sequence : Nat) : Prop where
  nodup : (r.vms.map VirtualMachine.pk).Nodup
  drawn : ∀ v ∈ r.vms, v.pk < sequence
  disks : ∀ d ∈ r.disks, ∃ v ∈ r.vms, v.pk = d.vm
  snapshots : ∀ x ∈ r.snapshots, ∃ v ∈ r.vms, v.pk = x.vm

/-- **A quota is never exceeded.** From any committed rows whose usage is within the project's
effective quota: however `create_vm`, `attach_disk` and `create_snapshot` interleave, whatever is
deleted meanwhile, and whatever the database rejects, as long as the effective quota stays the same
the usage stays within it, in all five dimensions. -/
theorem quota_never_exceeded (organization project : Nat) (q : Quota) (rows : Rows)
    (quotas : List Quota) (sequence : Nat) (keyed : rows.Keyed sequence)
    (starts : (rows.usage organization (some project)).Within q) (ls : List (Label Choice Event))
    (fixed : Along system.step
      (fun _ p => effectiveQuota p.shared.quotas organization (some project) = some q) ls
      ⟨[], { rows := rows, quotas := quotas, sequence := sequence }⟩) :
    ∀ p ∈ visited system.step ls ⟨[], { rows := rows, quotas := quotas, sequence := sequence }⟩,
      (p.shared.rows.usage organization (some project)).Within q := by
  have first : Orderly organization project q
      ⟨[], { rows := rows, quotas := quotas, sequence := sequence }⟩ := by
    have none (k : Nat) (hk : k < sequence) :
        Db.Public { rows := rows, quotas := quotas, sequence := sequence } k :=
      ⟨hk, fun i v hv => absurd hv List.not_mem_nil⟩
    refine ⟨⟨⟨⟨keyed.nodup, fun v hv => none _ (keyed.drawn v hv), ?_, ?_, ?_, ?_, ?_, ?_⟩, starts⟩,
      ?_⟩, fun _ _ => rfl⟩
    · intro d hd
      obtain ⟨v, hv, same⟩ := keyed.disks d hd
      exact same ▸ none _ (keyed.drawn v hv)
    · intro x hx
      obtain ⟨v, hv, same⟩ := keyed.snapshots x hx
      exact same ▸ none _ (keyed.drawn v hv)
    · exact fun i v hv => absurd hv List.not_mem_nil
    · exact fun i => List.nodup_nil
    · exact fun i j _ v hv => absurd hv List.not_mem_nil
    · exact fun i part hpart => absurd hpart List.not_mem_nil
    · exact fun j t ht => by simp at ht
  intro p hp
  exact (visited_keeps (fun _ _ _ h hf hs => Orderly.step h hf hs) first fixed hp).threaded.inv.2

/-- An organization whose quota is one VM. -/
def oneVmQuota : Quota := { pk := 1, organization := 1, maxVms := 1 }

/-- A VM with a disk of one GiB. -/
def oneVm (name : String) : NewVm :=
  { organization := 1, project := 1, name := name, createdBy := 1, node := some 1
    disks := [{ storage := some { name := "p" }, sizeBytes := gib, whole := Nat.dvd_refl gib }] }

/-- The next `n` statements of a transaction. -/
def acts (thread n : Nat) : List (Label Choice Event) := List.replicate n (.act thread {})

/-- Two VMs are requested. The second transaction finds the quota and would have to wait for its row
until the first one has committed; then it counts the VM, and is refused. -/
def twoVms : List (Label Choice Event) :=
  [.env (.request (.createVm (oneVm "a"))), .env (.request (.createVm (oneVm "b")))] ++
    (acts 0 5 ++ acts 1 4 ++ acts 0 10 ++ acts 1 8)

theorem quota_never_exceeded_twoVms :
    (∀ k, runFrom system.step (twoVms.take 11 ++ [.act 1 k])
      ⟨[], { quotas := [oneVmQuota], sequence := 1 }⟩ = none) ∧
    (∃ p, runFrom system.step twoVms ⟨[], { quotas := [oneVmQuota], sequence := 1 }⟩ = some p ∧
      p.shared.rows.vms.map VirtualMachine.name = ["a"]) ∧
    ∀ p ∈ visited system.step twoVms ⟨[], { quotas := [oneVmQuota], sequence := 1 }⟩,
      (p.shared.rows.usage 1 (some 1)).Within oneVmQuota := by
  have keyed : Rows.Keyed {} 1 := ⟨List.nodup_nil, by simp, by simp, by simp⟩
  have starts : (Rows.usage {} 1 (some 1)).Within oneVmQuota := by constructor <;> decide
  refine ⟨fun k => rfl, ⟨_, rfl, rfl⟩, ?_⟩
  refine quota_never_exceeded 1 1 oneVmQuota {} [oneVmQuota] 1 keyed starts twoVms ?_
  decide

end Runs

end NodePilot.Quotas
