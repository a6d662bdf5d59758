import NodePilot.Laws.Rollback.Cleanup
import NodePilot.Laws.Rollback.Existing
import NodePilot.Laws.Rollback.Provision

/-!
# The rollback of provisioning

When `provision_vm` fails, `_cleanup_partial_vm` undoes what the host has done, as far as it knows:
the domain if the VM's provisioning state says there is one, and the volumes whose ids are in the
disk rows. `RolledBack` says what the record of the run shows when nothing is left over silently.

The cleanup knows too little in a few places, and `FairTrace` is the condition that none of them is
met: the row of a disk is saved once its volume exists, an exception does not strike after the
state has become READY, CREATE_VM does not time out and succeed all the same, the agent is out of
reach after a DELETE_VM that the host has not carried out, and the event about an incomplete cleanup
is stored. A domain that was there before the run is one more thing that it does not know of
(`Accounted`).
-/

namespace NodePilot

open Lib Lib.Script

/-! ## Provisioning as a whole -/

section Provision

variable {L : Type} {vm₀ : VmRow} {t₀ : Tables}

/-- No agent call has been recorded. -/
def Untouched (w : World) : Prop := ∀ e ∈ w.trace, e.operation = none

/-- Where the `except` branches of `provision_vm` start. -/
def Thrown (vm₀ : VmRow) (t₀ : Tables) (exc : Exn) (l : VmRow) (w : World) : Prop :=
  Raised vm₀ t₀ l w ∧ (exc.isLock → Untouched w)

theorem Untouched.noCall {w : World} (h : Untouched w) (e : Entry) (he : e ∈ w.trace) :
    e.created = none ∧ (∀ op, e.performed op = false) ∧ ∀ op, e.sent op = false := by
  have hop := h e he
  cases e with
  | call => cases hop
  | _ => exact ⟨rfl, fun _ => rfl, fun _ => rfl⟩

theorem Untouched.undone {w : World} (h : Untouched w) : Undone w := by
  intro _
  have noCall := h.noCall
  refine ⟨fun e he volume name hcreated => ?_, ?_, fun _ e he => ?_⟩
  · rw [(noCall e he).1] at hcreated
    cases hcreated
  · rintro ⟨e, he, hconfirmed⟩
    have performed := Entry.confirmed_performed hconfirmed
    rw [(noCall e he).2.1] at performed
    cases performed
  · rw [(noCall e he).2.2]
    nofun

theorem Untouched.written {w : World} (db : Tables) {x : Write} {done : Bool}
    (h : Untouched w) : Untouched { w with db := db, trace := .write x done :: w.trace } :=
  List.forall_mem_cons.mpr ⟨rfl, h⟩

/-- The `except` branches: every way out leaves the run undone. -/
theorem triple_provisionExcept {j : JobRow} {exc : Exn} :
    Triple World.handle (Thrown vm₀ t₀ exc) (provisionExcept j exc) (fun _ _ => Undone)
      fun _ _ => Undone := by
  have keeps : ∀ {x : TaskM VmRow Unit}, Keeps World.handle (fun _ => Undone) (fun _ => True) x →
      Triple World.handle (fun _ => Undone) x (fun _ _ => Undone) fun _ _ => Undone :=
    fun hx => hx.conseq (fun _ _ => id) (fun _ _ _ => id) fun _ _ _ h => h.1
  have plain : ∀ {x : Write}, x.plain →
      Keeps (L := VmRow) World.handle (fun _ => Undone) (fun _ => True) (save x) :=
    fun hx => Keeps.save (fun _ _ => trivial) (undone_stable.opKeeps hx)
  unfold provisionExcept
  split
  · next key =>
    refine Triple.conseq (keeps (Keeps.onlyIf fun _ => plain rfl)) (fun l w h => ?_)
      (fun _ _ _ => id) fun _ _ _ => id
    exact (h.2 ⟨key, rfl⟩).undone
  · refine Triple.bind (Q := fun vm _ => Raised vm₀ t₀ vm) (Triple.get fun _ _ h => h.1)
      fun vm => ?_
    refine Triple.bind (Triple.conseq triple_cleanupPartialVm (fun _ _ => id) (fun _ _ _ => id)
      fun _ _ _ => False.elim) fun _ => keeps ?_
    refine Keeps.bind (plain rfl) fun _ => Keeps.bind ?_ fun _ => Keeps.onlyIf fun _ => plain rfl
    exact Keeps.getRow (fun _ _ => trivial) (undone_stable.opKeeps trivial)

/-- The last write of provisioning. The domain is there and the state in memory is READY, so an
exception here is what `FairTrace` excludes. -/
theorem phase_success {j : JobRow} {message : String} :
    Phase vm₀ t₀ (Between vm₀ t₀) (Between vm₀ t₀)
      (transition j .success (some message)) := by
  refine Triple.save between_stable.turn (fun l w now uuid db h hdb => ?_) fun l w e h he => ?_
  · exact between_stable l _ _ (plainStep_written rfl hdb) h
  · exact ⟨⟨⟨h.1.pk, h.1.node, h.1.disks, h.1.pools⟩, fun fair => absurd (fair.1 rfl) nofun⟩,
      Exn.not_isLock_of_operation he⟩

/-- Where `provision_vm` starts with the VM it loaded: nothing has been called. -/
def Starting (vm₀ : VmRow) (t₀ : Tables) (l : VmRow) (w : World) : Prop :=
  Base vm₀ t₀ l w ∧ Untouched w

theorem Starting.early {l : VmRow} {w : World} (h : Starting vm₀ t₀ l w) :
    Early vm₀ t₀ (fun _ => False) l w := by
  refine ⟨h.1, fun _ => ⟨fun e he volume name hcreated => ?_, fun e he => ?_, fun e he => ?_⟩⟩
  · rw [(h.2.noCall e he).1] at hcreated
    cases hcreated
  · rw [h.2 e he]
    exact ⟨nofun, nofun⟩
  · exact (h.2.noCall e he).2.1 _

theorem Starting.next {l : VmRow} {w : World} (h : Starting vm₀ t₀ l w) :
    Starting vm₀ t₀ l w.next := ⟨h.1.plain (plainStep_next w), h.2⟩

theorem triple_lockedSteps {j : JobRow} {v : VmRow}
    (unique : (t₀.disks.map DiskRow.pk).Nodup) :
    Triple World.handle (Starting vm₀ t₀) (lifecycleLock v (provisionSteps j))
      (fun _ => Between vm₀ t₀) (Thrown vm₀ t₀) := by
  intro l w h
  have start := h.next
  by_cases busy : LockKey.lifecycle v.uuid ∈ w.busy
  · unfold lifecycleLock
    rw [exec_withLock_busy busy]
    exact ⟨start.early.raised, fun _ => start.2⟩
  · unfold lifecycleLock
    rw [exec_withLock_free busy]
    have taken : Starting vm₀ t₀ l { w.next with busy := .lifecycle v.uuid :: w.busy } :=
      ⟨⟨start.1.pk, start.1.node, start.1.disks, start.1.pools⟩, start.2⟩
    have body := phase_provisionSteps (j := j) unique l _ taken.early
    generalize exec World.handle (provisionSteps j) l _ = r at body ⊢
    rcases r with ⟨e | a, l', w'⟩
    · exact ⟨raised_stable.opKeeps (o := .release _) trivial l' w' body.1,
        fun locked => absurd locked body.2⟩
    · exact between_stable.opKeeps (o := .release _) trivial l' w' body

theorem triple_provisionBody {j : JobRow} (unique : (t₀.disks.map DiskRow.pk).Nodup) :
    Triple World.handle (Starting vm₀ t₀) (provisionBody j) (fun _ _ _ => True)
      fun _ _ => Undone := by
  refine Triple.tryCatch (R := Thrown vm₀ t₀) (Triple.get_bind fun v _ => ?_) fun exc => ?_
  · refine Triple.bind (triple_lockedSteps unique) fun _ => Triple.bind (Triple.conseq
      phase_success (fun _ _ => id) (fun _ _ _ => id) fun _ _ _ h => ⟨h.1, fun locked =>
        absurd locked h.2⟩) fun _ => ?_
    refine Triple.get_bind fun v _ => Triple.tryCatch (R := fun _ _ _ => True) (fun _ _ _ => ?_)
      fun _ => Triple.pure fun _ _ _ => trivial
    split <;> trivial
  · exact Triple.bind triple_provisionExcept fun _ => Triple.throw fun _ _ h => h

end Provision

/-! ## The task -/

/-- Before the task has loaded its VM: nothing has been called, and the disks are those of the
start. -/
def Loading (t₀ : Tables) (w : World) : Prop :=
  w.db.disks.map DiskRow.shape = t₀.disks.map DiskRow.shape ∧ w.db.pools = t₀.pools ∧ Untouched w

theorem loading_read {L : Type} {t₀ : Tables} :
    OpKeeps (L := L) (fun _ => Loading t₀) .read := by
  rintro _ w ⟨disks, pools, untouched⟩
  have turn := plainStep_next w
  refine ⟨?_, turn.pools.trans pools, untouched⟩
  show w.next.db.disks.map DiskRow.shape = _
  rw [turn.disks]
  exact disks

theorem triple_provisionVm {L : Type} {t₀ : Tables} {jobId vmId : Nat}
    (unique : (t₀.disks.map DiskRow.pk).Nodup) :
    Triple World.handle (fun (_ : L) => Loading t₀) (provisionVm jobId vmId) (fun _ _ _ => True)
      fun _ _ => Undone := by
  have raise : ∀ (e : Exn) (l : L) w, Loading t₀ w → Undone w := fun _ _ _ h => h.2.2.undone
  refine Triple.getRow_bind loading_read raise fun j _ => ?_
  refine Triple.getRow_bind loading_read raise fun v _ => ?_
  have body : Triple World.handle (Starting v t₀) (provisionBody j) (fun _ _ _ => True)
      fun _ _ => Undone := triple_provisionBody unique
  refine Triple.scope (Triple.conseq body ?_ (fun _ _ _ => id) fun _ _ _ => id)
  rintro l w ⟨rfl, disks, pools, untouched⟩
  exact ⟨⟨rfl, rfl, disks, pools⟩, untouched⟩

/-- `Spared` for the task: nothing is deleted before a volume is made. -/
theorem spared_run (taskId : String) (jobId vmId : Nat) :
    Keeps World.handle (fun _ => Spared vmId) (fun _ => True)
      ((Task.provisionVm vmId).run taskId jobId) := by
  have kept : ∀ {L : Type} {o : Op}, o.plain → OpKeeps (fun (_ : L) => Spared vmId) o :=
    fun ho _ w h => h.plain (plainStep_handle ho w)
  refine Keeps.tryCatch (E := fun _ => True) (Keeps.bind (Keeps.save (fun _ _ => trivial) (kept rfl))
    fun _ => ?_) fun exc _ => Keeps.bind (Keeps.bind (Keeps.query (kept trivial)) fun t => ?_) fun _ =>
      Keeps.throw trivial
  · refine Keeps.bind (Keeps.getRow (fun _ _ => trivial) (kept trivial)) fun j => ?_
    refine Triple.getRow_bind (kept trivial) (fun _ _ _ h => ⟨h, trivial⟩) fun v ⟨_, _, _, found⟩ => ?_
    refine Triple.scope (Triple.conseq sparing_provisionBody ?_ (fun _ _ _ h => h.2) fun _ _ _ h =>
      ⟨h.1.2, h.2⟩)
    rintro l w ⟨rfl, h⟩
    exact ⟨Table.pk_of_get found, h⟩
  · split
    · exact Keeps.onlyIf fun _ => Keeps.save (fun _ _ => trivial) (kept rfl)
    · exact Keeps.pure _

/-- A run of a VM without volumes deletes none. -/
theorem provisionVm_deletes_none {taskId : String} {jobId vmId : Nat} {w : World}
    (fresh : w.trace = [])
    (bare : Volumeless vmId w.db ((Task.provisionVm vmId).execute taskId jobId w).trace) :
    ∀ e ∈ ((Task.provisionVm vmId).execute taskId jobId w).trace,
      e.operation ≠ some .deleteDisk := by
  have start : Spared vmId w := .inr ⟨bare.1, by simp [fresh]⟩
  have final := spared_run taskId jobId vmId () w start
  unfold Task.execute at bare ⊢
  generalize exec World.handle ((Task.provisionVm vmId).run taskId jobId) () w = r at final bare ⊢
  have ends : Spared vmId r.2.2 := by
    rcases r with ⟨e | a, l, w'⟩
    · exact final.1
    · exact final
  rcases ends with ⟨e, he, hcreated⟩ | ⟨-, spared⟩
  · exact absurd (bare.2 e he) hcreated
  · exact spared

/-- A failed provisioning is undone, if the host had no domain of the VM before it. -/
theorem rolledBack_of_none {taskId : String} {jobId vmId : Nat} {w : World}
    (unique : (w.db.disks.map DiskRow.pk).Nodup) (fresh : w.trace = [])
    (raised : ∃ e, (exec World.handle ((Task.provisionVm vmId).run taskId jobId) () w).1 = .error e)
    (fair : FairTrace ((Task.provisionVm vmId).execute taskId jobId w).trace) :
    RolledBack false ((Task.provisionVm vmId).execute taskId jobId w).trace := by
  have start : Loading w.db w := ⟨rfl, rfl, by simp [Untouched, fresh]⟩
  have ends : Triple World.handle (fun _ => Loading w.db)
      ((Task.provisionVm vmId).run taskId jobId) (fun _ _ _ => True) fun _ _ => Undone := by
    refine Triple.tryCatch (R := fun _ _ => Undone) (Triple.bind
      (Q := fun _ _ => Loading w.db) (Triple.save (fun l w => loading_read l w) ?_ ?_) fun _ =>
        triple_provisionVm unique) fun exc => ?_
    · rintro l w' now uuid db ⟨disks, pools, untouched⟩ hdb
      obtain ⟨sameDisks, samePools⟩ := write_plain rfl hdb
      exact ⟨by rw [sameDisks]; exact disks, samePools.trans pools, untouched.written db⟩
    · rintro l w' e ⟨-, -, untouched⟩ -
      exact (untouched.written w'.db).undone
    · refine Triple.conseq (Keeps.bind (I := fun _ => Undone) (E := fun _ => True) (Keeps.bind
        (Keeps.query (undone_stable.opKeeps trivial)) fun t => ?_) fun _ => Keeps.throw trivial)
        (fun _ _ => id) (fun _ _ _ _ => trivial) fun _ _ _ h => h.1
      split
      · exact Keeps.onlyIf fun _ =>
          Keeps.save (fun _ _ => trivial) (undone_stable.opKeeps rfl)
      · exact Keeps.pure _
  have final := ends () w start
  unfold Task.execute at fair ⊢
  generalize exec World.handle ((Task.provisionVm vmId).run taskId jobId) () w = r
    at final raised fair ⊢
  rcases r with ⟨e | a, l, w'⟩
  · exact final fair
  · obtain ⟨e, he⟩ := raised
    cases he

/-- **A failed provisioning is undone.** Whatever the agent answers, whichever statement fails and
whenever a cancellation is requested, and whether or not the host had a domain of the VM before the
run: if the execution ends with an exception, no step of it meets a gap of the cleanup, and the run
accounts for the domain that was there, then every volume the agent confirmed has had a DELETE_DISK
or is named in an event, the domain has had a DELETE_VM or is named, and no volume of a domain that
stays was deleted. -/
theorem provisionVm_rolledBack (there : Bool) (taskId : String) (jobId vmId : Nat) (w : World)
    (unique : (w.db.disks.map DiskRow.pk).Nodup) (fresh : w.trace = [])
    (raised : ∃ e, (exec World.handle ((Task.provisionVm vmId).run taskId jobId) () w).1 = .error e)
    (fair : FairTrace ((Task.provisionVm vmId).execute taskId jobId w).trace)
    (accounted : there → Accounted vmId w.db ((Task.provisionVm vmId).execute taskId jobId w).trace) :
    RolledBack there ((Task.provisionVm vmId).execute taskId jobId w).trace := by
  have undone := rolledBack_of_none unique fresh raised fair
  refine ⟨undone.volumes, undone.domain, fun hdefined e he hsent => ?_⟩
  cases there with
  | false => exact undone.order hdefined e he hsent
  | true =>
    rcases accounted rfl with changed | unreached | bare
    · rw [domainDefined_of_performed changed] at hdefined
      exact undone.order hdefined e he hsent
    · have reached := (Entry.sent_elim hsent).1
      rw [unreached e he] at reached
      cases reached
    · exact provisionVm_deletes_none fresh bare e he (Entry.sent_elim hsent).2

/-- A VM with one disk to provision. The agent does what it is asked, and the database rejects the
one statement at `failing`. -/
def provisioning (failing : Nat) : World where
  db :=
    { jobs := [{ pk := 1, uuid := ⟨1⟩, type := .vmCreate }]
      vms := [{ pk := 1, uuid := ⟨2⟩, domainUuid := ⟨3⟩, organization := 1, project := 1,
                node := some 1, name := "web" }]
      disks := [{ pk := 1, uuid := ⟨4⟩, vm := 1, storage := 1, name := "root",
                  sizeBytes := 1073741824 }]
      pools := [{ pk := 1, uuid := ⟨5⟩, node := 1, name := "default", type := .directory,
                  path := "/pool" }]
      nodes := [{ pk := 1, name := "n1" }] }
  script := fun pos =>
    { dbFails := pos = failing, agent := .ok [("volume_id", .str "/pool/4.qcow2")] }

/-- The database rejects the save after CREATE_VM: the domain and the volume are deleted again, also
where the host had a domain of the VM already. -/
theorem provisionVm_rolledBack_afterDomain :
    RolledBack true ((Task.provisionVm 1).execute "t" 1 (provisioning 33)).trace :=
  provisionVm_rolledBack true "t" 1 1 (provisioning 33) (by decide) rfl ⟨.databaseError, rfl⟩
    (by decide) fun _ => .inl (by decide)

/-- The database rejects the last transition of the job: the domain stays defined, DELETE_VM is
not sent, and the volume under the domain is deleted. -/
theorem provisioning_deletes_defined :
    (∃ e, (exec World.handle ((Task.provisionVm 1).run "t" 1) () (provisioning 37)).1 = .error e ∧
      ¬ e.isLock) ∧
    ((Task.provisionVm 1).execute "t" 1 (provisioning 37)).calls.map AgentRequest.operation =
      [.deleteDisk, .createVm, .createDisk] ∧
    ¬ RolledBack false ((Task.provisionVm 1).execute "t" 1 (provisioning 37)).trace := by
  refine ⟨⟨.databaseError, rfl, by simp [Exn.isLock]⟩, by decide, fun rolledBack => ?_⟩
  have kept := rolledBack.order (by decide)
  revert kept
  decide

end NodePilot
