import NodePilot.Agent.ZfsVolumes
import NodePilot.Lib.Separators

/-!
# Full clones of ZFS volumes

A full clone is sent and received by way of a snapshot with a fixed name. The stream carries the snapshot to the new
volume; `_pipe_send_receive` destroys it on the source only. So the new volume cannot be cloned itself: the snapshot
that its clone begins with is there already.
-/

namespace NodePilot.Agent.Pools

open Lib Lib.Script Volumes
open Urls (partition)

/-! ## What a full clone is to do -/

section FullClone

variable (realpath : String → String) (loads : String → Option Dict) (poolPath source name : String)

/-- `clone_volume(source, name, linked=False)` -/
def fullClone : StorageM VolumeInfo := cloneVolume realpath loads .zfs poolPath source name false

/-- Where the clone is made. -/
def cloneDest : String := Backend.zfs.volumeId poolPath name

/-- Its end on a host. -/
def fullCloneOn (z : Zvols) (script : Nat → ZfsChoice) : Except StorageError VolumeInfo × ZfsHost :=
  ZfsHost.execute (fullClone realpath loads poolPath source name) ⟨z, script, 0⟩

/-- What a full clone is to make of the volumes `z`: no snapshot is left behind, and the others are as they were. -/
structure Cloned (z z' : Zvols) : Prop where
  kept : (z'.volume? source).map Zvol.snapshots = (z.volume? source).map Zvol.snapshots
  bare : (z'.volume? (cloneDest poolPath name)).map Zvol.snapshots = some []
  others : z'.filter (·.dataset ∉ [source, cloneDest poolPath name]) =
    z.filter (·.dataset ∉ [source, cloneDest poolPath name])

/-- The clone succeeds where every command of `zfs` succeeds that can. -/
structure Composes (z : Zvols) : Prop where
  returns : (fullCloneOn realpath loads poolPath source name z fun _ => {}).1.isOk = true
  cloned : Cloned poolPath source name z (fullCloneOn realpath loads poolPath source name z fun _ => {}).2.volumes

end FullClone

/-! ## Volumes and commands -/

section Commands

variable {z z' : Zvols} {dataset dest snap name : String} {v : Zvol} {f : Zvol → Zvol} {c : Command} {stdout : String}

theorem dataset_of_volume? (h : z.volume? dataset = some v) : v.dataset = dataset := by
  simpa using List.find?_some h

theorem volume?_append (fresh : z.volume? v.dataset = none) : Zvols.volume? (z ++ [v]) v.dataset = some v := by
  unfold Zvols.volume? at fresh ⊢
  rw [List.find?_append, fresh]
  simp

theorem volume?_edit (same : ∀ v, (f v).dataset = v.dataset) (other : dataset ≠ dest) :
    (z.edit dataset f).volume? dest = z.volume? dest := by
  unfold Zvols.volume? Zvols.edit
  rw [List.find?_map]
  have named : ((fun v : Zvol => decide (v.dataset = dest)) ∘ fun v => if v.dataset = dataset then f v else v) =
      fun v => decide (v.dataset = dest) := by
    funext v
    by_cases own : v.dataset = dataset
    · simp [own, same]
    · simp [own]
  rw [named]
  cases found : z.find? fun v => decide (v.dataset = dest) with
  | none => rfl
  | some v =>
    have at_dest : v.dataset = dest := dataset_of_volume? found
    rw [Option.map_some, if_neg (at_dest.trans_ne other.symm)]

theorem splitSnap_append {d n : String} (plain : '@' ∉ name.toList)
    (split : splitSnap (dataset ++ "@" ++ name) = some (d, n)) : d = dataset ∧ n = name := by
  unfold splitSnap at split
  cases parts : partition '@' (dataset ++ "@" ++ name).toList with
  | mk before behind =>
    rw [parts] at split
    cases behind with
    | none => cases split
    | some behind =>
      simp only [Option.ite_none_left_eq_some, Option.some.injEq, Prod.mk.injEq] at split
      obtain ⟨once, rfl, rfl⟩ := split
      have whole : dataset.toList ++ '@' :: name.toList = before ++ '@' :: behind := by
        rw [← Urls.eq_append_of_partition parts]
        simp
      obtain ⟨rfl, rfl⟩ := append_last_sep_inj plain once whole
      exact ⟨String.ofList_toList, String.ofList_toList⟩

theorem splitSnap_tmp {d n : String} (split : splitSnap (dataset ++ "@full-clone-tmp") = some (d, n)) :
    d = dataset ∧ n = "full-clone-tmp" := by
  have at_sign : "@full-clone-tmp" = "@" ++ "full-clone-tmp" := by decide
  rw [at_sign, ← String.append_assoc] at split
  exact splitSnap_append (by decide) split

/-- How a command ends, and what it leaves. -/
theorem handle_run (h : ZfsHost) (c : Command) :
    (∃ stdout, (ZfsHost.handle (.run c) h).1 = .done stdout ∧
      h.volumes.zfs c = some (stdout, (ZfsHost.handle (.run c) h).2.volumes)) ∨
    (∀ stdout, (ZfsHost.handle (.run c) h).1 ≠ .done stdout) ∧
      ((ZfsHost.handle (.run c) h).2.volumes = h.volumes ∨
        ∃ stdout, h.volumes.zfs c = some (stdout, (ZfsHost.handle (.run c) h).2.volumes)) := by
  unfold ZfsHost.handle ZfsHost.answer ZfsChoice.takesEffect
  dsimp only
  generalize h.script h.pos = choice
  rcases choice with ⟨fails, timesOut, performed⟩
  cases h.volumes.zfs c with
  | none =>
    refine .inr ⟨?_, .inl ?_⟩
    · cases timesOut <;> exact nofun
    · simp
  | some r =>
    obtain ⟨stdout, volumes⟩ := r
    cases fails <;> cases timesOut <;> cases performed <;> simp

/-- A command that returns has succeeded. -/
theorem triple_run : Triple ZfsHost.handle (fun _ h => h.volumes = z) (run c)
    (fun stdout _ h => z.zfs c = some (stdout, h.volumes)) fun _ _ _ => True := by
  rintro l h rfl
  rw [run, exec_bind, exec_perform]
  rcases handle_run h c with ⟨stdout, answer, done⟩ | ⟨undone, -⟩
  · simp only [answer]
    exact done
  · cases answer : (ZfsHost.handle (.run c) h).1 with
    | done stdout => exact absurd answer (undone stdout)
    | failed => trivial
    | timedOut => trivial

/-- A command that nobody looks at has succeeded, or not. -/
theorem triple_runUnchecked : Triple ZfsHost.handle (fun _ h => h.volumes = z) (runUnchecked c)
    (fun _ _ h => h.volumes = z ∨ ∃ stdout, z.zfs c = some (stdout, h.volumes)) fun _ _ _ => True := by
  rintro l h rfl
  rw [runUnchecked, exec_bind, exec_perform]
  have left : (ZfsHost.handle (.run c) h).2.volumes = h.volumes ∨
      ∃ stdout, h.volumes.zfs c = some (stdout, (ZfsHost.handle (.run c) h).2.volumes) :=
    (handle_run h c).elim (fun ⟨stdout, _, done⟩ => .inr ⟨stdout, done⟩) And.right
  cases answer : (ZfsHost.handle (.run c) h).1 with
  | timedOut => trivial
  | _ => exact left

end Commands

/-! ## The snapshot on the new volume -/

section Marked

variable {z z' : Zvols} {dest source : String}

/-- The volume has the snapshot that a full clone of it begins with. -/
def Marked (dest : String) (z : Zvols) : Prop :=
  ∃ v, z.volume? dest = some v ∧ v.snapshots.any (·.name = "full-clone-tmp") = true

theorem Marked.edit {dataset : String} {f : Zvol → Zvol} (h : Marked dest z) (same : ∀ v, (f v).dataset = v.dataset)
    (other : dataset ≠ dest) : Marked dest (z.edit dataset f) := by
  obtain ⟨v, found, marked⟩ := h
  exact ⟨v, (volume?_edit same other).trans found, marked⟩

/-- The stream carries the snapshot, and the volume that it comes from is another one. -/
theorem sendReceive_marks (done : z.sendReceive (source ++ "@full-clone-tmp") dest = some z') :
    Marked dest z' ∧ ∀ d n, splitSnap (source ++ "@full-clone-tmp") = some (d, n) → d ≠ dest := by
  simp only [Zvols.sendReceive, Zvols.snapshot?, Option.bind_eq_bind, Option.bind_eq_some_iff,
    Option.ite_none_left_eq_some, Option.some.injEq, Option.pure_def] at done
  obtain ⟨⟨v, s⟩, ⟨⟨d, n⟩, split, w, found, t, named, same⟩, fresh, rfl⟩ := done
  have absent : z.volume? dest = none := Option.not_isSome_iff_eq_none.mp fresh
  have name_eq : t.name = "full-clone-tmp" := by
    have tmp := (splitSnap_tmp split).2
    simpa [tmp] using List.find?_some named
  obtain ⟨rfl, rfl⟩ := Prod.mk.inj same
  refine ⟨⟨_, volume?_append absent, by simp [name_eq]⟩, fun d' n' split' same => ?_⟩
  rw [split] at split'
  obtain ⟨rfl, rfl⟩ := Prod.mk.inj (Option.some.inj split')
  rw [same, absent] at found
  cases found

theorem destroy_marked {snap : String} (h : Marked dest z) (other : ∀ d n, splitSnap snap = some (d, n) → d ≠ dest)
    (done : z.destroy snap = some z') : Marked dest z' := by
  simp only [Zvols.destroy, Option.bind_eq_bind, Option.bind_eq_some_iff, Option.ite_none_right_eq_some,
    Option.some.injEq] at done
  obtain ⟨⟨d, n⟩, split, -, rfl⟩ := done
  exact h.edit (fun _ => rfl) (other d n split)

theorem triple_receive {snap : String} : Triple ZfsHost.handle (fun _ h => h.volumes = z) (receive snap dest)
    (fun _ _ h => z.sendReceive snap dest = some h.volumes) fun _ _ _ => True := by
  rintro l h rfl
  rw [receive, exec_bind, exec_perform]
  rcases handle_run h (.zfsSendReceive snap dest) with ⟨stdout, answer, done⟩ | ⟨undone, -⟩
  · simp only [answer]
    obtain ⟨volumes, received, same⟩ := Option.map_eq_some_iff.mp done
    exact received.trans (congrArg some (Prod.mk.inj same).2)
  · cases answer : (ZfsHost.handle (.run (.zfsSendReceive snap dest)) h).1 with
    | done stdout => exact absurd answer (undone stdout)
    | failed => trivial
    | timedOut => trivial

/-- What a full clone leaves that returns. -/
theorem triple_pipeSendReceive : Triple ZfsHost.handle (fun _ h => h.volumes = z) (pipeSendReceive source dest)
    (fun _ _ h => Marked dest h.volumes) fun _ _ _ => True := by
  have ends {e : StorageError} : Triple ZfsHost.handle (fun _ _ => True)
      (do runUnchecked (.zfsDestroy (source ++ "@full-clone-tmp")); throw e : StorageM Unit)
      (fun _ _ h => Marked dest h.volumes ∧
        ∀ d n, splitSnap (source ++ "@full-clone-tmp") = some (d, n) → d ≠ dest) fun _ _ _ => True := by
    intro l h _
    exact Triple.bind triple_runUnchecked (fun _ => Triple.throw fun _ _ _ => trivial) l h rfl
  refine Triple.bind triple_run fun _ l₁ h₁ _ => ?_
  refine Triple.bind (Triple.tryCatch (triple_receive.conseq (fun _ _ => id) (fun _ _ _ => sendReceive_marks)
    fun _ _ _ => id) fun _ => ends) (fun _ l₂ h₂ marked => ?_) l₁ h₁ rfl
  refine (triple_runUnchecked.conseq (fun _ _ => id) (fun _ _ h left => ?_) fun _ _ _ => id) l₂ h₂ rfl
  rcases left with same | ⟨stdout, done⟩
  · exact same ▸ marked.1
  · obtain ⟨volumes, destroyed, same⟩ := Option.map_eq_some_iff.mp done
    exact destroy_marked marked.1 marked.2 (destroyed.trans (congrArg some (Prod.mk.inj same).2))

/-- A volume with the snapshot cannot be cloned. -/
theorem triple_marked (marked : Marked source z) :
    Triple ZfsHost.handle (fun _ h => h.volumes = z) (pipeSendReceive source dest) (fun _ _ _ => False)
      fun _ _ _ => True := by
  refine Triple.bind triple_run fun stdout l h done => ?_
  obtain ⟨volumes, taken, -⟩ := Option.map_eq_some_iff.mp done
  obtain ⟨v, found, there⟩ := marked
  simp only [Zvols.snapshot, Option.bind_eq_bind, Option.bind_eq_some_iff, Option.ite_none_left_eq_some] at taken
  obtain ⟨⟨d, n⟩, split, w, found', free, -⟩ := taken
  obtain ⟨rfl, rfl⟩ := splitSnap_tmp split
  rw [found] at found'
  cases found'
  exact absurd there free

end Marked

/-! ## Full clones -/

section Clones

variable {realpath : String → String} {loads : String → Option Dict} {poolPath source name : String} {z : Zvols}
variable {script : Nat → ZfsChoice}

theorem triple_fullClone {p : Zvols → Prop} (sized : ∀ {z z' : Zvols} {d stdout : String},
      z.zfs (.zfsGetVolsize d) = some (stdout, z') → p z → p z')
    (copied : Triple ZfsHost.handle (fun _ h => h.volumes = z) (pipeSendReceive source (cloneDest poolPath name))
      (fun _ _ h => p h.volumes) fun _ _ _ => True) :
    Triple ZfsHost.handle (fun _ h => h.volumes = z) (fullClone realpath loads poolPath source name)
      (fun _ _ h => p h.volumes) fun _ _ _ => True := by
  have valid : Triple ZfsHost.handle (fun _ h => h.volumes = z) (validateName name) (fun _ _ h => h.volumes = z)
      fun _ _ _ => True :=
    Triple.ite (fun _ => Triple.pure fun _ _ => id) fun _ => Triple.throw fun _ _ _ => trivial
  refine Triple.bind valid fun _ => Triple.bind copied fun _ l₁ h₁ there => ?_
  refine Triple.bind triple_run (fun stdout l₂ h₂ done => ?_) l₁ h₁ rfl
  have kept : p h₂.volumes := sized done there
  have sizes : Triple ZfsHost.handle (fun _ h => p h.volumes) (printed stdout) (fun _ _ h => p h.volumes)
      fun _ _ _ => True := by
    unfold printed
    cases readInt stdout with
    | some n => exact Triple.pure fun _ _ => id
    | none => exact Triple.throw fun _ _ _ => trivial
  exact Triple.bind sizes (fun _ => Triple.pure fun _ _ => id) l₂ h₂ kept

theorem volumes_of_getVolsize {z z' : Zvols} {d stdout : String}
    (done : z.zfs (.zfsGetVolsize d) = some (stdout, z')) : z' = z := by
  obtain ⟨v, -, same⟩ := Option.map_eq_some_iff.mp done
  exact (Prod.mk.inj same).2.symm

/-- **Wherever a full clone returns, the new volume has the snapshot.** -/
theorem marked_of_returns (returns : (fullCloneOn realpath loads poolPath source name z script).1.isOk = true) :
    Marked (cloneDest poolPath name) (fullCloneOn realpath loads poolPath source name z script).2.volumes := by
  have ends : Triple ZfsHost.handle (fun _ h => h.volumes = z) (fullClone realpath loads poolPath source name)
      (fun _ _ h => Marked (cloneDest poolPath name) h.volumes) fun _ _ _ => True :=
    triple_fullClone (fun done there => volumes_of_getVolsize done ▸ there) triple_pipeSendReceive
  have ended := ends () ⟨z, script, 0⟩ rfl
  unfold fullCloneOn ZfsHost.execute at returns ⊢
  generalize Script.exec ZfsHost.handle (fullClone realpath loads poolPath source name) () ⟨z, script, 0⟩ = r
    at returns ended ⊢
  rcases r with ⟨e | info, l, h⟩
  · cases returns
  · exact ended

/-- A volume with the snapshot cannot be cloned, whatever `zfs` does. -/
theorem raises_of_marked (marked : Marked source z) :
    (fullCloneOn realpath loads poolPath source name z script).1.isOk = false := by
  have ends : Triple ZfsHost.handle (fun _ h => h.volumes = z) (fullClone realpath loads poolPath source name)
      (fun _ _ _ => False) fun _ _ _ => True :=
    triple_fullClone (p := fun _ => False) (fun _ => id) (triple_marked marked)
  have ended := ends () ⟨z, script, 0⟩ rfl
  unfold fullCloneOn ZfsHost.execute
  generalize Script.exec ZfsHost.handle (fullClone realpath loads poolPath source name) () ⟨z, script, 0⟩ = r
    at ended ⊢
  rcases r with ⟨e | info, l, h⟩
  · rfl
  · exact ended.elim

/-- A clone cannot be cloned itself. -/
theorem clone_of_clone (returns : (fullCloneOn realpath loads poolPath source name z script).1.isOk = true)
    (again : String) (script' : Nat → ZfsChoice) :
    (fullCloneOn realpath loads poolPath (cloneDest poolPath name) again
      (fullCloneOn realpath loads poolPath source name z script).2.volumes script').1.isOk = false :=
  raises_of_marked (marked_of_returns returns)

theorem not_bare {datasets : Zvols} (marked : Marked (cloneDest poolPath name) datasets) :
    ¬ Cloned poolPath source name z datasets := by
  rintro ⟨-, bare, -⟩
  obtain ⟨v, found, there⟩ := marked
  rw [found] at bare
  have none : v.snapshots = [] := Option.some.inj bare
  rw [none] at there
  cases there

/-- **After any attempts, no full clone is what it is to be**: it raises, or leaves the snapshot on the new volume. -/
theorem never_composes (realpath : String → String) (loads : String → Option Dict) (poolPath source name : String)
    (start : Zvols) (attempts : List ZfsAttempt) :
    ¬ Composes realpath loads poolPath source name (zfsLeftBy realpath loads attempts start) :=
  fun composes => not_bare (marked_of_returns composes.returns) composes.cloned

/-- The clone of the only volume of a pool returns, with the snapshot on the new volume. -/
theorem first_clone_marked :
    (fullCloneOn id (fun _ => none) "tank/vms" "tank/vms/a" "b" [{ dataset := "tank/vms/a", size := 1024 }]
      fun _ => {}).1.isOk = true ∧
    ¬ Composes id (fun _ => none) "tank/vms" "tank/vms/a" "b" [{ dataset := "tank/vms/a", size := 1024 }] :=
  ⟨by decide +kernel, fun composes => not_bare (marked_of_returns composes.returns) composes.cloned⟩

end Clones

end NodePilot.Agent.Pools
