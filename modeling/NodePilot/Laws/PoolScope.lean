import NodePilot.Agent.StorageCommands

/-!
# A call of a backend and its pool

Each backend checks the volume to delete or resize against its pool, and all but the directory take the source of
a clone as it is given. `Scoped` says for which calls that is enough: `contained_iff`.
-/

namespace NodePilot.Agent.Pools

open Lib Volumes
open Urls (partition partition_of_not_mem partition_append eq_append_of_partition)

namespace PoolHost

variable (h : PoolHost) (b : Backend) (poolPath : String)

/-- The argument names a volume strictly inside the pool. -/
def Names : Operand → Prop
  | .entry path => h.Inside b poolPath (.file (components (h.entry path)))
  | .image path => plainPath path = true ∧ h.Inside b poolPath (.file (components (h.realpath path)))
  | .node path => h.Inside b poolPath (h.behind path)
  | .lvm name => ∃ vg lv, h.lvmArg name = some (vg, some lv) ∧ h.Inside b poolPath (.logicalVolume vg lv)
  | .dataset name => datasetName name.toList = true ∧ h.Inside b poolPath (.dataset name.toList)
  | .tree name => datasetName name.toList = true ∧ h.Inside b poolPath (.dataset name.toList) ∧
    ∀ d ∈ h.datasets, isBelow name.toList d = false
  | .snapshot name => ∃ dataset snap, partition '@' name.toList = (dataset, some snap) ∧
    datasetName dataset = true ∧ snapshotName snap = true ∧ h.Inside b poolPath (.dataset dataset)

variable {h b poolPath}

/-- An operand that covers one thing is within the pool where that thing is. -/
theorem within_single {x : Operand} {volume : Thing} (covers : ∀ y, h.Covers x y ↔ y = volume) :
    h.Within b poolPath x ↔ h.Inside b poolPath volume := by
  constructor
  · rintro ⟨other, inside, only⟩
    have same : volume = other := (only volume).mp ((covers volume).mpr rfl)
    exact same ▸ inside
  · exact fun inside => ⟨volume, inside, covers⟩

/-- An operand that covers nothing is not within the pool. -/
theorem not_within_empty {x : Operand} (covers : ∀ y, ¬ h.Covers x y) : ¬ h.Within b poolPath x := by
  rintro ⟨volume, -, only⟩
  exact covers volume ((only volume).mpr rfl)

/-- An operand that covers something outside is not within the pool. -/
theorem not_within_outside {x : Operand} {y : Thing} (covers : h.Covers x y) (out : ¬ h.Inside b poolPath y) :
    ¬ h.Within b poolPath x := by
  rintro ⟨volume, inside, only⟩
  exact out ((only y).mp covers ▸ inside)

/-- A whole volume group is inside no pool. -/
theorem not_inside_volumeGroup {vg : Text} : ¬ h.Inside b poolPath (.volumeGroup vg) := by
  rintro ⟨-, inside⟩
  cases b <;> exact inside

/-- A snapshot is inside no pool. -/
theorem not_inside_snapshot {dataset snap : Text} : ¬ h.Inside b poolPath (.snapshot dataset snap) := by
  rintro ⟨-, inside⟩
  cases b <;> exact inside

/-- A thin pool is no volume. -/
theorem kind_of_inside {vg lv : Text} (inside : h.Inside b poolPath (.logicalVolume vg lv)) :
    h.kind vg lv ≠ some .thinPool := by
  obtain ⟨-, inside⟩ := inside
  cases b with
  | directory | zfs => exact inside.elim
  | lvm => exact inside.2.2.2
  | lvmThin =>
    rcases inside.2.2.2.2 with free | thin
    · simp [free]
    · simp [thin]

/-- Nothing is below itself. -/
theorem not_isBelow_self {name : Text} : isBelow name name = false := by
  cases below : isBelow name name with
  | false => rfl
  | true =>
    have longer := (List.isPrefixOf_iff_prefix.mp below).length_le
    rw [List.length_append, List.length_singleton] at longer
    omega

/-- No dataset has an `@` in its name. -/
theorem partition_datasetName {name : Text} (named : datasetName name = true) :
    partition '@' name = (name, none) := by
  refine partition_of_not_mem fun mem => ?_
  simp only [datasetName, decide_eq_true_eq, List.all_eq_true] at named
  have plain := named.2.1 '@' mem
  revert plain
  decide

/-- An operand is within the pool where it names something of it. -/
theorem within_iff (x : Operand) : h.Within b poolPath x ↔ h.Names b poolPath x := by
  cases x with
  | entry path => exact within_single fun _ => Iff.rfl
  | node path => exact within_single fun _ => Iff.rfl
  | image path =>
    by_cases plain : plainPath path = true
    · have covers : ∀ y, h.Covers (.image path) y ↔ y = .file (components (h.realpath path)) := fun y =>
        and_iff_right plain
      rw [within_single covers]
      exact (and_iff_right plain).symm
    · exact iff_of_false (not_within_empty fun y covers => plain covers.1) fun named => plain named.1
  | dataset name =>
    by_cases named : datasetName name.toList = true
    · have covers : ∀ y, h.Covers (.dataset name) y ↔ y = .dataset name.toList := fun y => and_iff_right named
      rw [within_single covers]
      exact (and_iff_right named).symm
    · exact iff_of_false (not_within_empty fun y covers => named covers.1) fun found => named found.1
  | lvm name =>
    cases arg : h.lvmArg name with
    | none =>
      refine iff_of_false (not_within_empty fun y covers => ?_) ?_
      · simp [Covers, arg] at covers
      · simp [Names, arg]
    | some found =>
      obtain ⟨vg, lv⟩ := found
      cases lv with
      | none =>
        refine iff_of_false (not_within_outside (y := .volumeGroup vg) ?_ not_inside_volumeGroup) ?_
        · simp [Covers, arg]
        · simp [Names, arg]
      | some lv =>
        have named : h.Names b poolPath (.lvm name) ↔ h.Inside b poolPath (.logicalVolume vg lv) := by
          simp [Names, arg]
        rw [named]
        constructor
        · rintro ⟨volume, inside, only⟩
          have same : Thing.logicalVolume vg lv = volume := (only _).mp (by simp [Covers, arg])
          exact same ▸ inside
        · intro inside
          refine ⟨_, inside, fun y => ?_⟩
          simp [Covers, arg, kind_of_inside inside]
  | tree name =>
    cases cut : partition '@' name.toList with
    | mk dataset snap =>
      cases snap with
      | some snap =>
        refine iff_of_false (not_within_outside (y := .snapshot dataset snap) ?_ not_inside_snapshot) ?_
        · simp [Covers, cut]
        · rintro ⟨named, -⟩
          rw [partition_datasetName named] at cut
          cases cut
      | none =>
        constructor
        · rintro ⟨volume, inside, only⟩
          by_cases named : datasetName name.toList = true
          · have same : Thing.dataset name.toList = volume := (only _).mp (by simp [Covers, cut, named])
            subst same
            refine ⟨named, inside, fun d mem => ?_⟩
            cases below : isBelow name.toList d with
            | false => rfl
            | true =>
              have covered : h.Covers (.tree name) (.dataset d) := by
                simp only [Covers, cut]
                exact ⟨named, .inr ⟨d, mem, below, rfl⟩⟩
              cases (only _).mp covered
              rw [not_isBelow_self] at below
              cases below
          · have covered := (only volume).mpr rfl
            simp [Covers, cut, named] at covered
        · rintro ⟨named, inside, leaf⟩
          refine ⟨_, inside, fun y => ?_⟩
          simp only [Covers, cut]
          constructor
          · rintro ⟨-, rfl | ⟨d, mem, below, -⟩⟩
            · rfl
            · rw [leaf d mem] at below
              cases below
          · exact fun same => ⟨named, .inl same⟩
  | snapshot name =>
    cases cut : partition '@' name.toList with
    | mk dataset snap =>
      cases snap with
      | none =>
        refine iff_of_false (not_within_empty fun y covers => ?_) ?_
        · simp [Covers, cut] at covers
        · simp [Names, cut]
      | some snap =>
        by_cases named : datasetName dataset = true ∧ snapshotName snap = true
        · have covers : ∀ y, h.Covers (.snapshot name) y ↔ y = .dataset dataset := fun y => by
            simp [Covers, cut, named]
          rw [within_single covers]
          simp [Names, cut, named]
        · refine iff_of_false (not_within_empty fun y covers => ?_) ?_
          · simp only [Covers, cut] at covers
            exact named ⟨covers.1, covers.2.1⟩
          · rintro ⟨dataset', snap', same, valid, valid', -⟩
            rw [cut] at same
            cases same
            exact named ⟨valid, valid'⟩

/-! ## Scripts -/

section Scripts

variable (h b poolPath) in
/-- Every command of the script is about one volume inside the pool. -/
def Keeps {α : Type} (x : StorageM α) : Prop :=
  Script.Obeys h.Possible (fun o => ∀ x ∈ o.operands, h.Within b poolPath x) (fun _ => True) x

variable {α β : Type}

theorem keeps_pure {a : α} : h.Keeps b poolPath (pure a) := Script.Obeys.pure trivial

theorem keeps_throw {e : StorageError} : h.Keeps b poolPath (throw e : StorageM α) := Script.Obeys.throw

/-- An operation keeps to the pool where its operands do and so does what follows each answer. -/
theorem keeps_perform {o : HostOp} {f : HostAns o → StorageM α} :
    h.Keeps b poolPath (Script.perform o >>= f) ↔
      (∀ x ∈ o.operands, h.Within b poolPath x) ∧ ∀ a, h.Possible o a → h.Keeps b poolPath (f a) := by
  constructor
  · exact fun keeps => ⟨(keeps ()).1, fun a possible l => (keeps l).2 a possible⟩
  · exact fun keeps l => ⟨keeps.1, fun a possible => keeps.2 a possible l⟩

/-- A command keeps to the pool where its operands do and so does what follows. -/
theorem keeps_run {c : Command} {f : String → StorageM α} :
    h.Keeps b poolPath (run c >>= f) ↔ (∀ x ∈ c.operands, h.Within b poolPath x) ∧
      ∀ stdout, h.Possible (.run c) (.done stdout) → h.Keeps b poolPath (f stdout) := by
  rw [run, bind_assoc, keeps_perform]
  refine and_congr Iff.rfl ⟨fun keeps stdout => keeps (.done stdout), fun keeps a => ?_⟩
  cases a with
  | done stdout => exact keeps stdout
  | failed returncode stderr => exact fun _ => keeps_throw
  | timedOut => exact fun _ => keeps_throw

/-- A last command keeps to the pool where its operands do. -/
theorem keeps_last {c : Command} :
    h.Keeps b poolPath (do let _ ← run c : StorageM Unit) ↔ ∀ x ∈ c.operands, h.Within b poolPath x := by
  have done : h.Keeps b poolPath (run c >>= fun _ => pure ()) ↔ _ := keeps_run
  exact done.trans (and_iff_left fun _ _ => keeps_pure)

/-- A command that may succeed if and only if `p`, and what follows. -/
theorem keeps_run_iff {c : Command} {f : String → StorageM α} {p q : Prop}
    (possible : ∀ stdout, h.Possible (.run c) (.done stdout) ↔ p)
    (rest : ∀ stdout, h.Keeps b poolPath (f stdout) ↔ q) :
    h.Keeps b poolPath (run c >>= f) ↔ (∀ x ∈ c.operands, h.Within b poolPath x) ∧ (p → q) := by
  rw [keeps_run]
  refine and_congr Iff.rfl ⟨fun keeps free => ?_, fun keeps stdout free => ?_⟩
  · exact (rest "").mp (keeps "" ((possible "").mpr free))
  · exact (rest stdout).mpr (keeps ((possible stdout).mp free))

/-- What follows the scope check only has to keep to the pool for an id that passes. -/
theorem keeps_assertWithin {volumeId : String} {f : Unit → StorageM α} :
    h.Keeps b poolPath (assertWithin h.realpath b poolPath volumeId >>= f) ↔
      (b.owns { realpath := h.realpath } poolPath volumeId = true → h.Keeps b poolPath (f ())) := by
  unfold assertWithin
  by_cases owned : b.owns { realpath := h.realpath } poolPath volumeId = true
  · rw [if_pos owned, pure_bind]
    exact (imp_iff_right owned).symm
  · rw [if_neg owned]
    exact iff_of_true keeps_throw fun own => absurd own owned

/-- What follows the name check only has to keep to the pool for a name that passes. -/
theorem keeps_validateName {name : String} {f : Unit → StorageM α} :
    h.Keeps b poolPath (validateName name >>= f) ↔ (safeName name = true → h.Keeps b poolPath (f ())) := by
  unfold validateName
  by_cases safe : safeName name = true
  · rw [if_pos safe, pure_bind]
    exact (imp_iff_right safe).symm
  · rw [if_neg safe]
    exact iff_of_true keeps_throw fun own => absurd own safe

/-- What follows a number that was read has to keep to the pool for each. -/
theorem keeps_printed {stdout : String} {f : Int → StorageM α} :
    h.Keeps b poolPath (printed stdout >>= f) ↔ ∀ n, readInt stdout = some n → h.Keeps b poolPath (f n) := by
  unfold printed
  cases readInt stdout with
  | none => exact iff_of_true keeps_throw fun n read => by cases read
  | some n =>
    rw [pure_bind]
    exact ⟨fun keeps m read => Option.some.inj read ▸ keeps, fun keeps => keeps n rfl⟩

/-- The size of a logical volume, and what follows. -/
theorem keeps_lvSizeBytes {volumeId : String} {f : Int → StorageM α} {q : Prop}
    (rest : ∀ n, h.Keeps b poolPath (f n) ↔ q) :
    h.Keeps b poolPath (lvSizeBytes volumeId >>= f) ↔ h.Within b poolPath (.lvm volumeId) ∧ q := by
  have cut : lvSizeBytes volumeId >>= f = run (.lvs volumeId) >>= fun stdout => printed stdout >>= f :=
    bind_assoc ..
  rw [cut, keeps_run]
  refine and_congr List.forall_mem_singleton ⟨fun keeps => ?_, fun keeps stdout _ => ?_⟩
  · exact (rest 0).mp (keeps_printed.mp (keeps "0" trivial) 0 (by decide +kernel))
  · exact keeps_printed.mpr fun n _ => (rest n).mpr keeps

/-- The handler of a single operation is part of what follows it. -/
theorem tryCatch_perform {o : HostOp} {g : HostAns o → StorageM α} {f : StorageError → StorageM α} :
    tryCatch (Script.perform o >>= g) f = Script.perform o >>= fun a => tryCatch (g a) f := rfl

/-- A command whose failure does not matter keeps to the pool where its operands do. -/
theorem keeps_runUnchecked {c : Command} {f : Unit → StorageM α} {p : Prop}
    (possible : ∀ a, h.Possible (.run c) a) (rest : h.Keeps b poolPath (f ()) ↔ p) :
    h.Keeps b poolPath (runUnchecked c >>= f) ↔ (∀ x ∈ c.operands, h.Within b poolPath x) ∧ p := by
  rw [runUnchecked, bind_assoc, keeps_perform]
  refine and_congr Iff.rfl ⟨fun keeps => ?_, fun keeps a _ => ?_⟩
  · exact rest.mp (keeps (.done "") (possible _))
  · cases a with
    | timedOut => exact keeps_throw
    | done stdout => exact rest.mpr keeps
    | failed returncode stderr => exact rest.mpr keeps

/-- The pipe, and what follows. -/
theorem keeps_pipeSendReceive {source dest : String} {f : Unit → StorageM α} :
    h.Keeps b poolPath (pipeSendReceive source dest >>= f) ↔
      h.Within b poolPath (.snapshot (source ++ "@full-clone-tmp")) ∧
        (dest.toList ∉ h.datasets → h.Keeps b poolPath (f ())) := by
  let snap := source ++ "@full-clone-tmp"
  let undo (e : StorageError) : StorageM Unit := do
    runUnchecked (.zfsDestroy snap)
    throw e
  let rest : StorageM α := runUnchecked (.zfsDestroy snap) >>= f
  have destroys {g : Unit → StorageM α} {p : Prop} (h' : h.Keeps b poolPath (g ()) ↔ p) :
      h.Keeps b poolPath (runUnchecked (.zfsDestroy snap) >>= g) ↔ h.Within b poolPath (.snapshot snap) ∧ p := by
    have possible (a : Completed) : h.Possible (.run (.zfsDestroy snap)) a := trivial
    exact (keeps_runUnchecked possible h').trans (and_congr List.forall_mem_singleton Iff.rfl)
  have undone (e : StorageError) (within : h.Within b poolPath (.snapshot snap)) :
      h.Keeps b poolPath (undo e >>= fun _ => rest) := by
    have cut : (undo e >>= fun _ => rest) = runUnchecked (.zfsDestroy snap) >>= fun _ => throw e :=
      bind_assoc ..
    rw [cut, destroys (iff_of_true keeps_throw trivial)]
    exact ⟨within, trivial⟩
  have piped : h.Keeps b poolPath (tryCatch (receive snap dest) undo >>= fun _ => rest) ↔
      h.Within b poolPath (.snapshot snap) ∧ (dest.toList ∉ h.datasets → h.Keeps b poolPath (f ())) := by
    have cut : (tryCatch (receive snap dest) undo >>= fun _ => rest) =
        Script.perform (HostOp.run (.zfsSendReceive snap dest)) >>= fun a =>
          tryCatch (received a) undo >>= fun _ => rest := by
      unfold receive
      rw [tryCatch_perform, bind_assoc]
    rw [cut, keeps_perform]
    constructor
    · rintro ⟨source, keeps⟩
      exact ⟨source _ (List.mem_singleton_self _),
        fun free => ((destroys Iff.rfl).mp (keeps (.done "") free)).2⟩
    · rintro ⟨within, keeps⟩
      refine ⟨List.forall_mem_singleton.mpr within, fun a free => ?_⟩
      cases a with
      | done stdout => exact (destroys Iff.rfl).mpr ⟨within, keeps free⟩
      | failed returncode stderr => exact undone _ within
      | timedOut => exact undone _ within
  have cut : pipeSendReceive source dest >>= f =
      run (.zfsSnapshot snap) >>= fun _ => tryCatch (receive snap dest) undo >>= fun _ => rest := by
    unfold pipeSendReceive
    simp only [bind_assoc]
    rfl
  rw [cut, keeps_run_iff (p := True) (fun _ => Iff.rfl) fun _ => piped]
  constructor
  · rintro ⟨-, after⟩
    exact after trivial
  · exact fun both => ⟨List.forall_mem_singleton.mpr both.1, fun _ => both⟩

/-- Asking for the size of a file in the pool keeps to the pool. -/
theorem keeps_qcow2VirtualSize {dest : String} {f : Int → StorageM α} (rest : ∀ n, h.Keeps b poolPath (f n)) :
    h.Keeps b poolPath (qcow2VirtualSize h.loads dest >>= f) ↔ h.Within b poolPath (.image dest) := by
  rw [qcow2VirtualSize, bind_assoc, keeps_run]
  refine (and_iff_left fun stdout _ => ?_).trans List.forall_mem_singleton
  cases h.loads stdout with
  | some info => exact rest _
  | none => exact keeps_throw

/-- So does asking for the size of a copy. -/
theorem keeps_copiedSize {dest : String} {linked : Bool} {f : Int → StorageM α}
    (rest : ∀ n, h.Keeps b poolPath (f n)) :
    h.Keeps b poolPath (copiedSize h.loads dest linked >>= f) ↔
      (linked = true → h.Within b poolPath (.image dest)) := by
  cases linked with
  | true => exact (keeps_qcow2VirtualSize rest).trans (imp_iff_right rfl).symm
  | false =>
    refine iff_of_true (keeps_perform.mpr ⟨List.forall_mem_nil _, fun a _ => ?_⟩) (by simp)
    cases a with
    | none => exact keeps_throw
    | some size => exact rest size

/-- A copy keeps to the pool where both its files do. -/
theorem keeps_copyFile {source dest format : String} {overlay : Bool} {f : Unit → StorageM α} {q : Prop}
    (rest : h.Keeps b poolPath (f ()) ↔ q) :
    h.Keeps b poolPath (copyFile source dest format overlay >>= f) ↔
      h.Within b poolPath (.image (if overlay then backingPath dest source else source)) ∧
        h.Within b poolPath (.image dest) ∧ q := by
  have two (x y : Operand) : (∀ z ∈ [x, y], h.Within b poolPath z) ↔
      h.Within b poolPath x ∧ h.Within b poolPath y := by simp
  have last (c : Command) : (do let _ ← run c : StorageM Unit) >>= f = run c >>= fun _ => f () := by
    simp only [bind_assoc, pure_bind]
  cases overlay with
  | true =>
    have cut : copyFile source dest format true >>= f = run (.qemuCreate source dest) >>= fun _ => f () :=
      last (.qemuCreate source dest)
    rw [cut, keeps_run_iff (p := True) (fun _ => Iff.rfl) fun _ => rest]
    simp only [Command.operands, two, if_true, true_implies, and_assoc]
  | false =>
    have cut : copyFile source dest format false >>= f = run (.qemuConvert format source dest) >>= fun _ => f () :=
      last (.qemuConvert format source dest)
    rw [cut, keeps_run_iff (p := True) (fun _ => Iff.rfl) fun _ => rest]
    simp only [Command.operands, two, Bool.false_eq_true, if_false, true_implies, and_assoc]

end Scripts

/-! ## Calls -/

section Calls

variable (h b poolPath)

/-- The volume id is the volume group of the pool, a slash, and the name of a volume. -/
def IsVolume (volumeId : String) : Prop :=
  ∃ name, volumeId.toList = (groupOf poolPath b).toList ++ '/' :: name ∧
    h.Inside b poolPath (.logicalVolume (groupOf poolPath b).toList name)

/-- A new volume of the name can be made. -/
def Free (name : String) : Prop :=
  match b with
  | .directory => True
  | .lvm | .lvmThin => h.kind (groupOf poolPath b).toList name.toList = none
  | .zfs => (b.volumeId poolPath name).toList ∉ h.datasets

/-- The volume to delete. -/
def Deletes (volumeId : String) : Prop :=
  match b with
  | .directory => h.Inside b poolPath (.file (components (h.entry volumeId)))
  | .lvm | .lvmThin => h.IsVolume b poolPath volumeId
  | .zfs => datasetName volumeId.toList = true ∧ h.foreign (.dataset volumeId.toList) = false ∧
    ∀ d ∈ h.datasets, isBelow volumeId.toList d = false

/-- The volume to resize. -/
def Resizes (volumeId : String) : Prop :=
  match b with
  | .directory =>
    plainPath volumeId = true ∧ h.Inside b poolPath (.file (components (h.realpath volumeId)))
  | .lvm | .lvmThin => h.IsVolume b poolPath volumeId
  | .zfs => datasetName volumeId.toList = true ∧ h.foreign (.dataset volumeId.toList) = false

/-- The source of a clone, and the new volume. -/
def Clones (source newName : String) (linked : Bool) : Prop :=
  let dest := b.volumeId poolPath newName
  match b with
  | .directory => b.owns { realpath := h.realpath } poolPath source = true →
    h.Names b poolPath (.image source) ∧ h.Names b poolPath (.image dest) ∧
      (linked = true → h.Names b poolPath (.image (backingPath dest source)))
  | .lvm => linked = false → h.Names b poolPath (.lvm source) ∧ (h.Free b poolPath newName →
    h.Names b poolPath (.node source) ∧ h.Names b poolPath (.node dest))
  | .lvmThin => h.Names b poolPath (.lvm source) ∧ (h.Free b poolPath newName →
    (linked = false → h.Names b poolPath (.node source) ∧ h.Names b poolPath (.node dest)) ∧
      h.Names b poolPath (.lvm dest))
  | .zfs =>
    h.Names b poolPath (.snapshot (source ++ if linked then "@clone-base-" ++ newName else "@full-clone-tmp")) ∧
      (h.Free b poolPath newName → h.Names b poolPath (.dataset dest))

/-- The check of the backend, where it makes one, is enough for the call. -/
def Scoped (call : Call) : Prop :=
  (b = .lvmThin → thinPool poolPath ≠ []) → match call with
    | .delete volumeId => b.owns { realpath := h.realpath } poolPath volumeId = true →
      h.Deletes b poolPath volumeId
    | .resize volumeId _ => b.owns { realpath := h.realpath } poolPath volumeId = true →
      h.Resizes b poolPath volumeId
    | .clone source newName linked => safeName newName = true → h.Clones b poolPath source newName linked

end Calls

/-- A valid LVM name has no slash. -/
theorem slash_not_mem {name : Text} (valid : lvmName name = true) : '/' ∉ name := by
  intro mem
  simp only [lvmName, decide_eq_true_eq, List.all_eq_true] at valid
  have plain := valid.2.2.2.2 '/' mem
  revert plain
  decide

/-- The volumes of an LVM pool are in its volume group. -/
theorem group_of_inside {vg lv : Text} (inside : h.Inside b poolPath (.logicalVolume vg lv)) :
    vg = (groupOf poolPath b).toList ∧ lvmName vg = true ∧ lvmName lv = true := by
  obtain ⟨-, inside⟩ := inside
  cases b with
  | directory | zfs => exact inside.elim
  | lvm => exact ⟨inside.1, inside.2.1, inside.2.2.1⟩
  | lvmThin => exact ⟨by simp [groupOf, inside.1], inside.2.1, inside.2.2.1⟩

/-- Behind the check of the volume group, only the ids of volumes name one. -/
theorem names_lvm_of_owned {volumeId : String} (lvm : b = .lvm ∨ b = .lvmThin)
    (owned : b.owns { realpath := h.realpath } poolPath volumeId = true) :
    h.Names b poolPath (.lvm volumeId) ↔ h.IsVolume b poolPath volumeId := by
  have group : volumeGroup volumeId = (groupOf poolPath b).toList := by
    rcases lvm with rfl | rfl
    · simpa [Backend.owns, groupOf] using owned
    · simpa [Backend.owns, groupOf] using owned
  constructor
  · rintro ⟨vg, lv, arg, inside⟩
    obtain ⟨rfl, valid, -⟩ := group_of_inside inside
    refine ⟨lv, ?_, inside⟩
    unfold lvmArg at arg
    by_cases path : volumeId.toList.head? = some '/'
    · obtain ⟨rest, start⟩ := List.head?_eq_some_iff.mp path
      have empty : (groupOf poolPath b).toList = [] := by
        rw [← group, volumeGroup, start]
        simp
      rw [empty] at valid
      cases valid
    · rw [if_neg path] at arg
      cases cut : partition '/' volumeId.toList with
      | mk before behind =>
        rw [cut] at arg
        cases behind with
        | none =>
          simp only [Option.ite_none_right_eq_some] at arg
          cases arg.2
        | some name =>
          simp only [Option.ite_none_right_eq_some] at arg
          cases arg.2
          exact eq_append_of_partition cut
  · rintro ⟨name, same, inside⟩
    obtain ⟨-, valid, valid'⟩ := group_of_inside inside
    refine ⟨_, name, ?_, inside⟩
    have cut : partition '/' volumeId.toList = ((groupOf poolPath b).toList, some name) := by
      rw [same, partition_append (slash_not_mem valid)]
    have path : volumeId.toList.head? ≠ some '/' := by
      intro path
      rw [same] at path
      cases start : (groupOf poolPath b).toList with
      | nil =>
        rw [start] at valid
        cases valid
      | cons c rest =>
        rw [start] at path valid
        cases path
        exact slash_not_mem valid List.mem_cons_self
    simp [lvmArg, path, cut, valid, valid']

section Backends

variable {α : Type}

/-- Deleting keeps to the pool exactly where the condition holds. -/
theorem keeps_deleteVolume {volumeId : String} :
    h.Keeps b poolPath (deleteVolume h.realpath b poolPath volumeId) ↔
      (b.owns { realpath := h.realpath } poolPath volumeId = true → h.Deletes b poolPath volumeId) := by
  unfold deleteVolume
  rw [keeps_assertWithin]
  refine imp_congr_right fun owned => ?_
  cases b with
  | directory =>
    rw [keeps_perform]
    constructor
    · intro keeps
      have removes := keeps.2 true trivial
      rw [if_pos rfl, keeps_perform, HostOp.operands, List.forall_mem_singleton, within_iff] at removes
      exact removes.1
    · intro deletes
      refine ⟨List.forall_mem_nil _, fun there _ => ?_⟩
      cases there with
      | true =>
        rw [if_pos rfl, keeps_perform, HostOp.operands, List.forall_mem_singleton, within_iff]
        refine ⟨deletes, fun a _ => ?_⟩
        cases a with
        | some done => exact keeps_pure
        | none => exact keeps_throw
      | false => exact keeps_pure
  | lvm =>
    rw [keeps_last, Command.operands, List.forall_mem_singleton, within_iff,
      names_lvm_of_owned (.inl rfl) owned]
    rfl
  | lvmThin =>
    rw [keeps_last, Command.operands, List.forall_mem_singleton, within_iff,
      names_lvm_of_owned (.inr rfl) owned]
    rfl
  | zfs =>
    rw [keeps_last, Command.operands, List.forall_mem_singleton, within_iff]
    have below : isBelow poolPath.toList volumeId.toList = true := owned
    simp [Names, Deletes, Inside, below]

/-- Resizing keeps to the pool exactly where the condition holds. -/
theorem keeps_resizeVolume {volumeId : String} {size : Int} :
    h.Keeps b poolPath (resizeVolume h.realpath b poolPath volumeId size) ↔
      (b.owns { realpath := h.realpath } poolPath volumeId = true → h.Resizes b poolPath volumeId) := by
  unfold resizeVolume
  rw [keeps_assertWithin]
  refine imp_congr_right fun owned => ?_
  cases b with
  | directory =>
    rw [keeps_last, Command.operands, List.forall_mem_singleton, within_iff]
    rfl
  | lvm =>
    rw [keeps_last, Command.operands, List.forall_mem_singleton, within_iff,
      names_lvm_of_owned (.inl rfl) owned]
    rfl
  | lvmThin =>
    rw [keeps_last, Command.operands, List.forall_mem_singleton, within_iff,
      names_lvm_of_owned (.inr rfl) owned]
    rfl
  | zfs =>
    rw [keeps_last, Command.operands, List.forall_mem_singleton, within_iff]
    have below : isBelow poolPath.toList volumeId.toList = true := owned
    simp [Names, Resizes, Inside, below]

/-! ### Clones -/

/-- `dd` keeps to the pool where both its files do. -/
theorem keeps_dd {source dest : String} {f : String → StorageM α} {q : Prop}
    (rest : ∀ stdout, h.Keeps b poolPath (f stdout) ↔ q) :
    h.Keeps b poolPath (run (.dd source dest) >>= f) ↔
      (h.Names b poolPath (.node source) ∧ h.Names b poolPath (.node dest)) ∧ q := by
  rw [keeps_run_iff (p := True) (fun _ => Iff.rfl) rest]
  simp [Command.operands, within_iff]

/-- A clone of a file keeps to the pool where both files do. -/
theorem keeps_cloneFile {source dest : String} {linked : Bool} {f : VolumeInfo → StorageM α}
    (rest : ∀ info, h.Keeps b poolPath (f info)) :
    h.Keeps b poolPath (cloneFile h.loads source dest linked >>= f) ↔
      h.Names b poolPath (.image source) ∧ h.Names b poolPath (.image dest) ∧
        (linked = true → h.Names b poolPath (.image (backingPath dest source))) := by
  have tail (format : String) (size : Bool) : h.Keeps b poolPath (do
      copyFile source dest format (linked && size)
      let n ← copiedSize h.loads dest linked
      f ⟨dest, n, format⟩) ↔
      h.Within b poolPath (.image (if linked && size then backingPath dest source else source)) ∧
        h.Within b poolPath (.image dest) ∧ (linked = true → h.Within b poolPath (.image dest)) :=
    keeps_copyFile (keeps_copiedSize fun n => rest ⟨dest, n, format⟩)
  have cut : cloneFile h.loads source dest linked >>= f = run (.qemuInfo source) >>= fun info => (do
      copyFile source dest (if printsQcow2 info then "qcow2" else "raw") (linked && printsQcow2 info)
      let n ← copiedSize h.loads dest linked
      f ⟨dest, n, if printsQcow2 info then "qcow2" else "raw"⟩) := by
    simp only [cloneFile, bind_assoc, pure_bind]
  have raw : printsQcow2 "" = false := by decide +kernel
  have qcow2 : printsQcow2 "\"format\": \"qcow2\"" = true := by decide +kernel
  rw [cut, keeps_run]
  simp only [tail, Command.operands, List.forall_mem_singleton, within_iff]
  constructor
  · rintro ⟨source, keeps⟩
    have plain := keeps "" trivial
    have overlay := keeps "\"format\": \"qcow2\"" trivial
    simp only [raw, qcow2, Bool.and_true] at plain overlay
    refine ⟨source, plain.2.1, fun linked => ?_⟩
    simpa [linked] using overlay.1
  · rintro ⟨source, dest, backing⟩
    refine ⟨source, fun info _ => ⟨?_, dest, fun _ => dest⟩⟩
    by_cases overlay : (linked && printsQcow2 info) = true
    · rw [if_pos overlay]
      exact backing (Bool.and_eq_true_iff.mp overlay).1
    · rw [if_neg overlay]
      exact source

/-- The copy of a logical volume into a new one. -/
theorem keeps_copyVolume {source dest newName : String} {create : Command} {f : String → StorageM α} {q : Prop}
    (makes : create.operands = [])
    (possible : ∀ stdout, h.Possible (.run create) (.done stdout) ↔ h.Free b poolPath newName)
    (rest : ∀ stdout, h.Keeps b poolPath (f stdout) ↔ q) :
    h.Keeps b poolPath (run create >>= fun _ => run (.dd source dest) >>= f) ↔ (h.Free b poolPath newName →
      (h.Names b poolPath (.node source) ∧ h.Names b poolPath (.node dest)) ∧ q) := by
  rw [keeps_run_iff possible fun _ => keeps_dd rest, makes]
  exact and_iff_right (List.forall_mem_nil _)

/-- Cloning keeps to the pool exactly where the condition holds. -/
theorem keeps_cloneVolume {source newName : String} {linked : Bool} {f : VolumeInfo → StorageM α}
    (rest : ∀ info, h.Keeps b poolPath (f info)) :
    h.Keeps b poolPath (cloneVolume h.realpath h.loads b poolPath source newName linked >>= f) ↔
      (safeName newName = true → h.Clones b poolPath source newName linked) := by
  cases b with
  | directory =>
    simp only [cloneVolume, bind_assoc]
    rw [keeps_assertWithin]
    simp only [keeps_validateName, keeps_cloneFile rest]
    exact ⟨fun keeps safe owned => keeps owned safe, fun keeps owned safe => keeps safe owned⟩
  | lvm =>
    cases linked with
    | true => exact iff_of_true keeps_throw fun _ linked => by cases linked
    | false =>
      let dest := Backend.lvm.volumeId poolPath newName
      simp only [cloneVolume, Bool.false_eq_true, if_false, bind_assoc, pure_bind]
      rw [keeps_validateName]
      refine imp_congr_right fun _ => ?_
      have copied (size : Int) : h.Keeps .lvm poolPath (run (.lvcreate size newName poolPath) >>= fun _ =>
          run (.dd source dest) >>= fun _ => f ⟨dest, size, "raw"⟩) ↔ (h.Free .lvm poolPath newName →
            (h.Names .lvm poolPath (.node source) ∧ h.Names .lvm poolPath (.node dest)) ∧ True) :=
        keeps_copyVolume rfl (fun _ => Iff.rfl) fun _ => iff_of_true (rest _) trivial
      rw [keeps_lvSizeBytes copied, within_iff]
      simp [Clones, dest]
  | lvmThin =>
    let dest := Backend.lvmThin.volumeId poolPath newName
    have sized : h.Keeps .lvmThin poolPath (lvSizeBytes dest >>= fun size => f ⟨dest, size, "raw"⟩) ↔
        h.Names .lvmThin poolPath (.lvm dest) := by
      rw [keeps_lvSizeBytes fun size => iff_of_true (rest _) trivial, within_iff, and_true]
    simp only [cloneVolume, bind_assoc, pure_bind]
    rw [keeps_validateName]
    refine imp_congr_right fun _ => ?_
    cases linked with
    | true =>
      have taken (found : h.Names .lvmThin poolPath (.lvm source)) :
          (∀ vg lv, h.lvmArg source = some (vg, lv) → h.kind vg newName.toList = none) ↔
            h.Free .lvmThin poolPath newName := by
        obtain ⟨vg, lv, arg, inside⟩ := found
        obtain ⟨rfl, -, -⟩ := group_of_inside inside
        simp [arg, Free]
      simp only [cloneThin, if_true, bind_assoc, pure_bind]
      rw [keeps_run_iff (fun _ => Iff.rfl) fun _ => sized, Command.operands, List.forall_mem_singleton, within_iff]
      refine and_congr_right fun found => ?_
      rw [taken found]
      simp [dest]
    | false =>
      have copied (size : Int) : h.Keeps .lvmThin poolPath
          (run (.lvcreateThin (groupOf poolPath .lvmThin) (String.ofList (thinPool poolPath)) size newName) >>=
            fun _ => run (.dd source dest) >>= fun _ => lvSizeBytes dest >>= fun size => f ⟨dest, size, "raw"⟩) ↔
          (h.Free .lvmThin poolPath newName → (h.Names .lvmThin poolPath (.node source) ∧
            h.Names .lvmThin poolPath (.node dest)) ∧ h.Names .lvmThin poolPath (.lvm dest)) :=
        keeps_copyVolume rfl (fun _ => Iff.rfl) fun _ => sized
      simp only [cloneThin, Bool.false_eq_true, if_false, bind_assoc, pure_bind]
      rw [keeps_lvSizeBytes copied, within_iff]
      simp [Clones, dest]
  | zfs =>
    let dest := Backend.zfs.volumeId poolPath newName
    have sized : h.Keeps .zfs poolPath (run (.zfsGetVolsize dest) >>= fun stdout =>
        printed stdout >>= fun size => f ⟨dest, size, "raw"⟩) ↔ h.Names .zfs poolPath (.dataset dest) := by
      rw [keeps_run_iff (p := True) (fun _ => Iff.rfl) fun stdout =>
        iff_of_true (keeps_printed.mpr fun n _ => rest _) trivial]
      simp [Command.operands, within_iff]
    simp only [cloneVolume, bind_assoc, pure_bind]
    rw [keeps_validateName]
    refine imp_congr_right fun _ => ?_
    cases linked with
    | true =>
      simp only [cloneDataset, if_true, bind_assoc, pure_bind]
      rw [keeps_run_iff (p := True) (fun _ => Iff.rfl) fun _ => keeps_run_iff (fun _ => Iff.rfl) fun _ => sized]
      simp only [Command.operands, List.forall_mem_singleton, within_iff, true_implies, Clones, if_true,
        String.append_assoc]
      exact ⟨fun both => both.2, fun both => ⟨both.1, both⟩⟩
    | false =>
      simp only [cloneDataset, Bool.false_eq_true, if_false]
      rw [keeps_pipeSendReceive, within_iff]
      simp only [Clones, Bool.false_eq_true, if_false]
      exact and_congr Iff.rfl (imp_congr_right fun _ => sized)

end Backends

/-- **A call keeps to its pool exactly where the check of its backend is enough.** -/
theorem contained_iff (call : Call) : h.Contained b poolPath call ↔ h.Scoped b poolPath call := by
  by_cases unusable : b = .lvmThin ∧ thinPool poolPath = []
  · refine iff_of_true ?_ fun usable => absurd unusable.2 (usable unusable.1)
    unfold Contained Call.script
    rw [if_pos unusable]
    exact keeps_throw
  · have usable : b = .lvmThin → thinPool poolPath ≠ [] := fun thin empty => unusable ⟨thin, empty⟩
    unfold Contained Scoped Call.script
    rw [if_neg unusable, imp_iff_right usable]
    cases call with
    | delete volumeId => exact keeps_deleteVolume
    | resize volumeId size => exact keeps_resizeVolume
    | clone source newName linked => exact keeps_cloneVolume fun _ => keeps_pure

/-! ### A volume group -/

/-- A host with logical volumes in one volume group. -/
def dataHost : PoolHost where
  realpath path := path
  entry path := path
  device _ := none
  kind vg _ := if vg = "vg-data".toList then some .thick else none
  datasets := []
  foreign _ := false
  loads _ := none

/-- The check of `LVMBackend` lets the name of its volume group pass, and `lvremove` takes it for all the logical
volumes. -/
theorem group_removed : ¬ ∀ (h : PoolHost) (b : Backend) (poolPath : String) (call : Call),
    h.Contained b poolPath call := by
  intro contained
  have keeps := contained dataHost .lvm "vg-data" (.delete "vg-data")
  unfold Contained Call.script at keeps
  rw [if_neg (by decide)] at keeps
  obtain ⟨name, same, -⟩ := keeps_deleteVolume.mp keeps (by decide +kernel)
  have length := congrArg List.length same
  have group : groupOf "vg-data" .lvm = "vg-data" := rfl
  rw [group, List.length_append, List.length_cons] at length
  omega

end PoolHost

end NodePilot.Agent.Pools
