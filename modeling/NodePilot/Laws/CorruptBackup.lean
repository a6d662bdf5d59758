import NodePilot.Backups
import NodePilot.Laws.Accepted

/-!
# Restoring a backup that was altered

The checksum of a backup is computed when the backup is made, stored in its row, and read by nobody:
RESTORE_BACKUP does not carry it. `guarded_iff` says when a restore leaves the volume alone all the
same.
-/

namespace NodePilot.Backups

open Lib Lib.Script Agent

/-! ## What a restore promises -/

/-- The artifact that a restore of the backup reads. -/
def Execution.artifact (x : Execution) (s : State) (backup : BackupRow) (target : TargetRow) :
    Option Content :=
  x.tools.artifact target.type.value.toList target.config backup.agentBackupRef.toList s.store

/-- The volume is left alone, and the job has failed. -/
structure Averted (x : Execution) (s : State) (store : Store) : Prop where
  untouched : ∀ c ∈ (x.run s).2.exchanges, ∀ volumeId ∈ destination c.1,
    Place.path volumeId ∉ store.written
  failed : (x.run s).2.jobStatus x.jobId = some .failed

/-- An artifact with another digest than the backup's is not restored. -/
def Guarded (x : Execution) (s : State) (store : Store) : Prop :=
  ∀ found ∈ s.db.loadBackup x.backup, ∀ content ∈ x.artifact s found.1 found.2.2,
    x.tools.sha256 content ≠ found.1.checksum.toList → Averted x s store

/-! ## When it keeps that -/

/-- The surroundings leave the task alone: its statements are accepted and nobody cancels the job,
which has not ended. -/
structure Undisturbed (x : Execution) (s : State) : Prop where
  accepted : ∀ i, (x.surroundings i).dbFails = false
  uncanceled : ∀ i, (x.surroundings i).cancel = none
  live : ∃ job, Table.get s.db.jobs x.jobId = some job ∧ (job.status = .queued ∨ job.status = .running)

/-- The conversion of the artifact fails, or nobody waits for it, and it has not written. -/
def Harmless (x : Execution) (s : State) (disk : DiskRow) (content : Content) : Prop :=
  let c := x.tools.convert disk.format.toList (some content)
    (s.store.files (.path disk.volumeId.toList))
  c.written = none ∧ (c.answer = .done → ∀ data, x.agent ≠ .ok data)

/-- What stops a restore, whatever the digest of the artifact is. -/
inductive Refused (x : Execution) (s : State) (vm : VmRow) (target : TargetRow)
    (content : Content) : Prop
  | locked (h : LockKey.storage vm.uuid ∈ s.busy)
  | noNode (h : vm.node = none)
  | noDisk (h : s.db.primaryDisk vm.pk = none)
  | unreached (h : x.reaches = false)
  | noVolume (disk : DiskRow) (h : s.db.primaryDisk vm.pk = some disk) (h' : disk.volumeId = "")
  | noBoto3 (h : s3Compatible target.type.value.toList) (h' : x.tools.boto3 = false)
  | harmless (disk : DiskRow) (h : s.db.primaryDisk vm.pk = some disk)
      (h' : Harmless x s disk content)

/-! ## The handler -/

section Handler

variable {α : Type} {tools : Tools}

/-- What a conversion has left behind, where nothing was written before. -/
def Wrote (c : Conversion) (dest : Place) (s : Store) : Prop :=
  s.written = if c.written.isSome then [dest] else []

/-- Nothing is written yet, and this is what the conversion will do. -/
def Converts (tools : Tools) (format : Text) (source dest : Place) (c : Conversion) (s : Store) : Prop :=
  s.written = [] ∧ tools.convertFile format source dest s = c

theorem triple_runConvert {format : Text} {source dest : Place} {c : Conversion} :
    Triple tools.handle (fun _ => Converts tools format source dest c)
      (runConvert format source dest)
      (fun _ _ s => c.answer = .done ∧ Wrote c dest s)
      (fun _ _ s => c.answer ≠ .done ∧ Wrote c dest s) := by
  refine Triple.bind (Q := fun answer _ s => answer = c.answer ∧ Wrote c dest s)
    (Triple.perform ?_) fun answer => ?_
  · rintro l s ⟨unwritten, rfl⟩
    refine ⟨rfl, ?_⟩
    unfold Wrote
    simp only [Tools.handle]
    cases (tools.convertFile format source dest s).written with
    | none => exact unwritten
    | some content => exact congrArg (dest :: ·) unwritten
  · cases answer with
    | done => exact Triple.pure fun _ _ h => ⟨h.1.symm, h.2⟩
    | failed | timedOut =>
      exact Triple.throw fun _ _ h => ⟨h.1 ▸ ConvertAnswer.noConfusion, h.2⟩

theorem triple_orElse {done : Bool} {e : BackupError} {P : Unit → Store → Prop}
    {R : BackupError → Unit → Store → Prop} (hdone : done = true) :
    Triple tools.handle P (orElse done e) (fun _ => P) R := by
  subst hdone
  exact Triple.pure fun _ _ h => h

theorem triple_s3Client {config : Dict} {client : S3Client} {start : Store}
    (read : clientOf config = .ok client) (boto3 : tools.boto3 = true)
    {R : BackupError → Unit → Store → Prop} :
    Triple tools.handle (fun _ s => s = start) (s3Client config)
      (fun client' _ s => client' = client ∧ s = start) R := by
  unfold s3Client
  rw [read]
  refine Triple.bind (Q := fun installed _ s => installed = true ∧ s = start)
    (Triple.perform fun l s h => ⟨boto3, h⟩) fun installed => ?_
  rintro l s ⟨rfl, rfl⟩
  exact ⟨rfl, rfl⟩

/-- A temporary directory comes and goes, and what its body leaves stays true without it. -/
theorem triple_withTemporaryDirectory {start : Text} {body : Text → BackupM α} {P : Store → Prop}
    {Q : α → Store → Prop} {R : Store → Prop}
    (hbody : ∀ directory, Triple tools.handle (fun _ => P) (body directory) (fun a _ => Q a)
      fun _ _ => R)
    (hQ : ∀ a s files, Q a s → Q a { s with files := files })
    (hR : ∀ s files, R s → R { s with files := files }) :
    Triple tools.handle (fun _ => P) (withTemporaryDirectory start body) (fun a _ => Q a)
      fun _ _ => R := by
  refine Triple.bind (Q := fun _ _ => P) (Triple.perform fun _ _ h => h) fun directory => ?_
  refine Triple.bind (Q := fun a _ => Q a) (Triple.tryCatch (hbody directory) fun e => ?_) fun a => ?_
  · exact Triple.bind (Q := fun _ _ => R) (Triple.perform fun _ s h => hR s _ h) fun _ =>
      Triple.throw fun _ _ h => h
  · exact Triple.bind (Q := fun _ _ => Q a) (Triple.perform fun _ s h => hQ a s _ h) fun _ =>
      Triple.pure fun _ _ h => h

/-- The answer to a CREATE_BACKUP that was made of `payload`: the artifact is there, with the digest
that is reported. -/
def Reported (tools : Tools) (payload data : Dict) (s : Store) : Prop :=
  ∃ targetType config ref content size,
    requireStr payload "target_type" = .ok targetType ∧ requireObj payload "target" = .ok config ∧
    tools.artifact targetType config ref s = some content ∧
    data = backupData ref size (tools.sha256 content)

theorem triple_given {x : Except AgentError α} {P : Store → Prop} :
    Triple tools.handle (fun _ => P) (given x) (fun a _ s => x = .ok a ∧ P s) (fun _ _ _ => True) := by
  cases x with
  | ok a => exact Triple.pure fun _ _ h => ⟨rfl, h⟩
  | error e => exact Triple.throw fun _ _ _ => trivial

theorem triple_any {x : BackupM α} {P : Unit → Store → Prop} :
    Triple tools.handle P x (fun _ _ _ => True) (fun _ _ _ => True) := by
  intro l s _
  split <;> trivial

/-- The digest of a file that is there. -/
def DigestOf (tools : Tools) (file : Place) (checksum : Text) (s : Store) : Prop :=
  ∃ content, s.files file = some content ∧ checksum = tools.sha256 content

theorem triple_sha256File {file : Place} :
    Triple tools.handle (fun _ _ => True) (sha256File file)
      (fun checksum _ => DigestOf tools file checksum) (fun _ _ _ => True) := by
  refine Triple.bind (Q := fun digest _ s => digest = (s.files file).map tools.sha256)
    (Triple.perform fun _ _ _ => rfl) fun digest => ?_
  cases digest with
  | none => exact Triple.throw fun _ _ _ => trivial
  | some checksum =>
    refine Triple.pure fun l s h => ?_
    obtain ⟨content, found, rfl⟩ := Option.map_eq_some_iff.mp h.symm
    exact ⟨content, found, rfl⟩

theorem triple_getsize {file : Place} {P : Store → Prop} :
    Triple tools.handle (fun _ => P) (getsize file) (fun _ _ => P) (fun _ _ _ => True) := by
  refine Triple.bind (Q := fun _ _ => P) (Triple.perform fun _ _ h => h) fun size => ?_
  cases size with
  | none => exact Triple.throw fun _ _ _ => trivial
  | some size => exact Triple.pure fun _ _ h => h

/-- **CREATE_BACKUP reports the digest of the artifact that it leaves.** -/
theorem triple_createBackup {payload : Dict} :
    Triple tools.handle (fun _ _ => True) (Agent.createBackup payload)
      (fun data _ => Reported tools payload data) (fun _ _ _ => True) := by
  unfold Agent.createBackup
  refine Triple.bind triple_given fun targetType => Triple.fact fun typed => ?_
  refine Triple.bind triple_any fun volumeId => Triple.ite (fun files => ?_) fun noFiles =>
    Triple.ite (fun objects => ?_) fun _ => Triple.throw fun _ _ _ => trivial
  · refine Triple.bind triple_given fun target => Triple.fact fun configured => ?_
    refine Triple.bind triple_any fun targetDir => Triple.bind triple_any fun made => ?_
    refine Triple.bind triple_any fun _ => Triple.bind triple_any fun uuid => ?_
    refine Triple.bind triple_any fun _ => Triple.bind triple_sha256File fun checksum => ?_
    refine Triple.bind triple_getsize fun size => Triple.pure ?_
    rintro l s ⟨content, found, rfl⟩
    exact ⟨targetType, target, _, content, size, typed, configured,
      (if_pos files).trans found, rfl⟩
  · refine Triple.bind triple_given fun config => Triple.fact fun configured => ?_
    refine Triple.bind (Q := fun client _ _ => clientOf config = .ok client ∧ True) (Triple.bind
      triple_any fun installed => Triple.bind triple_any fun _ => triple_given) fun client => ?_
    refine Triple.fact fun read => Triple.bind triple_any fun start => Triple.bind triple_any
      fun uuid => ?_
    let key := start ++ "/".toList ++ uuid ++ ".qcow2".toList
    refine (triple_withTemporaryDirectory (P := fun _ => True) (R := fun _ => True)
      (Q := fun data s => ∃ bucket content size, requireStr config "bucket" = .ok bucket ∧
        tools.admits client bucket = true ∧ s.objects client.endpointUrl bucket key = some content ∧
        data = backupData key size (tools.sha256 content))
      (fun directory => ?_) (fun _ _ _ h => h) fun _ _ h => h).conseq (fun _ _ => id) ?_ fun _ _ _ => id
    · refine Triple.bind triple_any fun _ => Triple.bind triple_sha256File fun checksum => ?_
      refine Triple.bind triple_getsize fun size => ?_
      refine Triple.bind triple_given fun bucket => Triple.fact fun named => ?_
      refine Triple.bind (Q := fun uploaded _ s => uploaded = true → ∃ content,
        tools.admits client bucket = true ∧ s.objects client.endpointUrl bucket key = some content ∧
        checksum = tools.sha256 content) (Triple.perform ?_) fun uploaded => ?_
      · rintro l s ⟨content, found, rfl⟩
        simp only [Tools.handle, found]
        split
        · next admitted => exact fun _ => ⟨content, admitted, if_pos ⟨rfl, rfl, rfl⟩, rfl⟩
        · exact Bool.noConfusion
      · cases uploaded with
        | false => exact fun _ _ _ => trivial
        | true =>
          refine Triple.bind (triple_orElse rfl) fun _ => Triple.pure fun l s h => ?_
          obtain ⟨content, admitted, stored, rfl⟩ := h rfl
          exact ⟨bucket, content, size, named, admitted, stored, rfl⟩
    · rintro data l s ⟨bucket, content, size, named, admitted, stored, rfl⟩
      refine ⟨targetType, config, key, content, size, typed, configured, ?_, rfl⟩
      rw [Tools.artifact, if_neg noFiles, if_pos objects, read, named]
      exact (if_pos admitted).trans stored

section Restore

variable {vm : VmRow} {backup : BackupRow} {target : TargetRow} {disk : DiskRow}

theorem destinationVolume_restore :
    destinationVolume (restoreBackupRequest vm backup target disk).payload =
      if disk.volumeId = "" then none else some (.str disk.volumeId) := by
  show (if decide (disk.volumeId ≠ "") = true then some (Json.str disk.volumeId) else none) = _
  by_cases h : disk.volumeId = "" <;> simp [h]

/-- `restore_backup` on the payload of a restore. -/
theorem restoreBackup_eq (volume : disk.volumeId ≠ "") :
    Agent.restoreBackup (restoreBackupRequest vm backup target disk).payload =
      if fileBased target.type.value.toList then do
        let found : Bool ← ask (.pathExists backup.agentBackupRef.toList)
        orElse found (.storageOperation
          ("Backup artifact not found: ".toList ++ backup.agentBackupRef.toList))
        runConvert disk.format.toList (.path backup.agentBackupRef.toList)
          (.path disk.volumeId.toList)
      else if s3Compatible target.type.value.toList then do
        let client ← s3Client target.config
        withTemporaryDirectory "nodepilot-restore-".toList fun directory => do
          let bucket ← given (requireStr target.config "bucket")
          let downloaded : Bool ← ask
            (.downloadFile client bucket backup.agentBackupRef.toList (.temporary directory))
          orElse downloaded .client
          runConvert disk.format.toList (.temporary directory) (.path disk.volumeId.toList)
      else throw (.notImplemented target.type.value.toList) := by
  unfold Agent.restoreBackup
  rw [destinationVolume_restore, if_neg volume]
  show (do
    let v ← (if disk.volumeId = "" then throw _ else pure disk.volumeId.toList : BackupM Text)
    _) = _
  rw [if_neg volume]
  rfl

/-- **What RESTORE_BACKUP does is what the conversion of the artifact does.** -/
theorem triple_restoreBackup (vm : VmRow) {start : Store} {content : Content} (volume : disk.volumeId ≠ "")
    (boto3 : s3Compatible target.type.value.toList → tools.boto3 = true)
    (unwritten : start.written = [])
    (found : tools.artifact target.type.value.toList target.config backup.agentBackupRef.toList
      start = some content) {c : Conversion}
    (hc : tools.convert disk.format.toList (some content)
      (start.files (.path disk.volumeId.toList)) = c) :
    Triple tools.handle (fun _ s => s = start)
      (Agent.restoreBackup (restoreBackupRequest vm backup target disk).payload)
      (fun _ _ s => c.answer = .done ∧ Wrote c (.path disk.volumeId.toList) s)
      (fun _ _ s => c.answer ≠ .done ∧ Wrote c (.path disk.volumeId.toList) s) := by
  rw [restoreBackup_eq volume]
  unfold Tools.artifact at found
  refine Triple.ite (fun files => ?_) fun noFiles => Triple.ite (fun objects => ?_) fun neither => ?_
  · rw [if_pos files] at found
    refine Triple.bind (Q := fun exists_ _ s => exists_ = true ∧ s = start)
      (Triple.perform ?_) fun exists_ => ?_
    · rintro l s rfl
      exact ⟨by simp [Tools.handle, found], rfl⟩
    rintro l s ⟨rfl, rfl⟩
    refine (Triple.bind (Q := fun _ _ s' => s' = s) (triple_orElse rfl) fun _ =>
      triple_runConvert.conseq ?_ (fun _ _ _ => id) fun _ _ _ => id) l s rfl
    rintro l s' rfl
    exact ⟨unwritten, by rw [Tools.convertFile, found, hc]⟩
  · rw [if_neg noFiles, if_pos objects] at found
    split at found
    · next client bucket clientRead bucketRead =>
      split at found
      · next admitted =>
        refine Triple.bind (triple_s3Client clientRead (boto3 objects)) fun client' => ?_
        rintro l s ⟨rfl, rfl⟩
        refine triple_withTemporaryDirectory (P := (· = s))
          (Q := fun _ s' => c.answer = .done ∧ Wrote c (.path disk.volumeId.toList) s')
          (R := fun s' => c.answer ≠ .done ∧ Wrote c (.path disk.volumeId.toList) s')
          (fun directory => ?_) (fun _ _ _ h => h) (fun _ _ h => h) l s rfl
        rw [bucketRead]
        refine Triple.bind (Q := fun downloaded _ s' => downloaded = true ∧
          Converts tools disk.format.toList (.temporary directory) (.path disk.volumeId.toList) c s')
          (Triple.perform ?_) fun downloaded => ?_
        · rintro l' s' rfl
          simp only [Tools.handle, found, if_pos admitted]
          refine ⟨trivial, unwritten, ?_⟩
          simp only [Tools.convertFile]
          rw [Function.update_self, Function.update_of_ne Place.noConfusion, hc]
        · rintro l' s' ⟨rfl, converts⟩
          exact Triple.bind (triple_orElse rfl) (fun _ => triple_runConvert) l' s' converts
      · cases found
    · cases found
  · rw [if_neg noFiles, if_neg neither] at found
    cases found

end Restore

end Handler

theorem restoreBackup_noVolume {tools : Tools} {vm : VmRow} {backup : BackupRow} {target : TargetRow}
    {disk : DiskRow} (volume : disk.volumeId = "") {P : Store → Prop} :
    Triple tools.handle (fun _ => P)
      (Agent.restoreBackup (restoreBackupRequest vm backup target disk).payload)
      (fun _ _ _ => False) (fun _ _ => P) := by
  unfold Agent.restoreBackup
  rw [destinationVolume_restore, if_pos volume]
  exact fun l s h => h

theorem restoreBackup_noBoto3 {tools : Tools} {vm : VmRow} {backup : BackupRow} {target : TargetRow}
    {disk : DiskRow} (volume : disk.volumeId ≠ "") (objects : s3Compatible target.type.value.toList)
    (boto3 : tools.boto3 = false) {P : Store → Prop} :
    Triple tools.handle (fun _ => P)
      (Agent.restoreBackup (restoreBackupRequest vm backup target disk).payload)
      (fun _ _ _ => False) (fun _ _ => P) := by
  have noFiles : ¬ fileBased target.type.value.toList := by
    revert objects
    cases target.type <;> decide
  rw [restoreBackup_eq volume, if_neg noFiles, if_pos objects]
  refine Triple.bind (Q := fun _ _ _ => False) (Triple.bind (Q := fun installed _ s =>
    installed = false ∧ P s) (Triple.perform fun _ _ h => ⟨boto3, h⟩) fun installed => ?_)
    fun _ _ _ h => h.elim
  rintro l s ⟨rfl, h⟩
  exact h

/-! ## The task -/

/-- What stops the task before its call. -/
def Stopped (s : State) (vm : VmRow) : Prop :=
  LockKey.storage vm.uuid ∈ s.busy ∨ vm.node = none ∨ s.db.primaryDisk vm.pk = none

/-- The rows are as they were, but for the backup's. -/
def OnlyBackups (rows rows' : Tables) (backup : Nat) : Prop :=
  ∃ backups, rows' = { rows with backups := backups } ∧
    ∃ row, Table.get backups backup = some row

theorem OnlyBackups.refl {rows : Tables} {backup : Nat} {row : BackupRow}
    (h : Table.get rows.backups backup = some row) : OnlyBackups rows rows backup :=
  ⟨rows.backups, rfl, row, h⟩

/-- The row of the backup is there to be written. -/
theorem OnlyBackups.save {rows rows' : Tables} {backup : Nat} (h : OnlyBackups rows rows' backup)
    (fields : BackupFields) (now : Nat) (uuid : Uuid) :
    ∃ rows'', rows'.write now uuid (.backupSave backup fields) = .ok rows'' ∧
      OnlyBackups rows rows'' backup := by
  obtain ⟨backups, rfl, row, found⟩ := h
  refine ⟨{ rows with backups := Table.modify backups backup fields.apply }, ?_,
    Table.modify backups backup fields.apply, rfl, fields.apply row, ?_⟩
  · simp only [Tables.write, saveRow, found]
    rfl
  · rw [Table.get_modify_self (f := fields.apply) fun _ => rfl, found]
    rfl

/-- RESTORE_BACKUP was sent for the primary disk, and this became of it. -/
def Called (rows : Tables) (vm : VmRow) (backup : BackupRow) (target : TargetRow) (a : AgentOutcome)
    (calls : Exchanges) : Prop :=
  vm.node ≠ none ∧ ∃ disk, rows.primaryDisk vm.pk = some disk ∧
    calls = [(restoreBackupRequest vm backup target disk, a)]

section Task

variable {c : Setting} {rows : Tables} {vm : VmRow} {backup : BackupRow} {target : TargetRow}
variable {a : AgentOutcome}

theorem restoreBackupStep_ends (vm : VmRow) (target : TargetRow) (accepted : ∀ i, (c.script i).dbFails = false)
    (uncanceled : ∀ i, (c.script i).cancel = none) (outcome : ∀ i, (c.script i).agent = a)
    {row : BackupRow} (found : Table.get rows.backups backup.pk = some row) :
    Triple World.handle (fun _ => At c (· = .running) rows [])
      (restoreBackupStep vm backup target : TaskM Unit Unit)
      (fun _ _ => Ends c (· = .running) fun _ calls =>
        a.confirmed = true ∧ Called rows vm backup target a calls)
      (fun e _ w => e.Plain ∧ Ends c (· = .running) (fun _ calls =>
        calls = [] ∧ (vm.node = none ∨ rows.primaryDisk vm.pk = none) ∨
        a.confirmed = false ∧ Called rows vm backup target a calls) w) := by
  have enduring {st : JobStatus → Prop} : Enduring c.script st := enduring_of_uncanceled uncanceled
  refine Triple.bind (triple_saveRows accepted enduring rfl
    fun now uuid => (OnlyBackups.refl found).save _ now uuid) fun _ => ?_
  refine triple_ends fun rows' calls hK => ?_
  obtain ⟨only, rfl⟩ := hK
  have primary : rows'.primaryDisk vm.pk = rows.primaryDisk vm.pk := by
    obtain ⟨backups, rfl, -⟩ := only
    rfl
  refine Triple.bind (Q := fun disk _ w => rows.primaryDisk vm.pk = some disk ∧
    At c (· = .running) rows' [] w) (Triple.bind (triple_query enduring) fun t => ?_) fun disk => ?_
  · rintro l w ⟨rfl, h⟩
    have same : w.db.primaryDisk vm.pk = rows.primaryDisk vm.pk := by
      rw [← primary, ← h.rows]
      rfl
    cases hdisk : w.db.primaryDisk vm.pk with
    | none => exact ⟨fun _ => Exn.noConfusion, h.ends (.inl ⟨rfl, .inr (same ▸ hdisk)⟩)⟩
    | some disk => exact ⟨same ▸ hdisk, h⟩
  refine Triple.fact fun hdisk => ?_
  cases hnode : vm.node with
  | none =>
    refine Triple.bind (Q := fun _ _ _ => False) ((triple_send_none enduring).conseq
      (fun _ _ => id) (fun _ _ _ => id) ?_) fun _ _ _ h => h.elim
    rintro e l w ⟨rfl, h⟩
    exact ⟨fun _ => Exn.noConfusion, h.ends (.inl ⟨rfl, .inl rfl⟩)⟩
  | some node =>
    have called (calls : Exchanges) (h : calls =
        [(restoreBackupRequest vm backup target disk, a)]) : Called rows vm backup target a calls :=
      ⟨hnode ▸ Option.some_ne_none node, disk, hdisk, h⟩
    refine Triple.bind ((triple_send enduring).conseq (fun _ _ => id) (fun _ _ _ => id) ?_)
      fun data => ?_
    · rintro e l w ⟨he, i, lost, h⟩
      rw [outcome i] at lost h
      exact ⟨Exn.plain_of_operation he, h.ends (.inr ⟨lost, called _ rfl⟩)⟩
    rintro l w ⟨i, answer, h⟩
    rw [outcome i] at answer
    subst answer
    refine (triple_saveRows accepted enduring rfl fun now uuid => only.save _ now uuid).conseq
      (fun _ _ => id) (fun _ _ _ h => h.mono (fun _ => id) ?_) (fun _ _ _ => id) l w h
    rintro rows'' calls ⟨-, rfl⟩
    exact ⟨rfl, called _ rfl⟩

/-- **A restore that nothing disturbs ends before its call, or as its call does.** -/
theorem restoreBackupTask_ends (rows : Tables) (accepted : ∀ i, (c.script i).dbFails = false)
    (uncanceled : ∀ i, (c.script i).cancel = none) (outcome : ∀ i, (c.script i).agent = a)
    {k : Nat} (loaded : rows.loadBackup k = some (backup, vm, target)) :
    Triple World.handle (fun _ => At c (fun s => s = .queued ∨ s = .running) rows [])
      (restoreBackupTask c.job k : TaskM Unit Unit)
      (fun _ _ => Ends c (· = .success) fun _ calls => a.confirmed = true ∧
        .storage vm.uuid ∉ c.busy ∧ Called rows vm backup target a calls)
      (fun _ _ => Ends c JobStatus.unsettled fun _ calls =>
        calls = [] ∧ (.storage vm.uuid ∈ c.busy ∨ vm.node = none ∨ rows.primaryDisk vm.pk = none) ∨
        a.confirmed = false ∧ .storage vm.uuid ∉ c.busy ∧ Called rows vm backup target a calls) := by
  have enduring {st : JobStatus → Prop} : Enduring c.script st := enduring_of_uncanceled uncanceled
  have found : Table.get rows.backups backup.pk = some backup := by
    obtain ⟨row, hrow, rest⟩ := Option.bind_eq_some_iff.mp loaded
    obtain ⟨vm', -, rest⟩ := Option.bind_eq_some_iff.mp rest
    obtain ⟨target', -, same⟩ := Option.bind_eq_some_iff.mp rest
    cases same
    have key : backup.pk = k := Table.pk_of_get hrow
    exact key ▸ hrow
  refine Triple.bind (triple_getJob enduring) fun j => ?_
  refine Triple.fact fun hj => Triple.fact fun was => ?_
  refine (Triple.bind (P := fun _ => At c (· = j.status) rows []) (triple_getRow
    (fun t => t.loadBackup k) (a := (backup, vm, target)) enduring ?_) fun _ => ?_).conseq
    ?_ (fun _ _ _ => id) fun _ _ _ => id
  · rintro t rfl
    exact loaded
  · refine Triple.fact ?_
    rintro rfl
    refine Triple.tryCatch (R := fun _ _ => Ends c JobStatus.unsettled fun _ calls =>
        calls = [] ∧ (.storage vm.uuid ∈ c.busy ∨ vm.node = none ∨ rows.primaryDisk vm.pk = none) ∨
        a.confirmed = false ∧ .storage vm.uuid ∉ c.busy ∧ Called rows vm backup target a calls)
      ?_ fun exc => ?_
    · by_cases locked : LockKey.storage vm.uuid ∈ c.busy
      · refine Triple.bind (Q := fun _ _ _ => False) ((triple_withLock_busy locked enduring).conseq
          (fun _ _ => id) (fun _ _ _ => id) ?_) fun _ _ _ h => h.elim
        rintro e l w ⟨-, h⟩
        refine (h.mono fun s hs => ?_).ends (.inl ⟨rfl, .inl locked⟩)
        rcases was with queued | running
        · exact .inl (.inl (hs.trans queued))
        · exact .inl (.inr (.inl (hs.trans running)))
      · have step := triple_jobRun_calm (c := c.holding (.storage vm.uuid)) accepted uncanceled hj
          "Restoring backup" was (restoreBackupStep_ends vm target accepted uncanceled outcome found)
        refine Triple.bind ((triple_withLock (E := fun _ => True) locked enduring enduring enduring
          (step.conseq (fun _ _ => id) (fun _ _ _ => id) fun _ _ _ h => ⟨trivial, h⟩)).conseq
            (fun _ _ => id) (fun _ _ _ => id) ?_) fun _ => triple_ends fun rows' calls hK => ?_
        · rintro e l w ⟨-, h⟩
          refine h.mono (fun s hs => .inr hs) fun rows' calls hK => ?_
          rcases hK with ⟨empty, reason⟩ | ⟨lost, called⟩
          · exact .inl ⟨empty, .inr reason⟩
          · exact .inr ⟨lost, locked, called⟩
        · refine (triple_transition accepted hj enduring ?_).conseq (fun _ _ => id)
            (fun _ _ _ h => h.ends ⟨hK.1, locked, hK.2⟩) fun _ _ _ => id
          rintro s rfl
          exact .inl (by decide)
    · refine Triple.bind (triple_ends fun rows' calls hK => ?_) fun _ =>
        (triple_failAndRaise accepted hj).conseq (fun _ _ => id) (fun _ _ _ => id)
          fun _ _ _ h => h.mono (fun _ hs => .inr hs) fun _ _ => id
      refine (triple_saveRows_or enduring rfl (K := fun _ => True)
        fun _ _ _ _ => trivial).conseq (fun _ _ => id) ?_ ?_
      · rintro - l w h
        exact h.mono (fun _ => id) fun _ _ hK' => hK'.2 ▸ hK
      · exact fun e l w h => h.2.ends hK
  · rintro l w h
    refine h.mono fun s hs => ?_
    rcases hs.2 with same | ⟨-, turned⟩
    · exact same
    · rcases hs.1 with queued | running
      · exact absurd (queued.symm.trans turned) JobStatus.noConfusion
      · exact absurd (running.symm.trans turned) JobStatus.noConfusion

end Task

/-! ## One restore -/

section Restore

variable {x : Execution} {s : State} {vm : VmRow} {backup : BackupRow} {target : TargetRow}

/-- How the execution ends: with its call and what became of it, or without. -/
theorem run_ends (calm : Undisturbed x s)
    (loaded : s.db.loadBackup x.backup = some (backup, vm, target)) :
    (Stopped s vm ∧ (x.run s).2.exchanges = [] ∧ (x.run s).2.jobStatus x.jobId = some .failed) ∨
    ¬ Stopped s vm ∧ ∃ disk, s.db.primaryDisk vm.pk = some disk ∧
      (x.run s).2.exchanges = [(restoreBackupRequest vm backup target disk, x.agent)] ∧
      (x.run s).2.jobStatus x.jobId = some (if x.agent.confirmed then .success else .failed) := by
  let c : Setting := ⟨x.script, x.jobId, s.busy⟩
  have uncanceled : ∀ i, (c.script i).cancel = none := calm.uncanceled
  have accepted : ∀ i, (c.script i).dbFails = false := calm.accepted
  have start : At c (fun s => s = .queued ∨ s = .running) s.db.settled []
      { db := s.db, busy := s.busy, script := x.script } := ⟨rfl, rfl, calm.live, rfl, rfl⟩
  have ends := triple_jobBound accepted x.taskId (enduring_of_uncanceled uncanceled)
    (restoreBackupTask_ends s.db.settled accepted uncanceled (fun _ => rfl) loaded) () _ start
  have status {st : JobStatus} {rows : Tables} {calls : Exchanges} {w : World}
      (h : At c (· = st) rows calls w) : w.jobStatus x.jobId = some st := by
    obtain ⟨row, hrow, rfl⟩ := h.job
    exact congrArg (Option.map JobRow.status) hrow
  have open_ (free : LockKey.storage vm.uuid ∉ s.busy) {calls : Exchanges}
      (called : Called s.db.settled vm backup target x.agent calls) :
      ¬ Stopped s vm ∧ ∃ disk, s.db.primaryDisk vm.pk = some disk ∧
        calls = [(restoreBackupRequest vm backup target disk, x.agent)] := by
    obtain ⟨node, disk, primary, rfl⟩ := called
    have primary : s.db.primaryDisk vm.pk = some disk := primary
    refine ⟨?_, disk, primary, rfl⟩
    rintro (locked | none | missing)
    · exact free locked
    · exact node none
    · rw [primary] at missing
      cases missing
  unfold Execution.run
  simp only [Task.run, Task.body]
  generalize exec World.handle (jobBound x.taskId x.jobId (restoreBackupTask x.jobId x.backup)) ()
    { db := s.db, busy := s.busy, script := x.script } = r at ends ⊢
  obtain ⟨e | _, l, w⟩ := r
  · obtain ⟨rows, calls, reason, stands⟩ := ends
    rw [stands.calls, status stands]
    rcases reason with ⟨rfl, stopped⟩ | ⟨lost, free, called⟩
    · exact .inl ⟨stopped, rfl, rfl⟩
    · obtain ⟨run, disk, primary, rfl⟩ := open_ free called
      exact .inr ⟨run, disk, primary, rfl, by rw [lost]; rfl⟩
  · obtain ⟨rows, calls, ⟨confirmed, free, called⟩, stands⟩ := ends
    rw [stands.calls, status stands]
    obtain ⟨run, disk, primary, rfl⟩ := open_ free called
    exact .inr ⟨run, disk, primary, rfl, by rw [confirmed]; rfl⟩

/-- The host after an operation, by whether its handler ran. -/
theorem serve_cases {r : AgentRequest} {store store' : Store}
    (served : x.serve store (r, x.agent) = some store') :
    (x.reaches = false ∧ x.agent.confirmed = false ∧ store' = store) ∨
    (x.reaches = true ∧ store' = (x.tools.execute (handler r) store).2 ∧
      (x.agent.confirmed = true → (x.tools.execute (handler r) store).1.isOk = true)) := by
  unfold Execution.serve at served
  unfold Execution.reaches
  generalize x.tools.execute (handler r) store = ran at served ⊢
  obtain ⟨res, host⟩ := ran
  cases agent : x.agent with
  | noAgent | notConnected =>
    rw [agent] at served
    exact .inl ⟨rfl, rfl, (Option.some.inj served).symm⟩
  | timedOut performed =>
    rw [agent] at served
    cases performed with
    | false => exact .inl ⟨rfl, rfl, (Option.some.inj served).symm⟩
    | true => exact .inr ⟨rfl, (Option.some.inj served).symm, Bool.noConfusion⟩
  | failed error =>
    rw [agent] at served
    cases ran : x.handled with
    | false =>
      simp only [ran, AgentOutcome.settle] at served
      exact .inl ⟨rfl, rfl, (Option.some.inj served).symm⟩
    | true =>
      cases res with
      | ok =>
        simp only [ran, AgentOutcome.settle] at served
        cases served
      | error e =>
        simp only [ran, AgentOutcome.settle] at served
        exact .inr ⟨rfl, (Option.some.inj served).symm, Bool.noConfusion⟩
  | ok data =>
    rw [agent] at served
    cases res with
    | ok => exact .inr ⟨rfl, (Option.some.inj served).symm, fun _ => rfl⟩
    | error e => cases served

variable {disk : DiskRow} {content : Content} {start : Store}

/-- The handler of a restore that cannot get as far as its conversion. -/
theorem execute_refused (vm : VmRow) (backup : BackupRow) (start : Store)
    (unwritten : start.written = []) (h : disk.volumeId = "" ∨
      s3Compatible target.type.value.toList ∧ x.tools.boto3 = false) :
    (x.tools.execute (handler (restoreBackupRequest vm backup target disk)) start).1.isOk = false ∧
    (x.tools.execute (handler (restoreBackupRequest vm backup target disk)) start).2.written = [] := by
  have ends : Triple x.tools.handle (fun _ s => s.written = [])
      (Agent.restoreBackup (restoreBackupRequest vm backup target disk).payload)
      (fun _ _ _ => False) (fun _ _ s => s.written = []) := by
    by_cases volume : disk.volumeId = ""
    · exact restoreBackup_noVolume volume
    · obtain ⟨objects, boto3⟩ := h.resolve_left volume
      exact restoreBackup_noBoto3 volume objects boto3
  have ends := ends () start unwritten
  show (exec x.tools.handle (Agent.restoreBackup _) () start).1.isOk = false ∧
    (exec x.tools.handle (Agent.restoreBackup _) () start).2.2.written = []
  generalize exec x.tools.handle (Agent.restoreBackup
    (restoreBackupRequest vm backup target disk).payload) () start = r at ends ⊢
  obtain ⟨e | _, l, s'⟩ := r
  · exact ⟨rfl, ends⟩
  · exact ends.elim

/-- The handler of a restore that converts. -/
theorem execute_converts (vm : VmRow) (start : Store) (unwritten : start.written = []) (volume : disk.volumeId ≠ "")
    (boto3 : s3Compatible target.type.value.toList → x.tools.boto3 = true)
    (found : x.tools.artifact target.type.value.toList target.config backup.agentBackupRef.toList
      start = some content) {c : Conversion}
    (hc : x.tools.convert disk.format.toList (some content)
      (start.files (.path disk.volumeId.toList)) = c) :
    ((x.tools.execute (handler (restoreBackupRequest vm backup target disk)) start).1.isOk = true ↔
      c.answer = .done) ∧
    Wrote c (.path disk.volumeId.toList)
      (x.tools.execute (handler (restoreBackupRequest vm backup target disk)) start).2 := by
  have ends := triple_restoreBackup vm volume boto3 unwritten found hc () start rfl
  show ((exec x.tools.handle (Agent.restoreBackup _) () start).1.isOk = true ↔ _) ∧
    Wrote c _ (exec x.tools.handle (Agent.restoreBackup _) () start).2.2
  generalize exec x.tools.handle (Agent.restoreBackup
    (restoreBackupRequest vm backup target disk).payload) () start = r at ends ⊢
  obtain ⟨e | _, l, s'⟩ := r
  · exact ⟨⟨Bool.noConfusion, fun done => absurd done ends.1⟩, ends.2⟩
  · exact ⟨⟨fun _ => ends.1, fun _ => rfl⟩, ends.2⟩

theorem Refused.of_stopped (h : Stopped s vm) : Refused x s vm target content := by
  rcases h with locked | node | disk
  · exact .locked locked
  · exact .noNode node
  · exact .noDisk disk

/-- A call that ends with an error has left the volume alone exactly where something else than the
digest has stopped it. -/
theorem averted_call {store : Store} (running : ¬ Stopped s vm)
    (primary : s.db.primaryDisk vm.pk = some disk)
    (found : x.artifact s backup target = some content)
    (served : x.serve { s.store with written := [] }
      (restoreBackupRequest vm backup target disk, x.agent) = some store) :
    ((∀ volumeId ∈ destination (restoreBackupRequest vm backup target disk),
        Place.path volumeId ∉ store.written) ∧ x.agent.confirmed = false) ↔
      Refused x s vm target content := by
  let c := x.tools.convert disk.format.toList (some content)
    (s.store.files (.path disk.volumeId.toList))
  have same {disk' : DiskRow} (h : s.db.primaryDisk vm.pk = some disk') : disk' = disk :=
    Option.some.inj (h.symm.trans primary)
  rcases serve_cases served with ⟨unreached, lost, rfl⟩ | ⟨reached, rfl, confirmed⟩
  · exact ⟨fun _ => .unreached unreached, fun _ => ⟨fun _ _ => List.not_mem_nil, lost⟩⟩
  by_cases early : disk.volumeId = "" ∨ s3Compatible target.type.value.toList ∧ x.tools.boto3 = false
  · obtain ⟨failed, unwritten⟩ := execute_refused vm backup { s.store with written := [] }
      (x := x) rfl early
    refine ⟨fun _ => ?_, fun _ => ⟨fun _ _ => ?_, ?_⟩⟩
    · rcases early with volume | ⟨objects, boto3⟩
      · exact .noVolume disk primary volume
      · exact .noBoto3 objects boto3
    · rw [unwritten]
      exact List.not_mem_nil
    · rw [failed] at confirmed
      exact Bool.eq_false_iff.mpr fun h => Bool.false_ne_true (confirmed h)
  · have volume : disk.volumeId ≠ "" := fun h => early (.inl h)
    have boto3 (h : s3Compatible target.type.value.toList) : x.tools.boto3 = true := by
      by_contra none
      exact early (.inr ⟨h, Bool.eq_false_iff.mpr none⟩)
    obtain ⟨done, wrote⟩ := execute_converts vm { s.store with written := [] }
      (x := x) rfl volume boto3 found (c := c) rfl
    have dest : destination (restoreBackupRequest vm backup target disk) = some disk.volumeId.toList := by
      unfold destination
      rw [destinationVolume_restore, if_neg volume]
    rw [dest, wrote]
    refine ⟨fun ⟨untouched, lost⟩ => .harmless disk primary ⟨?_, ?_⟩, fun refused => ?_⟩
    · by_contra written
      have some : c.written.isSome = true := Option.isSome_iff_ne_none.mpr written
      exact untouched _ rfl (by rw [if_pos some]; exact List.mem_singleton_self _)
    · intro _ data answer
      rw [answer] at lost
      cases lost
    · cases refused with
      | locked h => exact absurd (.inl h) running
      | noNode h => exact absurd (.inr (.inl h)) running
      | noDisk h => exact absurd (.inr (.inr h)) running
      | unreached h => rw [reached] at h; cases h
      | noVolume disk' h h' => exact absurd (same h ▸ h') volume
      | noBoto3 h h' => exact absurd (boto3 h) (Bool.eq_false_iff.mp h')
      | harmless disk' h h' =>
        obtain rfl := same h
        obtain ⟨unwritten, answered⟩ := h'
        have none : ¬ c.written.isSome = true := by
          rw [show c.written = none from unwritten]
          exact Bool.false_ne_true
        refine ⟨fun _ _ => by rw [if_neg none]; exact List.not_mem_nil, ?_⟩
        cases agent : x.agent with
        | ok data => exact absurd agent (answered (done.mp (confirmed (agent ▸ rfl))) data)
        | _ => rfl

/-- **A restore that nothing disturbs is averted exactly where something else than the digest stops
it.** -/
theorem averted_iff {store : Store} (calm : Undisturbed x s)
    (loaded : s.db.loadBackup x.backup = some (backup, vm, target))
    (found : x.artifact s backup target = some content) (ends : x.store s = some store) :
    Averted x s store ↔ Refused x s vm target content := by
  unfold Execution.store at ends
  rcases run_ends calm loaded with ⟨stopped, calls, failed⟩ | ⟨running, disk, primary, calls, status⟩
  · refine ⟨fun _ => .of_stopped stopped, fun _ => ⟨fun c mem => ?_, failed⟩⟩
    rw [calls] at mem
    exact (List.not_mem_nil mem).elim
  · rw [calls] at ends
    have served : x.serve { s.store with written := [] }
        (restoreBackupRequest vm backup target disk, x.agent) = some store := by
      simpa using ends
    rw [← averted_call running primary found served]
    refine ⟨fun h => ⟨?_, ?_⟩, fun h => ⟨?_, ?_⟩⟩
    · exact h.untouched _ (calls ▸ List.mem_singleton_self _)
    · have failed := h.failed
      rw [status] at failed
      cases confirmed : x.agent.confirmed
      · rfl
      · rw [confirmed] at failed
        cases failed
    · rw [calls]
      rintro c mem
      rw [List.mem_singleton.mp mem]
      exact h.1
    · rw [status, h.2]
      rfl

end Restore

/-- **A restore that nothing disturbs is guarded exactly where the artifact still has the digest of
the backup, or where something else stops the restore.** -/
theorem guarded_iff {x : Execution} {s : State} {backup : BackupRow} {vm : VmRow} {target : TargetRow}
    {store : Store} (calm : Undisturbed x s)
    (loaded : s.db.loadBackup x.backup = some (backup, vm, target))
    (ends : x.store s = some store) :
    Guarded x s store ↔ ∀ content ∈ x.artifact s backup target,
      x.tools.sha256 content = backup.checksum.toList ∨ Refused x s vm target content := by
  have each : Guarded x s store ↔ ∀ content ∈ x.artifact s backup target,
      x.tools.sha256 content ≠ backup.checksum.toList → Averted x s store := by
    refine ⟨fun h => h _ loaded, fun h row same => ?_⟩
    obtain rfl : row = (backup, vm, target) := Option.some.inj (same.symm.trans loaded)
    exact h
  rw [each]
  refine forall₂_congr fun content found => ?_
  rw [averted_iff calm loaded found ends, ← or_iff_not_imp_left]

/-! ## An emptied archive -/

/-- A host with two files, on which `qemu-img` copies raw images. -/
def tools : Tools where
  sha256 content :=
    if content = [] then "e3b0c44298fc1c149afbf4c8996fb92427ae41e4649b934ca495991b7852b855".toList
    else "ba7816bf8f01cfea414140de5dae2223b00361a396177a9cb410ff61f20015ad".toList
  convert _ source _ :=
    match source with
    | some content => ⟨.done, some content⟩
    | none => ⟨.failed 1 [], none⟩

/-- The archive of a completed backup has been truncated; the disk of the VM has content. -/
def emptied : State where
  db := { jobs := [{ pk := 1, uuid := ⟨1⟩, type := .backupRestore }]
          nodes := [⟨1, "node-1"⟩]
          vms := [{ pk := 1, uuid := ⟨11⟩, domainUuid := ⟨12⟩, organization := 1, project := 1,
                    node := some 1, name := "web", status := .stopped }]
          pools := [{ pk := 1, uuid := ⟨21⟩, node := 1, name := "local", type := .directory,
                      path := "/var/lib/nodepilot" }]
          disks := [{ pk := 1, uuid := ⟨31⟩, vm := 1, storage := 1, name := "root", format := "raw"
                      volumeId := "/var/lib/nodepilot/root.raw", sizeBytes := 3, bootable := true }]
          targets := [{ pk := 1, type := .local, config := [("path", .str "/backups")] }]
          backups := [{ pk := 1, uuid := ⟨41⟩, vm := 1, target := 1, status := .completed
                        agentBackupRef := "/backups/archive.qcow2"
                        checksum :=
                          "ba7816bf8f01cfea414140de5dae2223b00361a396177a9cb410ff61f20015ad" }] }
  store := { files := fun place =>
               if place = .path "/backups/archive.qcow2".toList then some []
               else if place = .path "/var/lib/nodepilot/root.raw".toList then some [97, 98, 99]
               else none
             objects := fun _ _ _ => none }

/-- While the node is not connected, the restore is averted. -/
theorem guarded_offline :
    ∃ store, ({ jobId := 1, backup := 1, tools := tools, agent := .notConnected } : Execution).store
      emptied = some store ∧
      Guarded { jobId := 1, backup := 1, tools := tools, agent := .notConnected } emptied store := by
  let x : Execution := { jobId := 1, backup := 1, tools := tools, agent := .notConnected }
  have ends : (x.store emptied).isSome := by decide +kernel
  refine ⟨_, (Option.some_get ends).symm, ?_⟩
  refine (guarded_iff (x := x) ⟨fun _ => rfl, fun _ => rfl, ?_⟩ rfl (Option.some_get ends).symm).mpr ?_
  · exact ⟨_, rfl, .inl rfl⟩
  · exact fun _ _ => .inr (.unreached rfl)

/-- The volume is emptied as well, and the job succeeds. -/
theorem truncated_restored :
    ¬ ∀ (x : Execution) (s : State) (store : Store), x.store s = some store → Guarded x s store := by
  intro guarded
  let x : Execution := { jobId := 1, backup := 1, tools := tools }
  have ends : (x.store emptied).isSome := by decide +kernel
  have averted := guarded x emptied _ (Option.some_get ends).symm _ rfl [] rfl (by decide +kernel)
  exact absurd averted.failed (by decide +kernel)

end NodePilot.Backups
