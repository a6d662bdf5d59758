import NodePilot.DiskNames
import NodePilot.Laws.CloneFidelity

/-!
# The names of a clone's volumes

A clone asks for volumes named by its uuid and the names of the source's disks. The backends take such a name
exactly if the disk's name is plain, so the clones of all VMs have distinct and acceptable names exactly as long as
the disks of each VM do (`namesUsable_iff`).
-/

namespace NodePilot.DiskNames

open Lib Volumes
open Creation (NewVm DiskSpec)

/-! ## What the backends take -/

/-- A hexadecimal text has the length it was asked for. -/
theorem hex_length : ∀ w n, (hex w n).length = w
  | 0, _ => rfl
  | w + 1, n => by simp [hex, hex_length w]

/-- A character that a name may go on with. -/
def NameChar (c : Char) : Prop := c.isAlphanum = true ∨ c = '.' ∨ c = '_' ∨ c = '-'

instance (c : Char) : Decidable (NameChar c) := inferInstanceAs (Decidable (_ ∨ _))

/-- The text without a line feed at its end. -/
def stripped (chars : List Char) : List Char := if chars.getLast? = some '\n' then chars.dropLast else chars

/-- A line break at the end is no part of what comes before. -/
theorem stripped_append {l m : List Char} {c : Char} (hc : c ≠ '\n') :
    stripped (l ++ c :: m) = l ++ c :: stripped m := by
  unfold stripped
  cases m with
  | nil => simp [hc]
  | cons d m =>
    have last : (l ++ c :: d :: m).getLast? = (d :: m).getLast? := by
      rw [List.getLast?_append_of_ne_nil _ (by simp), List.getLast?_cons_cons]
    rw [last]
    split
    · rw [List.dropLast_append_of_ne_nil (by simp)]
      rfl
    · rfl

/-- What the backends take: a letter or digit, then up to 127 characters of a name. -/
theorem safeName_iff {name : String} : safeName name ↔ ∃ c cs, stripped name.toList = c :: cs ∧
    c.isAlphanum ∧ cs.length ≤ 127 ∧ ∀ x ∈ cs, NameChar x := by
  unfold safeName stripped
  generalize (if name.toList.getLast? = some '\n' then name.toList.dropLast else name.toList) = chars
  cases chars with
  | nil => simp
  | cons c cs => simp [NameChar]

/-- A plain name leaves room for the prefix and has the characters of a name. -/
theorem plain_iff {name : String} : plain name ↔
    (stripped name.toList).length ≤ 91 ∧ ∀ x ∈ stripped name.toList, NameChar x := by
  unfold plain stripped
  generalize (if name.toList.getLast? = some '\n' then name.toList.dropLast else name.toList) = chars
  simp [NameChar]

/-- A uuid begins with a digit or a letter, and goes on in the characters of a name. -/
theorem uuid_chars (u : Uuid) :
    ∃ c cs, u.chars = c :: cs ∧ c.isAlphanum ∧ cs.length = 35 ∧ ∀ x ∈ cs, NameChar x := by
  have safe := u.chars_forall (p := NameChar) (by decide) (by decide)
  have length : u.chars.length = 36 := by simp [Uuid.chars, hex_length]
  cases digits : hex 32 u.bits.toNat with
  | nil => simpa [digits] using hex_length 32 u.bits.toNat
  | cons d rest =>
    have first : d.isAlphanum := by
      refine hex_forall (p := fun c => c.isAlphanum) (by decide) 32 u.bits.toNat d ?_
      simp [digits]
    cases chars : u.chars with
    | nil => simp [chars] at length
    | cons c cs =>
      have same : c = d := by
        simp only [Uuid.chars, digits] at chars
        simpa using (List.cons.inj chars).1.symm
      rw [chars] at safe length
      exact ⟨c, cs, rfl, same ▸ first, by simpa using length, fun x hx => safe x (List.mem_cons_of_mem c hx)⟩

/-- The clone's volume has a name the backends take where the disk's name is plain. -/
theorem safeName_cloneName {clone : Uuid} {name : String} : safeName (cloneName clone name) ↔ plain name := by
  obtain ⟨c, cs, chars, first, length, safe⟩ := uuid_chars clone
  have text : (cloneName clone name).toList = c :: cs ++ '-' :: name.toList := by
    simp [cloneName, Uuid.str, chars]
  rw [safeName_iff, plain_iff, text, stripped_append (by decide)]
  constructor
  · rintro ⟨c', cs', split, -, short, named⟩
    obtain ⟨rfl, rfl⟩ := List.cons.inj split
    refine ⟨?_, fun x hx => named x (by simp [hx])⟩
    simp [length] at short
    omega
  · rintro ⟨short, named⟩
    refine ⟨c, cs ++ '-' :: stripped name.toList, rfl, first, ?_, fun x hx => ?_⟩
    · simp [length]
      omega
    · rcases List.mem_append.mp hx with hx | hx
      · exact safe x hx
      · rcases List.mem_cons.mp hx with rfl | hx
        · exact .inr (.inr (.inr rfl))
        · exact named x hx

/-- Disks with different names get volumes with different names. -/
theorem cloneName_injective {clone : Uuid} {a b : String} (h : cloneName clone a = cloneName clone b) : a = b := by
  have texts := congrArg String.toList h
  exact String.toList_injective (by simpa [cloneName] using texts)

/-! ## Names by VM -/

/-- The names that a clone of any VM asks for are distinct, and the backends take each. -/
def NamesUsable (t : Tables) : Prop :=
  ∀ source ∈ t.vms, ∀ clone linked, (newNames t source clone linked).Nodup ∧
    ∀ name ∈ newNames t source clone linked, safeName name

/-- The VM and the name of a disk. -/
def tag (d : DiskRow) : Nat × String := (d.vm, d.name)

/-- The names are plain, and no VM has one twice. -/
structure Sound (tags : List (Nat × String)) : Prop where
  apart : tags.Pairwise fun a b => a.1 = b.1 → a.2 ≠ b.2
  plain : ∀ a ∈ tags, plain a.2

section Tables

variable {t : Tables} {source clone : VmRow} {linked : Bool}

/-- The names are those of the disks that have a pool. -/
theorem newNames_eq : newNames t source clone linked =
    ((t.disksWithStorage source.pk).map Prod.fst).map fun d => cloneName clone.uuid d.name := by
  rw [List.map_map]
  exact List.map_congr_left fun d _ => rfl

/-- The names are those of the VM's disks, in some order. -/
theorem newNames_perm (stored : ∀ d ∈ t.disks, refers t d) : (newNames t source clone linked).Perm
    ((t.disks.filter (·.vm = source.pk)).map fun d => cloneName clone.uuid d.name) := by
  have listed : (t.disksWithStorage source.pk).map Prod.fst = t.disksOf source.pk := by
    have found : ∀ d ∈ t.disksOf source.pk, (Table.get t.pools d.storage).isSome := by
      intro d hd
      simp only [Tables.disksOf, List.mem_insertionSort, List.mem_filter] at hd
      exact (by simpa [refers] using stored d hd.1 : _ ∧ _).2
    unfold Tables.disksWithStorage
    generalize t.disksOf source.pk = ds at found
    induction ds with
    | nil => rfl
    | cons d ds ih =>
      obtain ⟨pool, here⟩ := Option.isSome_iff_exists.mp (found d List.mem_cons_self)
      simpa [here] using ih fun e he => found e (List.mem_cons_of_mem d he)
  rw [newNames_eq, listed]
  exact (List.perm_insertionSort _ _).map _

/-- The names on one VM. -/
def namesOn (k : Nat) (tags : List (Nat × String)) : List String := (tags.filter (·.1 = k)).map Prod.snd

/-- No VM has a name twice. -/
theorem Sound.nodup {tags : List (Nat × String)} (h : Sound tags) (k : Nat) : (namesOn k tags).Nodup := by
  refine List.pairwise_map.mpr ((h.apart.filter _).imp_of_mem fun ha hb differ => differ ?_)
  simp only [List.mem_filter, decide_eq_true_eq] at ha hb
  rw [ha.2, hb.2]

/-- Names that differ on each VM are apart. -/
theorem apart_of_nodup {tags : List (Nat × String)} (nodup : ∀ a ∈ tags, (namesOn a.1 tags).Nodup) :
    tags.Pairwise fun a b => a.1 = b.1 → a.2 ≠ b.2 := by
  induction tags with
  | nil => exact .nil
  | cons a tags ih =>
    have here := nodup a List.mem_cons_self
    rw [namesOn, List.filter_cons_of_pos (by simp), List.map_cons, List.nodup_cons] at here
    refine List.pairwise_cons.mpr ⟨fun b hb own same => here.1 ?_, ih fun b hb => ?_⟩
    · rw [same]
      exact List.mem_map_of_mem (List.mem_filter.mpr ⟨hb, by simp [own]⟩)
    · exact (nodup b (List.mem_cons_of_mem a hb)).sublist (((List.sublist_cons_self a tags).filter _).map _)

/-- Clones can be named exactly if the names of disks are plain, and distinct on each VM. -/
theorem namesUsable_iff (refer : ∀ d ∈ t.disks, refers t d) : NamesUsable t ↔ Sound (t.disks.map tag) := by
  -- the names of a clone, disk by disk
  have usable (source clone : VmRow) (linked : Bool) : ((newNames t source clone linked).Nodup ∧
      ∀ name ∈ newNames t source clone linked, safeName name) ↔
      (namesOn source.pk (t.disks.map tag)).Nodup ∧ ∀ name ∈ namesOn source.pk (t.disks.map tag), plain name := by
    have perm : (newNames t source clone linked).Perm _ := newNames_perm refer
    have names : (t.disks.filter (·.vm = source.pk)).map (fun d => cloneName clone.uuid d.name) =
        (namesOn source.pk (t.disks.map tag)).map (cloneName clone.uuid) := by
      rw [namesOn, List.filter_map, List.map_map, List.map_map]
      rfl
    rw [perm.nodup_iff, names, List.nodup_map_iff fun a b => cloneName_injective]
    refine and_congr_right fun _ => ?_
    simp only [perm.mem_iff, names, List.forall_mem_map, safeName_cloneName]
  have mem {a : Nat × String} (ha : a ∈ t.disks.map tag) : a.2 ∈ namesOn a.1 (t.disks.map tag) :=
    List.mem_map_of_mem (List.mem_filter.mpr ⟨ha, by simp⟩)
  constructor
  · intro all
    have own (a : Nat × String) (ha : a ∈ t.disks.map tag) : (namesOn a.1 (t.disks.map tag)).Nodup ∧
        ∀ name ∈ namesOn a.1 (t.disks.map tag), plain name := by
      obtain ⟨d, hd, rfl⟩ := List.mem_map.mp ha
      obtain ⟨found, -⟩ := (by simpa [refers] using refer d hd : _ ∧ _)
      obtain ⟨vm, get⟩ := Option.isSome_iff_exists.mp found
      have pk : vm.pk = (tag d).1 := Table.pk_of_get get
      rw [← pk]
      exact (usable vm vm false).mp (all vm (Table.mem_of_get get) vm false)
    exact ⟨apart_of_nodup fun a ha => (own a ha).1, fun a ha => (own a ha).2 a.2 (mem ha)⟩
  · intro sound source _ clone linked
    refine (usable source clone linked).mpr ⟨sound.nodup source.pk, fun name named => ?_⟩
    obtain ⟨a, ha, rfl⟩ := List.mem_map.mp named
    exact sound.plain a (List.mem_filter.mp ha).1

end Tables

/-! ## Steps -/

/-- The names that a request gives. -/
def Request.names : Request → List String
  | .create disks => disks.map fun d => d.name.getD ""
  | .deploy _ _ _ => ["root"]

/-- The VM that gets disks, and their names. -/
def Event.adds : Event → State → Nat × List String
  | .create _ request _ _ _ _, s => (Table.nextPk s.db.vms, request.names)
  | .attach a _, _ => (a.vm, [a.row.name])
  | .copy i clone _ _, s => (clone, (s.listed[i]?.map DiskRow.name).toList)
  | _, _ => (0, [])

/-- Names are added that are plain, distinct, and not in use on their VM. -/
def Careful (e : Event) (s : State) : Prop :=
  (step e s).isSome → (e.adds s).2.Nodup ∧ ∀ name ∈ (e.adds s).2, plain name ∧
    ∀ d ∈ s.db.disks, d.vm = (e.adds s).1 → d.name ≠ name

instance (e : Event) (s : State) : Decidable (Careful e s) := by
  unfold Careful
  infer_instance

section Steps

variable {t t' : Tables} {uuid : Uuid} {s s' : State}

/-- New names are sound where they differ from each other and from those of the VM. -/
theorem Sound.append_iff {tags : List (Nat × String)} {vm : Nat} {names : List String} :
    Sound (tags ++ names.map (vm, ·)) ↔ Sound tags ∧ names.Nodup ∧
      ∀ name ∈ names, NodePilot.DiskNames.plain name ∧ ∀ a ∈ tags, a.1 = vm → a.2 ≠ name := by
  constructor
  · rintro ⟨apart, plain⟩
    obtain ⟨old, new, across⟩ := List.pairwise_append.mp apart
    refine ⟨⟨old, fun a ha => plain a (List.mem_append_left _ ha)⟩, ?_, fun name hn => ⟨?_, fun a ha own => ?_⟩⟩
    · exact (List.pairwise_map.mp new).imp fun differ => differ rfl
    · exact plain (vm, name) (List.mem_append_right _ (List.mem_map_of_mem hn))
    · exact across a ha (vm, name) (List.mem_map_of_mem hn) own
  · rintro ⟨⟨old, plain⟩, nodup, fresh⟩
    refine ⟨List.pairwise_append.mpr ⟨old, ?_, ?_⟩, ?_⟩
    · refine List.pairwise_map.mpr (List.Pairwise.imp ?_ nodup)
      exact fun differ _ => differ
    · rintro a ha b hb own
      obtain ⟨name, hn, rfl⟩ := List.mem_map.mp hb
      exact (fresh name hn).2 a ha own
    · intro a ha
      rcases List.mem_append.mp ha with ha | ha
      · exact plain a ha
      · obtain ⟨name, hn, rfl⟩ := List.mem_map.mp ha
        exact (fresh name hn).1

/-- What an insertion of rows does. -/
structure Inserted (rows : List DiskRow) (t t' : Tables) : Prop where
  tags : t'.disks.map tag = t.disks.map tag ++ rows.map tag
  refer : (∀ d ∈ t.disks, refers t d) → ∀ d ∈ t'.disks, refers t' d

/-- A disk that was inserted is there. -/
theorem insertDisk_ok {row : DiskRow} (h : insertDisk uuid row t = some t') : Inserted [row] t t' := by
  unfold insertDisk at h
  split at h
  · next fit =>
    obtain ⟨-, rfl⟩ := Tables.write_diskCreate (ok_of_toOption h)
    simp only [fits, decide_eq_true_eq] at fit
    refine ⟨by simp [tag], fun refer d hd => ?_⟩
    rcases List.mem_append.mp hd with hd | hd
    · exact refer d hd
    · rw [List.mem_singleton.mp hd]
      exact fit.2.2
  · cases h

/-- So are all disks. -/
theorem insertDisks_ok {rows : List (Uuid × DiskRow)} (h : insertDisks rows t = some t') :
    Inserted (rows.map Prod.snd) t t' := by
  induction rows generalizing t with
  | nil =>
    cases h
    exact ⟨by simp, fun refer => refer⟩
  | cons row rows ih =>
    obtain ⟨t₁, first, rest⟩ := Option.bind_eq_some_iff.mp h
    obtain ⟨here, referHere⟩ := insertDisk_ok first
    obtain ⟨later, referLater⟩ := ih rest
    exact ⟨by simp [later, here], fun refer => referLater (referHere refer)⟩

/-- The rows of a new VM's disks, as it asks for them. -/
theorem diskRows_ok {vm : Nat} {specs : List (DiskSpec × Nat)} {rows : List DiskRow}
    (h : specs.mapM (fun d => d.1.storage.map fun storage => d.1.row vm storage d.2) = some rows) :
    rows.map tag = specs.map fun d => (vm, d.1.name.getD ("disk-" ++ toString d.2)) := by
  induction specs generalizing rows with
  | nil =>
    cases h
    rfl
  | cons d specs ih =>
    rw [List.mapM_cons] at h
    obtain ⟨row, first, h⟩ := Option.bind_eq_some_iff.mp h
    obtain ⟨rest, later, h⟩ := Option.bind_eq_some_iff.mp h
    cases h
    obtain ⟨storage, -, rfl⟩ := Option.map_eq_some_iff.mp first
    simp [ih later, tag, DiskSpec.row]

/-- The rows of a new VM have the names that the request gives. -/
theorem diskRows_names {spec : NewVm} {request : Request} {vm : Nat} {rows : List DiskRow}
    (h : diskRows vm { spec with disks := request.disks }.diskSpecs = some rows) :
    rows.map tag = request.names.map (vm, ·) := by
  rw [diskRows_ok h]
  cases request with
  | deploy storage image diskGb => rfl
  | create disks =>
    cases disks with
    | nil => cases h
    | cons d ds =>
      have given : ∀ x ∈ ((d :: ds).map DiskData.spec).zipIdx,
          (vm, x.1.name.getD ("disk-" ++ toString x.2)) = (vm, x.1.name.getD "") := by
        intro x hx
        obtain ⟨e, -, same⟩ := List.mem_map.mp (List.fst_mem_of_mem_zipIdx hx)
        rw [← same]
        rfl
      calc ((d :: ds).map DiskData.spec).zipIdx.map (fun x => (vm, x.1.name.getD ("disk-" ++ toString x.2)))
          = (((d :: ds).map DiskData.spec).zipIdx.map Prod.fst).map fun x => (vm, x.name.getD "") := by
            rw [List.map_congr_left given, List.map_map]
            rfl
        _ = (Request.create (d :: ds)).names.map (vm, ·) := by
            rw [List.zipIdx_map_fst, Request.names, List.map_map, List.map_map]
            rfl

/-- A creation inserts the disks it asks for. -/
theorem createVm_inserted {spec : NewVm} {request : Request} {node : Nat} {domainUuid : Uuid} {uuids : List Uuid}
    (enough : uuids.length = { spec with disks := request.disks }.diskSpecs.length)
    (h : createVm { spec with disks := request.disks } node uuid domainUuid uuids t = some t') :
    t'.disks.map tag = t.disks.map tag ++ request.names.map (Table.nextPk t.vms, ·) ∧
      ((∀ d ∈ t.disks, refers t d) → ∀ d ∈ t'.disks, refers t' d) := by
  obtain ⟨⟨vm, t₁⟩, created, h⟩ := Option.bind_eq_some_iff.mp h
  obtain ⟨rows, made, inserted⟩ := Option.bind_eq_some_iff.mp h
  obtain ⟨rfl, pk⟩ := Tables.createVm_ok (ok_of_toOption created)
  have names := diskRows_names made
  have length : rows.length = uuids.length := by
    rw [enough]
    simpa using congrArg List.length (diskRows_ok made)
  obtain ⟨tags, refer⟩ := insertDisks_ok inserted
  rw [List.map_snd_zip (Nat.le_of_eq length), names, pk] at tags
  refine ⟨tags, fun before => refer fun d hd => ?_⟩
  have here := before d hd
  simp only [refers, decide_eq_true_eq] at here ⊢
  obtain ⟨owner, found⟩ := Option.isSome_iff_exists.mp here.1
  refine ⟨?_, here.2⟩
  have other : vm.pk ≠ d.vm := pk ▸ Table.nextPk_ne found
  rw [Table.get_append_ne other, found]
  rfl

/-- What a step does to the names. -/
theorem step_tags {e : Event} (taken : step e s = some s') :
    ((s'.db.disks.map tag).Sublist (s.db.disks.map tag) ∧ (e.adds s).2 = [] ∨
      s'.db.disks.map tag = s.db.disks.map tag ++ (e.adds s).2.map ((e.adds s).1, ·)) ∧
    ((∀ d ∈ s.db.disks, refers s.db d) → ∀ d ∈ s'.db.disks, refers s'.db d) := by
  cases e with
  | create spec request node uuid domainUuid uuids =>
    simp only [step] at taken
    split at taken
    · next enough =>
      obtain ⟨t, created, rfl⟩ := Option.map_eq_some_iff.mp taken
      obtain ⟨tags, refer⟩ := createVm_inserted enough created
      exact ⟨.inr tags, refer⟩
    · cases taken
  | count vm =>
    cases taken
    exact ⟨.inl ⟨.refl _, rfl⟩, fun refer => refer⟩
  | attach a uuid =>
    simp only [step] at taken
    split at taken
    · obtain ⟨t, inserted, rfl⟩ := Option.map_eq_some_iff.mp taken
      obtain ⟨tags, refer⟩ := insertDisk_ok inserted
      exact ⟨.inr tags, refer⟩
    · cases taken
  | detach disk =>
    simp only [step] at taken
    split at taken
    · split at taken
      · cases taken
      · cases taken
        exact ⟨.inl ⟨List.filter_sublist.map tag, rfl⟩, fun refer d hd => refer d (List.mem_of_mem_filter hd)⟩
    · cases taken
  | list vm =>
    cases taken
    exact ⟨.inl ⟨.refl _, rfl⟩, fun refer => refer⟩
  | copy i clone volumeId uuid =>
    obtain ⟨disk, found, taken⟩ := Option.bind_eq_some_iff.mp taken
    obtain ⟨t, inserted, taken⟩ := Option.bind_eq_some_iff.mp taken
    cases taken
    obtain ⟨tags, refer⟩ := insertDisk_ok inserted
    refine ⟨.inr ?_, refer⟩
    rw [tags, Event.adds, found]
    rfl
  | deleteVm vm =>
    cases taken
    refine ⟨.inl ⟨List.filter_sublist.map tag, rfl⟩, fun refer d hd => ?_⟩
    obtain ⟨old, other⟩ := List.mem_filter.mp hd
    have here := refer d old
    simp only [refers, decide_eq_true_eq] at here other ⊢
    rw [Table.get_remove_ne other]
    exact here
  | elsewhere db =>
    simp only [step] at taken
    split at taken
    · next same =>
      cases taken
      have tags := congrArg (List.map fun l : Nat × Nat × String × Bool => (l.2.1, l.2.2.1)) same.1
      rw [List.map_map, List.map_map] at tags
      refine ⟨.inl ⟨?_, rfl⟩, fun _ d hd => List.all_eq_true.mp same.2 d hd⟩
      exact tags ▸ List.Sublist.refl _
    · cases taken

end Steps

/-! ## The names that are sent -/

/-- The `new_name`s of the CLONE_DISK operations that were confirmed. -/
def sentNames (w : World) : List String :=
  (w.confirmed.filter (·.1.operation = .cloneDisk)).map fun c => c.1.payload.getStr "new_name" ""

/-- A clone that succeeds has asked for all the names. -/
theorem sentNames_eq {taskId newName : String} {jobId vm : Nat} {linked : Bool} {w w' : World} (quiet : w.trace = [])
    (done : (Task.cloneVm vm newName linked).succeed taskId jobId w = some w') :
    ∃ source clone, Table.get w.db.vms vm = some source ∧
      Table.get w'.db.vms (Table.nextPk w.db.vms) = some clone ∧
      sentNames w' = newNames w.db source clone linked := by
  obtain ⟨source, clone, disks, nics, calls, found, cloned⟩ := (Task.succeed_yields done).cloneVmTask
  obtain ⟨_, _, copied, -⟩ := cloned.cloned
  obtain ⟨linked', asked⟩ := copied.asked
  obtain ⟨data, called⟩ := cloned.calls
  have confirmed : w'.confirmed =
      calls ++ [(vmRequest clone .createVm (w'.db.buildDomainPayload clone), data)] := by
    have none : w.ledger.calls = [] := by simp [World.ledger, World.confirmed, quiet]
    rw [none] at called
    exact called
  refine ⟨source, clone, found, cloned.pk ▸ cloned.row, ?_⟩
  have all : calls.filter (·.1.operation = .cloneDisk) = calls :=
    List.filter_eq_self.mpr (by simpa using copied.operation)
  have last : [(vmRequest clone .createVm (w'.db.buildDomainPayload clone), data)].filter
      (·.1.operation = .cloneDisk) = [] := rfl
  have names := congrArg (List.map fun r : AgentRequest => r.payload.getStr "new_name" "") asked
  rw [List.map_map, List.map_map] at names
  rw [sentNames, confirmed, List.filter_append, all, last, List.append_nil]
  exact names

/-- **Every clone asks for distinct names that the backends take** as long as, and no longer than, the names that a
request or a copy adds to a VM are plain, distinct, and not in use there. -/
theorem clone_names_iff {s : State} (refer : ∀ d ∈ s.db.disks, refers s.db d) (usable : NamesUsable s.db)
    (es : List Event) :
    ((∀ t ∈ visited step es s, NamesUsable t.db) ↔ Along step Careful es s) ∧
      ∀ t ∈ visited step es s, ∀ taskId newName jobId vm linked w', ∀ w : World, w.db = t.db → w.trace = [] →
        (Task.cloneVm vm newName linked).succeed taskId jobId w = some w' →
        ∃ source ∈ t.db.vms, ∃ clone, sentNames w' = newNames t.db source clone linked := by
  constructor
  · refine visited_iff (I := fun s => (∀ d ∈ s.db.disks, refers s.db d) ∧ NamesUsable s.db)
      (F := fun _ _ => True) (fun t inv => inv.2) ?_ ?_ ⟨refer, usable⟩ (Along.of_forall (fun _ _ _ => trivial) s)
    · rintro e s s' ⟨refer, usable⟩ - taken
      obtain ⟨tags, refers⟩ := step_tags taken
      have refer' := refers refer
      have sound := (namesUsable_iff refer).mp usable
      have met : Careful e s ↔ (e.adds s).2.Nodup ∧ ∀ name ∈ (e.adds s).2, plain name ∧
          ∀ a ∈ s.db.disks.map tag, a.1 = (e.adds s).1 → a.2 ≠ name := by
        simp [Careful, taken, tag]
      rw [namesUsable_iff refer', met]
      rcases tags with ⟨fewer, none⟩ | tags
      · refine ⟨fun _ => ⟨refer', ?_⟩, fun _ => by simp [none]⟩
        exact ⟨sound.apart.sublist fewer, fun a ha => sound.plain a (fewer.subset ha)⟩
      · rw [tags, Sound.append_iff]
        exact ⟨fun careful => ⟨refer', sound, careful⟩, fun after => after.2⟩
    · intro e s refused
      simp [Careful, refused]
  · rintro t - taskId newName jobId vm linked w' w same quiet done
    obtain ⟨source, clone, found, -, names⟩ := sentNames_eq quiet done
    rw [same] at found names
    exact ⟨source, Table.mem_of_get found, clone, names⟩

/-- A node with a pool, and no VM. -/
def noVms : State where
  db := { pools := [{ pk := 1, uuid := ⟨1⟩, node := 1, name := "p", type := .directory, path := "/pool" }] }

/-- A request for a VM. -/
def webSpec : NewVm where
  organization := 1
  project := 1
  name := "web"
  createdBy := 1

/-- A VM is created with two disks, and no name is given. -/
def unnamed : List Event :=
  [.create webSpec (.create [{ storage := 1, sizeGb := 1 }, { storage := 1, sizeGb := 1 }]) 1 ⟨2⟩ ⟨3⟩ [⟨4⟩, ⟨5⟩]]

/-- Two disks are attached to a VM, the first of them is detached, and another one is attached. -/
def reattached : List Event :=
  [.create webSpec (.deploy 1 1 20) 1 ⟨2⟩ ⟨3⟩ [⟨4⟩],
   .count 1, .attach { vm := 1, storage := 1, sizeGb := 1, named := 1, indexed := 1 } ⟨5⟩,
   .count 1, .attach { vm := 1, storage := 1, sizeGb := 1, named := 2, indexed := 2 } ⟨6⟩,
   .detach 2,
   .count 1, .attach { vm := 1, storage := 1, sizeGb := 1, named := 2, indexed := 2 } ⟨7⟩]

theorem namesUsable_noVms : NamesUsable noVms.db := fun _ none => by cases none

theorem clone_names_iff_unnamed : ¬ ∀ t ∈ visited step unnamed noVms, NamesUsable t.db :=
  fun usable => absurd ((clone_names_iff (by decide) namesUsable_noVms unnamed).1.mp usable) (by decide +kernel)

/-- A run that ends with two disks of one VM under one name. -/
theorem clash {es : List Event} (run : (runFrom step es noVms).any fun t =>
    t.db.disks.all (refers t.db) ∧ ¬ (t.db.disks.map tag).Nodup) :
    ∃ t ∈ visited step es noVms, ¬ NamesUsable t.db := by
  obtain ⟨t, ended, twice⟩ := (Option.any_eq_true _ _).mp run
  simp only [decide_eq_true_eq] at twice
  refine ⟨t, mem_visited ended, fun usable => twice.2 ?_⟩
  have sound := (namesUsable_iff (List.all_eq_true.mp twice.1)).mp usable
  exact List.Pairwise.imp (fun apart same => apart (congrArg Prod.fst same) (congrArg Prod.snd same)) sound.apart

theorem clone_names_clash : (∃ t ∈ visited step unnamed noVms, ¬ NamesUsable t.db) ∧
    ∃ t ∈ visited step reattached noVms, ¬ NamesUsable t.db :=
  ⟨clash (by decide +kernel), clash (by decide +kernel)⟩

end NodePilot.DiskNames
