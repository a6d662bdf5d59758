import Mathlib.Data.List.Nodup
import NodePilot.Edits
import NodePilot.Laws.Rules

/-!
# What an edit leaves alone

The save of an edit writes every column as it was loaded, so a task is undone if it writes to the VM after the
load. `careful` excludes the steps at which this happens: a status, a provisioning state or an error that is
written, or a deletion, while an edit of the VM has loaded it and not saved it.
-/

namespace NodePilot

open Lib

/-- The VM whose status, provisioning state or error the write gives a value, or which it deletes. -/
def Write.touches : Write → Option Nat
  | .vmSave vm fields =>
    if fields.status = none ∧ fields.provisioningState = none ∧ fields.lastError = none then none else some vm
  | .vmDelete vm => some vm
  | _ => none

namespace Edits

/-- The program is about to save a VM that it has loaded. -/
def saving {α : Type} : Prog EditOp EditAns α → Option Nat
  | .vis (.saveAll vm) _ => some vm.row.pk
  | _ => none

/-- Requests and tasks with the tables they share. -/
abbrev Site : Type := Pool Request EditOp EditAns (Except Exn Unit × Unit) State

/-- An edit has loaded the VM and not saved it. -/
def edited (p : Site) (vm : Nat) : Bool := p.threads.any fun t => saving t.rest = some vm

/-- The write that a thread is about to perform. -/
def nextWrite (p : Site) (i : Nat) : Option Write :=
  match p.threads[i]? with
  | some ⟨_, .vis (.service (.task (.write x))) _⟩ => some x
  | _ => none

/-- A write that touches a VM finds no edit of it between its load and its save. -/
def careful : Label ServiceChoice Event → Site → Prop
  | .act i _, p => ∀ x ∈ nextWrite p i, ∀ vm ∈ x.touches, edited p vm = false
  | .env (.statement x _ _), p => ∀ vm ∈ x.touches, edited p vm = false
  | .env _, _ => True

instance (l : Label ServiceChoice Event) (p : Site) : Decidable (careful l p) := by
  cases l with
  | act i c => unfold careful; infer_instance
  | env e => cases e <;> unfold careful <;> infer_instance

/-- Every edit that was saved has left what the tasks say of the VM. -/
def Kept (s : State) : Prop := ∀ x ∈ s.saves, x.before = x.after

/-! ## Rows -/

section Rows

variable {t t' : Tables} {vm : Nat} {x : Truth}

/-- No two VMs have the same key. -/
def Keyed (t : Tables) : Prop := (t.vms.map VmRow.pk).Nodup

/-- The VMs of other tables that are there and have not been touched stand as before. -/
def Stands (vm : Nat) (t t' : Tables) : Prop := ∀ x, stored t vm = some x → stored t' vm = some x

/-- What is stored of a VM depends on the VMs only. -/
theorem stored_of_vms (same : t'.vms = t.vms) : stored t' vm = stored t vm := by
  unfold stored
  rw [same]

/-- A write keeps the keys distinct. -/
theorem Keyed.write {now : Nat} {uuid : Uuid} {w : Write} (h : Keyed t)
    (written : t.write now uuid w = .ok t') : Keyed t' := by
  unfold Keyed
  rw [Tables.write_vms written]
  cases w with
  | vmSave pk fields =>
    rw [Write.onVms, Table.map_modify VmRow.pk fun v => show (fields.apply v).pk = v.pk from rfl]
    exact h
  | vmDelete pk => exact h.sublist (List.filter_sublist.map _)
  | _ => exact h

/-- A write to another row leaves what is stored. -/
theorem stored_write {now : Nat} {uuid : Uuid} {w : Write} (written : t.write now uuid w = .ok t')
    (spared : w.touches ≠ some vm) : stored t' vm = stored t vm := by
  unfold stored
  rw [Tables.write_vms written]
  cases w with
  | vmSave pk fields =>
    rw [Write.onVms, Table.get_modify fun v => show Row.pk (fields.apply v) = Row.pk v from rfl]
    by_cases same : vm = pk
    · have quiet : fields.status = none ∧ fields.provisioningState = none ∧ fields.lastError = none := by
        by_contra speaks
        exact spared (by simp [Write.touches, speaks, same])
      rw [if_pos same, Option.map_map]
      have same : truth ∘ fields.apply = truth := by
        funext v
        simp [truth, VmFields.apply, quiet]
      rw [same]
    · rw [if_neg same]
  | vmDelete pk =>
    have other : vm ≠ pk := fun same => spared (by simp [Write.touches, same])
    rw [Write.onVms, Table.get_remove_ne other]
  | _ => rfl

/-- A new row with a fresh key keeps them distinct. -/
theorem Keyed.append {row : VmRow} (h : Keyed t) (fresh : Table.get t.vms row.pk = none) :
    Keyed { t with vms := t.vms ++ [row] } := by
  unfold Keyed
  rw [List.map_append]
  refine List.nodup_append.mpr ⟨h, by simp, fun a ha b hb => ?_⟩
  rw [List.mem_singleton.mp hb]
  rintro rfl
  obtain ⟨v, mem, same⟩ := List.mem_map.mp ha
  exact absurd (List.find?_eq_none.mp fresh v mem) (by simpa [Row.pk] using same)

/-- So does an INSERT. -/
theorem Keyed.createVm {uuid domainUuid : Uuid} {row row' : VmRow} (h : Keyed t)
    (created : t.createVm uuid domainUuid row = .ok (row', t')) : Keyed t' := by
  obtain ⟨rfl, key⟩ := Tables.createVm_ok created
  exact h.append (by rw [key]; exact Table.get_nextPk t.vms)

/-- An INSERT leaves the rows that were there. -/
theorem stands_createVm {uuid domainUuid : Uuid} {row row' : VmRow}
    (created : t.createVm uuid domainUuid row = .ok (row', t')) : Stands vm t t' := by
  obtain ⟨rfl, key⟩ := Tables.createVm_ok created
  intro x there
  obtain ⟨v, found, -⟩ := Option.map_eq_some_iff.mp there
  have other : row'.pk ≠ vm := by
    rw [key]
    exact Table.nextPk_ne found
  unfold stored
  rw [Table.get_append_ne other]
  exact there

/-- A save of a row that is stored as it says. -/
theorem saveAll_cases {row : VmRow} (h : Keyed t) (there : stored t row.pk = some (truth row))
    (saved : saveAll t row = .ok t') : Keyed t' ∧ ∀ vm, stored t' vm = stored t vm := by
  obtain ⟨v, found, same⟩ := Option.map_eq_some_iff.mp there
  unfold saveAll at saved
  split at saved
  · cases saved
  · rw [found] at saved
    cases saved
    refine ⟨?_, fun vm => ?_⟩
    · show ((Table.modify t.vms row.pk (overwrite row)).map VmRow.pk).Nodup
      rw [Table.map_modify VmRow.pk fun v => show (overwrite row v).pk = v.pk from rfl]
      exact h
    · show (Table.get (Table.modify t.vms row.pk (overwrite row)) vm).map truth = (Table.get t.vms vm).map truth
      rw [Table.get_modify fun v => show Row.pk (overwrite row v) = Row.pk v from rfl]
      by_cases own : vm = row.pk
      · rw [if_pos own, own, found]
        exact (congrArg some same).symm
      · rw [if_neg own]

end Rows

/-! ## Programs -/

section Programs

variable {α : Type}

/-- The program loads and saves no object. -/
def Serves (p : Prog EditOp EditAns α) : Prop :=
  p.Obeys (fun _ _ => True) (fun o => ∃ x, o = .service x) fun _ => True

/-- The program saves a VM with what is said of it, and then it is over. -/
def Saves (p : Prog EditOp EditAns α) (vm : Nat) (x : Truth) : Prop :=
  ∃ obj k, p = .vis (.saveAll obj) k ∧ obj.row.pk = vm ∧ truth obj.row = x ∧ ∀ a, Serves (k a)

/-- How far a program has come: it is no edit, or no longer; it is to load a VM and will save it with what
is stored; or it is to save one. -/
inductive Shape : Prog EditOp EditAns α → Prop
  | serves {p : Prog EditOp EditAns α} (h : Serves p) : Shape p
  | loads {uuid : Uuid} {k : Option LoadedVm → Prog EditOp EditAns α}
      (h : ∀ found, Serves (k found) ∨ ∃ vm, found = some vm ∧ Saves (k found) vm.row.pk (truth vm.row)) :
      Shape (.vis (.load uuid) k)
  | saves {p : Prog EditOp EditAns α} {vm : Nat} {x : Truth} (h : Saves p vm x) : Shape p

theorem serves_ret {a : α} : Serves (.ret a : Prog EditOp EditAns α) := trivial

/-- A service serves. -/
theorem serves_ofService {x : ServiceM Unit} : Serves ((ofService x).prog ()) := by
  have free {β : Type} (p : Prog ServiceOp ServiceAns β) :
      p.Obeys (fun o a => ∃ a' : EditAns (.service o), a' = a ∧ True)
        (fun o => ∃ y, EditOp.service o = .service y) fun _ => True := by
    induction p with
    | ret a => trivial
    | vis o k ih => exact ⟨⟨o, rfl⟩, fun a _ => ih a⟩
  exact (free (x.prog ())).translate

/-- An update is refused or saves what it has loaded and edited. -/
theorem updateLoaded_cases (permitted : LoadedVm → Bool) (validated : Option VmEdit) (vm : LoadedVm) :
    Serves ((updateLoaded permitted validated vm).prog ()) ∨
      Saves ((updateLoaded permitted validated vm).prog ()) vm.row.pk (truth vm.row) := by
  unfold updateLoaded
  by_cases admitted : permitted vm = true
  · rw [if_neg (not_not_intro admitted)]
    cases validated with
    | none => exact .inl serves_ret
    | some edit =>
      exact .inr ⟨edit.apply vm, _, rfl, rfl, rfl, fun a => by cases a <;> exact serves_ret⟩
  · rw [if_pos admitted]
    exact .inl serves_ret

/-- **An edit saves what it has loaded.** -/
theorem shape_partialUpdate (uuid : Uuid) (permitted : LoadedVm → Bool) (validated : Option VmEdit) :
    Shape ((partialUpdate uuid permitted validated).prog ()) := by
  refine .loads fun found => ?_
  cases found with
  | none => exact .inl serves_ret
  | some vm =>
    rcases updateLoaded_cases permitted validated vm with serves | saves
    · exact .inl serves
    · exact .inr ⟨vm, rfl, saves⟩

end Programs

/-! ## Runs -/

section Runs

variable {p p' : Site} {s s' : State}

/-- **The invariant**: what an edit is about to save of a VM is what is stored. -/
structure Settled (p : Site) : Prop where
  keyed : Keyed p.shared.world.db
  shapes : ∀ t ∈ p.threads, Shape t.rest
  waiting : ∀ t ∈ p.threads, ∀ vm x, Saves t.rest vm x → stored p.shared.world.db vm = some x
  kept : Kept p.shared

/-- A VM that is about to be saved is being edited. -/
theorem edited_of_saves {t : Worker} {vm : Nat} {x : Truth} (mem : t ∈ p.threads) (h : Saves t.rest vm x) :
    edited p vm = true := by
  obtain ⟨obj, k, same, pk, -, -⟩ := h
  exact List.any_eq_true.mpr ⟨t, mem, by simp [saving, same, pk]⟩

/-- Nothing of a program that serves is saved. -/
theorem not_saves_of_serves {α : Type} {q : Prog EditOp EditAns α} {vm : Nat} {x : Truth} (h : Serves q) :
    ¬ Saves q vm x := by
  rintro ⟨obj, k, rfl, -⟩
  obtain ⟨o, same⟩ := h.1
  cases same

/-- A program is about to save one VM. -/
theorem saves_unique {α : Type} {q : Prog EditOp EditAns α} {vm vm' : Nat} {x x' : Truth} (h : Saves q vm x)
    (h' : Saves q vm' x') : vm' = vm ∧ x' = x := by
  obtain ⟨obj, k, rfl, pk, said, -⟩ := h
  obtain ⟨obj', k', same, pk', said', -⟩ := h'
  cases same
  exact ⟨pk'.symm.trans pk, said'.symm.trans said⟩

/-- What is loaded is what is stored. -/
theorem stored_of_found {t : Tables} {uuid : Uuid} {row : VmRow} (keyed : Keyed t)
    (found : t.vms.find? (·.uuid = uuid) = some row) : stored t row.pk = some (truth row) := by
  have read : Table.get t.vms row.pk = some row := Table.get_of_mem keyed (List.mem_of_find?_eq_some found)
  unfold stored
  rw [read]
  rfl

/-- The tables after a statement: the VMs keep their keys, and those stand that are not touched. -/
structure Spares (touched : Nat → Prop) (t t' : Tables) : Prop where
  keyed : Keyed t → Keyed t'
  stands : ∀ vm, ¬ touched vm → Stands vm t t'

/-- Where the VMs are the same nothing is touched. -/
theorem Spares.of_vms {touched : Nat → Prop} {t t' : Tables} (same : t'.vms = t.vms) :
    Spares touched t t' where
  keyed h := by
    unfold Keyed
    rw [same]
    exact h
  stands vm _ x there := by
    rw [stored_of_vms same]
    exact there

/-- A write touches its own row. -/
theorem Spares.write {t t' : Tables} {now : Nat} {uuid : Uuid} {x : Write}
    (written : t.write now uuid x = .ok t') : Spares (fun vm => x.touches = some vm) t t' where
  keyed h := h.write written
  stands vm spared y there := by
    rw [stored_write written spared]
    exact there

/-- An INSERT touches no row. -/
theorem Spares.createVm {touched : Nat → Prop} {t t' : Tables} {uuid domainUuid : Uuid}
    {row row' : VmRow} (created : t.createVm uuid domainUuid row = .ok (row', t')) :
    Spares touched t t' where
  keyed h := h.createVm created
  stands _ _ := stands_createVm created

/-- The VM that an operation touches. -/
def ServiceOp.touches (o : ServiceOp) (vm : Nat) : Prop := ∃ x, o = .task (.write x) ∧ x.touches = some vm

/-- One operation of a request or a task. -/
theorem service_act {c : ServiceChoice} {i : Nat} {o : ServiceOp} {a : EditAns (.service o)}
    (hact : State.act c i (.service o) s = some (a, s')) :
    Spares (ServiceOp.touches o) s.world.db s'.world.db ∧ s'.saves = s.saves := by
  obtain ⟨⟨a', site⟩, acted, same⟩ := Option.map_eq_some_iff.mp hact
  cases same
  refine ⟨?_, rfl⟩
  show Spares _ s.world.db site.world.db
  cases o with
  | task o =>
    cases acted
    rcases World.answer_db c.toChoice o s.world with same | ⟨x, rfl, written⟩ | ⟨row, row', rfl, created⟩
    · exact .of_vms (by rw [same])
    · have spares := Spares.write written
      exact ⟨spares.keyed, fun vm spared => spares.stands vm fun touched => spared ⟨x, rfl, touched⟩⟩
    · exact .createVm created
  | createJob row =>
    simp only [NodePilot.Site.act] at acted
    split at acted <;> cases acted <;> exact .of_vms rfl
  | checkAndReserve vm =>
    simp only [NodePilot.Site.act] at acted
    split at acted <;> cases acted <;> exact .of_vms rfl

/-- A statement that touches no VM under an edit leaves what the edits are about to save. -/
theorem Settled.waits {touched : Nat → Prop} {t : Worker} {vm : Nat} {x : Truth} {db : Tables}
    (h : Settled p) (spares : Spares touched p.shared.world.db db)
    (spared : ∀ vm, touched vm → edited p vm = false) (mem : t ∈ p.threads) (saves : Saves t.rest vm x) :
    stored db vm = some x := by
  refine spares.stands vm (fun touches => ?_) x (h.waiting t mem vm x saves)
  have under := edited_of_saves mem saves
  rw [spared vm touches] at under
  cases under

/-- The threads after one of them has taken a step. -/
theorem forall_set {P : Worker → Prop} {i : Nat} {t : Worker} (old : ∀ t ∈ p.threads, P t) (new : P t) :
    ∀ t' ∈ p.threads.set i t, P t' := by
  intro t' mem
  rcases List.mem_or_eq_of_mem_set mem with mem | rfl
  · exact old t' mem
  · exact new

/-- An operation keeps the invariant. -/
theorem Settled.act {i : Nat} {c : ServiceChoice} (h : Settled p) (ok : careful (.act i c) p)
    (next : system.step (.act i c) p = some p') : Settled p' := by
  obtain ⟨tag, o, k, a, s, hi, hact, rfl⟩ := System.step_act next
  have actor := List.mem_of_getElem? hi
  have shape := h.shapes _ actor
  cases o with
  | service o =>
    have serves : Serves (.vis (.service o) k) := by
      cases shape with
      | serves serves => exact serves
      | saves saves =>
        obtain ⟨obj, k', same, -⟩ := saves
        cases same
    have rest := serves.2 a trivial
    obtain ⟨spares, saved⟩ := service_act hact
    have spared : ∀ vm, ServiceOp.touches o vm → edited p vm = false := by
      rintro vm ⟨x, rfl, touched⟩
      exact ok x (by simp [nextWrite, hi]) vm touched
    refine ⟨spares.keyed h.keyed, forall_set h.shapes (.serves rest), forall_set ?_ ?_, ?_⟩
    · exact fun t mem vm x saves => h.waits spares spared mem saves
    · exact fun vm x saves => absurd saves (not_saves_of_serves rest)
    · show ∀ x ∈ s.saves, _
      rw [saved]
      exact h.kept
  | load uuid =>
    cases hact
    have here : ∀ found, Serves (k found) ∨
        ∃ vm, found = some vm ∧ Saves (k found) vm.row.pk (truth vm.row) := by
      cases shape with
      | loads h => exact h
      | serves serves =>
        obtain ⟨x, same⟩ := serves.1
        cases same
      | saves saves =>
        obtain ⟨obj, k', same, -⟩ := saves
        cases same
    have rest := here ((p.shared.world.db.vms.find? (·.uuid = uuid)).map fun row =>
      ⟨row, p.shared.details row.pk⟩)
    refine ⟨h.keyed, forall_set h.shapes ?_, forall_set h.waiting ?_, h.kept⟩
    · rcases rest with serves | ⟨vm, -, saves⟩
      · exact .serves serves
      · exact .saves saves
    · intro vm x saves
      rcases rest with serves | ⟨loaded, found, own⟩
      · exact absurd saves (not_saves_of_serves serves)
      · obtain ⟨rfl, rfl⟩ := saves_unique own saves
        obtain ⟨row, read, rfl⟩ := Option.map_eq_some_iff.mp found
        exact stored_of_found h.keyed read
  | saveAll obj =>
    have own : Saves (.vis (.saveAll obj) k) obj.row.pk (truth obj.row) := by
      cases shape with
      | serves serves =>
        obtain ⟨x, same⟩ := serves.1
        cases same
      | saves saves =>
        obtain ⟨obj', k', same, -, -, rest⟩ := saves
        cases same
        exact ⟨obj, k, rfl, rfl, rfl, rest⟩
    have rest : Serves (k a) := by
      obtain ⟨obj', k', same, -, -, rest⟩ := own
      cases same
      exact rest a
    have shapes := forall_set (i := i) (t := ⟨tag, k a⟩) h.shapes (.serves rest)
    have there := h.waiting _ actor _ _ own
    change State.act c i (.saveAll obj) p.shared = some (a, s) at hact
    simp only [State.act] at hact
    split at hact
    · cases hact
      exact ⟨h.keyed, shapes, forall_set h.waiting fun vm x saves => absurd saves (not_saves_of_serves rest),
        h.kept⟩
    · next db saved =>
      cases hact
      by_cases fails : c.dbFails = true
      · simp [fails] at saved
      · rw [if_neg fails] at saved
        obtain ⟨keyed, same⟩ := saveAll_cases h.keyed there saved
        refine ⟨keyed, shapes, forall_set ?_ ?_, ?_⟩
        · intro t mem vm x saves
          show stored db vm = some x
          rw [same]
          exact h.waiting t mem vm x saves
        · exact fun vm x saves => absurd saves (not_saves_of_serves rest)
        · intro x mem
          rcases List.mem_cons.mp mem with rfl | mem
          · exact (same obj.row.pk).symm
          · exact h.kept x mem

/-- New threads beside a statement. -/
theorem Settled.arrive {touched : Nat → Prop} {ts : List Worker} (h : Settled p)
    (spares : Spares touched p.shared.world.db s.world.db)
    (spared : ∀ vm, touched vm → edited p vm = false) (saved : s.saves = p.shared.saves)
    (shapes : ∀ t ∈ ts, Shape t.rest) (fresh : ∀ t ∈ ts, saving t.rest = none) :
    Settled ⟨p.threads ++ ts, s⟩ := by
  refine ⟨spares.keyed h.keyed, List.forall_mem_append.mpr ⟨h.shapes, shapes⟩,
    List.forall_mem_append.mpr ⟨fun t mem vm x saves => h.waits spares spared mem saves, ?_⟩, ?_⟩
  · rintro t mem vm x ⟨obj, k, same, -⟩
    have none := fresh t mem
    rw [same] at none
    cases none
  · show ∀ x ∈ s.saves, _
    rw [saved]
    exact h.kept

/-- What serves saves no VM. -/
theorem not_saving_of_serves {α : Type} {q : Prog EditOp EditAns α} (h : Serves q) : saving q = none := by
  cases q with
  | ret a => rfl
  | vis o k =>
    obtain ⟨x, rfl⟩ := h.1
    rfl

/-- What happens around keeps the invariant. -/
theorem Settled.env {e : Event} (h : Settled p) (ok : careful (.env e) p)
    (next : system.step (.env e) p = some p') : Settled p' := by
  obtain ⟨ts, s, arrives, rfl⟩ := System.step_env next
  have quiet : Spares (fun _ => False) p.shared.world.db p.shared.world.db := .of_vms rfl
  cases e with
  | patch uuid permitted validated =>
    cases arrives
    exact h.arrive quiet (by simp) rfl (by simpa using shape_partialUpdate uuid permitted validated)
      (by simp [partialUpdate]; rfl)
  | request vm r requestedBy taskId =>
    obtain ⟨row, -, same⟩ := Option.map_eq_some_iff.mp arrives
    cases same
    exact h.arrive quiet (by simp) rfl (by simpa using Shape.serves serves_ofService)
      (by simpa using not_saving_of_serves serves_ofService)
  | deliver task taskId jobId =>
    cases arrives
    exact h.arrive quiet (by simp) rfl (by simpa using Shape.serves serves_ofService)
      (by simpa using not_saving_of_serves serves_ofService)
  | statement x now uuid =>
    dsimp only [system, Edits.env] at arrives
    split at arrives
    · next db written =>
      cases arrives
      exact h.arrive (.write written) ok rfl (by simp) (by simp)
    · cases arrives
      exact h.arrive quiet (by simp) rfl (by simp) (by simp)
  | create row uuid domainUuid =>
    dsimp only [system, Edits.env] at arrives
    split at arrives
    · next r created =>
      cases arrives
      have spares : Spares (fun _ => False) p.shared.world.db r.2 := .createVm created
      exact h.arrive spares (by simp) rfl (by simp) (by simp)
    · cases arrives
      exact h.arrive quiet (by simp) rfl (by simp) (by simp)

/-- The invariant holds at the start. -/
theorem Settled.start {w : World} (keyed : Keyed w.db) : Settled ⟨[], { world := w }⟩ where
  keyed := keyed
  shapes t mem := by cases mem
  waiting t mem := by cases mem
  kept x mem := by cases mem

/-- Every step keeps it. -/
theorem Settled.step {l : Label ServiceChoice Event} (h : Settled p) (ok : careful l p)
    (next : system.step l p = some p') : Settled p' := by
  cases l with
  | act i c => exact h.act ok next
  | env e => exact h.env ok next

/-- **Edits leave what the tasks say.** In every run of edits, lifecycle requests and tasks, however they
interleave and whatever they are answered: if no statement touches a VM between the load and the save of an
edit of it, then every save leaves the VM's status, provisioning state and error as they were stored. -/
theorem patches_keep (w : World) (keyed : Keyed w.db) (ls : List (Label ServiceChoice Event))
    (ok : Along system.step careful ls ⟨[], { world := w }⟩) :
    ∀ p ∈ visited system.step ls ⟨[], { world := w }⟩, Kept p.shared := by
  intro p mem
  have settled : Settled p :=
    visited_keeps (I := Settled) (fun _ _ _ h ok next => h.step ok next) (.start keyed) ok mem
  exact settled.kept

/-! ### An edit and a start -/

/-- A VM that is stopped. -/
def stoppedVm : World where
  db :=
    { vms := [{ pk := 1, uuid := ⟨1⟩, domainUuid := ⟨2⟩, organization := 1, project := 1,
                node := some 1, name := "web", status := .stopped }]
      nodes := [{ pk := 1, name := "n1" }] }
  script := fun _ => {}

/-- The VM is renamed and started. The edit loads it, the request and its task perform `between`
operations, and the edit saves it. -/
def renamed (between : Nat) : List (Label ServiceChoice Event) :=
  [.env (.patch ⟨1⟩ (fun _ => true) (some { name := some "db" })), .env (.request 1 .start none "a"),
    .act 0 {}] ++ List.replicate between (.act 1 {}) ++ [.act 0 {}]

theorem patches_keep_first :
    ∃ p, runFrom system.step (renamed 6) ⟨[], { world := stoppedVm }⟩ = some p ∧ Kept p.shared :=
  ⟨_, rfl, patches_keep stoppedVm (by unfold Keyed; decide) (renamed 6) (by decide +kernel) _
    (mem_visited rfl)⟩

/-- The start completes between the load and the save: the VM runs, and the edit stores that it is
stopped. -/
theorem start_undone : ¬ ∀ (w : World), Keyed w.db → ∀ ls,
    ∀ p ∈ visited system.step ls ⟨[], { world := w }⟩, Kept p.shared := by
  intro keep
  have undone : ∃ p, runFrom system.step (renamed 17) ⟨[], { world := stoppedVm }⟩ = some p ∧
      p.shared.saves =
        [⟨1, some (.running, .requested, ""), some (.stopped, .requested, "")⟩] := ⟨_, rfl, rfl⟩
  obtain ⟨p, run, saves⟩ := undone
  have kept := keep stoppedVm (by unfold Keyed; decide) (renamed 17) p (mem_visited run)
  have same := kept _ (saves ▸ List.mem_singleton_self _)
  revert same
  decide

end Runs

end Edits

end NodePilot
