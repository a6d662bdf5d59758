import Mathlib.Logic.Relation
import NodePilot.Viewsets

/-!
# What a deletion takes along

`Cascades` is one step of `on_delete=CASCADE`, and its closure is what a deletion removes
(`mem_collect_iff`). A row that is taken along is in the organization of the row it refers to where
its path to the organization starts with that very key. The others have a key to an organization of
their own (`path_of_cascade`): a backup schedule of a target, an assignment of a role, and the
quotas, assignments and VMs of a project.
-/

namespace NodePilot.Access

open Lib Relation

/-! ## Keys -/

theorem Model.mem_all (m : Model) : m ∈ Model.all := by
  cases m <;> decide

theorem Field.mem_all (f : Field) : f ∈ Field.all := by
  cases f <;> decide

section Keys

variable {m m' : Model} {f : Field}

/-- What is known of a key between two tables, read off the list of all keys. -/
theorem forall_keys {P : Model → Field → Model → Prop}
    (h : ∀ m' ∈ Model.all, ∀ f ∈ Field.all, ∀ m ∈ m'.relatedModel f, P m' f m)
    (related : m'.relatedModel f = some m) : P m' f m :=
  h m' m'.mem_all f f.mem_all m related

/-- CASCADE goes down. -/
theorem height_lt (related : m'.relatedModel f = some m) (key : m'.onDelete f = .cascade) :
    m'.height < m.height :=
  forall_keys (P := fun m' f m => m'.onDelete f = .cascade → m'.height < m.height) (by decide)
    related key

/-- The row has a key to its organization, or its path goes through the row that takes it along. -/
theorem path_of_cascade (related : m'.relatedModel f = some m) (key : m'.onDelete f = .cascade) :
    m'.organizationFieldPath = [.organization] ∨
      m'.organizationFieldPath = f :: m.organizationFieldPath :=
  forall_keys (P := fun m' f m => m'.onDelete f = .cascade →
    m'.organizationFieldPath = [.organization] ∨
      m'.organizationFieldPath = f :: m.organizationFieldPath) (by decide) related key

/-- What loses a reference has a key to its organization, and does not lose that. -/
theorem path_of_setNull (related : m'.relatedModel f = some m) (key : m'.onDelete f = .setNull) :
    m'.organizationFieldPath = [.organization] ∧ f ≠ .organization :=
  forall_keys (P := fun m' f _ => m'.onDelete f = .setNull →
    m'.organizationFieldPath = [.organization] ∧ f ≠ .organization) (by decide) related key

theorem ne_organization_of_related (related : m'.relatedModel f = some m) : m' ≠ .organization := by
  rintro rfl
  cases f <;> cases related

theorem related_organization (related : m'.relatedModel .organization = some m) :
    m = .organization :=
  forall_keys (P := fun _ f m => f = .organization → m = .organization) (by decide) related rfl

end Keys

/-! ## The closure of CASCADE -/

/-- The second row refers to the first by a key with CASCADE. -/
inductive Cascades (t : Tables) : Model × Record → Model × Record → Prop
  | key {m m' : Model} {r r' : Record} {f : Field} (mem : r' ∈ t m')
      (related : m'.relatedModel f = some m) (cascade : m'.onDelete f = .cascade)
      (refers : r'.refs f = some r.pk) : Cascades t (m, r) (m', r')

section Closure

variable {t : Tables} {m : Model} {r : Record} {x : Model × Record}

theorem mem_referring {kind : OnDelete} {y : Reference} : y ∈ t.referring kind m r ↔
    y.row ∈ t y.model ∧ y.model.relatedModel y.field = some m ∧ y.model.onDelete y.field = kind ∧
      y.row.refs y.field = some r.pk := by
  constructor
  · intro h
    obtain ⟨m', -, inModel⟩ := List.mem_flatMap.mp h
    obtain ⟨f, -, inField⟩ := List.mem_flatMap.mp inModel
    split at inField
    · next key =>
      obtain ⟨r', filtered, rfl⟩ := List.mem_map.mp inField
      obtain ⟨mem, refers⟩ := List.mem_filter.mp filtered
      exact ⟨mem, key.1, key.2, of_decide_eq_true refers⟩
    · cases inField
  · rintro ⟨mem, related, key, refers⟩
    refine List.mem_flatMap.mpr ⟨y.model, Model.mem_all _, ?_⟩
    refine List.mem_flatMap.mpr ⟨y.field, Field.mem_all _, ?_⟩
    rw [if_pos ⟨related, key⟩]
    exact List.mem_map.mpr ⟨y.row, List.mem_filter.mpr ⟨mem, decide_eq_true refers⟩, rfl⟩

theorem cascades_iff : Cascades t (m, r) x ↔
    ∃ y ∈ t.referring .cascade m r, x = (y.model, y.row) := by
  constructor
  · rintro ⟨mem, related, cascade, refers⟩
    exact ⟨⟨_, _, _⟩, mem_referring.mpr ⟨mem, related, cascade, refers⟩, rfl⟩
  · rintro ⟨y, hy, rfl⟩
    obtain ⟨mem, related, cascade, refers⟩ := mem_referring.mp hy
    exact .key mem related cascade refers

theorem Cascades.height_lt (h : Cascades t (m, r) x) : x.1.height < m.height := by
  obtain ⟨mem, related, cascade, refers⟩ := h
  exact Access.height_lt related cascade

/-- The collector follows as many steps as there are below the table, so it misses none. The
induction is on the number of steps. -/
theorem mem_collect_iff {n : Nat} (enough : m.height ≤ n) :
    x ∈ t.collect n m r ↔ ReflTransGen (Cascades t) (m, r) x := by
  rw [ReflTransGen.cases_head_iff]
  induction n generalizing m r with
  | zero =>
    refine ⟨fun h => .inl (List.mem_singleton.mp h).symm, ?_⟩
    rintro (rfl | ⟨y, first, -⟩)
    · exact List.mem_singleton.mpr rfl
    · exact absurd first.height_lt (by omega)
  | succ n ih =>
    have below {y : Reference} (hy : y ∈ t.referring .cascade m r) :
        x ∈ t.collect n y.model y.row ↔ ReflTransGen (Cascades t) (y.model, y.row) x := by
      have lower := (cascades_iff.mpr ⟨y, hy, rfl⟩).height_lt
      rw [ReflTransGen.cases_head_iff]
      exact ih (Nat.le_of_lt_succ (Nat.lt_of_lt_of_le lower enough))
    rw [Tables.collect, List.mem_cons, List.mem_flatMap]
    refine or_congr eq_comm ⟨?_, ?_⟩
    · rintro ⟨y, hy, h⟩
      exact ⟨_, cascades_iff.mpr ⟨y, hy, rfl⟩, (below hy).mp h⟩
    · rintro ⟨_, first, rest⟩
      obtain ⟨y, hy, rfl⟩ := cascades_iff.mp first
      exact ⟨y, hy, (below hy).mpr rest⟩

/-- What is taken along is in its table. -/
theorem mem_of_cascades (h : ReflTransGen (Cascades t) (m, r) x) (mem : r ∈ t m) :
    x.2 ∈ t x.1 := by
  induction h with
  | refl => exact mem
  | tail _ last _ =>
    obtain ⟨mem, -, -, -⟩ := last
    exact mem

/-- No deletion of another row takes an organization along. -/
theorem ne_organization_of_cascades (h : ReflTransGen (Cascades t) (m, r) x)
    (other : m ≠ .organization) : x.1 ≠ .organization := by
  induction h with
  | refl => exact other
  | tail _ last _ =>
    obtain ⟨-, related, -, -⟩ := last
    exact ne_organization_of_related related

end Closure

end NodePilot.Access
