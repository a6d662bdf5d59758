import NodePilot.Laws.Cascades
import NodePilot.Lib.Prog

/-!
# Which organization a write ends up in

The organization a request is admitted for and the organization of the row it writes are found by
different code. For a new row the first comes from `?organization=` where the request has one, and
the second from the body. For a row that is updated the first is that of the row as it stands, and
the body may name another place for it. For a row that is deleted the object is checked, and what
goes with it is not. `OwnScope` is the condition that none of these makes a difference: what the
body names is in an organization where the user holds the codename, and so is what a deletion takes
along or releases.

A path leads from a table through other tables, so a write to the one it starts from does not change
where it ends (`Tables.walk_congr`).
-/

namespace NodePilot.Access

open Lib Relation

/-! ## Paths -/

/-- The tables that a path leads through. -/
def route : Model → List Field → List Model
  | _, [] => []
  | m, f :: path =>
    match m.relatedModel f with
    | some related => related :: route related path
    | none => []

theorem Tables.walk_congr {t t' : Tables} {m : Model} {r : Record} {path : List Field}
    (same : ∀ m' ∈ route m path, t' m' = t m') : t'.walk m r path = t.walk m r path := by
  induction path generalizing m r with
  | nil => rfl
  | cons f path ih =>
    simp only [walk]
    cases r.refs f with
    | none => rfl
    | some pk =>
      cases related : m.relatedModel f with
      | none => rfl
      | some m' =>
        simp only [route, related] at same
        simp only [Option.bind_eq_bind, Option.bind_some]
        rw [same m' List.mem_cons_self]
        cases Table.get (t m') pk with
        | none => rfl
        | some next => exact ih fun m'' h => same m'' (List.mem_cons_of_mem m' h)

/-- A path that ends with the key to an organization ends at one. -/
theorem walk_organization {t : Tables} {m : Model} {r : Record} {path : List Field} {o : Nat}
    (h : t.walk m r (path ++ [.organization]) = some o) :
    ∃ organization, Table.get (t .organization) o = some organization := by
  induction path generalizing m r with
  | nil =>
    obtain ⟨pk, -, h⟩ := Option.bind_eq_some_iff.mp h
    obtain ⟨related, key, h⟩ := Option.bind_eq_some_iff.mp h
    obtain ⟨next, found, h⟩ := Option.bind_eq_some_iff.mp h
    cases h
    rw [related_organization key] at found
    have own : next.pk = pk := Table.pk_of_get found
    exact ⟨next, by rw [own]; exact found⟩
  | cons f path ih =>
    obtain ⟨pk, -, h⟩ := Option.bind_eq_some_iff.mp h
    obtain ⟨related, -, h⟩ := Option.bind_eq_some_iff.mp h
    obtain ⟨next, -, h⟩ := Option.bind_eq_some_iff.mp h
    exact ih h

/-- Every path but that of the organizations themselves ends with the key to one. -/
theorem path_ends {m : Model} (other : m ≠ .organization) :
    ∃ path, m.organizationFieldPath = path ++ [.organization] := by
  refine ⟨m.organizationFieldPath.dropLast, ?_⟩
  cases m <;> first | exact absurd rfl other | rfl

/-- The organization that a row has a key to. -/
theorem walk_direct {t : Tables} {m : Model} {r : Record} {o : Nat}
    (key : m.relatedModel .organization = some .organization)
    (ref : r.refs .organization = some o) {organization : Record}
    (found : Table.get (t .organization) o = some organization) :
    t.walk m r [.organization] = some o := by
  have own : organization.pk = o := Table.pk_of_get found
  simp [Tables.walk, ref, key, found, own]

/-- The path of a viewset is that of its table, and it leads away from it. -/
structure ViewSet.Routed (v : ViewSet) : Prop where
  path : v.organizationFieldPath = v.model.organizationFieldPath
  away : v.model ∉ route v.model v.organizationFieldPath
  job : Model.job ∉ route v.model v.organizationFieldPath
  starts : v.organizationFieldPath ≠ []
  direct : v.organizationFieldPath = [.organization] →
    v.model.relatedModel .organization = some .organization
  other : v.model ≠ .organization

theorem routed_of_scoped {v : ViewSet} (h : v ∈ organizationScoped) : v.Routed := by
  have all : ∀ v ∈ organizationScoped, v.organizationFieldPath = v.model.organizationFieldPath ∧
      v.model ∉ route v.model v.organizationFieldPath ∧
      Model.job ∉ route v.model v.organizationFieldPath ∧ v.organizationFieldPath ≠ [] ∧
      (v.organizationFieldPath = [.organization] →
        v.model.relatedModel .organization = some .organization) ∧ v.model ≠ .organization := by
    decide
  obtain ⟨path, away, job, starts, direct, other⟩ := all v h
  exact ⟨path, away, job, starts, direct, other⟩

/-! ## What is to be kept, and the condition -/

/-- The row of the table is in an organization in which the user holds the codename of the action. -/
def Belongs (v : ViewSet) (m : Model) (t : Tables) (g : Grants) (req : Request) (r : Record) : Prop :=
  ∃ codename organization, v.codename req = some codename ∧
    t.walk m r m.organizationFieldPath = some organization ∧
    codename ∈ g.codenamesFor req.user.pk organization

/-- One of the written rows belongs to the user's organizations before and after the writes. -/
structure Confined (v : ViewSet) (db : Db) (g : Grants) (req : Request) (ws : List Written)
    (w : Written) : Prop where
  before : ∀ r ∈ w.before, Belongs v w.model db.tables g req r
  after : ∀ r ∈ w.after, Belongs v w.model (db.tables.writeAll ws) g req r

/-- The request names an organization in its query. -/
def Param.given : Param → Prop
  | .uuid _ | .malformed => True
  | .missing | .null | .blank => False

/-- The user holds the codename of the action in the organization that the body leads to. -/
def HeldInBody (v : ViewSet) (db : Db) (g : Grants) (req : Request) : Prop :=
  ∃ codename, v.codename req = some codename ∧
    g.hasPermission req.user (v.bodyOrganization db req) codename = true

/-- The user holds the codename in the organizations of the rows that have a key to one and that a
deletion of the object takes along, and of those that lose a reference by it. -/
structure HeldBelow (v : ViewSet) (db : Db) (g : Grants) (req : Request) (object : Record) :
    Prop where
  taken : ∀ x, TransGen (Cascades db.tables) (v.model, object) x →
    x.1.organizationFieldPath = [.organization] → Belongs v x.1 db.tables g req x.2
  released : ∀ x, ReflTransGen (Cascades db.tables) (v.model, object) x →
    ∀ y ∈ db.tables.referring .setNull x.1 x.2, Belongs v y.model db.tables g req y.row

/-- **The condition**: a new row is asked for without an organization in the query, an update leaves
the row where it is, or the user holds the codename in the organization that the body leads to; a
deletion goes no further than the user's organizations. -/
def OwnScope (v : ViewSet) (db : Db) (g : Grants) (req : Request) : Prop :=
  match req.action with
  | .create => ¬ req.organization.given ∨ HeldInBody v db g req
  | .update | .partialUpdate => req.data v.firstField = .missing ∨ HeldInBody v db g req
  | .destroy => v.marksDeleted = false →
    ∀ object, v.getObject db g req = .ok object → HeldBelow v db g req object
  | _ => True

/-! ## What the code computes -/

section Requests

variable {v : ViewSet} {db : Db} {g : Grants} {req : Request} {ws : List Written} {r : Record}

theorem dispatch_ok (h : v.dispatch db g req = .ok ws) :
    (req.user.isAuthenticated = true ∧ ∃ codename, v.codename req = some codename ∧
      ((req.action.detail || req.action = .list) = true ∨
        g.hasPermission req.user (v.getOrganization db req) codename = true)) ∧
      v.perform db g req = .ok ws := by
  unfold ViewSet.dispatch at h
  split at h
  · cases h
  · next admitted =>
    split at h
    · cases h
    · obtain ⟨authenticated, codename, resolved, -, deferred⟩ :=
        hasResourcePermission_iff.mp (not_not.mp admitted)
      exact ⟨⟨authenticated, codename, resolved, deferred⟩, h⟩

/-- An object that is handed out is one on which the user may act. -/
theorem getObject_ok (h : v.getObject db g req = .ok r) :
    ∃ codename, v.codename req = some codename ∧
      g.hasPermission req.user (v.organizationOf db.tables r) codename = true := by
  unfold ViewSet.getObject at h
  split at h
  · cases h
  · split at h
    · next permitted =>
      cases h
      obtain ⟨codename, resolved, -, held⟩ := hasObjectPermission_iff.mp permitted
      exact ⟨codename, resolved, held⟩
    · cases h

theorem belongs_iff (routed : v.Routed) {t : Tables} (ordinary : req.user.isSuperuser = false)
    (authenticated : req.user.isAuthenticated = true) :
    Belongs v v.model t g req r ↔ ∃ codename, v.codename req = some codename ∧
      g.hasPermission req.user (v.organizationOf t r) codename = true := by
  unfold Belongs ViewSet.organizationOf
  rw [← routed.path]
  constructor
  · rintro ⟨codename, organization, resolved, found, held⟩
    exact ⟨codename, resolved,
      (hasPermission_iff ordinary authenticated).mpr ⟨organization, found, held⟩⟩
  · rintro ⟨codename, resolved, permitted⟩
    obtain ⟨organization, found, held⟩ := (hasPermission_iff ordinary authenticated).mp permitted
    exact ⟨codename, organization, resolved, found, held⟩

/-- A write to other tables than those of the path does not move a row whose reference stays. -/
theorem organizationOf_congr (routed : v.Routed) {t : Tables} {r' : Record}
    (same : ∀ m ∈ route v.model v.organizationFieldPath, t m = db.tables m)
    (ref : r'.refs v.firstField = r.refs v.firstField) :
    v.organizationOf t r' = v.organizationOf db.tables r := by
  have moved : v.organizationOf t r' = v.organizationOf db.tables r' := Tables.walk_congr same
  rw [moved]
  unfold ViewSet.organizationOf
  cases path : v.organizationFieldPath with
  | nil => exact absurd path routed.starts
  | cons first rest =>
    have head : v.firstField = first := by rw [ViewSet.firstField, path]; rfl
    rw [head] at ref
    simp only [Tables.walk, ref]

theorem bodyOrganization_eq (routed : v.Routed) :
    v.bodyOrganization db req = match req.data v.firstField with
      | .uuid u => (v.model.relatedModel v.firstField).bind fun related =>
          (db.byUuid related u).bind fun obj =>
            db.tables.walk related obj v.organizationFieldPath.tail
      | _ => none := by
  unfold ViewSet.bodyOrganization ViewSet.firstField
  split
  · next path => exact absurd path routed.starts
  · next path =>
    rw [path]
    show _ = match req.data .organization with
      | .uuid u => (v.model.relatedModel .organization).bind _
      | _ => none
    rw [routed.direct path]
    cases req.data .organization with
    | uuid u =>
      show (db.byUuid .organization u).map Record.pk =
        (db.byUuid .organization u).bind fun obj => some obj.pk
      cases db.byUuid .organization u <;> rfl
    | missing | null | blank | malformed => rfl
  · next path =>
    rw [path]
    rfl

/-- Where the query names no organization, the body decides. -/
theorem getOrganization_of_not_given (h : ¬ req.organization.given) :
    v.getOrganization db req = v.bodyOrganization db req := by
  unfold ViewSet.getOrganization
  cases given : req.organization with
  | uuid | malformed =>
    rw [given] at h
    exact absurd trivial h
  | missing | null | blank => rfl

/-- The object that the body names, as the path's first step reads it. -/
theorem organizationOf_set (routed : v.Routed) {t : Tables}
    (same : ∀ m ∈ route v.model v.organizationFieldPath, t m = db.tables m)
    {related : Model} {u : Uuid} {obj : Record}
    (step : v.model.relatedModel v.firstField = some related) (found : db.byUuid related u = some obj) :
    v.organizationOf t (r.set v.firstField (some obj.pk)) =
      db.tables.walk related obj v.organizationFieldPath.tail := by
  unfold ViewSet.organizationOf
  cases path : v.organizationFieldPath with
  | nil => exact absurd path routed.starts
  | cons first rest =>
    have head : v.firstField = first := by rw [ViewSet.firstField, path]; rfl
    rw [head] at step ⊢
    have passed : route v.model v.organizationFieldPath = related :: route related rest := by
      rw [path, route, step]
    rw [passed, List.forall_mem_cons] at same
    have here : Table.get (t related) obj.pk = some obj := by
      rw [same.1]
      exact Table.get_of_mem (db.keyed related) (List.mem_of_find?_eq_some found)
    have later : t.walk related obj rest = db.tables.walk related obj rest :=
      Tables.walk_congr same.2
    simp [Tables.walk, Record.set, step, here, later]

/-- A row without the reference has no organization. -/
theorem organizationOf_none (routed : v.Routed) {t : Tables} (null : r.refs v.firstField = none) :
    v.organizationOf t r = none := by
  unfold ViewSet.organizationOf
  cases path : v.organizationFieldPath with
  | nil => exact absurd path routed.starts
  | cons first rest =>
    have head : v.firstField = first := by rw [ViewSet.firstField, path]; rfl
    rw [head] at null
    simp [Tables.walk, null]

/-- What the serializer takes from the body is what `get_organization` finds there. -/
theorem organizationOf_validated (routed : v.Routed) {t : Tables}
    (same : ∀ m ∈ route v.model v.organizationFieldPath, t m = db.tables m)
    {instance? : Option Record} {patch : Bool} {ref : Option Nat}
    (h : v.validated db req instance? patch = .ok (some ref)) :
    v.organizationOf t (v.assign r (some ref)) = v.bodyOrganization db req := by
  rw [bodyOrganization_eq routed]
  unfold ViewSet.validated at h
  cases named : req.data v.firstField with
  | missing =>
    rw [named] at h
    simp only at h
    split at h <;> cases h
  | malformed =>
    rw [named] at h
    cases h
  | null | blank =>
    rw [named] at h
    simp only at h
    split at h <;> cases h
    exact organizationOf_none routed (if_pos rfl)
  | uuid u =>
    rw [named] at h
    simp only at h
    split at h
    · next obj resolved =>
      cases h
      obtain ⟨related, step, found⟩ := Option.bind_eq_some_iff.mp resolved
      simp only [step, found, Option.bind_some]
      exact organizationOf_set routed same step found
    · cases h

/-- The serializer takes nothing from a body that does not name the reference. -/
theorem validated_none {instance? : Option Record} {patch : Bool}
    (h : v.validated db req instance? patch = .ok none) : req.data v.firstField = .missing := by
  unfold ViewSet.validated at h
  cases named : req.data v.firstField with
  | missing => rfl
  | malformed =>
    rw [named] at h
    cases h
  | null | blank | uuid =>
    rw [named] at h
    simp only at h
    split at h <;> cases h

end Requests

/-! ## Rows that go with the object -/

section Companions

variable {v : ViewSet} {db : Db} {g : Grants} {req : Request} {t : Tables} {r r' : Record}
variable {m m' : Model}

theorem writeAll_other {ws : List Written} (other : ∀ w ∈ ws, w.model ≠ m) :
    t.writeAll ws m = t m := by
  induction ws generalizing t with
  | nil => rfl
  | cons w ws ih =>
    rw [List.forall_mem_cons] at other
    exact (ih other.2).trans (if_neg (Ne.symm other.1))

/-- Writes to the table of the viewset and to the jobs leave the tables of the path alone. -/
theorem writeAll_route (t : Tables) (routed : v.Routed) {ws : List Written}
    (own : ∀ w ∈ ws, w.model = v.model ∨ w.model = .job) :
    ∀ m ∈ route v.model v.organizationFieldPath, t.writeAll ws m = t m := by
  intro m hm
  refine writeAll_other ?_
  rintro w hw rfl
  rcases own w hw with model | model
  · rw [model] at hm
    exact routed.away hm
  · rw [model] at hm
    exact routed.job hm

/-- The organization of a row that belongs is there. -/
theorem Belongs.organization (routed : v.Routed) (h : Belongs v v.model db.tables g req r) :
    ∃ codename o organization, v.codename req = some codename ∧
      v.organizationOf db.tables r = some o ∧ codename ∈ g.codenamesFor req.user.pk o ∧
      Table.get (db.tables .organization) o = some organization := by
  obtain ⟨codename, o, resolved, found, held⟩ := h
  obtain ⟨path, ends⟩ := path_ends routed.other
  rw [ends] at found
  obtain ⟨organization, there⟩ := walk_organization found
  refine ⟨codename, o, organization, resolved, ?_, held, there⟩
  rw [ViewSet.organizationOf, routed.path, ends]
  exact found

/-- A row with a key to the organization of one that belongs. -/
theorem Belongs.direct (routed : v.Routed) (h : Belongs v v.model db.tables g req r)
    (path : m.organizationFieldPath = [.organization])
    (key : m.relatedModel .organization = some .organization)
    (same : t .organization = db.tables .organization)
    (ref : r'.refs .organization = v.organizationOf db.tables r) : Belongs v m t g req r' := by
  obtain ⟨codename, o, organization, resolved, found, held, there⟩ := h.organization routed
  refine ⟨codename, o, resolved, ?_, held⟩
  rw [path]
  exact walk_direct key (ref.trans found) (same ▸ there)

/-- A row whose path goes through another is in its organization. -/
theorem walk_through {f : Field} (related : m'.relatedModel f = some m)
    (path : m'.organizationFieldPath = f :: m.organizationFieldPath)
    (refers : r'.refs f = some r.pk) (here : Table.get (t m) r.pk = some r) :
    t.walk m' r' m'.organizationFieldPath = t.walk m r m.organizationFieldPath := by
  rw [path]
  simp [Tables.walk, refers, related, here]

/-- A row keeps its organization where its key to it and the organizations stay. -/
theorem Belongs.keep (path : m.organizationFieldPath = [.organization])
    (same : t .organization = db.tables .organization)
    (ref : r'.refs .organization = r.refs .organization) (h : Belongs v m db.tables g req r) :
    Belongs v m t g req r' := by
  obtain ⟨codename, o, resolved, found, held⟩ := h
  refine ⟨codename, o, resolved, ?_, held⟩
  rw [path] at found ⊢
  have reads : ∀ related, m.relatedModel .organization = some related →
      t related = db.tables related := by
    intro related key
    rw [related_organization key]
    exact same
  simp only [Tables.walk, ref] at found ⊢
  cases key : m.relatedModel .organization with
  | none =>
    rw [key] at found
    exact found
  | some related =>
    rw [key] at found
    simp only [Option.bind_eq_bind, Option.bind_some, reads related key] at found ⊢
    exact found

/-- The job of an action is in the organization of its object. -/
theorem jobs_confined (routed : v.Routed) {ws : List Written}
    (others : ∀ w ∈ ws, w.model ≠ .organization) (h : Belongs v v.model db.tables g req r) :
    ∀ w ∈ v.jobs db req r, Confined v db g req ws w := by
  intro w hw
  unfold ViewSet.jobs at hw
  split at hw
  · cases List.mem_singleton.mp hw
    refine ⟨nofun, ?_⟩
    rintro job ⟨⟩
    exact h.direct routed rfl rfl (writeAll_other others) rfl
  · cases hw

theorem model_of_jobs {w : Written} (hw : w ∈ v.jobs db req r) : w.model = .job := by
  unfold ViewSet.jobs at hw
  split at hw
  · cases List.mem_singleton.mp hw
    rfl
  · cases hw

end Companions

/-! ## The theorem -/

section Confinement

variable {v : ViewSet} {db : Db} {g : Grants} {req : Request} {ws : List Written}

theorem ok_of_valid {b : Bool} {x : Except Denial (List Written)}
    (h : (if b then x else .error .invalid) = .ok ws) : x = .ok ws := by
  split at h
  · exact h
  · cases h

/-- A row without a key at the start of its path is put where the validated data says. -/
theorem organizationOf_assigned (routed : v.Routed) {t : Tables} {r : Record} {instance? : Option Record}
    {patch : Bool} {ref : Option (Option Nat)}
    (same : ∀ m ∈ route v.model v.organizationFieldPath, t m = db.tables m)
    (null : r.refs v.firstField = none) (validated : v.validated db req instance? patch = .ok ref) :
    v.organizationOf t (v.assign r ref) = v.bodyOrganization db req := by
  cases ref with
  | some ref => exact organizationOf_validated routed same validated
  | none =>
    rw [bodyOrganization_eq routed, validated_none validated]
    exact organizationOf_none routed null

/-- A new row is where the body puts it. -/
theorem create_confined_iff (routed : v.Routed) (ordinary : req.user.isSuperuser = false)
    (authenticated : req.user.isAuthenticated = true) (action : req.action = .create)
    (h : v.perform db g req = .ok ws) :
    (∀ w ∈ ws, Confined v db g req ws w) ↔ HeldInBody v db g req := by
  simp only [ViewSet.perform, action] at h
  obtain ⟨ref, validated, h⟩ := bind_eq_ok h
  obtain rfl := Except.ok.inj (ok_of_valid h)
  have place := fun (r : Record) (t : Tables) same null =>
    organizationOf_assigned (t := t) (r := r) routed same null validated
  generalize new : v.amend req { pk := Table.nextPk (db.tables v.model), uuid := req.drawn } = r
  have null : r.refs v.firstField = none := by
    rw [← new]
    exact if_pos rfl
  have own : ∀ w ∈ (⟨v.model, none, some (v.assign r ref)⟩ ::
      v.jobs db req (v.assign r ref) : List Written), w.model = v.model ∨ w.model = .job :=
    List.forall_mem_cons.mpr ⟨.inl rfl, fun w hw => .inr (model_of_jobs hw)⟩
  constructor
  · intro confined
    have after := (confined _ List.mem_cons_self).after _ rfl
    rw [belongs_iff routed ordinary authenticated,
      place r _ (writeAll_route db.tables routed own) null] at after
    exact after
  · intro held
    refine List.forall_mem_cons.mpr ⟨⟨nofun, ?_⟩, jobs_confined routed ?_ ?_⟩
    · rintro r' ⟨⟩
      rw [belongs_iff routed ordinary authenticated,
        place r _ (writeAll_route db.tables routed own) null]
      exact held
    · intro w hw
      rcases own w hw with model | model
      · rw [model]
        exact routed.other
      · rw [model]
        nofun
    · rw [belongs_iff routed ordinary authenticated, place r _ (fun _ _ => rfl) null]
      exact held

/-- A row that was handed out belongs. -/
theorem getObject_belongs (routed : v.Routed) (ordinary : req.user.isSuperuser = false)
    (authenticated : req.user.isAuthenticated = true) {r : Record}
    (h : v.getObject db g req = .ok r) : Belongs v v.model db.tables g req r := by
  rw [belongs_iff routed ordinary authenticated]
  exact getObject_ok h

/-- What is handed out is in the table of the viewset. -/
theorem mem_of_getObject {r : Record} (h : v.getObject db g req = .ok r) : r ∈ db.tables v.model := by
  unfold ViewSet.getObject at h
  split at h
  · cases h
  · next found =>
    split at h
    · cases h
      have listed := List.mem_of_find?_eq_some found
      unfold ViewSet.getQueryset at listed
      split at listed
      · exact listed
      · exact (List.mem_filter.mp listed).1
    · cases h

/-- One row of the viewset's own table leaves the tables of the path alone. -/
theorem write_route (t : Tables) (routed : v.Routed) (before after : Option Record) :
    ∀ m ∈ route v.model v.organizationFieldPath,
      t.writeAll [⟨v.model, before, after⟩] m = t m :=
  writeAll_route t routed (List.forall_mem_singleton.mpr (.inl rfl))

/-- A write that leaves the reference of its object where it is. -/
theorem confined_of_object (routed : v.Routed) {r r' : Record}
    (object : Belongs v v.model db.tables g req r)
    (ref : r'.refs v.firstField = r.refs v.firstField) :
    ∀ w ∈ ([⟨v.model, some r, some r'⟩] : List Written),
      Confined v db g req [⟨v.model, some r, some r'⟩] w := by
  refine List.forall_mem_singleton.mpr ⟨?_, ?_⟩
  · rintro _ ⟨⟩
    exact object
  · rintro _ ⟨⟩
    have same := write_route db.tables routed (some r) (some r')
    have stays := organizationOf_congr routed same ref
    unfold ViewSet.organizationOf at stays
    obtain ⟨codename, o, resolved, found, held⟩ := object
    refine ⟨codename, o, resolved, ?_, held⟩
    rw [← routed.path] at found ⊢
    exact stays.trans found

/-- A row that is updated stays, or goes where the body puts it. -/
theorem update_confined_iff (routed : v.Routed) (ordinary : req.user.isSuperuser = false)
    (authenticated : req.user.isAuthenticated = true)
    (action : req.action = .update ∨ req.action = .partialUpdate)
    (h : v.perform db g req = .ok ws) :
    (∀ w ∈ ws, Confined v db g req ws w) ↔
      req.data v.firstField = .missing ∨ HeldInBody v db g req := by
  obtain ⟨r, object, ref, patch, validated, rfl⟩ : ∃ r, v.getObject db g req = .ok r ∧
      ∃ ref patch, v.validated db req (some r) patch = .ok ref ∧
        [⟨v.model, some r, some (v.assign (v.amend req r) ref)⟩] = ws := by
    rcases action with action | action <;> simp only [ViewSet.perform, action] at h <;>
      obtain ⟨r, object, h⟩ := bind_eq_ok h <;> obtain ⟨ref, validated, h⟩ := bind_eq_ok h <;>
      exact ⟨r, object, ref, _, validated, Except.ok.inj (ok_of_valid h)⟩
  have before := getObject_belongs routed ordinary authenticated object
  cases ref with
  | none =>
    refine iff_of_true ?_ (.inl (validated_none validated))
    exact confined_of_object routed before (if_pos rfl)
  | some ref =>
    have same := write_route db.tables routed (some r)
      (some (v.assign (v.amend req r) (some ref)))
    have place := organizationOf_validated (r := v.amend req r) routed same validated
    have named : req.data v.firstField ≠ .missing := by
      intro missing
      simp only [ViewSet.validated, missing] at validated
      split at validated <;> cases validated
    constructor
    · intro confined
      have after := (confined _ List.mem_cons_self).after _ rfl
      rw [belongs_iff routed ordinary authenticated, place] at after
      exact .inr after
    · intro condition
      refine List.forall_mem_singleton.mpr ⟨?_, ?_⟩
      · rintro _ ⟨⟩
        exact before
      · rintro _ ⟨⟩
        rw [belongs_iff routed ordinary authenticated, place]
        exact condition.resolve_left named

/-! ### Deletion -/

/-- What a deletion takes along belongs, if what has an organization of its own does. The induction
is on the steps of CASCADE. -/
theorem taken_belongs {r : Record} (mem : r ∈ db.tables v.model)
    (object : Belongs v v.model db.tables g req r) (below : HeldBelow v db g req r)
    {x : Model × Record} (h : ReflTransGen (Cascades db.tables) (v.model, r) x) :
    Belongs v x.1 db.tables g req x.2 := by
  induction h with
  | refl => exact object
  | @tail y z first last ih =>
    have reached : TransGen (Cascades db.tables) (v.model, r) z := TransGen.tail' first last
    have here := Table.get_of_mem (db.keyed y.1) (mem_of_cascades first mem)
    obtain ⟨-, related, cascade, refers⟩ := last
    rcases path_of_cascade related cascade with own | through
    · exact below.taken _ reached own
    · obtain ⟨codename, o, resolved, found, held⟩ := ih
      refine ⟨codename, o, resolved, ?_, held⟩
      rw [walk_through related through refers here]
      exact found

/-- The rows that a deletion writes when it takes these rows: the job, the references that are
released, and the rows themselves. -/
def deletion (v : ViewSet) (db : Db) (req : Request) (r : Record) (deleted : List (Model × Record)) :
    List Written :=
  v.jobs db req r ++ (deleted.flatMap fun x => db.tables.released x.1 x.2) ++
    deleted.map fun x => ⟨x.1, some x.2, none⟩

theorem mem_deletion {r : Record} {deleted : List (Model × Record)} {w : Written} :
    w ∈ deletion v db req r deleted ↔ w ∈ v.jobs db req r ∨
      (∃ x ∈ deleted, ∃ y ∈ db.tables.referring .setNull x.1 x.2,
        w = ⟨y.model, some y.row, some (y.row.set y.field none)⟩) ∨
      ∃ x ∈ deleted, w = ⟨x.1, some x.2, none⟩ := by
  simp only [deletion, Tables.released, List.mem_append, List.mem_flatMap, List.mem_map, or_assoc, eq_comm]

section Deletion

variable {r : Record} {deleted : List (Model × Record)}
  (taken : ∀ x, x ∈ deleted ↔ ReflTransGen (Cascades db.tables) (v.model, r) x)

include taken

/-- No deletion of a viewset writes an organization. -/
theorem deletion_others (routed : v.Routed) :
    ∀ w ∈ deletion v db req r deleted, w.model ≠ .organization := by
  intro w hw
  rcases mem_deletion.mp hw with job | ⟨x, -, y, hy, rfl⟩ | ⟨x, hx, rfl⟩
  · rw [model_of_jobs job]
    nofun
  · exact ne_organization_of_related (mem_referring.mp hy).2.1
  · exact ne_organization_of_cascades ((taken x).mp hx) routed.other

/-- A deletion is confined where what it takes along and what it releases is. -/
theorem deletion_confined_iff (routed : v.Routed) (mem : r ∈ db.tables v.model)
    (object : Belongs v v.model db.tables g req r) :
    (∀ w ∈ deletion v db req r deleted, Confined v db g req (deletion v db req r deleted) w) ↔
      HeldBelow v db g req r := by
  constructor
  · intro confined
    refine ⟨fun x below _ => ?_, fun x below y hy => ?_⟩
    · have gone : ⟨x.1, some x.2, none⟩ ∈ deletion v db req r deleted :=
        mem_deletion.mpr (.inr (.inr ⟨x, (taken x).mpr below.to_reflTransGen, rfl⟩))
      exact (confined _ gone).before _ rfl
    · have released : ⟨y.model, some y.row, some (y.row.set y.field none)⟩ ∈ deletion v db req r deleted :=
        mem_deletion.mpr (.inr (.inl ⟨x, (taken x).mpr below, y, hy, rfl⟩))
      exact (confined _ released).before _ rfl
  · intro below w hw
    have others : ∀ w ∈ deletion v db req r deleted, w.model ≠ .organization := deletion_others taken routed
    rcases mem_deletion.mp hw with job | ⟨x, hx, y, hy, rfl⟩ | ⟨x, hx, rfl⟩
    · exact jobs_confined routed others object w job
    · obtain ⟨-, related, setNull, -⟩ := mem_referring.mp hy
      obtain ⟨path, other⟩ := path_of_setNull related setNull
      have before := below.released x ((taken x).mp hx) y hy
      refine ⟨?_, ?_⟩
      · rintro _ ⟨⟩
        exact before
      · rintro _ ⟨⟩
        exact before.keep path (writeAll_other others) (if_neg (Ne.symm other))
    · refine ⟨?_, nofun⟩
      rintro _ ⟨⟩
      exact taken_belongs mem object below ((taken x).mp hx)

end Deletion

/-- A deletion is confined where what goes with the object is. -/
theorem destroy_confined_iff (routed : v.Routed) (ordinary : req.user.isSuperuser = false)
    (authenticated : req.user.isAuthenticated = true) (action : req.action = .destroy)
    (h : v.perform db g req = .ok ws) :
    (∀ w ∈ ws, Confined v db g req ws w) ↔ (v.marksDeleted = false →
      ∀ object, v.getObject db g req = .ok object → HeldBelow v db g req object) := by
  simp only [ViewSet.perform, action] at h
  obtain ⟨r, found, h⟩ := bind_eq_ok h
  have object := getObject_belongs routed ordinary authenticated found
  have removed := ok_of_valid h
  unfold ViewSet.removed at removed
  split at removed
  · next marks =>
    obtain rfl := Except.ok.inj removed
    refine iff_of_true (confined_of_object routed object rfl) ?_
    intro unmarked
    rw [unmarked] at marks
    cases marks
  · next unmarked =>
    dsimp only at removed
    split at removed
    · obtain rfl := Except.ok.inj removed
      have only : (v.marksDeleted = false → ∀ object, v.getObject db g req = .ok object →
          HeldBelow v db g req object) ↔ HeldBelow v db g req r := by
        refine ⟨fun h => h (by simpa using unmarked) r found, ?_⟩
        rintro below - object found'
        cases found.symm.trans found'
        exact below
      rw [only]
      exact deletion_confined_iff (fun x => mem_collect_iff (Nat.le_refl _)) routed
        (mem_of_getObject found) object
    · cases removed

/-! ### The other actions -/

/-- The actions that make rows of other tables are those of one viewset each. -/
theorem model_of_codename (listed : v ∈ organizationScoped) {codename : String}
    (resolved : v.codename req = some codename) :
    (req.action = .allocate ∨ req.action = .reserve → v.model = .subnet) ∧
      (req.action = .deploy → v.model = .template) := by
  have all : ∀ v ∈ organizationScoped,
      ((v.permissionMap.lookup .allocate).isSome → v.model = .subnet) ∧
      ((v.permissionMap.lookup .reserve).isSome → v.model = .subnet) ∧
      ((v.permissionMap.lookup .deploy).isSome → v.model = .template) := by decide
  obtain ⟨allocate, reserve, deploy⟩ := all v listed
  unfold ViewSet.codename at resolved
  refine ⟨?_, ?_⟩
  · rintro (action | action) <;> rw [action] at resolved
    · exact allocate (by simp [resolved])
    · exact reserve (by simp [resolved])
  · intro action
    rw [action] at resolved
    exact deploy (by simp [resolved])

theorem addressOf_refs (db : Db) (req : Request) (subnet : Record) :
    ∃ before after, ViewSet.addressOf db req subnet = ⟨.ipAddress, before, some after⟩ ∧
      (∀ a ∈ before, a.refs .subnet = some subnet.pk) ∧ after.refs .subnet = some subnet.pk := by
  unfold ViewSet.addressOf
  split
  · next a found =>
    have chosen := List.find?_some found
    have refers : a.refs .subnet = some subnet.pk := (of_decide_eq_true chosen).1
    refine ⟨some a, a, rfl, ?_, refers⟩
    rintro _ ⟨⟩
    exact refers
  · exact ⟨none, _, rfl, nofun, rfl⟩

/-- An address is in the organization of its subnet. -/
theorem address_confined {r : Record} (model : v.model = .subnet) (mem : r ∈ db.tables v.model)
    (object : Belongs v v.model db.tables g req r) :
    ∀ w ∈ [ViewSet.addressOf db req r], Confined v db g req [ViewSet.addressOf db req r] w := by
  rw [model] at mem object
  obtain ⟨before, after, shape, left, right⟩ := addressOf_refs db req r
  rw [shape]
  have here : Table.get (db.tables .subnet) r.pk = some r := Table.get_of_mem (db.keyed _) mem
  have others : ∀ m, m ≠ .ipAddress →
      db.tables.writeAll [⟨.ipAddress, before, some after⟩] m = db.tables m := by
    intro m other
    exact writeAll_other (List.forall_mem_singleton.mpr (Ne.symm other))
  obtain ⟨codename, o, resolved, found, held⟩ := object
  refine List.forall_mem_singleton.mpr ⟨?_, ?_⟩
  · intro a ha
    refine ⟨codename, o, resolved, ?_, held⟩
    exact (walk_through (f := .subnet) rfl rfl (left a ha) here).trans found
  · rintro _ ⟨⟩
    refine ⟨codename, o, resolved, ?_, held⟩
    rw [← others .subnet nofun] at here
    refine (walk_through (f := .subnet) rfl rfl right here).trans (Eq.trans ?_ found)
    refine Tables.walk_congr ?_
    intro m hm
    refine others m ?_
    rintro rfl
    exact absurd hm (by decide)

/-- The VM that a template is deployed as is in the organization of the template, and so is its
job. -/
theorem deployed_confined (routed : v.Routed) {r : Record} (model : v.model = .template)
    (object : Belongs v v.model db.tables g req r) (h : ViewSet.deployed db req r = .ok ws) :
    ∀ w ∈ ws, Confined v db g req ws w := by
  have ref : r.refs .organization = v.organizationOf db.tables r := by
    obtain ⟨codename, o, organization, -, found, -, -⟩ := object.organization routed
    rw [found]
    rw [ViewSet.organizationOf, routed.path, model] at found
    obtain ⟨pk, own, found⟩ := Option.bind_eq_some_iff.mp found
    obtain ⟨related, -, found⟩ := Option.bind_eq_some_iff.mp found
    obtain ⟨next, there, found⟩ := Option.bind_eq_some_iff.mp found
    cases found
    rw [own, show next.pk = pk from Table.pk_of_get there]
  unfold ViewSet.deployed at h
  split at h
  · split at h
    · obtain rfl := Except.ok.inj h
      refine List.forall_mem_cons.mpr ⟨⟨nofun, ?_⟩, List.forall_mem_singleton.mpr ⟨nofun, ?_⟩⟩
      · rintro _ ⟨⟩
        exact object.direct routed rfl rfl rfl ref
      · rintro _ ⟨⟩
        exact object.direct routed rfl rfl rfl ref
    · cases h
  · cases h

/-- The other actions write where their object is. -/
theorem detail_confined (listed : v ∈ organizationScoped) (routed : v.Routed)
    (ordinary : req.user.isSuperuser = false) (authenticated : req.user.isAuthenticated = true)
    {codename : String} (resolved : v.codename req = some codename)
    (create : req.action ≠ .create) (update : req.action ≠ .update)
    (partialUpdate : req.action ≠ .partialUpdate) (destroy : req.action ≠ .destroy)
    (h : v.perform db g req = .ok ws) : ∀ w ∈ ws, Confined v db g req ws w := by
  obtain ⟨subnet, template⟩ := model_of_codename listed resolved
  have object : ∀ {r}, v.getObject db g req = .ok r → Belongs v v.model db.tables g req r :=
    getObject_belongs routed ordinary authenticated
  have jobs : ∀ {r}, v.getObject db g req = .ok r →
      ∀ w ∈ v.jobs db req r, Confined v db g req (v.jobs db req r) w := by
    intro r found
    refine jobs_confined routed ?_ (object found)
    intro w hw
    rw [model_of_jobs hw]
    nofun
  unfold ViewSet.perform at h
  split at h
  · cases h
    exact nofun
  · next action => exact absurd action create
  · next action => exact absurd action update
  · next action => exact absurd action partialUpdate
  · next action => exact absurd action destroy
  all_goals obtain ⟨r, found, h⟩ := bind_eq_ok h
  -- `release` and `maintenance`
  · obtain rfl := Except.ok.inj (ok_of_valid h)
    exact confined_of_object routed (object found) rfl
  · obtain rfl := Except.ok.inj (ok_of_valid h)
    exact confined_of_object routed (object found) rfl
  -- `allocate` and `reserve`
  · next action _ =>
    obtain rfl := Except.ok.inj (ok_of_valid h)
    exact address_confined (subnet (.inl action)) (mem_of_getObject found) (object found)
  · next action _ =>
    obtain rfl := Except.ok.inj (ok_of_valid h)
    exact address_confined (subnet (.inr action)) (mem_of_getObject found) (object found)
  -- `rollback` and `restore`
  · obtain rfl := Except.ok.inj (ok_of_valid h)
    exact jobs found
  · obtain rfl := Except.ok.inj (ok_of_valid h)
    exact jobs found
  · next action _ =>
    exact deployed_confined routed (template action) (object found) (ok_of_valid h)
  · cases h
    exact nofun

/-- **Writes are confined exactly where neither the body nor a deletion leaves the user's
organizations.** For every request of an ordinary user that a viewset with the default
`get_organization` admits: the rows it writes belong, before and after, to organizations in which
the user holds the action's codename if and only if the request meets the condition. -/
theorem admitted_confined_iff (v : ViewSet) (listed : v ∈ organizationScoped) (db : Db) (g : Grants)
    (req : Request) (ordinary : req.user.isSuperuser = false) (ws : List Written)
    (admitted : v.dispatch db g req = .ok ws) :
    (∀ w ∈ ws, Confined v db g req ws w) ↔ OwnScope v db g req := by
  have routed := routed_of_scoped listed
  obtain ⟨⟨authenticated, codename, resolved, permitted⟩, performed⟩ := dispatch_ok admitted
  unfold OwnScope
  split
  · next action =>
    rw [create_confined_iff routed ordinary authenticated action performed]
    refine ⟨.inr, ?_⟩
    intro condition
    rcases condition with unnamed | held
    · -- without an organization in the query the body decided
      rw [getOrganization_of_not_given unnamed, action] at permitted
      exact ⟨codename, resolved, permitted.resolve_left (by decide)⟩
    · exact held
  · next action =>
    exact update_confined_iff routed ordinary authenticated (.inl action) performed
  · next action =>
    exact update_confined_iff routed ordinary authenticated (.inr action) performed
  · next action =>
    exact destroy_confined_iff routed ordinary authenticated action performed
  · next create update partialUpdate destroy =>
    exact iff_of_true (detail_confined listed routed ordinary authenticated resolved create update
      partialUpdate destroy performed) trivial

/-- Organizations 1 and 2, with a node each. -/
def twoTenants : Db where
  tables
    | .organization => [{ pk := 1, uuid := ⟨1⟩ }, { pk := 2, uuid := ⟨2⟩ }]
    | .node =>
      [{ pk := 1, uuid := ⟨11⟩, refs := fun _ => some 1 },
        { pk := 2, uuid := ⟨12⟩, refs := fun _ => some 2 }]
    | _ => []
  keyed := by
    intro m
    cases m <;> decide

/-- A member of organization 1 who holds a permission in organization 2 only. -/
def managesSecond : Grants where
  assignments := [{ user := 7, organization := 2, codenames := ["storage.manage"] }]
  memberships := [(7, 1)]

/-- `POST /storages/?organization=<2>` with a node in the body. -/
def createPool (node : Uuid) : Request where
  user := { pk := 7 }
  action := .create
  organization := .uuid ⟨2⟩
  data := fun _ => .uuid node

theorem admitted_confined_iff_own_node :
    ∃ ws, storagePoolViewSet.dispatch twoTenants managesSecond (createPool ⟨12⟩) = .ok ws ∧
      ws.map Written.model = [.storagePool, .job] ∧
      ∀ w ∈ ws, Confined storagePoolViewSet twoTenants managesSecond (createPool ⟨12⟩) ws w :=
  ⟨_, rfl, rfl, (admitted_confined_iff storagePoolViewSet (by simp [organizationScoped]) _ _ _ rfl _
    rfl).mpr (.inr ⟨"storage.manage", rfl, rfl⟩)⟩

/-- The permission held in organization 2 is borrowed for a pool on a node of organization 1. -/
theorem createPool_borrows_permission :
    ∃ r job, storagePoolViewSet.dispatch twoTenants managesSecond (createPool ⟨11⟩) =
        .ok [⟨.storagePool, none, some r⟩, job] ∧
      storagePoolViewSet.organizationOf
        (twoTenants.tables.writeAll [⟨.storagePool, none, some r⟩, job]) r = some 1 ∧
      managesSecond.codenamesFor 7 1 = [] ∧
      ¬ Confined storagePoolViewSet twoTenants managesSecond (createPool ⟨11⟩)
        [⟨.storagePool, none, some r⟩, job] ⟨.storagePool, none, some r⟩ := by
  refine ⟨_, _, rfl, rfl, by decide, ?_⟩
  intro confined
  obtain ⟨codename, organization, -, place, held⟩ := confined.after _ rfl
  cases place
  exact absurd held (List.not_mem_nil)

/-- A target of organization 2, and a schedule of organization 1 that uses it. -/
def sharedTarget : Db where
  tables
    | .organization => [{ pk := 1, uuid := ⟨1⟩ }, { pk := 2, uuid := ⟨2⟩ }]
    | .backupTarget => [{ pk := 1, uuid := ⟨21⟩, refs := fun _ => some 2 }]
    | .backupSchedule => [{ pk := 1, uuid := ⟨31⟩, refs := fun _ => some 1 }]
    | _ => []
  keyed := by
    intro m
    cases m <;> decide

/-- The target is deleted by a user of organization 2, and the schedule goes with it. -/
example : (backupTargetViewSet.dispatch sharedTarget
      { assignments := [{ user := 7, organization := 2, codenames := ["backup.delete"] }]
        memberships := [(7, 2)] }
      { user := { pk := 7 }, action := .destroy, lookup := ⟨21⟩ }).map
      (·.map fun w => (w.model, w.before.map Record.uuid, w.after.isSome)) =
    .ok [(.backupTarget, some ⟨21⟩, false), (.backupSchedule, some ⟨31⟩, false)] := rfl

end Confinement

end NodePilot.Access
