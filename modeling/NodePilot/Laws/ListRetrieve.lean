import Mathlib.Data.List.Nodup
import NodePilot.Listings

/-!
# Lists against single objects

A list leaves out the organizations in which the user does not hold the codename, and an object asks for the
codename in its own organization, so the two agree wherever the path of an object ends at an organization.
It does not for an organization itself, whose path ends at an id, and for a role that has none.
-/

namespace NodePilot.Access

open Lib

variable {db : PublicDb} {g : Grants} {user : User} {scopes : Option Json} {r : Record}

/-! ## Objects that hang off an organization -/

section Objects

variable {v : ViewSet}

/-- The user belongs to the object's organization and may do there what the codename stands for. -/
def Holds (db : PublicDb) (g : Grants) (user : User) (v : ViewSet) (r : Record) (codename : String) : Prop :=
  ∃ organization, v.organizationOf db.tables r = some organization ∧
    (user.pk, organization) ∈ g.memberships ∧
      g.hasPermission user (some organization) codename = true

/-- The object is a row that belongs to no organization, and the query includes those. -/
def Global (v : ViewSet) (r : Record) : Prop := v.globalRows = true ∧ r.refs .organization = none

theorem mem_listQuery (ordinary : user.isSuperuser = false) (there : r ∈ db.tables v.model)
    {codename : String} (listed : v.permissionMap.lookup .list = some codename) :
    r ∈ (ScopedView.objects v).getQueryset db g user scopes .list ↔
      Holds db g user v r codename ∨ Global v r := by
  simp only [ScopedView.getQueryset, ViewSet.getQueryset, ordinary, listed, List.mem_filter, there,
    Bool.or_eq_true, Bool.and_eq_true, Option.isNone_iff_eq_none, Global, Bool.false_eq_true, if_false,
    true_and, Grants.organizationsWithPermission]
  refine or_congr ?_ Iff.rfl
  unfold Holds
  cases v.organizationOf db.tables r with
  | none => simp
  | some o => simp

theorem mem_retrieveQuery (ordinary : user.isSuperuser = false) (there : r ∈ db.tables v.model) :
    r ∈ (ScopedView.objects v).getQueryset db g user scopes .retrieve ↔
      (∃ organization, v.organizationOf db.tables r = some organization ∧
        (user.pk, organization) ∈ g.memberships) ∨ Global v r := by
  simp only [ScopedView.getQueryset, ViewSet.getQueryset, ordinary, List.mem_filter, there,
    Bool.or_eq_true, Bool.and_eq_true, Option.isNone_iff_eq_none, Global, Bool.false_eq_true, if_false,
    true_and]
  refine or_congr ?_ Iff.rfl
  cases v.organizationOf db.tables r with
  | none => simp
  | some o => simp

end Objects

/-! ## Requests -/

section Requests

variable {view : ScopedView}

theorem entered_iff {action : Action} : view.entered g user scopes action = true ↔
    user.isAuthenticated = true ∧ ∃ codename, view.permissionMap.lookup action = some codename ∧
      tokenPermits scopes codename = true := by
  simp [ScopedView.entered, hasResourcePermission_iff]

theorem listed_iff : view.Listed db g user scopes r ↔
    view.entered g user scopes .list = true ∧ r ∈ view.getQueryset db g user scopes .list := by
  unfold ScopedView.Listed ScopedView.list
  by_cases entered : view.entered g user scopes .list = true <;> simp [entered]

theorem queryset_subset {action : Action} {x : Record}
    (h : x ∈ view.getQueryset db g user scopes action) : x ∈ db.tables view.model := by
  cases view with
  | objects v =>
    simp only [ScopedView.getQueryset, ViewSet.getQueryset] at h
    split at h
    · exact h
    · exact (List.mem_filter.mp h).1
  | organizations =>
    simp only [ScopedView.getQueryset] at h
    split at h
    · exact h
    · exact (List.mem_filter.mp h).1

/-- No other row has the identifier. -/
theorem eq_of_uuid {x : Record} (inside : x ∈ db.tables view.model) (there : r ∈ db.tables view.model)
    (same : x.uuid = r.uuid) : x = r :=
  List.inj_on_of_nodup_map (db.identified view.model) inside there same

theorem find_of_mem {action : Action} (mem : r ∈ view.getQueryset db g user scopes action) :
    (view.getQueryset db g user scopes action).find? (·.uuid = r.uuid) = some r := by
  cases found : (view.getQueryset db g user scopes action).find? (·.uuid = r.uuid) with
  | none => exact absurd (List.find?_eq_none.mp found r mem) (by simp)
  | some x =>
    have same : x.uuid = r.uuid := by simpa using List.find?_some found
    rw [eq_of_uuid (queryset_subset (List.mem_of_find?_eq_some found)) (queryset_subset mem) same]

theorem find_of_notMem {action : Action} (there : r ∈ db.tables view.model)
    (missing : r ∉ view.getQueryset db g user scopes action) :
    (view.getQueryset db g user scopes action).find? (·.uuid = r.uuid) = none := by
  refine List.find?_eq_none.mpr fun x mem same => missing ?_
  rw [← eq_of_uuid (queryset_subset mem) there (by simpa using same)]
  exact mem

theorem admitted_iff (there : r ∈ db.tables view.model) : view.Admitted db g user scopes r ↔
    view.entered g user scopes .retrieve = true ∧ r ∈ view.getQueryset db g user scopes .retrieve ∧
      ∃ allowed, view.objectPermission db g user scopes r = .ok allowed ∧ allowed = true := by
  unfold ScopedView.Admitted ScopedView.retrieve
  by_cases entered : view.entered g user scopes .retrieve = true
  · by_cases mem : r ∈ view.getQueryset db g user scopes .retrieve
    · rw [find_of_mem mem]
      cases permission : view.objectPermission db g user scopes r with
      | error e => simp [entered, permission, bind, Except.bind]
      | ok allowed => cases allowed <;> simp [entered, mem, permission, bind, Except.bind]
    · rw [find_of_notMem there mem]
      simp [entered, mem]
  · simp [entered]

end Requests

/-! ## Where they agree -/

/-- The list shows an object that is never retrieved: an organization the user belongs to, or a role of no
organization. -/
def ShownOnly (view : ScopedView) (g : Grants) (user : User) (scopes : Option Json) (r : Record) : Prop :=
  user.isAuthenticated = true ∧ tokenPermits scopes "organization.manage" = true ∧
    match view with
    | .organizations => (user.pk, r.pk) ∈ g.memberships
    | .objects v => Global v r

/-- What the declarations have in common. -/
structure Declared (v : ViewSet) : Prop where
  same : v.permissionMap.lookup .retrieve = v.permissionMap.lookup .list
  globals : v.globalRows = true → v.organizationFieldPath = [.organization] ∧
    v.permissionMap.lookup .list = some "organization.manage"

theorem declared {v : ViewSet} (h : ScopedView.objects v ∈ scopedViews) : Declared v := by
  have all : ∀ v ∈ hangingOff, v.permissionMap.lookup .retrieve = v.permissionMap.lookup .list ∧
      (v.globalRows = true → v.organizationFieldPath = [.organization] ∧
        v.permissionMap.lookup .list = some "organization.manage") := by decide
  obtain ⟨same, globals⟩ := all v (by simpa [scopedViews] using h)
  exact ⟨same, globals⟩

/-- An object of no organization is not permitted to anyone but a superuser. -/
theorem organizationOf_global {v : ViewSet} (declared : Declared v) (none : Global v r) :
    v.organizationOf db.tables r = .none := by
  unfold ViewSet.organizationOf
  rw [(declared.globals none.1).1]
  simp [Tables.walk, none.2]

/-- An object that hangs off an organization is retrieved by those who hold the codename there. -/
theorem objects_admitted_iff {v : ViewSet} (declared : Declared v) (ordinary : user.isSuperuser = false)
    (there : r ∈ db.tables v.model) : (ScopedView.objects v).Admitted db g user scopes r ↔
      user.isAuthenticated = true ∧ ∃ codename, v.permissionMap.lookup .list = some codename ∧
        tokenPermits scopes codename = true ∧ Holds db g user v r codename := by
  rw [admitted_iff there, entered_iff, mem_retrieveQuery ordinary there]
  have permission (allowed : Bool) :
      (ScopedView.objects v).objectPermission db g user scopes r = .ok allowed ↔
        hasObjectPermission g user scopes (v.permissionMap.lookup .retrieve)
          (v.organizationOf db.tables r) = allowed := by
    simp [ScopedView.objectPermission, ScopedView.permissionMap]
  simp only [permission, exists_eq_left', hasObjectPermission_iff, ScopedView.permissionMap, declared.same]
  constructor
  · rintro ⟨⟨authenticated, codename, listed, permits⟩, member, codename', listed', -, may⟩
    rw [listed] at listed'
    cases listed'
    refine ⟨authenticated, codename, listed, permits, ?_⟩
    rcases member with ⟨o, found, member⟩ | none
    · exact ⟨o, found, member, found ▸ may⟩
    · rw [organizationOf_global declared none] at may
      obtain ⟨o, absent, -⟩ := (hasPermission_iff ordinary authenticated).mp may
      cases absent
  · rintro ⟨authenticated, codename, listed, permits, o, found, member, may⟩
    exact ⟨⟨authenticated, codename, listed, permits⟩, .inl ⟨o, found, member⟩, codename, listed, permits,
      found ▸ may⟩

theorem objects_listed_iff {v : ViewSet} (ordinary : user.isSuperuser = false)
    (there : r ∈ db.tables v.model) : (ScopedView.objects v).Listed db g user scopes r ↔
      user.isAuthenticated = true ∧ ∃ codename, v.permissionMap.lookup .list = some codename ∧
        tokenPermits scopes codename = true ∧ (Holds db g user v r codename ∨ Global v r) := by
  rw [listed_iff, entered_iff]
  constructor
  · rintro ⟨⟨authenticated, codename, listed, permits⟩, mem⟩
    exact ⟨authenticated, codename, listed, permits, (mem_listQuery ordinary there listed).mp mem⟩
  · rintro ⟨authenticated, codename, listed, permits, shown⟩
    exact ⟨⟨authenticated, codename, listed, permits⟩, (mem_listQuery ordinary there listed).mpr shown⟩

/-- **An organization is never retrieved by an ordinary user.** -/
theorem organizations_not_admitted (ordinary : user.isSuperuser = false)
    (there : r ∈ db.tables .organization) : ¬ ScopedView.organizations.Admitted db g user scopes r := by
  rw [@admitted_iff _ _ _ _ _ .organizations there]
  rintro ⟨entered, -, allowed, permission, rfl⟩
  obtain ⟨authenticated, codename, listed, permits⟩ := entered_iff.mp entered
  have fails : ScopedView.organizations.objectPermission db g user scopes r = .error .attributeError := by
    simp only [ScopedView.objectPermission, listed, permits, authenticated, ordinary]
    rfl
  rw [fails] at permission
  cases permission

theorem organizations_listed_iff (ordinary : user.isSuperuser = false)
    (there : r ∈ db.tables .organization) : ScopedView.organizations.Listed db g user scopes r ↔
      user.isAuthenticated = true ∧ tokenPermits scopes "organization.manage" = true ∧
        (user.pk, r.pk) ∈ g.memberships := by
  have codename : ScopedView.organizations.permissionMap.lookup .list = some "organization.manage" := rfl
  rw [listed_iff, entered_iff, codename]
  simp [ScopedView.getQueryset, ordinary, there, and_assoc]

/-- **An object is listed exactly if it can be retrieved, unless it is an organization that the user belongs
to or a role of no organization** and the list is not refused. -/
theorem listed_iff_admitted (view : ScopedView) (declares : view ∈ scopedViews) (db : PublicDb) (g : Grants)
    (user : User) (ordinary : user.isSuperuser = false) (scopes : Option Json) (r : Record)
    (there : r ∈ db.tables view.model) :
    (view.Listed db g user scopes r ↔ view.Admitted db g user scopes r) ↔
      ¬ ShownOnly view g user scopes r := by
  cases view with
  | organizations =>
    simp only [organizations_not_admitted ordinary there, iff_false, organizations_listed_iff ordinary there,
      ShownOnly]
  | objects v =>
    have declared := declared declares
    rw [objects_listed_iff ordinary there, objects_admitted_iff declared ordinary there]
    constructor
    · rintro agree ⟨authenticated, permits, none⟩
      have listed := (declared.globals none.1).2
      obtain ⟨-, codename, -, -, o, found, -⟩ :=
        agree.mp ⟨authenticated, _, listed, permits, .inr none⟩
      rw [organizationOf_global declared none] at found
      cases found
    · intro notShown
      constructor
      · rintro ⟨authenticated, codename, listed, permits, holds | none⟩
        · exact ⟨authenticated, codename, listed, permits, holds⟩
        · have named := (declared.globals none.1).2
          rw [listed] at named
          cases named
          exact absurd ⟨authenticated, permits, none⟩ notShown
      · rintro ⟨authenticated, codename, listed, permits, holds⟩
        exact ⟨authenticated, codename, listed, permits, .inl holds⟩

/-! ### Two databases -/

/-- One organization, and a role of it. -/
def oneOrganization : PublicDb where
  tables
    | .organization => [{ pk := 1, uuid := ⟨1⟩ }]
    | .role => [{ pk := 1, uuid := ⟨2⟩, refs := fun _ => some 1 }]
    | _ => []
  keyed m := by cases m <;> decide
  identified m := by cases m <;> decide

/-- A member with a role, and one without. -/
def grantedOne : Grants where
  assignments := [{ user := 1, organization := 1, codenames := ["organization.manage"] }]
  memberships := [(1, 1), (2, 1)]

theorem listed_iff_admitted_role :
    ((ScopedView.objects roleViewSet).Listed oneOrganization grantedOne { pk := 1 } none
        { pk := 1, uuid := ⟨2⟩, refs := fun _ => some 1 } ↔
      (ScopedView.objects roleViewSet).Admitted oneOrganization grantedOne { pk := 1 } none
        { pk := 1, uuid := ⟨2⟩, refs := fun _ => some 1 }) ↔
      ¬ ShownOnly (.objects roleViewSet) grantedOne { pk := 1 } none
        { pk := 1, uuid := ⟨2⟩, refs := fun _ => some 1 } :=
  listed_iff_admitted (.objects roleViewSet) (by simp [scopedViews, hangingOff, organizationScoped])
    oneOrganization grantedOne { pk := 1 } rfl none _ (List.mem_singleton_self _)

/-- The organization of a member who holds nothing there is listed, and cannot be retrieved. -/
theorem organization_shown_only : ¬ ∀ view ∈ scopedViews, ∀ (db : PublicDb) (g : Grants) (user : User),
    user.isSuperuser = false → ∀ scopes, ∀ r ∈ db.tables view.model,
      (view.Listed db g user scopes r ↔ view.Admitted db g user scopes r) := by
  intro agree
  have there : ({ pk := 1, uuid := ⟨1⟩ } : Record) ∈ oneOrganization.tables .organization :=
    List.mem_singleton_self _
  have both := agree .organizations List.mem_cons_self oneOrganization grantedOne { pk := 2 } rfl none _ there
  have hidden : ¬ ScopedView.organizations.Admitted oneOrganization grantedOne { pk := 2 } none { pk := 1, uuid := ⟨1⟩ } :=
    organizations_not_admitted rfl there
  refine hidden (both.mp ?_)
  exact (organizations_listed_iff rfl there).mpr ⟨rfl, rfl, by decide⟩

end NodePilot.Access
