import NodePilot.Viewsets

/-!
# Lists and single objects

What a list request to an organization-scoped viewset returns, and what a retrieve request finds. A list
is cut down by its query, an object is asked for its organization. The viewset of the organizations
themselves has a query of its own, and its `organization_field_path` ends at an id, which the policy service
cannot use.
-/

namespace NodePilot.Access

open Lib

/-- Memberships are looked up by their equality. -/
local instance lawfulMemberships : LawfulBEq (Nat × Nat) := inferInstance

/-! ## Viewsets -/

/-- The viewsets whose objects hang off an organization. -/
def hangingOff : List ViewSet :=
  organizationScoped ++ [virtualMachineViewSet, jobViewSet, eventViewSet, imageViewSet]

/-- The subclasses of `OrganizationScopedQuerysetMixin`. -/
inductive ScopedView
  | objects (v : ViewSet)
  /-- `OrganizationViewSet` -/
  | organizations

def scopedViews : List ScopedView := .organizations :: hangingOff.map .objects

namespace ScopedView

def model : ScopedView → Model
  | .objects v => v.model
  | .organizations => .organization

def permissionMap : ScopedView → List (Action × String)
  | .objects v => v.permissionMap
  | .organizations => standard "organization.manage" "organization.manage" "organization.manage"
      "organization.manage"

end ScopedView

/-! ## Requests -/

/-- The database, with unique identifiers. -/
structure PublicDb extends Db where
  identified : ∀ m, ((tables m).map Record.uuid).Nodup

inductive Refusal
  | denied (denial : Denial)
  /-- An attribute that is not there: the server fails. -/
  | attributeError

namespace ScopedView

variable (view : ScopedView) (db : PublicDb) (g : Grants) (user : User) (scopes : Option Json)

/-- `get_queryset` -/
def getQueryset (action : Action) : List Record :=
  match view with
  | .objects v => v.getQueryset db.toDb g { user := user, scopes := scopes, action := action }
  | .organizations =>
    if user.isSuperuser then db.tables .organization
    else (db.tables .organization).filter fun r => (user.pk, r.pk) ∈ g.memberships

/-- What `HasResourcePermission` looks at before the object is known. Both actions are deferred. -/
def entered (action : Action) : Bool :=
  hasResourcePermission g user scopes (view.permissionMap.lookup action) true none

/-- `has_object_permission`. The path of an organization ends at its id, and `organization.pk` is asked of
that, unless the user is a superuser. -/
def objectPermission (r : Record) : Except Refusal Bool :=
  let codename := view.permissionMap.lookup .retrieve
  match view with
  | .objects v => .ok (hasObjectPermission g user scopes codename (v.organizationOf db.tables r))
  | .organizations =>
    match codename with
    | none => .ok false
    | some codename =>
      if ¬ tokenPermits scopes codename then .ok false
      else if ¬ user.isAuthenticated then .ok false
      else if user.isSuperuser then .ok true
      else .error .attributeError

/-- `list`, without filters. -/
def list : Except Refusal (List Record) :=
  if view.entered g user scopes .list then .ok (view.getQueryset db g user scopes .list)
  else .error (.denied .permissionDenied)

/-- `retrieve` -/
def retrieve (uuid : Uuid) : Except Refusal Record :=
  if view.entered g user scopes .retrieve then
    match (view.getQueryset db g user scopes .retrieve).find? (·.uuid = uuid) with
    | none => .error (.denied .notFound)
    | some r => do
      if ← view.objectPermission db g user scopes r then .ok r
      else .error (.denied .permissionDenied)
  else .error (.denied .permissionDenied)

/-- The object is in the list. -/
def Listed (r : Record) : Prop := ∃ rows, view.list db g user scopes = .ok rows ∧ r ∈ rows

/-- The object can be retrieved. -/
def Admitted (r : Record) : Prop := ∃ found, view.retrieve db g user scopes r.uuid = .ok found

end ScopedView

end NodePilot.Access
