import NodePilot.Lib.Sequence
import NodePilot.Policies
import NodePilot.Viewsets

/-!
# Roles, assignments and memberships

The requests that change who may do what (`apps/permissions/views.py`, `apps/organizations/views.py`, with their
serializers), and `seed_rbac` (`apps/common/management/commands/seed_rbac.py`). All of these views ask for
`organization.manage`: to create a row, in the organization of the query or, where there is none, of the body; to change
or delete one, in the organization of the row as it stands. The answers of the policy service are cached.

Of the views of projects only `destroy` is here, which takes the assignments of the project with it. Rows of the other
tables are as they were from the beginning.
-/

namespace NodePilot.Rbac

open Lib Access

/-! ## Tables -/

/-- `Role` -/
structure RoleRow where
  pk : Nat
  uuid : Uuid
  name : String
  organization : Option Nat
  isSystem : Bool := false
  /-- The codenames of `permissions`. -/
  permissions : List String

/-- `RoleAssignment` -/
structure AssignmentRow where
  pk : Nat
  uuid : Uuid
  user : Nat
  organization : Nat
  project : Option Nat
  role : Nat

/-- `Membership` -/
structure MembershipRow where
  pk : Nat
  uuid : Uuid
  user : Nat
  organization : Nat

/-- `Project` -/
structure ProjectRow where
  pk : Nat
  uuid : Uuid
  organization : Nat

instance : Row RoleRow := ⟨RoleRow.pk⟩
instance : Row AssignmentRow := ⟨AssignmentRow.pk⟩
instance : Row MembershipRow := ⟨MembershipRow.pk⟩
instance : Row ProjectRow := ⟨ProjectRow.pk⟩

/-- The tables of organizations, users and roles, with the catalog, the clock and the cache. -/
structure Administration where
  organizations : List (Nat × Uuid) := []
  users : List (Nat × Uuid) := []
  /-- The codenames of `Permission`. -/
  catalog : List String := []
  projects : List ProjectRow := []
  roles : Sequenced RoleRow := .empty
  assignments : Sequenced AssignmentRow := .empty
  memberships : Sequenced MembershipRow := .empty
  now : Nat := 0
  cache : Leases String (List String) := fun _ => none

namespace Administration

/-- The tables that the policy service reads. -/
def database (s : Administration) : Database where
  roles := s.roles.rows.map fun r => ⟨r.pk, r.permissions⟩
  assignments := s.assignments.rows.map fun a => ⟨a.user, a.organization, a.project, a.role⟩

/-- The tables and the cache as the policy service sees them. -/
def policy (s : Administration) : State := ⟨s.database, s.now, s.cache⟩

/-- The row of a uuid: `.filter(uuid=uuid).first()`, or what a `SlugRelatedField` gets. -/
def byUuid (rows : List (Nat × Uuid)) (uuid : Uuid) : Option Nat := (rows.find? (·.2 = uuid)).map Prod.fst

end Administration

/-! ## Requests -/

/-- Who sends a request. -/
structure Client where
  user : User
  /-- The scopes of `request.api_token`, if the request came with one. -/
  scopes : Option Json := none

/-- Who asks the policy service. -/
def Client.asker (c : Client) : Asker :=
  if c.user.isAuthenticated then .account c.user.pk c.user.isSuperuser else .anonymous

/-- The codename that the views ask for. -/
def manage : String := "organization.manage"

/-- The body of a request to `RoleViewSet`: the name is stripped, and a field may be missing. -/
structure RoleBody where
  name : Option String := none
  organization : Param := .missing
  permissions : Option (List String) := none

/-- The body of a request about an assignment. -/
structure AssignmentBody where
  user : Param := .missing
  organization : Param := .missing
  project : Param := .missing
  role : Param := .missing

/-- The body of a request about a membership. -/
structure MembershipBody where
  user : Param := .missing
  organization : Param := .missing

/-- `query` is `?organization=`, `lookup` the uuid in the URL. -/
inductive Request
  | createRole (query : Param) (body : RoleBody) (drawn : Uuid)
  | updateRole (lookup : Uuid) (body : RoleBody) (patch : Bool)
  | destroyRole (lookup : Uuid)
  | createAssignment (query : Param) (body : AssignmentBody) (drawn : Uuid)
  | updateAssignment (lookup : Uuid) (body : AssignmentBody) (patch : Bool)
  | destroyAssignment (lookup : Uuid)
  | createMembership (query : Param) (body : MembershipBody) (drawn : Uuid)
  | updateMembership (lookup : Uuid) (body : MembershipBody) (patch : Bool)
  | destroyMembership (lookup : Uuid)
  | destroyProject (lookup : Uuid)

/-! ## Serializers -/

/-- A `SlugRelatedField`: what the validated data has for it, if anything. -/
def slug (rows : List (Nat × Uuid)) (required allowNull : Bool) : Param → Except Denial (Option (Option Nat))
  | .missing => if required then .error .invalid else .ok none
  | .null | .blank => if allowNull then .ok (some none) else .error .invalid
  | .malformed => .error .invalid
  | .uuid u =>
    match Administration.byUuid rows u with
    | some pk => .ok (some (some pk))
    | none => .error .invalid

/-- A `SlugRelatedField` that does not allow null. An update by `PATCH` may leave it out. -/
def reference (rows : List (Nat × Uuid)) (instance? : Option Nat) (patch : Bool) (param : Param) :
    Except Denial Nat := do
  match ← slug rows (¬ patch) false param with
  | some (some pk) => return pk
  | _ =>
    match instance? with
    | some pk => return pk
    | none => .error .invalid

/-- A `SlugRelatedField` that allows null and is not required. The validator of the columns that are unique together
asks for it all the same when a row is created. -/
def optional (rows : List (Nat × Uuid)) (instance? : Option (Option Nat)) (param : Param) :
    Except Denial (Option Nat) := do
  match ← slug rows false true param with
  | some pk => return pk
  | none =>
    match instance? with
    | some pk => return pk
    | none => .error .invalid

/-- `name = models.CharField(max_length=100)` -/
def validName (name : String) : Bool := name ≠ "" && name.length ≤ 100

/-- A field of a body that has one, or of the instance where a `PATCH` may leave it out. -/
def field {α : Type} (given : Option α) (instance? : Option α) (patch : Bool) (valid : α → Bool) : Except Denial α :=
  match given with
  | some a => if valid a then .ok a else .error .invalid
  | none =>
    match instance? with
    | some a => if patch then .ok a else .error .invalid
    | none => .error .invalid

/-- A `UniqueTogetherValidator` looks for another row unless one of the values is null. Of a row that is there it asks
this of the values that change, and some must. Each value is given by whether it changes, and whether it is null. -/
def looksForOther (values : List (Bool × Bool)) : Bool :=
  values.any (·.1) && values.all fun v => ¬ (v.1 && v.2)

namespace Administration

variable (s : Administration)

/-- `RoleSerializer`, for a new row or one that is there. -/
def validateRole (row : Option RoleRow) (body : RoleBody) (patch : Bool) :
    Except Denial (String × Option Nat × List String) := do
  let name ← field body.name (row.map RoleRow.name) patch validName
  let organization ← optional s.organizations (row.map RoleRow.organization) body.organization
  let permissions ← field body.permissions (row.map RoleRow.permissions) patch fun codenames =>
    codenames.all s.catalog.contains
  let looks := looksForOther [(row.map RoleRow.organization ≠ some organization, organization.isNone),
    (row.map RoleRow.name ≠ some name, false)]
  let taken := s.roles.rows.any fun r =>
    some r.pk ≠ row.map RoleRow.pk && r.organization = organization && r.name = name
  if looks && taken then .error .invalid
  else return (name, organization, permissions)

/-- `RoleAssignmentSerializer` -/
def validateAssignment (row : Option AssignmentRow) (body : AssignmentBody) (patch : Bool) :
    Except Denial (Nat × Nat × Option Nat × Nat) := do
  let user ← reference s.users (row.map AssignmentRow.user) patch body.user
  let organization ← reference s.organizations (row.map AssignmentRow.organization) patch body.organization
  let project ← optional (s.projects.map fun p => (p.pk, p.uuid)) (row.map AssignmentRow.project) body.project
  let role ← reference (s.roles.rows.map fun r => (r.pk, r.uuid)) (row.map AssignmentRow.role) patch body.role
  let looks := looksForOther [(row.map AssignmentRow.user ≠ some user, false),
    (row.map AssignmentRow.organization ≠ some organization, false),
    (row.map AssignmentRow.project ≠ some project, project.isNone), (row.map AssignmentRow.role ≠ some role, false)]
  let taken := s.assignments.rows.any fun a => some a.pk ≠ row.map AssignmentRow.pk &&
    (a.user = user && a.organization = organization && a.project = project && a.role = role)
  if looks && taken then .error .invalid
  else return (user, organization, project, role)

/-- `MembershipSerializer` -/
def validateMembership (row : Option MembershipRow) (body : MembershipBody) (patch : Bool) :
    Except Denial (Nat × Nat) := do
  let user ← reference s.users (row.map MembershipRow.user) patch body.user
  let organization ← reference s.organizations (row.map MembershipRow.organization) patch body.organization
  let looks := looksForOther [(row.map MembershipRow.user ≠ some user, false),
    (row.map MembershipRow.organization ≠ some organization, false)]
  let taken := s.memberships.rows.any fun m => some m.pk ≠ row.map MembershipRow.pk &&
    (m.user = user && m.organization = organization)
  if looks && taken then .error .invalid else return (user, organization)

/-! ## Views -/

/-- `get_organization`. A text that is no UUID makes the query raise. -/
def getOrganization (query named : Param) : Except Denial (Option Nat) :=
  match query with
  | .uuid u => .ok (byUuid s.organizations u)
  | .malformed => .error .invalid
  | .missing | .null | .blank =>
    match named with
    | .uuid u => .ok (byUuid s.organizations u)
    | .malformed => .error .invalid
    | .missing | .null | .blank => .ok none

/-- `has_permission`, which caches what it has read. -/
def ask (asker : Asker) (organization : Option Nat) (codename : String) (project : Option Nat) :
    Bool × Administration :=
  let (answer, policy) := s.policy.hasPermission asker organization codename project
  (answer, { s with cache := policy.cache })

/-- `IsAuthenticated` and `HasResourcePermission._token_permits` -/
def permits (c : Client) : Bool := c.user.isAuthenticated && tokenPermits c.scopes manage

/-- What a view does with the tables, if it does not refuse. The cache keeps what was asked. -/
def save (write : Administration → Except Denial Administration) : Except Denial Unit × Administration :=
  match write s with
  | .ok t => (.ok (), t)
  | .error e => (.error e, s)

/-- `create` of a viewset. -/
def create (c : Client) (query named : Param) (write : Administration → Except Denial Administration) :
    Except Denial Unit × Administration :=
  if ¬ permits c then (.error .permissionDenied, s)
  else
    match s.getOrganization query named with
    | .error e => (.error e, s)
    | .ok organization =>
      let (answer, s) := s.ask c.asker organization manage none
      if answer then s.save write else (.error .permissionDenied, s)

/-- `get_queryset`, of the rows of an organization. -/
def visible (c : Client) (organization : Nat) : Bool :=
  c.user.isSuperuser || s.memberships.rows.any fun m => m.user = c.user.pk && m.organization = organization

/-- `update`, `partial_update` or `destroy` of a viewset, of the row that its queryset has. -/
def detail {α : Type} (c : Client) (found : Option α) (organization : α → Option Nat)
    (write : α → Administration → Except Denial Administration) : Except Denial Unit × Administration :=
  if ¬ permits c then (.error .permissionDenied, s)
  else
    match found with
    | none => (.error .notFound, s)
    | some row =>
      let (answer, s) := s.ask c.asker (organization row) manage none
      if answer then s.save (write row) else (.error .permissionDenied, s)

/-- `RoleViewSet.get_queryset` -/
def findRole (c : Client) (lookup : Uuid) : Option RoleRow :=
  s.roles.rows.find? fun r => r.uuid = lookup && r.organization.all (s.visible c)

/-- The assignment that the client may see under the identifier. -/
def findAssignment (c : Client) (lookup : Uuid) : Option AssignmentRow :=
  s.assignments.rows.find? fun a => a.uuid = lookup && s.visible c a.organization

/-- The membership that the client may see under the identifier. -/
def findMembership (c : Client) (lookup : Uuid) : Option MembershipRow :=
  s.memberships.rows.find? fun m => m.uuid = lookup && s.visible c m.organization

/-- The project that the client may see under the identifier. -/
def findProject (c : Client) (lookup : Uuid) : Option ProjectRow :=
  s.projects.find? fun p => p.uuid = lookup && s.visible c p.organization

/-! ### Writes -/

/-- The column of uuids is unique: an insert of one that is taken raises. -/
def claim (taken : List Uuid) (drawn : Uuid) : Except Denial Unit :=
  if taken.contains drawn then .error .invalid else .ok ()

/-- `serializer.save()` of a new role. -/
def insertRole (body : RoleBody) (drawn : Uuid) : Except Denial Administration := do
  let (name, organization, permissions) ← s.validateRole none body false
  claim (s.roles.rows.map RoleRow.uuid) drawn
  return { s with roles := s.roles.insert ⟨s.roles.next, drawn, name, organization, false, permissions⟩ rfl }

/-- `serializer.save()` of a role. -/
def saveRole (body : RoleBody) (patch : Bool) (r : RoleRow) : Except Denial Administration := do
  let (name, organization, permissions) ← s.validateRole (some r) body patch
  let change (r : RoleRow) := { r with name := name, organization := organization, permissions := permissions }
  return { s with roles := s.roles.modify r.pk change fun _ => rfl }

/-- The assignments of the role go with it. -/
def deleteRole (r : RoleRow) : Except Denial Administration :=
  .ok { s with roles := s.roles.remove r.pk, assignments := s.assignments.filter (·.role ≠ r.pk) }

/-- `serializer.save()` of a new assignment. -/
def insertAssignment (body : AssignmentBody) (drawn : Uuid) : Except Denial Administration := do
  let (user, organization, project, role) ← s.validateAssignment none body false
  claim (s.assignments.rows.map AssignmentRow.uuid) drawn
  return { s with
    assignments := s.assignments.insert ⟨s.assignments.next, drawn, user, organization, project, role⟩ rfl }

/-- `serializer.save()` of an assignment. -/
def saveAssignment (body : AssignmentBody) (patch : Bool) (a : AssignmentRow) : Except Denial Administration := do
  let (user, organization, project, role) ← s.validateAssignment (some a) body patch
  let change (a : AssignmentRow) :=
    { a with user := user, organization := organization, project := project, role := role }
  return { s with assignments := s.assignments.modify a.pk change fun _ => rfl }

/-- `instance.delete()` of an assignment. -/
def deleteAssignment (a : AssignmentRow) : Except Denial Administration :=
  .ok { s with assignments := s.assignments.remove a.pk }

/-- `serializer.save()` of a new membership. -/
def insertMembership (body : MembershipBody) (drawn : Uuid) : Except Denial Administration := do
  let (user, organization) ← s.validateMembership none body false
  claim (s.memberships.rows.map MembershipRow.uuid) drawn
  return { s with memberships := s.memberships.insert ⟨s.memberships.next, drawn, user, organization⟩ rfl }

/-- `serializer.save()` of a membership. -/
def saveMembership (body : MembershipBody) (patch : Bool) (m : MembershipRow) : Except Denial Administration := do
  let (user, organization) ← s.validateMembership (some m) body patch
  let change (m : MembershipRow) := { m with user := user, organization := organization }
  return { s with memberships := s.memberships.modify m.pk change fun _ => rfl }

/-- `instance.delete()` of a membership. -/
def deleteMembership (m : MembershipRow) : Except Denial Administration :=
  .ok { s with memberships := s.memberships.remove m.pk }

/-- The assignments that are limited to the project go with it. -/
def deleteProject (p : ProjectRow) : Except Denial Administration :=
  .ok { s with
    projects := s.projects.filter (·.pk ≠ p.pk)
    assignments := s.assignments.filter (·.project ≠ some p.pk) }

/-- A request, and what is answered. -/
def serve (c : Client) : Request → Except Denial Unit × Administration
  | .createRole query body drawn => s.create c query body.organization (·.insertRole body drawn)
  | .updateRole lookup body patch =>
    s.detail c (s.findRole c lookup) RoleRow.organization fun r t => t.saveRole body patch r
  | .destroyRole lookup => s.detail c (s.findRole c lookup) RoleRow.organization fun r t => t.deleteRole r
  | .createAssignment query body drawn => s.create c query body.organization (·.insertAssignment body drawn)
  | .updateAssignment lookup body patch =>
    s.detail c (s.findAssignment c lookup) (some ·.organization) fun a t => t.saveAssignment body patch a
  | .destroyAssignment lookup =>
    s.detail c (s.findAssignment c lookup) (some ·.organization) fun a t => t.deleteAssignment a
  | .createMembership query body drawn => s.create c query body.organization (·.insertMembership body drawn)
  | .updateMembership lookup body patch =>
    s.detail c (s.findMembership c lookup) (some ·.organization) fun m t => t.saveMembership body patch m
  | .destroyMembership lookup =>
    s.detail c (s.findMembership c lookup) (some ·.organization) fun m t => t.deleteMembership m
  | .destroyProject lookup =>
    s.detail c (s.findProject c lookup) (some ·.organization) fun p t => t.deleteProject p

end Administration

/-! ## `seed_rbac` -/

/-- `DEFAULT_ROLES` -/
def defaultRoles : List (String × List String) :=
  [("Admin", permissionCatalog),
    ("Operator", ["node.view", "vm.view", "vm.create", "vm.update", "vm.delete", "vm.start", "vm.stop", "vm.reboot",
      "vm.console", "vm.snapshot", "vm.clone", "storage.view", "network.view", "network.manage", "image.view",
      "image.upload", "template.view", "backup.view", "backup.create", "backup.restore", "job.view", "job.manage",
      "event.view"]),
    ("Viewer", ["node.view", "vm.view", "storage.view", "network.view", "image.view", "template.view", "backup.view",
      "job.view", "event.view"])]

namespace Administration

variable (s : Administration)

/-- The global roles of a name. -/
def globalRoles (name : String) : List RoleRow := s.roles.rows.filter fun r => r.name = name && r.organization.isNone

/-- `Role.objects.get_or_create`, the flag, and `permissions.set`. Two global roles of the name make it raise, and so
does a uuid that is taken. -/
def seedRole (drawn : Uuid) (name : String) (codenames : List String) : Option Administration :=
  let permissions := s.catalog.filter codenames.contains
  let change (r : RoleRow) := { r with isSystem := true, permissions := permissions }
  match s.globalRoles name with
  | [] =>
    if s.roles.rows.any (·.uuid = drawn) then none
    else some { s with roles := s.roles.insert ⟨s.roles.next, drawn, name, none, true, permissions⟩ rfl }
  | [r] => some { s with roles := s.roles.modify r.pk change fun _ => rfl }
  | _ => none

/-- `update_or_create` of the permissions. -/
def seedCatalog : Administration :=
  { s with catalog := s.catalog ++ permissionCatalog.filter fun codename => ¬ s.catalog.contains codename }

/-- `seed_rbac`, where the new roles draw these uuids. Where it raises, its transaction leaves nothing. -/
def seed (draw : String → Uuid) : Option Administration :=
  defaultRoles.foldlM (fun t role => t.seedRole (draw role.1) role.1 role.2) s.seedCatalog

end Administration

/-! ## Runs -/

/-- What can happen. -/
inductive Event
  | request (client : Client) (request : Request)
  /-- Some other view or consumer asks the policy service. -/
  | ask (asker : Asker) (organization : Option Nat) (codename : String) (project : Option Nat)
  | advance (milliseconds : Nat)
  /-- The cache may forget. -/
  | evict (key : String)

namespace Administration

/-- The tables after an event. -/
def step (s : Administration) : Event → Administration
  | .request client request => (s.serve client request).2
  | .ask asker organization codename project => (s.ask asker organization codename project).2
  | .advance milliseconds => { s with now := s.now + milliseconds }
  | .evict key => { s with cache := s.cache.del key }

/-- The state after a run. -/
def after (s : Administration) (events : List Event) : Administration := events.foldl step s

end Administration

end NodePilot.Rbac
