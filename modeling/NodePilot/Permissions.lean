import NodePilot.Protocol

/-!
# Who may do what

The policy service (`apps/permissions/policies.py`) and the permission class of the views
(`apps/common/permissions.py`). The service decides from role assignments, or from an answer to the
same question that it has cached. A request that came with an API token is held to the token's
scopes besides.
-/

namespace NodePilot.Access

/-- `PERMISSION_CATALOG` -/
def permissionCatalog : List String :=
  ["node.view", "node.manage", "vm.view", "vm.create", "vm.update", "vm.delete", "vm.start",
    "vm.stop", "vm.reboot", "vm.console", "vm.snapshot", "vm.clone", "vm.migrate", "storage.view",
    "storage.manage", "network.view", "network.manage", "image.view", "image.upload",
    "image.delete", "template.view", "template.manage", "backup.view", "backup.create",
    "backup.restore", "backup.delete", "user.view", "user.manage", "organization.manage",
    "audit.view", "job.view", "job.manage", "webhook.manage", "event.view"]

/-! ## The policy service -/

/-- What is read of a user. -/
structure User where
  pk : Nat
  isAuthenticated : Bool := true
  isSuperuser : Bool := false

/-- `RoleAssignment`, with the codenames of its role. -/
structure RoleAssignment where
  user : Nat
  organization : Nat
  project : Option Nat := none
  codenames : List String

/-- What decisions are made from. -/
structure Grants where
  assignments : List RoleAssignment := []
  /-- The cached codenames of a user in an organization, while they are fresh. -/
  cache : Nat → Nat → Option (List String) := fun _ _ => none
  /-- `Membership`: users and organizations. -/
  memberships : List (Nat × Nat) := []

namespace Grants

variable (g : Grants)

/-- `_codenames_for`, without a project. -/
def codenamesFor (user organization : Nat) : List String :=
  match g.cache user organization with
  | some cached => cached
  | none =>
    (g.assignments.filter fun a =>
      a.user = user ∧ a.organization = organization ∧ a.project = none).flatMap (·.codenames)

/-- `has_permission`, without a project. -/
def hasPermission (user : User) (organization : Option Nat) (codename : String) : Bool :=
  if ¬ user.isAuthenticated then false
  else if user.isSuperuser then true
  else match organization with
    | none => false
    | some organization => decide (codename ∈ g.codenamesFor user.pk organization)

/-- `organizations_with_permission` -/
def organizationsWithPermission (user : User) (codename : String) (candidates : List Nat) :
    List Nat :=
  if user.isSuperuser then candidates
  else candidates.filter fun organization => g.hasPermission user (some organization) codename

end Grants

/-! ## Scopes of a token -/

def isText (text : String) : Json → Bool
  | .str s => s = text
  | _ => false

/-- `codename in value`. A number or a boolean raises a `TypeError` instead, and the request is not
admitted either. -/
def contains (codename : String) : Json → Bool
  | .str s => s.toList.tails.any codename.toList.isPrefixOf
  | .arr xs => xs.any (isText codename)
  | .obj fields => fields.any (·.1 = codename)
  | .null | .bool _ | .int _ | .float _ => false

/-- `HasResourcePermission._token_permits`, on the scopes of `request.api_token`. -/
def tokenPermits (scopes : Option Json) (codename : String) : Bool :=
  match scopes with
  | none => true
  | some scopes => if ¬ scopes.truthy then true else contains codename scopes

/-! ## The permission class of the views -/

section HasResourcePermission

variable (g : Grants) (user : User) (scopes : Option Json) (codename : Option String)

/-- `HasResourcePermission.has_permission`, on the codename that was resolved. An action on one
object waits for the object, and a list for its query. -/
def hasResourcePermission (deferred : Bool) (organization : Option Nat) : Bool :=
  user.isAuthenticated && match codename with
    | none => false
    | some codename => tokenPermits scopes codename &&
        (deferred || g.hasPermission user organization codename)

/-- `HasResourcePermission.has_object_permission` -/
def hasObjectPermission (organization : Option Nat) : Bool :=
  match codename with
  | none => false
  | some codename => tokenPermits scopes codename && g.hasPermission user organization codename

end HasResourcePermission

section Laws

variable {g : Grants} {user : User} {scopes : Option Json} {codename : String}
  {organization : Option Nat}

/-- What an ordinary user may do in an organization is what the user holds there. -/
theorem hasPermission_iff (ordinary : user.isSuperuser = false)
    (authenticated : user.isAuthenticated = true) :
    g.hasPermission user organization codename = true ↔
      ∃ o, organization = some o ∧ codename ∈ g.codenamesFor user.pk o := by
  cases organization with
  | none => simp [Grants.hasPermission, ordinary, authenticated]
  | some o => simp [Grants.hasPermission, ordinary, authenticated]

theorem hasResourcePermission_iff {deferred : Bool} {c : Option String} :
    hasResourcePermission g user scopes c deferred organization = true ↔
      user.isAuthenticated = true ∧ ∃ codename, c = some codename ∧
        tokenPermits scopes codename = true ∧
        (deferred = true ∨ g.hasPermission user organization codename = true) := by
  cases c with
  | none => simp [hasResourcePermission]
  | some c => simp [hasResourcePermission]

theorem hasObjectPermission_iff {c : Option String} :
    hasObjectPermission g user scopes c organization = true ↔
      ∃ codename, c = some codename ∧ tokenPermits scopes codename = true ∧
        g.hasPermission user organization codename = true := by
  cases c with
  | none => simp [hasObjectPermission]
  | some c => simp [hasObjectPermission]

end Laws

end NodePilot.Access
