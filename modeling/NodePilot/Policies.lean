import Mathlib.Data.Set.Defs
import NodePilot.Permissions
import NodePilot.Lib.Lease

/-!
# The policy service and its cache

`has_permission` (`apps/permissions/policies.py`) with the tables it reads and the cache it keeps. The
codenames of a user in an organization and a project are cached for `CACHE_TTL_SECONDS` under a key that
is made of the three ids. Nothing tells the cache that a role or an assignment has changed.

The clock counts milliseconds, as the cache does.
-/

namespace NodePilot.Rbac

open Lib

/-! ## Tables -/

/-- `Role`, with the codenames of its permissions. -/
structure Role where
  pk : Nat
  permissions : List String := []

/-- `RoleAssignment` -/
structure RoleAssignment where
  user : Nat
  organization : Nat
  project : Option Nat := none
  role : Nat

structure Database where
  roles : List Role := []
  assignments : List RoleAssignment := []

/-- Who asks: `None`, an `AnonymousUser`, or a user with a row. -/
inductive Asker
  | nobody
  | anonymous
  | account (user : Nat) (isSuperuser : Bool)

def Asker.isSuperuser : Asker → Bool
  | .account _ isSuperuser => isSuperuser
  | .nobody | .anonymous => false

namespace Database

variable (db : Database)

/-- `role.permissions.all()` -/
def permissionsOf (role : Nat) : List String :=
  (db.roles.filter (·.pk = role)).flatMap (·.permissions)

/-- `models_q_project` -/
def modelsQProject (project : Option Nat) (a : RoleAssignment) : Bool :=
  match project with
  | none => a.project = none
  | some p => a.project = none ∨ a.project = some p

/-- What `_codenames_for` collects from the tables. -/
def codenames (user organization : Nat) (project : Option Nat) : List String :=
  (db.assignments.filter fun a =>
    (a.user = user ∧ a.organization = organization) ∧ modelsQProject project a).flatMap
      fun a => db.permissionsOf a.role

/-- The union of the permissions of the assignments that apply: those of the user in the organization
that are not limited to a project, or to this one. -/
def held (asker : Asker) (organization project : Option Nat) : Set String :=
  {codename | ∃ user superuser, asker = .account user superuser ∧
    ∃ a ∈ db.assignments, a.user = user ∧ some a.organization = organization ∧
      (a.project = none ∨ a.project = project) ∧
        ∃ role ∈ db.roles, role.pk = a.role ∧ codename ∈ role.permissions}

/-- The tables without the assignments that are limited to a project. -/
def without (project : Nat) : Database :=
  { db with assignments := db.assignments.filter (·.project ≠ some project) }

end Database

/-! ## The cache -/

/-- `CACHE_TTL_SECONDS` -/
def cacheTtlSeconds : Nat := 30

/-- `CACHE_TTL_SECONDS` on the clock. -/
def cacheTtl : Nat := cacheTtlSeconds * 1000

/-- An id in a key. -/
def idText : Option Nat → String
  | none => "None"
  | some pk => toString pk

/-- `_cache_key` -/
def cacheKey (user : Nat) (organization project : Option Nat) : String :=
  "nodepilot:rbac:" ++ toString user ++ ":" ++ idText organization ++ ":" ++ idText project

structure State where
  db : Database := {}
  now : Nat := 0
  cache : Leases String (List String) := fun _ => none

namespace State

variable (s : State)

/-- `_codenames_for`. An empty set that was cached is an answer as well. -/
def codenamesFor (user : Nat) (organization project : Option Nat) : List String × State :=
  match organization with
  | none => ([], s)
  | some o =>
    let key := cacheKey user (some o) project
    match s.cache.at? s.now key with
    | some cached => (cached.token, s)
    | none =>
      let result := s.db.codenames user o project
      (result, { s with cache := s.cache.set s.now cacheTtl key result })

/-- `has_permission` -/
def hasPermission (asker : Asker) (organization : Option Nat) (codename : String)
    (project : Option Nat) : Bool × State :=
  match asker with
  | .nobody | .anonymous => (false, s)
  | .account user isSuperuser =>
    if isSuperuser then (true, s)
    else match organization with
      | none => (false, s)
      | some o =>
        let (codenames, s) := s.codenamesFor user (some o) project
        (codename ∈ codenames, s)

end State

/-- What happens, one thing after another. -/
inductive Step
  | ask (asker : Asker) (organization : Option Nat) (codename : String) (project : Option Nat)
  /-- A transaction on roles and assignments commits. -/
  | change (edit : Database → Database)
  | advance (milliseconds : Nat)
  /-- The cache may forget. -/
  | evict (key : String)

def State.step (s : State) : Step → State
  | .ask asker organization codename project =>
    (s.hasPermission asker organization codename project).2
  | .change edit => { s with db := edit s.db }
  | .advance milliseconds => { s with now := s.now + milliseconds }
  | .evict key => { s with cache := s.cache.del key }

/-- The state after a run that begins with an empty cache. -/
def after (db : Database) (steps : List Step) : State := steps.foldl State.step { db := db }

/-! ## Rules -/

section Rules

variable {db : Database} {user organization : Nat} {project : Option Nat} {codename : String}

theorem modelsQProject_iff {a : RoleAssignment} : Database.modelsQProject project a = true ↔
    a.project = none ∨ a.project = project := by
  cases project <;> simp [Database.modelsQProject]

/-- What is collected is the union. -/
theorem mem_codenames (superuser : Bool) : codename ∈ db.codenames user organization project ↔
    codename ∈ db.held (.account user superuser) (some organization) project := by
  have collected : codename ∈ db.codenames user organization project ↔
      ∃ a ∈ db.assignments, a.user = user ∧ a.organization = organization ∧
        (a.project = none ∨ a.project = project) ∧
          ∃ role ∈ db.roles, role.pk = a.role ∧ codename ∈ role.permissions := by
    simp [Database.codenames, Database.permissionsOf, modelsQProject_iff, and_assoc]
  rw [collected]
  constructor
  · rintro ⟨a, mem, ofUser, rfl, rest⟩
    exact ⟨user, superuser, rfl, a, mem, ofUser, rfl, rest⟩
  · rintro ⟨user', superuser', same, a, mem, ofUser, there, rest⟩
    cases same
    exact ⟨a, mem, ofUser, Option.some.inj there, rest⟩

/-- An assignment that is limited to another project contributes nothing. -/
theorem held_without {asker : Asker} {organization : Option Nat} {other : Nat}
    (differs : project ≠ some other) :
    (db.without other).held asker organization project = db.held asker organization project := by
  ext codename
  constructor
  · rintro ⟨user, superuser, same, a, mem, rest⟩
    exact ⟨user, superuser, same, a, (List.mem_filter.mp mem).1, rest⟩
  · rintro ⟨user, superuser, same, a, mem, ofUser, there, applies, rest⟩
    refine ⟨user, superuser, same, a, List.mem_filter.mpr ⟨mem, ?_⟩, ofUser, there, applies, rest⟩
    rcases applies with unlimited | limited
    · simp [unlimited]
    · simp [limited, differs]

end Rules

end NodePilot.Rbac
