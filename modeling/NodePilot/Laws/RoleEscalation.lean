import NodePilot.Laws.StaleGrants
import NodePilot.Lib.Prog
import NodePilot.RoleAdministration

/-!
# Who can come to hold what

A user who holds `organization.manage` in one organization can come to hold every permission in every organization, and
one who does not gains nothing: the organization of the query decides whether a row may be created, and the body where.
What no ordinary user can touch are the roles that have no organization.
-/

namespace NodePilot.Rbac.Administration

open Lib Access

/-! ## What a request does -/

/-- The organization is found by its uuid. -/
def Named (s : Administration) (organization : Nat) : Prop := ∃ uuid, byUuid s.organizations uuid = some organization

/-- Foreign keys lead to organizations. -/
structure Sound (s : Administration) : Prop where
  roles : ∀ r ∈ s.roles.rows, ∀ organization, r.organization = some organization → s.Named organization
  assignments : ∀ a ∈ s.assignments.rows, s.Named a.organization
  memberships : ∀ m ∈ s.memberships.rows, s.Named m.organization
  projects : ∀ p ∈ s.projects, s.Named p.organization

/-- What a request of the client makes of the tables: it is turned down, perhaps after a question to the policy service,
or the answer was yes and it writes. -/
inductive Served (s : Administration) (c : Client) : Administration → Prop
  | refused : Served s c s
  | asked (permits : permits c = true) (organization : Option Nat) :
    Served s c (s.ask c.asker organization manage none).2
  | written (permits : permits c = true) (organization : Option Nat)
    (named : Sound s → ∀ pk, organization = some pk → s.Named pk)
    (yes : (s.ask c.asker organization manage none).1 = true) (t : Administration)
    (templates : organization ≠ none → ∀ r ∈ s.roles.rows, r.organization = none → r ∈ t.roles.rows) : Served s c t

section Requests

variable {s t : Administration} {c : Client}

theorem named_of_getOrganization {query body : Param} {pk : Nat}
    (found : s.getOrganization query body = .ok (some pk)) : s.Named pk := by
  unfold getOrganization at found
  split at found
  · next u =>
    exact ⟨u, Except.ok.inj found⟩
  · cases found
  all_goals
    split at found
    · next u =>
      exact ⟨u, Except.ok.inj found⟩
    all_goals cases found

/-- A creation is refused or writes for a client who may. -/
theorem served_create {query named : Param} {write : Administration → Except Denial Administration}
    (keeps : ∀ s t, write s = .ok t → ∀ r ∈ s.roles.rows, r ∈ t.roles.rows) :
    Served s c (s.create c query named write).2 := by
  unfold create
  split
  · exact .refused
  · next permits =>
    rw [not_not] at permits
    split
    · exact .refused
    · next organization found =>
      dsimp only
      split
      · next yes =>
        unfold save
        split
        · next t written =>
          exact .written permits organization (fun _ pk same => named_of_getOrganization (same ▸ found)) yes t
            fun _ r hr _ => keeps _ t written r hr
        · exact .asked permits organization
      · exact .asked permits organization

/-- A request about an object is refused or writes for a client who may. -/
theorem served_detail {α : Type} {found : Option α} {organization : α → Option Nat}
    {write : α → Administration → Except Denial Administration}
    (named : Sound s → ∀ row, found = some row → ∀ pk, organization row = some pk → s.Named pk)
    (keeps : ∀ row s' t, found = some row → s'.roles = s.roles → write row s' = .ok t → organization row ≠ none →
      ∀ r ∈ s.roles.rows, r.organization = none → r ∈ t.roles.rows) :
    Served s c (s.detail c found organization write).2 := by
  unfold detail
  split
  · exact .refused
  · next permits =>
    rw [not_not] at permits
    split
    · exact .refused
    · next row =>
      dsimp only
      split
      · next yes =>
        unfold save
        split
        · next t written =>
          exact .written permits (organization row) (fun sound => named sound row rfl) yes t
            (keeps row (s.ask c.asker (organization row) manage none).2 t rfl rfl written)
        · exact .asked permits _
      · exact .asked permits _

/-- A role of an organization is not one of the templates. -/
theorem template_ne {r r' : RoleRow} (mem : r ∈ s.roles.rows) (mem' : r' ∈ s.roles.rows)
    (template : r'.organization = none) (owned : r.organization ≠ none) : r'.pk ≠ r.pk := by
  intro same
  have one : r' = r := List.inj_on_of_nodup_map s.roles.distinct mem' mem same
  exact owned (one ▸ template)

/-- Every request is refused or writes for a client who may. -/
theorem served (s : Administration) (c : Client) (request : Request) : Served s c (s.serve c request).2 := by
  cases request with
  | createRole query body drawn =>
    refine served_create fun s t written r hr => ?_
    obtain ⟨_, -, claimed⟩ := Lib.bind_eq_ok written
    obtain ⟨_, -, made⟩ := Lib.bind_eq_ok claimed
    cases made
    exact List.mem_append_left _ hr
  | updateRole lookup body patch =>
    refine served_detail (fun sound row found pk same => ?_) fun row s' t found roles written owned r hr template => ?_
    · exact sound.roles row (List.mem_of_find?_eq_some found) pk same
    · obtain ⟨_, -, made⟩ := Lib.bind_eq_ok written
      cases made
      have other := template_ne (List.mem_of_find?_eq_some found) hr template owned
      simp only [Sequenced.modify, roles]
      refine List.mem_map.mpr ⟨r, hr, if_neg other⟩
  | destroyRole lookup =>
    refine served_detail (fun sound row found pk same => ?_) fun row s' t found roles written owned r hr template => ?_
    · exact sound.roles row (List.mem_of_find?_eq_some found) pk same
    · cases written
      have other := template_ne (List.mem_of_find?_eq_some found) hr template owned
      simp only [Sequenced.remove, roles]
      exact List.mem_filter.mpr ⟨hr, decide_eq_true other⟩
  | createAssignment query body drawn | createMembership query body drawn =>
    refine served_create fun s t written r hr => ?_
    obtain ⟨_, -, claimed⟩ := Lib.bind_eq_ok written
    obtain ⟨_, -, made⟩ := Lib.bind_eq_ok claimed
    cases made
    exact hr
  | updateAssignment lookup body patch =>
    refine served_detail (fun sound row found pk same => ?_) fun row s' t found roles written owned r hr template => ?_
    · exact Option.some.inj same ▸ sound.assignments row (List.mem_of_find?_eq_some found)
    · obtain ⟨_, -, made⟩ := Lib.bind_eq_ok written
      cases made
      exact roles ▸ hr
  | updateMembership lookup body patch =>
    refine served_detail (fun sound row found pk same => ?_) fun row s' t found roles written owned r hr template => ?_
    · exact Option.some.inj same ▸ sound.memberships row (List.mem_of_find?_eq_some found)
    · obtain ⟨_, -, made⟩ := Lib.bind_eq_ok written
      cases made
      exact roles ▸ hr
  | destroyAssignment lookup =>
    refine served_detail (fun sound row found pk same => ?_) fun row s' t found roles written owned r hr template => ?_
    · exact Option.some.inj same ▸ sound.assignments row (List.mem_of_find?_eq_some found)
    · cases written
      exact roles ▸ hr
  | destroyMembership lookup =>
    refine served_detail (fun sound row found pk same => ?_) fun row s' t found roles written owned r hr template => ?_
    · exact Option.some.inj same ▸ sound.memberships row (List.mem_of_find?_eq_some found)
    · cases written
      exact roles ▸ hr
  | destroyProject lookup =>
    refine served_detail (fun sound row found pk same => ?_) fun row s' t found roles written owned r hr template => ?_
    · exact Option.some.inj same ▸ sound.projects row (List.mem_of_find?_eq_some found)
    · cases written
      exact roles ▸ hr

end Requests

/-! ## Templates -/

/-- Requests of ordinary users, and whatever else happens. -/
def Ordinary : Event → Prop
  | .request c _ => c.user.isSuperuser = false
  | _ => True

/-- Events happen one after the other. -/
theorem after_cons (s : Administration) (e : Event) (es : List Event) : s.after (e :: es) = (s.step e).after es := rfl

section Templates

variable {s : Administration} {c : Client}

/-- An ordinary user is told yes in some organization, and for what the policy service has read or cached. -/
theorem ask_yes {organization : Option Nat} (ordinary : c.user.isSuperuser = false) :
    (s.ask c.asker organization manage none).1 = true ↔ c.user.isAuthenticated = true ∧
      ∃ pk, organization = some pk ∧ manage ∈ (s.policy.codenamesFor c.user.pk (some pk) none).1 := by
  cases authenticated : c.user.isAuthenticated <;> cases organization <;>
    simp [ask, Client.asker, State.hasPermission, authenticated, ordinary]

/-- No event of an ordinary user touches a role without an organization. -/
theorem step_templates {e : Event} (ordinary : Ordinary e) :
    ∀ r ∈ s.roles.rows, r.organization = none → r ∈ (s.step e).roles.rows := by
  intro r hr template
  cases e with
  | request c request =>
    have served := served s c request
    change r ∈ (s.serve c request).2.roles.rows
    generalize (s.serve c request).2 = s' at served
    cases served with
    | refused => exact hr
    | asked permits organization => exact hr
    | written permits organization named yes t templates =>
      obtain ⟨-, pk, there, -⟩ := (ask_yes ordinary).mp yes
      exact templates (there ▸ Option.some_ne_none pk) r hr template
  | ask | advance | evict => exact hr

/-- **No request of an ordinary user changes a role that has no organization, or takes it away**, whatever the user may
hold: of the views, only a superuser's get past the question for no organization. -/
theorem templates_stay {es : List Event} (ordinary : ∀ e ∈ es, Ordinary e) :
    ∀ r ∈ s.roles.rows, r.organization = none → r ∈ (s.after es).roles.rows := by
  induction es generalizing s with
  | nil => exact fun r hr _ => hr
  | cons e es ih =>
    intro r hr template
    rw [after_cons]
    have first := step_templates (ordinary e List.mem_cons_self) r hr template
    exact ih (fun e' mem => ordinary e' (List.mem_cons_of_mem e mem)) r first template

/-- A client asks to take the permissions of the organization-less role away and to delete it, and it stays as it is. -/
theorem templates_stay_viewer :
    ⟨1, ⟨10⟩, "Viewer", none, true, ["vm.view"]⟩ ∈
      (after { roles := Sequenced.empty.insert ⟨1, ⟨10⟩, "Viewer", none, true, ["vm.view"]⟩ rfl }
        [.request { user := ⟨7, true, false⟩ } (.updateRole ⟨10⟩ { permissions := some [] } true),
          .request { user := ⟨7, true, false⟩ } (.destroyRole ⟨10⟩)]).roles.rows := by
  refine templates_stay (fun e mem => ?_) _ (List.mem_singleton_self _) rfl
  rcases List.mem_pair.mp mem with rfl | rfl <;> rfl

end Templates

/-! ## What one user can come to hold -/

/-- The requests of one client. Others ask, time passes, and the cache forgets. -/
def By (c : Client) : Event → Prop
  | .request c' _ => c' = c
  | _ => True

/-- The client holds `organization.manage` somewhere, or the cache still says so. -/
def Manages (s : Administration) (c : Client) (organization : Nat) : Prop :=
  manage ∈ s.database.codenames c.user.pk organization none ∨
    ∃ lease, s.cache.at? s.now (cacheKey c.user.pk (some organization) none) = some lease ∧ manage ∈ lease.token

/-- The client's requests are let through, and in some organization it manages. -/
def Powerful (s : Administration) (c : Client) : Prop :=
  permits c = true ∧ ∃ organization, s.Named organization ∧ s.Manages c organization

/-- There are uuids that no row has yet. -/
structure Spare (s : Administration) : Prop where
  roles : ∃ a b : Uuid, a ≠ b ∧ ∀ r ∈ s.roles.rows, r.uuid ≠ a ∧ r.uuid ≠ b
  assignments : ∃ a : Uuid, ∀ row ∈ s.assignments.rows, row.uuid ≠ a

/-- Two states have the same tables. -/
def SameTables (s t : Administration) : Prop := ∃ now cache, t = { s with now := now, cache := cache }

section Escalation

variable {s t : Administration} {c : Client} {organization : Nat} {codename : String}

/-- Nothing was written. -/
theorem SameTables.refl (s : Administration) : SameTables s s := ⟨s.now, s.cache, rfl⟩

/-- Twice nothing was written. -/
theorem SameTables.trans {u : Administration} (first : SameTables s t) (second : SameTables t u) : SameTables s u := by
  obtain ⟨_, _, rfl⟩ := first
  obtain ⟨now, cache, rfl⟩ := second
  exact ⟨now, cache, rfl⟩

/-- What holds of the tables holds of the same tables. -/
theorem SameTables.sound (same : SameTables s t) (sound : Sound s) : Sound t := by
  obtain ⟨now, cache, rfl⟩ := same
  exact ⟨sound.roles, sound.assignments, sound.memberships, sound.projects⟩

/-- What an answer of the policy service is made of was there to be told. -/
theorem manages_of_codenamesFor (told : manage ∈ (s.policy.codenamesFor c.user.pk (some organization) none).1) :
    s.Manages c organization := by
  rcases codenamesFor_cases s.policy c.user.pk organization none with ⟨lease, live, same⟩ | fresh
  · rw [same] at told
    exact .inr ⟨lease, live, told⟩
  · rw [fresh] at told
    exact .inl told

/-- A question caches what the tables say, so it makes nobody a manager. -/
theorem manages_of_ask {asker : Asker} {asked : Option Nat} {project : Option Nat}
    (manages : Manages (s.ask asker asked codename project).2 c organization) : s.Manages c organization := by
  rcases manages with tables | ⟨lease, live, told⟩
  · exact .inl tables
  cases asker with
  | nobody | anonymous => exact .inr ⟨lease, live, told⟩
  | account user superuser =>
    cases superuser with
    | true => exact .inr ⟨lease, live, told⟩
    | false =>
      cases asked with
      | none => exact .inr ⟨lease, live, told⟩
      | some o =>
        change (s.policy.codenamesFor user (some o) project).2.cache.at? s.now _ = some lease at live
        rcases codenamesFor_cases s.policy user o project with ⟨_, -, same⟩ | fresh
        · rw [same] at live
          exact .inr ⟨lease, live, told⟩
        · rw [fresh] at live
          change (s.cache.set s.now cacheTtl (cacheKey user (some o) project) _).at? s.now _ = _ at live
          by_cases key : cacheKey c.user.pk (some organization) none = cacheKey user (some o) project
          · obtain ⟨rfl, sameOrganization, rfl⟩ := cacheKey_injective key
            cases sameOrganization
            rw [Leases.at?_set (by decide), if_pos rfl, Option.some.injEq] at live
            subst live
            exact .inl told
          · rw [Leases.at?_set (by decide), if_neg key] at live
            exact .inr ⟨lease, live, told⟩

/-- One event changes no table, and makes nobody a manager, where only a client acts that manages nowhere. -/
theorem step_powerless (sound : Sound s) (ordinary : c.user.isSuperuser = false) (powerless : ¬ Powerful s c)
    {e : Event} (by_ : By c e) : SameTables s (s.step e) ∧ ¬ Powerful (s.step e) c := by
  cases e with
  | request c' request =>
    obtain rfl : c' = c := by_
    have served := served s c' request
    change SameTables s (s.serve c' request).2 ∧ ¬ Powerful (s.serve c' request).2 c'
    generalize (s.serve c' request).2 = s' at served
    cases served with
    | refused => exact ⟨.refl s, powerless⟩
    | asked permits asked =>
      refine ⟨⟨_, _, rfl⟩, fun powerful => powerless ⟨permits, ?_⟩⟩
      obtain ⟨-, organization, named, manages⟩ := powerful
      exact ⟨organization, named, manages_of_ask manages⟩
    | written permits asked named yes t templates =>
      obtain ⟨-, pk, there, told⟩ := (ask_yes ordinary).mp yes
      exact absurd ⟨permits, pk, named sound pk there, manages_of_codenamesFor told⟩ powerless
  | ask asker asked codename project =>
    refine ⟨⟨_, _, rfl⟩, fun powerful => powerless ?_⟩
    obtain ⟨permits, organization, named, manages⟩ := powerful
    exact ⟨permits, organization, named, manages_of_ask manages⟩
  | advance milliseconds =>
    refine ⟨⟨_, _, rfl⟩, fun powerful => powerless ?_⟩
    obtain ⟨permits, organization, named, tables | ⟨lease, live, told⟩⟩ := powerful
    · exact ⟨permits, organization, named, .inl tables⟩
    · exact ⟨permits, organization, named, .inr ⟨lease, Leases.at?_of_later live (Nat.le_add_right ..), told⟩⟩
  | evict key =>
    refine ⟨⟨_, _, rfl⟩, fun powerful => powerless ?_⟩
    obtain ⟨permits, organization, named, tables | ⟨lease, live, told⟩⟩ := powerful
    · exact ⟨permits, organization, named, .inl tables⟩
    · refine ⟨permits, organization, named, .inr ⟨lease, ?_, told⟩⟩
      change (s.cache.del key).at? s.now _ = some lease at live
      rw [Leases.at?_del] at live
      split at live
      · cases live
      · exact live

/-- A client without power stays so. -/
theorem after_powerless {es : List Event} (sound : Sound s) (ordinary : c.user.isSuperuser = false)
    (powerless : ¬ Powerful s c) (by_ : ∀ e ∈ es, By c e) : SameTables s (s.after es) := by
  induction es generalizing s with
  | nil => exact .refl s
  | cons e es ih =>
    rw [after_cons]
    obtain ⟨same, still⟩ := step_powerless sound ordinary powerless (by_ e List.mem_cons_self)
    exact same.trans (ih (same.sound sound) still fun e' mem => by_ e' (List.mem_cons_of_mem e mem))

/-! ### A role for oneself -/

/-- The cache says that the client manages the organization. -/
def Granted (s : Administration) (c : Client) (organization : Nat) : Prop :=
  ∃ lease, s.cache.at? s.now (cacheKey c.user.pk (some organization) none) = some lease ∧ manage ∈ lease.token

/-- An ordinary user is asked for by account. -/
theorem asker_of_ordinary (ordinary : c.user.isSuperuser = false) (authenticated : c.user.isAuthenticated = true) :
    c.asker = .account c.user.pk false := by
  rw [Client.asker, if_pos authenticated, ordinary]

/-- A question whose answer is cached. -/
theorem ask_cached (codename : String) {user : Nat} {project : Option Nat} {lease : Lease (List String)}
    (live : s.cache.at? s.now (cacheKey user (some organization) project) = some lease) :
    s.ask (.account user false) (some organization) codename project = (decide (codename ∈ lease.token), s) := by
  have cached : s.policy.codenamesFor user (some organization) project = (lease.token, s.policy) := by
    have there : s.policy.cache.at? s.policy.now (cacheKey user (some organization) project) = some lease := live
    simp only [State.codenamesFor, there]
  simp only [ask, State.hasPermission, cached]
  rfl

/-- A question whose answer is read from the tables. -/
theorem ask_read (codename : String) {user : Nat} {project : Option Nat}
    (free : s.cache.at? s.now (cacheKey user (some organization) project) = none) :
    s.ask (.account user false) (some organization) codename project =
      (decide (codename ∈ s.database.codenames user organization project), { s with
        cache := s.cache.set s.now cacheTtl (cacheKey user (some organization) project)
          (s.database.codenames user organization project) }) := by
  have read : s.policy.codenamesFor user (some organization) project =
      (s.database.codenames user organization project, { s.policy with
        cache := s.cache.set s.now cacheTtl (cacheKey user (some organization) project)
          (s.database.codenames user organization project) }) := by
    have gone : s.policy.cache.at? s.policy.now (cacheKey user (some organization) project) = none := free
    simp only [State.codenamesFor, gone]
    rfl
  simp only [ask, State.hasPermission, read]
  rfl

/-- What is granted is answered so, whatever is cached. -/
theorem told_of_granted (ordinary : c.user.isSuperuser = false) (authenticated : c.user.isAuthenticated = true)
    (granted : Granted s c organization) : s.ask c.asker (some organization) manage none = (true, s) := by
  obtain ⟨lease, live, told⟩ := granted
  rw [asker_of_ordinary ordinary authenticated, ask_cached manage live, decide_eq_true told]

/-- A manager is told so, at the latest when what the cache has is over. -/
theorem told_of_manages (ordinary : c.user.isSuperuser = false) (authenticated : c.user.isAuthenticated = true)
    (manages : s.Manages c organization) :
    ∃ wait s', (s.step (.advance wait)).ask c.asker (some organization) manage none = (true, s') ∧
      Granted s' c organization ∧ SameTables s s' := by
  rcases manages with tables | granted
  · let key := cacheKey c.user.pk (some organization) none
    let wait := (s.cache key).elim 0 Lease.expires
    have free : (s.step (.advance wait)).cache.at? (s.step (.advance wait)).now key = none := by
      change (s.cache key).filter (fun lease => s.now + wait < lease.expires) = none
      cases found : s.cache key with
      | none => rfl
      | some lease => simp [wait, found]
    have asked := ask_read manage free
    have told : manage ∈ (s.step (.advance wait)).database.codenames c.user.pk organization none := tables
    rw [decide_eq_true told, ← asker_of_ordinary ordinary authenticated] at asked
    have cached : (s.cache.set (s.now + wait) cacheTtl key (s.database.codenames c.user.pk organization none)).at?
        (s.now + wait) key = some ⟨s.database.codenames c.user.pk organization none, s.now + wait + cacheTtl⟩ := by
      rw [Leases.at?_set (by decide), if_pos rfl]
    exact ⟨wait, _, asked, ⟨_, cached, tables⟩, ⟨_, _, rfl⟩⟩
  · exact ⟨0, s, told_of_granted ordinary authenticated granted, granted, .refl s⟩

theorem create_told (permitted : permits c = true) {uuid : Uuid}
    (found : byUuid s.organizations uuid = some organization) {s' : Administration}
    (told : s.ask c.asker (some organization) manage none = (true, s')) (named : Param)
    {write : Administration → Except Denial Administration} (written : write s' = .ok t) :
    (s.create c (.uuid uuid) named write).2 = t := by
  simp [create, permitted, getOrganization, found, told, save, written]

theorem claim_of_unused {α : Type} {rows : List α} {uuid : α → Uuid} {drawn : Uuid}
    (unused : ∀ a ∈ rows, uuid a ≠ drawn) : claim (rows.map uuid) drawn = .ok () := by
  refine if_neg fun taken => ?_
  obtain ⟨a, mem, same⟩ := List.mem_map.mp (List.contains_iff_mem.mp taken)
  exact unused a mem same

/-- A role without an organization may have any name. -/
theorem insertRole_null {name : String} (valid : validName name = true) {codenames : List String}
    (listed : ∀ codename ∈ codenames, codename ∈ s.catalog) {drawn : Uuid}
    (unused : ∀ r ∈ s.roles.rows, r.uuid ≠ drawn) :
    s.insertRole { name := some name, organization := .null, permissions := some codenames } drawn =
      .ok { s with roles := s.roles.insert ⟨s.roles.next, drawn, name, none, false, codenames⟩ rfl } := by
  simp [insertRole, validateRole, field, valid, optional, slug, looksForOther, if_pos listed, claim_of_unused unused,
    bind, Except.bind, pure, Except.pure]

/-- An assignment for the whole organization is inserted. -/
theorem insertAssignment_null {user organization role : Uuid} {userPk organizationPk rolePk : Nat} {drawn : Uuid}
    (ofUser : byUuid s.users user = some userPk) (there : byUuid s.organizations organization = some organizationPk)
    (ofRole : byUuid (s.roles.rows.map fun r => (r.pk, r.uuid)) role = some rolePk)
    (unused : ∀ a ∈ s.assignments.rows, a.uuid ≠ drawn) :
    s.insertAssignment ⟨.uuid user, .uuid organization, .null, .uuid role⟩ drawn =
      .ok { s with assignments :=
        s.assignments.insert ⟨s.assignments.next, drawn, userPk, organizationPk, none, rolePk⟩ rfl } := by
  simp [insertAssignment, validateAssignment, reference, optional, slug, looksForOther, ofUser, there, ofRole,
    claim_of_unused unused, bind, Except.bind, pure, Except.pure]

/-- The new role is the one that its uuid finds. -/
theorem byUuid_insert (row : RoleRow) (key : row.pk = s.roles.next) (unused : ∀ r ∈ s.roles.rows, r.uuid ≠ row.uuid) :
    byUuid ((s.roles.insert row key).rows.map fun r => (r.pk, r.uuid)) row.uuid = some row.pk := by
  have old : (s.roles.rows.map fun r => (r.pk, r.uuid)).find? (·.2 = row.uuid) = none := by
    rw [List.find?_eq_none]
    intro pair mem
    obtain ⟨r, hr, rfl⟩ := List.mem_map.mp mem
    simpa using unused r hr
  simp [byUuid, Sequenced.insert, List.find?_append, old]

/-- A manager makes a role of the permission, and then takes it in the organization that it is wanted in. -/
theorem grants_itself (ordinary : c.user.isSuperuser = false) (authenticated : c.user.isAuthenticated = true)
    (powerful : Powerful s c) {user there : Uuid} (known : byUuid s.users user = some c.user.pk)
    (named : byUuid s.organizations there = some organization) (listed : codename ∈ s.catalog) (spare : Spare s) :
    ∃ es, (∀ e ∈ es, By c e) ∧ codename ∈ (s.after es).database.held c.asker (some organization) none := by
  obtain ⟨permitted, own, ⟨uuid, found⟩, manages⟩ := powerful
  obtain ⟨wait, s', told, granted, now, cache, rfl⟩ := told_of_manages ordinary authenticated manages
  obtain ⟨⟨forRole, _, -, unusedRole⟩, forAssignment, unusedAssignment⟩ := spare
  let s' := { s with now := now, cache := cache }
  let role : RoleRow := ⟨s.roles.next, forRole, "Custom", none, false, [codename]⟩
  let withRole := { s' with roles := s.roles.insert role rfl }
  let assignment : AssignmentRow := ⟨s.assignments.next, forAssignment, c.user.pk, organization, none, role.pk⟩
  let withBoth := { withRole with assignments := s.assignments.insert assignment rfl }
  let first : Request := .createRole (.uuid uuid)
    { name := some "Custom", organization := .null, permissions := some [codename] } forRole
  let second : Request :=
    .createAssignment (.uuid uuid) ⟨.uuid user, .uuid there, .null, .uuid forRole⟩ forAssignment
  have fresh : ∀ r ∈ s.roles.rows, r.uuid ≠ forRole := fun r mem => (unusedRole r mem).1
  have makesRole : ((s.step (.advance wait)).serve c first).2 = withRole :=
    create_told (s := s.step (.advance wait)) permitted found told .null
      (insertRole_null (s := s') (by decide) (List.forall_mem_singleton.mpr listed) fresh)
  have takesIt : (withRole.serve c second).2 = withBoth :=
    create_told (s := withRole) permitted found (told_of_granted ordinary authenticated granted) (.uuid there)
      (insertAssignment_null (s := withRole) known named (byUuid_insert role rfl fresh) unusedAssignment)
  refine ⟨[.advance wait, .request c first, .request c second], by simp [By], ?_⟩
  have run : s.after [.advance wait, .request c first, .request c second] = withBoth := by
    change (((s.step (.advance wait)).serve c first).2.serve c second).2 = withBoth
    rw [makesRole, takesIt]
  rw [run]
  refine ⟨c.user.pk, false, asker_of_ordinary ordinary authenticated, ⟨c.user.pk, organization, none, role.pk⟩, ?_,
    rfl, rfl, .inl rfl, ⟨role.pk, [codename]⟩, ?_, rfl, List.mem_singleton_self _⟩
  · exact List.mem_map.mpr ⟨assignment, List.mem_append_right _ (List.mem_singleton_self _), rfl⟩
  · exact List.mem_map.mpr ⟨role, List.mem_append_right _ (List.mem_singleton_self _), rfl⟩

/-- **A client can come to hold a permission in an organization exactly if it holds it there, or if it manages some
organization, whichever one.** -/
theorem escalates_iff (sound : Sound s) (ordinary : c.user.isSuperuser = false)
    (authenticated : c.user.isAuthenticated = true) (known : ∃ user, byUuid s.users user = some c.user.pk)
    (named : s.Named organization) (listed : codename ∈ s.catalog) (spare : Spare s) :
    (∃ es, (∀ e ∈ es, By c e) ∧ codename ∈ (s.after es).database.held c.asker (some organization) none) ↔
      codename ∈ s.database.held c.asker (some organization) none ∨ Powerful s c := by
  constructor
  · rintro ⟨es, by_, held⟩
    by_cases powerful : Powerful s c
    · exact .inr powerful
    · obtain ⟨now, cache, same⟩ := after_powerless sound ordinary powerful by_
      rw [same] at held
      exact .inl held
  · rintro (held | powerful)
    · exact ⟨[], List.forall_mem_nil _, held⟩
    · obtain ⟨user, known⟩ := known
      obtain ⟨there, named⟩ := named
      exact grants_itself ordinary authenticated powerful known named listed spare

/-- Two organizations, and a user who manages the first. -/
def twoTenants : Administration where
  organizations := [(1, ⟨1⟩), (2, ⟨2⟩)]
  users := [(7, ⟨7⟩)]
  catalog := [manage, "vm.delete"]
  roles := Sequenced.empty.insert ⟨1, ⟨10⟩, "Manager", some 1, false, [manage]⟩ rfl
  assignments := Sequenced.empty.insert ⟨1, ⟨20⟩, 7, 1, none, 1⟩ rfl

/-- The user of `twoTenants`. -/
def tenant : Client where
  user := ⟨7, true, false⟩

theorem sound_twoTenants : Sound twoTenants where
  roles r mem organization owned := by
    obtain rfl := List.mem_singleton.mp mem
    cases owned
    exact ⟨⟨1⟩, by decide⟩
  assignments a mem := by
    obtain rfl := List.mem_singleton.mp mem
    exact ⟨⟨1⟩, by decide⟩
  memberships := nofun
  projects := nofun

theorem spare_twoTenants : Spare twoTenants where
  roles := by
    refine ⟨⟨11⟩, ⟨12⟩, by decide, fun r mem => ?_⟩
    obtain rfl := List.mem_singleton.mp mem
    decide
  assignments := by
    refine ⟨⟨21⟩, fun a mem => ?_⟩
    obtain rfl := List.mem_singleton.mp mem
    decide

theorem powerful_tenant : Powerful twoTenants tenant := ⟨by decide, 1, ⟨⟨1⟩, by decide⟩, .inl (by decide)⟩

/-- Who manages the first organization can come to delete the machines of the second. -/
theorem escalates_tenant :
    ∃ es, (∀ e ∈ es, By tenant e) ∧ "vm.delete" ∈ (twoTenants.after es).database.held tenant.asker (some 2) none :=
  (escalates_iff sound_twoTenants rfl rfl ⟨⟨7⟩, by decide⟩ ⟨⟨2⟩, by decide⟩ (by decide) spare_twoTenants).mpr
    (.inr powerful_tenant)

end Escalation

end NodePilot.Rbac.Administration
