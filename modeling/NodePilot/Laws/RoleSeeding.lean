import NodePilot.Laws.RoleEscalation

/-!
# Seeding the roles

`seed_rbac` runs at every deployment. It brings the default roles back to what the code says of them, keeps their keys,
and touches no other role; run again it changes nothing. It cannot run at all while two roles without an organization
have one of the default names, and whoever manages an organization can see to that.
-/

namespace NodePilot.Rbac.Administration

open Lib Access

/-! ## One role -/

section SeedRole

variable {s t : Administration} {drawn : Uuid} {name : String} {codenames : List String}

theorem mem_globalRoles {r : RoleRow} :
    r ∈ s.globalRoles name ↔ r ∈ s.roles.rows ∧ r.name = name ∧ r.organization = none := by
  simp [globalRoles]

/-- What seeding a role of the name makes of the roles. -/
structure SeededRole (s : Administration) (name : String) (codenames : List String) (t : Administration) : Prop where
  frame : ∃ roles, t = { s with roles := roles }
  done : ∃ r, t.globalRoles name = [r] ∧ r.isSystem = true ∧ r.permissions = s.catalog.filter codenames.contains ∧
    ∀ r₀ ∈ s.globalRoles name, r.pk = r₀.pk ∧ r.uuid = r₀.uuid
  others : ∀ other, other ≠ name → t.globalRoles other = s.globalRoles other
  kept : ∀ r : RoleRow, ¬ (r.name = name ∧ r.organization = none) → (r ∈ t.roles.rows ↔ r ∈ s.roles.rows)

/-- What `permissions.set` and the flag make of a role. -/
def reset (s : Administration) (codenames : List String) (r : RoleRow) : RoleRow :=
  { r with isSystem := true, permissions := s.catalog.filter codenames.contains }

theorem seededRole_insert (none_yet : s.globalRoles name = []) :
    SeededRole s name codenames { s with
      roles := s.roles.insert (s.reset codenames ⟨s.roles.next, drawn, name, none, false, []⟩) rfl } where
  frame := ⟨_, rfl⟩
  done := by
    refine ⟨s.reset codenames ⟨s.roles.next, drawn, name, none, false, []⟩, ?_, rfl, rfl, by simp [none_yet]⟩
    unfold globalRoles at none_yet ⊢
    simp [Sequenced.insert, none_yet, reset]
  others other differs := by simp [globalRoles, Sequenced.insert, reset, differs.symm]
  kept r differs := by
    simp only [Sequenced.insert, List.mem_append, List.mem_singleton]
    refine ⟨fun mem => mem.resolve_right ?_, .inl⟩
    rintro rfl
    exact differs ⟨rfl, rfl⟩

theorem seededRole_modify {r : RoleRow} (only : s.globalRoles name = [r]) :
    SeededRole s name codenames { s with roles := s.roles.modify r.pk (s.reset codenames) fun _ => rfl } := by
  let change := fun r' : RoleRow => if Row.pk r' = r.pk then s.reset codenames r' else r'
  have there : r ∈ s.roles.rows ∧ r.name = name ∧ r.organization = none := by
    rw [← mem_globalRoles, only]
    exact List.mem_singleton_self r
  have one : ∀ r' ∈ s.roles.rows, Row.pk r' = r.pk → r' = r := fun r' mem same =>
    List.inj_on_of_nodup_map s.roles.distinct mem there.1 same
  have rows : (s.roles.modify r.pk (s.reset codenames) fun _ => rfl).rows = s.roles.rows.map change := rfl
  have global : ∀ other, ((s.roles.rows.map change).filter fun r' => r'.name = other && r'.organization.isNone) =
      (s.globalRoles other).map change := by
    intro other
    rw [List.filter_map, globalRoles]
    congr 2
    funext r'
    simp only [Function.comp_apply, change]
    split <;> rfl
  constructor
  · exact ⟨_, rfl⟩
  · refine ⟨s.reset codenames r, ?_, rfl, rfl, ?_⟩
    · unfold globalRoles
      rw [rows, global, only]
      simp [change, Row.pk]
    · intro r₀ mem
      rw [only, List.mem_singleton] at mem
      exact mem ▸ ⟨rfl, rfl⟩
  · intro other differs
    conv_lhs => unfold globalRoles
    rw [rows, global]
    refine (List.map_congr_left fun r' mem => if_neg fun same => ?_).trans (List.map_id _)
    obtain ⟨mem, named, -⟩ := mem_globalRoles.mp mem
    rw [one r' mem same] at named
    exact differs (named.symm.trans there.2.1)
  · intro r' differs
    change r' ∈ s.roles.rows.map change ↔ _
    constructor
    · intro mem
      obtain ⟨r₁, mem₁, rfl⟩ := List.mem_map.mp mem
      by_cases same : Row.pk r₁ = r.pk
      · rw [one r₁ mem₁ same] at differs ⊢
        exact absurd there.2 (by simpa [change, Row.pk, reset] using differs)
      · rwa [show change r₁ = r₁ from if_neg same]
    · intro mem
      refine List.mem_map.mpr ⟨r', mem, if_neg fun same => ?_⟩
      exact differs (one r' mem same ▸ there.2)

theorem seedRole_spec (seeded : s.seedRole drawn name codenames = some t) : SeededRole s name codenames t := by
  unfold seedRole at seeded
  rcases found : s.globalRoles name with _ | ⟨r, _ | ⟨_, _⟩⟩ <;> simp only [found] at seeded
  · split at seeded
    · cases seeded
    · obtain rfl := Option.some.inj seeded
      exact seededRole_insert found
  · obtain rfl := Option.some.inj seeded
    exact seededRole_modify found
  · cases seeded

/-- A role that is there after keeps a uuid from before, or has the one that was drawn. -/
theorem uuid_of_seedRole (seeded : s.seedRole drawn name codenames = some t) :
    ∀ r ∈ t.roles.rows, r.uuid = drawn ∨ ∃ r₀ ∈ s.roles.rows, r₀.uuid = r.uuid := by
  unfold seedRole at seeded
  rcases found : s.globalRoles name with _ | ⟨r, _ | ⟨_, _⟩⟩ <;> simp only [found] at seeded
  · split at seeded
    · cases seeded
    · obtain rfl := Option.some.inj seeded
      intro r mem
      rcases List.mem_append.mp mem with old | new
      · exact .inr ⟨r, old, rfl⟩
      · exact .inl (List.mem_singleton.mp new ▸ rfl)
  · obtain rfl := Option.some.inj seeded
    intro r' mem
    obtain ⟨r₀, old, rfl | rfl⟩ := Table.mem_modify mem
    · exact .inr ⟨r', old, rfl⟩
    · exact .inr ⟨r₀, old, rfl⟩
  · cases seeded

theorem seedRole_many (many : 2 ≤ (s.globalRoles name).length) : s.seedRole drawn name codenames = none := by
  unfold seedRole
  rcases found : s.globalRoles name with _ | ⟨r, _ | ⟨_, _⟩⟩
  · simp [found] at many
  · simp [found] at many
  · rfl

/-- A uuid that no role has lets the role be seeded where its name is not had twice. -/
theorem seedRole_some (codenames : List String) (once : (s.globalRoles name).length ≤ 1)
    (unused : ∀ r ∈ s.roles.rows, r.uuid ≠ drawn) :
    ∃ t, s.seedRole drawn name codenames = some t := by
  unfold seedRole
  rcases found : s.globalRoles name with _ | ⟨r, _ | ⟨_, _⟩⟩
  · have free : (s.roles.rows.any (·.uuid = drawn)) = false := by simpa using unused
    simp only [free]
    exact ⟨_, rfl⟩
  · exact ⟨_, rfl⟩
  · simp [found] at once

/-- A role that is as it should be stays as it is. -/
theorem seedRole_again {r : RoleRow} (only : s.globalRoles name = [r]) (system : r.isSystem = true)
    (permissions : r.permissions = s.catalog.filter codenames.contains) : s.seedRole drawn name codenames = some s := by
  have there : s.roles.get r.pk = some r :=
    Table.get_of_mem s.roles.distinct (mem_globalRoles.mp (only ▸ List.mem_singleton_self r)).1
  have same : s.reset codenames r = r := by
    rw [reset, ← system, ← permissions]
  unfold seedRole
  simp only [only]
  exact congrArg (fun roles => some { s with roles := roles }) (Sequenced.modify_eq_self there same)

end SeedRole

/-! ## All of them -/

section SeedRoles

variable {s t : Administration} {draw : String → Uuid} {roles : List (String × List String)}

/-- What seeding these roles makes of the roles. -/
structure SeededRoles (s : Administration) (roles : List (String × List String)) (t : Administration) : Prop where
  frame : ∃ rows, t = { s with roles := rows }
  done : ∀ role ∈ roles, ∃ r, t.globalRoles role.1 = [r] ∧ r.isSystem = true ∧
    r.permissions = s.catalog.filter role.2.contains ∧ ∀ r₀ ∈ s.globalRoles role.1, r.pk = r₀.pk ∧ r.uuid = r₀.uuid
  others : ∀ name, name ∉ roles.map Prod.fst → t.globalRoles name = s.globalRoles name
  kept : ∀ r : RoleRow, ¬ (r.name ∈ roles.map Prod.fst ∧ r.organization = none) →
    (r ∈ t.roles.rows ↔ r ∈ s.roles.rows)

/-- The induction is on the roles. Their names differ, so a later one leaves alone what an earlier one has done. -/
theorem seedRoles_spec (distinct : (roles.map Prod.fst).Nodup)
    (seeded : roles.foldlM (fun t role => t.seedRole (draw role.1) role.1 role.2) s = some t) :
    SeededRoles s roles t := by
  induction roles generalizing s with
  | nil =>
    cases seeded
    exact ⟨⟨_, rfl⟩, nofun, fun _ _ => rfl, fun _ _ => Iff.rfl⟩
  | cons role roles ih =>
    obtain ⟨fresh, distinct⟩ := List.nodup_cons.mp distinct
    rw [List.foldlM_cons] at seeded
    obtain ⟨u, first, rest⟩ := Option.bind_eq_some_iff.mp seeded
    obtain ⟨⟨rows, rfl⟩, done, others, kept⟩ := seedRole_spec first
    obtain ⟨⟨rows', rfl⟩, done', others', kept'⟩ := ih distinct rest
    refine ⟨⟨rows', rfl⟩, fun role' mem => ?_, fun name notIn => ?_, fun r differs => ?_⟩
    · rcases List.mem_cons.mp mem with rfl | mem
      · obtain ⟨r, only, system, permissions, same⟩ := done
        exact ⟨r, (others' _ fresh).trans only, system, permissions, same⟩
      · obtain ⟨r, only, system, permissions, same⟩ := done' role' mem
        have differs : role'.1 ≠ role.1 := fun eq => fresh (eq ▸ List.mem_map_of_mem mem)
        exact ⟨r, only, system, permissions, others _ differs ▸ same⟩
    · obtain ⟨differs, notIn⟩ := not_or.mp (mt List.mem_cons.mpr notIn)
      exact (others' name notIn).trans (others name differs)
    · refine (kept' r fun ⟨mem, global⟩ => ?_).trans (kept r fun ⟨named, global⟩ => ?_)
      · exact differs ⟨List.mem_cons_of_mem _ mem, global⟩
      · exact differs ⟨named ▸ List.mem_cons_self, global⟩

/-- Where every name is had once at most, each role in turn can be seeded. The uuids that are drawn are new, and those
of the other roles that are made here stay so. -/
theorem seedRoles_some (distinct : (roles.map Prod.fst).Nodup)
    (once : ∀ role ∈ roles, (s.globalRoles role.1).length ≤ 1)
    (unused : ∀ r ∈ s.roles.rows, ∀ role ∈ roles, r.uuid ≠ draw role.1)
    (differ : (roles.map fun role => draw role.1).Nodup) :
    ∃ t, roles.foldlM (fun t role => t.seedRole (draw role.1) role.1 role.2) s = some t := by
  induction roles generalizing s with
  | nil => exact ⟨s, rfl⟩
  | cons role roles ih =>
    obtain ⟨fresh, distinct⟩ := List.nodup_cons.mp distinct
    obtain ⟨new, differ⟩ := List.nodup_cons.mp differ
    obtain ⟨u, first⟩ := seedRole_some role.2 (once role List.mem_cons_self)
      fun r mem => unused r mem role List.mem_cons_self
    have spec := seedRole_spec first
    rw [List.foldlM_cons, first]
    refine ih distinct (fun role' mem => ?_) (fun r there role' mem same => ?_) differ
    · have differs : role'.1 ≠ role.1 := fun eq => fresh (eq ▸ List.mem_map_of_mem mem)
      rw [spec.others _ differs]
      exact once role' (List.mem_cons_of_mem _ mem)
    · rcases uuid_of_seedRole first r there with drawn | ⟨r₀, old, kept⟩
      · exact new (List.mem_map.mpr ⟨role', mem, same.symm.trans drawn⟩)
      · exact unused r₀ old role' (List.mem_cons_of_mem _ mem) (kept.trans same)

theorem once_of_seedRoles (distinct : (roles.map Prod.fst).Nodup)
    (seeded : roles.foldlM (fun t role => t.seedRole (draw role.1) role.1 role.2) s = some t) :
    ∀ role ∈ roles, (s.globalRoles role.1).length ≤ 1 := by
  induction roles generalizing s with
  | nil => nofun
  | cons role roles ih =>
    obtain ⟨fresh, distinct⟩ := List.nodup_cons.mp distinct
    rw [List.foldlM_cons] at seeded
    obtain ⟨u, first, rest⟩ := Option.bind_eq_some_iff.mp seeded
    refine List.forall_mem_cons.mpr ⟨not_lt.mp fun many => ?_, fun role' mem => ?_⟩
    · rw [seedRole_many many] at first
      cases first
    · have differs : role'.1 ≠ role.1 := fun eq => fresh (eq ▸ List.mem_map_of_mem mem)
      exact (seedRole_spec first).others _ differs ▸ ih distinct rest role' mem

/-- Where every role is as it should be, nothing changes. -/
theorem seedRoles_again (there : ∀ role ∈ roles, ∃ r, s.globalRoles role.1 = [r] ∧ r.isSystem = true ∧
    r.permissions = s.catalog.filter role.2.contains) :
    roles.foldlM (fun t role => t.seedRole (draw role.1) role.1 role.2) s = some s := by
  induction roles with
  | nil => rfl
  | cons role roles ih =>
    obtain ⟨⟨r, only, system, permissions⟩, rest⟩ := List.forall_mem_cons.mp there
    rw [List.foldlM_cons, seedRole_again only system permissions]
    exact ih rest

end SeedRoles

/-! ## The command -/

section Seed

variable {s t : Administration} {draw : String → Uuid}

theorem mem_seedCatalog {codename : String} :
    codename ∈ s.seedCatalog.catalog ↔ codename ∈ s.catalog ∨ codename ∈ permissionCatalog := by
  by_cases old : codename ∈ s.catalog <;> simp [seedCatalog, old]

/-- The catalog has everything that it is to have. -/
theorem seedCatalog_again (listed : ∀ codename ∈ permissionCatalog, codename ∈ s.catalog) : s.seedCatalog = s := by
  have missing : (permissionCatalog.filter fun codename => ¬ s.catalog.contains codename) = [] := by
    simpa using listed
  rw [seedCatalog, missing, List.append_nil]

theorem distinct_defaultRoles : (defaultRoles.map Prod.fst).Nodup := by decide

theorem defaultRoles_listed : ∀ role ∈ defaultRoles, ∀ codename ∈ role.2, codename ∈ permissionCatalog := by decide

/-- What a seeding leaves. -/
structure Seeded (s t : Administration) : Prop where
  /-- Nothing else changes, so what is assigned stays assigned. -/
  frame : ∃ catalog roles, t = { s with catalog := catalog, roles := roles }
  /-- The one global role of each default name is a system role with its permissions, and keeps its key. -/
  done : ∀ role ∈ defaultRoles, ∃ r, t.globalRoles role.1 = [r] ∧ r.isSystem = true ∧
    (∀ codename, codename ∈ r.permissions ↔ codename ∈ role.2) ∧
    ∀ r₀ ∈ s.globalRoles role.1, r.pk = r₀.pk ∧ r.uuid = r₀.uuid
  kept : ∀ r : RoleRow, ¬ (r.name ∈ defaultRoles.map Prod.fst ∧ r.organization = none) →
    (r ∈ t.roles.rows ↔ r ∈ s.roles.rows)

theorem seed_frame (seeded : s.seed draw = some t) : SeededRoles s.seedCatalog defaultRoles t :=
  seedRoles_spec distinct_defaultRoles seeded

/-- **Seeding brings the default roles to what the code says of them and touches no other role, and a second time it
changes nothing.** -/
theorem seed_spec (seeded : s.seed draw = some t) : Seeded s t ∧ ∀ draw', t.seed draw' = some t := by
  obtain ⟨⟨rows, rfl⟩, done, -, kept⟩ := seed_frame seeded
  refine ⟨⟨⟨_, _, rfl⟩, fun role mem => ?_, kept⟩, fun draw' => ?_⟩
  · obtain ⟨r, only, system, permissions, same⟩ := done role mem
    refine ⟨r, only, system, fun codename => ?_, same⟩
    rw [permissions, List.mem_filter, mem_seedCatalog, List.contains_iff_mem]
    exact ⟨And.right, fun there => ⟨.inr (defaultRoles_listed role mem codename there), there⟩⟩
  · have listed : ∀ codename ∈ permissionCatalog, codename ∈ s.seedCatalog.catalog := fun codename there =>
      mem_seedCatalog.mpr (.inr there)
    have same : seedCatalog { s.seedCatalog with roles := rows } = _ := seedCatalog_again listed
    unfold seed
    rw [same]
    refine seedRoles_again fun role mem => ?_
    obtain ⟨r, only, system, permissions, -⟩ := done role mem
    exact ⟨r, only, system, permissions⟩

/-- With uuids that are new, it runs where no default name is had twice. -/
theorem seed_iff (draw : String → Uuid) (unused : ∀ r ∈ s.roles.rows, ∀ role ∈ defaultRoles, r.uuid ≠ draw role.1)
    (differ : (defaultRoles.map fun role => draw role.1).Nodup) :
    (∃ t, s.seed draw = some t) ↔ ∀ role ∈ defaultRoles, (s.globalRoles role.1).length ≤ 1 := by
  constructor
  · rintro ⟨t, seeded⟩
    exact once_of_seedRoles (s := s.seedCatalog) distinct_defaultRoles seeded
  · intro once
    exact seedRoles_some (s := s.seedCatalog) distinct_defaultRoles once unused differ

/-- The first seeding of an installation with one role of its own. -/
theorem seed_spec_twoTenants :
    ∃ t, twoTenants.seed (fun name => ⟨.ofNat 128 name.length⟩) = some t ∧ Seeded twoTenants t ∧
      ∀ draw', t.seed draw' = some t := by
  obtain ⟨t, seeded⟩ := (seed_iff (s := twoTenants) (fun name => ⟨.ofNat 128 name.length⟩) (by decide)
    (by decide)).mpr (by decide)
  exact ⟨t, seeded, seed_spec seeded⟩

/-! ### Who can stop it -/

theorem seedRole_sameTables {s' : Administration} (same : SameTables s s') {drawn : Uuid} {name : String}
    {codenames : List String} (seeded : s.seedRole drawn name codenames = some t) :
    ∃ t', s'.seedRole drawn name codenames = some t' ∧ SameTables t t' := by
  obtain ⟨now, cache, rfl⟩ := same
  have alike : globalRoles { s with now := now, cache := cache } name = s.globalRoles name := rfl
  unfold seedRole at seeded ⊢
  rw [alike]
  rcases found : s.globalRoles name with _ | ⟨r, _ | ⟨_, _⟩⟩ <;> simp only [found] at seeded ⊢
  · split at seeded
    · cases seeded
    · next free =>
      obtain rfl := Option.some.inj seeded
      exact ⟨_, if_neg free, now, cache, rfl⟩
  · obtain rfl := Option.some.inj seeded
    exact ⟨_, rfl, now, cache, rfl⟩
  · cases seeded

theorem seedRoles_sameTables {s' : Administration} (same : SameTables s s') {roles : List (String × List String)}
    (seeded : roles.foldlM (fun t role => t.seedRole (draw role.1) role.1 role.2) s = some t) :
    ∃ t', roles.foldlM (fun t role => t.seedRole (draw role.1) role.1 role.2) s' = some t' := by
  induction roles generalizing s s' with
  | nil => exact ⟨s', rfl⟩
  | cons role roles ih =>
    rw [List.foldlM_cons] at seeded ⊢
    obtain ⟨u, first, rest⟩ := Option.bind_eq_some_iff.mp seeded
    obtain ⟨u', first', same'⟩ := seedRole_sameTables same first
    rw [first']
    exact ih same' rest

/-- A manager makes two more roles of one of the default names. -/
theorem stops_seed {c : Client} (ordinary : c.user.isSuperuser = false) (authenticated : c.user.isAuthenticated = true)
    (powerful : Powerful s c) (spare : Spare s) :
    ∃ es, (∀ e ∈ es, By c e) ∧ ∀ draw, (s.after es).seed draw = none := by
  obtain ⟨permitted, own, ⟨uuid, found⟩, manages⟩ := powerful
  obtain ⟨wait, s', told, granted, now, cache, rfl⟩ := told_of_manages ordinary authenticated manages
  obtain ⟨⟨a, b, differ, unused⟩, -⟩ := spare
  let s' := { s with now := now, cache := cache }
  let one : RoleRow := ⟨s.roles.next, a, "Admin", none, false, []⟩
  let withOne := { s' with roles := s.roles.insert one rfl }
  let two : RoleRow := ⟨withOne.roles.next, b, "Admin", none, false, []⟩
  let withTwo := { withOne with roles := withOne.roles.insert two rfl }
  let request (drawn : Uuid) : Request :=
    .createRole (.uuid uuid) { name := some "Admin", organization := .null, permissions := some [] } drawn
  have unusedOne : ∀ r ∈ s'.roles.rows, r.uuid ≠ a := fun r mem => (unused r mem).1
  have unusedTwo : ∀ r ∈ withOne.roles.rows, r.uuid ≠ b := by
    intro r mem
    rcases List.mem_append.mp mem with old | new
    · exact (unused r old).2
    · exact List.mem_singleton.mp new ▸ differ
  have first : ((s.step (.advance wait)).serve c (request a)).2 = withOne :=
    create_told (s := s.step (.advance wait)) permitted found told .null
      (insertRole_null (s := s') (by decide) (List.forall_mem_nil _) unusedOne)
  have second : (withOne.serve c (request b)).2 = withTwo :=
    create_told (s := withOne) permitted found (told_of_granted ordinary authenticated granted) .null
      (insertRole_null (s := withOne) (by decide) (List.forall_mem_nil _) unusedTwo)
  refine ⟨[.advance wait, .request c (request a), .request c (request b)], by simp [By], fun draw => ?_⟩
  have run : s.after [.advance wait, .request c (request a), .request c (request b)] = withTwo := by
    change (((s.step (.advance wait)).serve c (request a)).2.serve c (request b)).2 = withTwo
    rw [first, second]
  rw [run, Option.eq_none_iff_forall_ne_some]
  intro t seeded
  have once := once_of_seedRoles (s := withTwo.seedCatalog) distinct_defaultRoles seeded
    ("Admin", permissionCatalog) List.mem_cons_self
  have twice : withTwo.globalRoles "Admin" = s.globalRoles "Admin" ++ [one, two] := by
    simp [globalRoles, withTwo, withOne, Sequenced.insert, one, two]
  change (withTwo.globalRoles "Admin").length ≤ 1 at once
  rw [twice, List.length_append] at once
  exact absurd once (by simp)

/-- **A client can bring about that the next seeding fails exactly if it fails already, or if the client manages some
organization.** -/
theorem stops_seed_iff (draw : String → Uuid) {c : Client} (sound : Sound s) (ordinary : c.user.isSuperuser = false)
    (authenticated : c.user.isAuthenticated = true) (spare : Spare s) :
    (∃ es, (∀ e ∈ es, By c e) ∧ (s.after es).seed draw = none) ↔ s.seed draw = none ∨ Powerful s c := by
  constructor
  · rintro ⟨es, by_, fails⟩
    by_cases powerful : Powerful s c
    · exact .inr powerful
    · refine .inl (Option.eq_none_iff_forall_ne_some.mpr fun t seeded => ?_)
      obtain ⟨now, cache, same⟩ := after_powerless sound ordinary powerful by_
      have alike : SameTables s.seedCatalog (s.after es).seedCatalog := ⟨now, cache, by rw [same]; rfl⟩
      obtain ⟨t', seeded'⟩ := seedRoles_sameTables alike seeded
      exact absurd (fails.symm.trans seeded') nofun
  · rintro (fails | powerful)
    · exact ⟨[], List.forall_mem_nil _, fails⟩
    · obtain ⟨es, by_, fails⟩ := stops_seed ordinary authenticated powerful spare
      exact ⟨es, by_, fails draw⟩

/-- Who manages the first of two organizations can stop the seeding. -/
theorem stops_seed_tenant :
    ∃ es, (∀ e ∈ es, By tenant e) ∧ (twoTenants.after es).seed (fun name => ⟨.ofNat 128 name.length⟩) = none :=
  (stops_seed_iff _ sound_twoTenants rfl rfl spare_twoTenants).mpr (.inr powerful_tenant)

end Seed

end NodePilot.Rbac.Administration
