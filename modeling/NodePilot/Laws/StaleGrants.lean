import Mathlib
import NodePilot.Lib.Separators
import NodePilot.Policies

/-!
# How old an answer can be

A key of the cache names one user, one organization and one project, and what is cached under it is the
union of that moment, with the time that was left to it then. So an answer is the union of some moment of
the last `CACHE_TTL_SECONDS`, whatever has changed since.
-/

namespace NodePilot.Rbac

open Lib

/-! ## Keys -/

theorem isDigit_of_mem_toString {n : Nat} {c : Char} (h : c ∈ (toString n).toList) : c.isDigit := by
  have digits : c ∈ Nat.toDigits 10 n := by simpa [toString, Nat.repr] using h
  exact Nat.isDigit_of_mem_toDigits (by decide) (by decide) digits

theorem colon_notMem_toString (n : Nat) : ':' ∉ (toString n).toList := fun mem =>
  absurd (isDigit_of_mem_toString mem) (by decide)

theorem colon_notMem_idText (pk : Option Nat) : ':' ∉ (idText pk).toList := by
  cases pk with
  | none => decide
  | some n => exact colon_notMem_toString n

theorem toString_ne_none (n : Nat) : toString n ≠ "None" := by
  intro same
  have mem : 'N' ∈ (toString n).toList := by
    rw [same]
    decide
  exact absurd (isDigit_of_mem_toString mem) (by decide)

theorem idText_injective : Function.Injective idText := by
  intro pk pk' same
  cases pk with
  | none =>
    cases pk' with
    | none => rfl
    | some n => exact absurd same.symm (toString_ne_none n)
  | some n =>
    cases pk' with
    | none => exact absurd same (toString_ne_none n)
    | some m => exact congrArg some (Nat.repr_injective same)

theorem joined_injective {start a b c a' b' c' : String} (ha : ':' ∉ a.toList) (ha' : ':' ∉ a'.toList)
    (hb : ':' ∉ b.toList) (hb' : ':' ∉ b'.toList)
    (same : start ++ a ++ ":" ++ b ++ ":" ++ c = start ++ a' ++ ":" ++ b' ++ ":" ++ c') :
    a = a' ∧ b = b' ∧ c = c' := by
  have chars := congrArg String.toList same
  simp only [String.toList_append, List.append_assoc] at chars
  obtain ⟨first, rest⟩ := append_sep_inj ha ha' (List.append_cancel_left chars)
  obtain ⟨second, third⟩ := append_sep_inj hb hb' rest
  exact ⟨String.toList_injective first, String.toList_injective second, String.toList_injective third⟩

/-- **A key names one user, one organization and one project.** -/
theorem cacheKey_injective {user user' : Nat} {organization organization' project project' : Option Nat}
    (same : cacheKey user organization project = cacheKey user' organization' project') :
    user = user' ∧ organization = organization' ∧ project = project' := by
  obtain ⟨users, organizations, projects⟩ := joined_injective (colon_notMem_toString user)
    (colon_notMem_toString user') (colon_notMem_idText organization)
    (colon_notMem_idText organization') same
  exact ⟨Nat.repr_injective users, idText_injective organizations, idText_injective projects⟩

/-! ## The invariant -/

variable {db : Database} {steps : List Step} {s : State}

/-- What is cached was the union at a moment of the run, and expires `CACHE_TTL_SECONDS` after it. -/
def Dated (db : Database) (steps : List Step) (s : State) : Prop :=
  ∀ user organization project lease,
    s.cache (cacheKey user (some organization) project) = some lease →
      ∃ past recent, steps = past ++ recent ∧ lease.expires = (after db past).now + cacheTtl ∧
        lease.token = (after db past).db.codenames user organization project

theorem after_snoc (step : Step) : after db (steps ++ [step]) = (after db steps).step step :=
  List.foldl_concat ..

/-- A cache that has only lost keys is as well dated. -/
theorem Dated.of_cache {s' : State} {step : Step} (h : Dated db steps s)
    (lost : ∀ key lease, s'.cache key = some lease → s.cache key = some lease) :
    Dated db (steps ++ [step]) s' := by
  intro user organization project lease found
  obtain ⟨past, recent, rfl, dated⟩ := h user organization project lease (lost _ _ found)
  exact ⟨past, recent ++ [step], List.append_assoc .., dated⟩

/-- A question is answered from the cache, or from the tables and cached. -/
theorem codenamesFor_cases (s : State) (user organization : Nat) (project : Option Nat) :
    (∃ lease, s.cache.at? s.now (cacheKey user (some organization) project) = some lease ∧
      s.codenamesFor user (some organization) project = (lease.token, s)) ∨
    s.codenamesFor user (some organization) project =
      (s.db.codenames user organization project, { s with
        cache := s.cache.set s.now cacheTtl (cacheKey user (some organization) project)
          (s.db.codenames user organization project) }) := by
  simp only [State.codenamesFor]
  cases found : s.cache.at? s.now (cacheKey user (some organization) project) with
  | none => exact .inr rfl
  | some lease => exact .inl ⟨lease, rfl, rfl⟩

theorem Dated.codenamesFor (h : Dated db steps (after db steps)) {step : Step}
    (user organization : Nat) (project : Option Nat) :
    Dated db (steps ++ [step]) ((after db steps).codenamesFor user (some organization) project).2 := by
  rcases codenamesFor_cases (after db steps) user organization project with ⟨_, -, same⟩ | fresh
  · rw [same]
    exact h.of_cache fun _ _ found => found
  · rw [fresh]
    intro user' organization' project' lease found
    by_cases key : cacheKey user' (some organization') project' =
        cacheKey user (some organization) project
    · obtain ⟨rfl, sameOrganization, rfl⟩ := cacheKey_injective key
      cases sameOrganization
      simp only [Leases.set, Function.update_self, Option.some.injEq] at found
      exact ⟨steps, [step], rfl, by rw [← found], by rw [← found]⟩
    · simp only [Leases.set, Function.update_of_ne key] at found
      have kept : ∀ key lease, (after db steps).cache key = some lease → (after db steps).cache key = some lease :=
        fun _ _ => id
      exact h.of_cache kept user' organization' project' lease found

/-- **Along every run, the cache is dated.** -/
theorem dated (db : Database) (steps : List Step) : Dated db steps (after db steps) := by
  induction steps using List.reverseRecOn with
  | nil =>
    intro user organization project lease found
    cases found
  | append_singleton steps step ih =>
    rw [after_snoc]
    cases step with
    | ask asker organization codename project =>
      have kept : Dated db (steps ++ [.ask asker organization codename project]) (after db steps) :=
        ih.of_cache fun _ _ found => found
      cases asker with
      | nobody => exact kept
      | anonymous => exact kept
      | account user superuser =>
        cases superuser with
        | true => exact kept
        | false =>
          cases organization with
          | none => exact kept
          | some o => exact ih.codenamesFor user o project
    | change edit => exact ih.of_cache fun _ _ found => found
    | advance milliseconds => exact ih.of_cache fun _ _ found => found
    | evict key =>
      refine ih.of_cache fun key' lease found => ?_
      by_cases same : key' = key
      · simp [State.step, Leases.del, same] at found
      · simpa [State.step, Leases.del, same] using found

/-! ## Answers -/

/-- The codenames that decide an answer are those of a moment that is recent enough. -/
theorem codenamesFor_recent (db : Database) (steps : List Step) (user organization : Nat)
    (project : Option Nat) :
    ∃ past recent, steps = past ++ recent ∧ (after db steps).now ≤ (after db past).now + cacheTtl ∧
      ((after db steps).codenamesFor user (some organization) project).1 =
        (after db past).db.codenames user organization project := by
  rcases codenamesFor_cases (after db steps) user organization project with ⟨lease, held, same⟩ | fresh
  · obtain ⟨found, live⟩ := Leases.at?_eq_some.mp held
    obtain ⟨past, recent, split, expires, codenames⟩ := dated db steps user organization project lease found
    rw [same]
    exact ⟨past, recent, split, by omega, codenames⟩
  · rw [fresh]
    exact ⟨steps, [], (List.append_nil steps).symm, by omega, rfl⟩

/-- **An answer to an ordinary user is at most `CACHE_TTL_SECONDS` old**, and the assignments that are
limited to another project have no part in it. -/
theorem answers_recent (db : Database) (steps : List Step) (asker : Asker)
    (ordinary : asker.isSuperuser = false) (organization : Option Nat) (codename : String)
    (project : Option Nat) :
    ∃ past recent, steps = past ++ recent ∧
      (after db steps).now ≤ (after db past).now + cacheTtlSeconds * 1000 ∧
      (((after db steps).hasPermission asker organization codename project).1 = true ↔
        codename ∈ (after db past).db.held asker organization project) ∧
      ∀ other, project ≠ some other →
        (((after db steps).hasPermission asker organization codename project).1 = true ↔
          codename ∈ ((after db past).db.without other).held asker organization project) := by
  suffices recently : ∃ past recent, steps = past ++ recent ∧
      (after db steps).now ≤ (after db past).now + cacheTtlSeconds * 1000 ∧
      (((after db steps).hasPermission asker organization codename project).1 = true ↔
        codename ∈ (after db past).db.held asker organization project) by
    obtain ⟨past, recent, split, time, answer⟩ := recently
    refine ⟨past, recent, split, time, answer, fun other differs => ?_⟩
    rw [held_without differs]
    exact answer
  have now : steps = steps ++ [] ∧
      (after db steps).now ≤ (after db steps).now + cacheTtlSeconds * 1000 :=
    ⟨(List.append_nil steps).symm, Nat.le_add_right ..⟩
  cases asker with
  | nobody => exact ⟨steps, [], now.1, now.2, by simp [State.hasPermission, Database.held]⟩
  | anonymous => exact ⟨steps, [], now.1, now.2, by simp [State.hasPermission, Database.held]⟩
  | account user superuser =>
    cases organization with
    | none =>
      cases ordinary
      exact ⟨steps, [], now.1, now.2, by simp [State.hasPermission, Database.held]⟩
    | some o =>
      cases ordinary
      obtain ⟨past, recent, split, time, codenames⟩ := codenamesFor_recent db steps user o project
      refine ⟨past, recent, split, time, ?_⟩
      rw [← mem_codenames, ← codenames]
      simp [State.hasPermission]

/-- A role is taken away, and the answer of 29 seconds ago is given once more. -/
theorem answers_recent_revoked :
    ∃ past recent : List Step, past ++ recent =
        [.ask (.account 1 false) (some 1) "vm.view" none, .change fun db => { db with assignments := [] },
          .advance 29000] ∧
      "vm.view" ∈ (after ⟨[⟨1, ["vm.view"]⟩], [⟨1, 1, none, 1⟩]⟩ past).db.held (.account 1 false) (some 1)
        none := by
  obtain ⟨past, recent, split, -, answer, -⟩ := answers_recent ⟨[⟨1, ["vm.view"]⟩], [⟨1, 1, none, 1⟩]⟩
    [.ask (.account 1 false) (some 1) "vm.view" none, .change fun db => { db with assignments := [] },
      .advance 29000] (.account 1 false) rfl (some 1) "vm.view" none
  exact ⟨past, recent, split.symm, answer.mp (by decide +kernel)⟩

end NodePilot.Rbac
