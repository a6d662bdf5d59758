import NodePilot.Tokens

/-!
# What a scoped token leads to

A client begins with one token whose scopes are a list `S` that is not empty, and goes on with the
credentials that its requests return. Every view that `HasResourcePermission` guards holds it to
`S`. Three kinds of views do not look at the scopes of the token they are called with: those that
make or change tokens, those that go on with an upload, and the WebSocket consumers behind a ticket.
`Within` is the condition that the client gets nothing out of these that `S` does not have.

The invariant is that the tokens the client holds permit nothing outside `S` (`Bounded`).
-/

namespace NodePilot.Access

open Lib

/-! ## Scopes -/

/-- The scopes restrict a token, and to codenames of `S` only. -/
def Narrow (S : List String) (scopes : Json) : Prop :=
  scopes.truthy = true ∧ ∀ codename ∈ permissionCatalog, contains codename scopes = true →
    codename ∈ S

instance (S : List String) (scopes : Json) : Decidable (Narrow S scopes) :=
  inferInstanceAs (Decidable (_ ∧ _))

/-- A list of codenames, as a `JSONField` holds it. -/
def scopeList (S : List String) : Json := .arr (S.map .str)

theorem contains_scopeList {S : List String} {codename : String} :
    contains codename (scopeList S) = true ↔ codename ∈ S := by
  simp [contains, scopeList, isText]

theorem narrow_scopeList {S : List String} (nonempty : S ≠ []) : Narrow S (scopeList S) := by
  refine ⟨?_, fun codename _ => contains_scopeList.mp⟩
  cases S with
  | nil => exact absurd rfl nonempty
  | cons => rfl

theorem Narrow.of_permits {S : List String} {scopes : Json} {codename : String}
    (h : Narrow S scopes) (known : codename ∈ permissionCatalog)
    (permitted : tokenPermits (some scopes) codename = true) : codename ∈ S := by
  simp only [tokenPermits, h.1, not_true_eq_false, if_false] at permitted
  exact h.2 codename known permitted

/-- Every codename that a guarded view asks for is in the catalog. -/
theorem guarded_codename_known {view : View} (guarded : view ∈ guardedViews) {action : Action}
    {codename : String} (h : view.codename action = some codename) :
    codename ∈ permissionCatalog := by
  have all : ∀ view ∈ guardedViews, (∀ x ∈ view.permissionMap, x.2 ∈ permissionCatalog) ∧
      ∀ codename ∈ view.requiredPermission, codename ∈ permissionCatalog := by
    decide +kernel
  obtain ⟨mapped, required⟩ := all view guarded
  unfold View.codename at h
  split at h
  · exact required codename h
  · obtain ⟨before, after, split, -⟩ := List.lookup_eq_some_iff.mp h
    refine mapped (action, codename) ?_
    rw [split]
    exact List.mem_append_right before List.mem_cons_self

/-- What `HasResourcePermission` lets through is within the scopes of the token. -/
theorem tokenPermits_of_permits {e : Surroundings} {token : APIToken} {codename : String}
    {deferred : Bool} {organization : Option Nat} {object : Option (Option Nat)}
    (h : Portal.permits e token (some codename) deferred organization object = true) :
    tokenPermits (some token.scopes) codename = true := by
  unfold Portal.permits at h
  rw [Bool.and_eq_true] at h
  obtain ⟨-, c, same, permitted, -⟩ := hasResourcePermission_iff.mp h.1
  cases same
  exact permitted

/-! ## The condition -/

/-- The condition on a request that is carried out. -/
def withinCall (S : List String) (p : Portal) (token : APIToken) : Call → Prop
  | .createToken scopes _ _ _ => Narrow S (scopes.getD (.arr []))
  | .updateToken uuid (some scopes) _ _ =>
    ∀ t ∈ p.ownToken token uuid, t.raw ∈ p.held → Narrow S scopes
  | .continueUpload _ _ => uploadCodename ∈ S
  | _ => True

/-- **The condition**: the tokens that the client makes, and those it holds and changes, are
restricted to `S`; it goes on with an upload only if uploading is in `S`, and connects to a consumer
only for what is in `S`. -/
def Within (S : List String) (s : Surroundings × Step) (p : Portal) : Prop :=
  match s.2 with
  | .api raw call => ∀ token ∈ p.authenticate s.1 raw, p.accepts s.1 token call = true →
      withinCall S p token call
  | .connect key consumer organization ready => ∀ ticket ∈ p.redeem s.1 key,
      Portal.letsIn s.1 ticket consumer organization ready = true → consumer.codename ∈ S

instance (S : List String) (p : Portal) (token : APIToken) : (call : Call) →
    Decidable (withinCall S p token call)
  | .createToken scopes _ _ _ => inferInstanceAs (Decidable (Narrow S (scopes.getD (.arr []))))
  | .updateToken uuid (some scopes) _ _ => inferInstanceAs
      (Decidable (∀ t ∈ p.ownToken token uuid, t.raw ∈ p.held → Narrow S scopes))
  | .continueUpload _ _ => inferInstanceAs (Decidable (uploadCodename ∈ S))
  | .resource _ _ _ _ _ | .initiateUpload _ _ _ | .updateToken _ none _ _ | .revokeToken _
  | .issueTicket | .readOwn => isTrue trivial

instance (S : List String) : (s : Surroundings × Step) → (p : Portal) → Decidable (Within S s p)
  | (e, .api raw call), p => inferInstanceAs (Decidable (∀ token ∈ p.authenticate e raw,
      p.accepts e token call = true → withinCall S p token call))
  | (e, .connect key consumer organization ready), p => inferInstanceAs (Decidable
      (∀ ticket ∈ p.redeem e key, Portal.letsIn e ticket consumer organization ready = true →
        consumer.codename ∈ S))

/-! ## The invariant -/

/-- The tokens that the client holds are restricted to `S`, and so is what it has done. -/
structure Bounded (S : List String) (p : Portal) : Prop where
  tokens : ∀ raw ∈ p.held, ∀ token, Table.get p.tokens raw = some token → Narrow S token.scopes
  performed : ∀ codename ∈ p.performed, codename ∈ S

section Steps

variable {S : List String} {e : Surroundings} {p : Portal} {token : APIToken}

/-- One more thing was done, with a codename of `S`. -/
theorem Bounded.perform (h : Bounded S p) {p' : Portal} {more : List String}
    (held : p'.held = p.held) (tokens : p'.tokens = p.tokens)
    (performed : p'.performed = p.performed ++ more) (within : ∀ codename ∈ more, codename ∈ S) :
    Bounded S p' := by
  refine ⟨?_, ?_⟩
  · rw [held, tokens]
    exact h.tokens
  · rw [performed]
    intro codename hc
    rcases List.mem_append.mp hc with hc | hc
    · exact h.performed codename hc
    · exact within codename hc

/-- A token was rewritten. -/
theorem Bounded.modify (h : Bounded S p) {raw : Nat} {f : APIToken → APIToken}
    (keeps : ∀ t, (f t).raw = t.raw)
    (narrow : raw ∈ p.held → ∀ t, Narrow S t.scopes → Narrow S (f t).scopes) :
    Bounded S { p with tokens := Table.modify p.tokens raw f } := by
  refine ⟨?_, h.performed⟩
  intro raw' held t ht
  by_cases same : raw' = raw
  · subst same
    rw [Table.get_modify_self keeps] at ht
    obtain ⟨t', ht', rfl⟩ := Option.map_eq_some_iff.mp ht
    exact narrow held t' (h.tokens raw' held t' ht')
  · rw [Table.get_modify_ne keeps same] at ht
    exact h.tokens raw' held t ht

/-- A token was made for the client. -/
theorem Bounded.insert (h : Bounded S p) {t : APIToken} (narrow : Narrow S t.scopes) :
    Bounded S { p with tokens := p.tokens ++ [t], held := p.held ++ [Table.nextPk p.tokens] } := by
  refine ⟨?_, h.performed⟩
  intro raw held t' ht'
  rcases Table.get_append_cases ht' with old | rfl
  · rcases List.mem_append.mp held with held | held
    · exact h.tokens raw held t' old
    · -- the new raw token is not one that was there
      rw [List.mem_singleton.mp held] at old
      exact absurd rfl (Table.nextPk_ne old)
  · exact narrow

/-- A request that is carried out under the condition keeps the client within `S`. -/
theorem Bounded.effect (h : Bounded S p) {raw : Nat} (held : raw ∈ p.held)
    (authenticated : p.authenticate e raw = some token) {call : Call}
    (accepted : p.accepts e token call = true) (within : withinCall S p token call) :
    Bounded S (p.effect e token call) := by
  have narrow : Narrow S token.scopes := by
    obtain ⟨t, ht, valid⟩ := Option.bind_eq_some_iff.mp authenticated
    split at valid <;> cases valid
    exact h.tokens raw held token ht
  cases call with
  | resource view action organization object done =>
    refine h.perform rfl rfl rfl ?_
    intro codename hc
    have resolved : view.1.codename action = some codename := Option.mem_toList.mp hc
    simp only [Portal.accepts, Bool.and_eq_true, resolved] at accepted
    exact narrow.of_permits (guarded_codename_known view.2 resolved)
      (tokenPermits_of_permits accepted.1)
  | initiateUpload organization uuid done =>
    refine h.perform rfl rfl rfl ?_
    intro codename hc
    cases List.mem_singleton.mp hc
    simp only [Portal.accepts, Bool.and_eq_true] at accepted
    exact narrow.of_permits (by decide) (tokenPermits_of_permits accepted.1)
  | continueUpload uuid done =>
    refine h.perform rfl rfl rfl ?_
    intro codename hc
    cases List.mem_singleton.mp hc
    exact within
  | createToken scopes expiresAt uuid done => exact h.insert within
  | updateToken uuid scopes expiresAt done =>
    simp only [Portal.effect]
    split
    · next t own =>
      refine h.modify (fun _ => rfl) ?_
      intro held' t' narrow'
      cases scopes with
      | none => exact narrow'
      | some scopes => exact within t own held'
    · exact h
  | revokeToken uuid =>
    simp only [Portal.effect]
    split
    · exact h.modify (fun _ => rfl) fun _ _ narrow' => narrow'
    · exact h
  | issueTicket => exact ⟨h.tokens, h.performed⟩
  | readOwn => exact h

theorem Bounded.step (h : Bounded S p) {s : Surroundings × Step} {p' : Portal}
    (within : Within S s p) (taken : Portal.step s p = some p') : Bounded S p' := by
  obtain ⟨e, step⟩ := s
  cases step with
  | api raw call =>
    simp only [Portal.step] at taken
    split at taken
    · cases taken
    · next held =>
      split at taken
      · next token authenticated =>
        split at taken <;> cases taken
        · next accepted =>
          exact h.effect (not_not.mp held) authenticated accepted
            (within token authenticated accepted)
        · exact h
      · cases taken
        exact h
  | connect key consumer organization ready =>
    simp only [Portal.step] at taken
    split at taken
    · cases taken
    · split at taken
      · next ticket redeemed =>
        split at taken <;> cases taken
        · next letIn =>
          refine h.perform rfl rfl rfl ?_
          intro codename hc
          cases List.mem_singleton.mp hc
          exact within ticket redeemed letIn
        · exact ⟨h.tokens, h.performed⟩
      · cases taken
        exact h

end Steps

/-! ## Every run -/

/-- **A scoped token is not left behind by requests within its scopes.** For every token whose
scopes are a list `S` that is not empty, and every run of requests made with it and with the
credentials that these requests return: if every step meets the condition, then everything the
client has done to organization resources has its codename in `S`. -/
theorem within_performed (S : List String) (nonempty : S ≠ []) (p : Portal) (token : APIToken)
    (scopes : token.scopes = scopeList S) (stored : Table.get p.tokens token.raw = some token)
    (held : p.held = [token.raw]) (fresh : p.performed = [])
    (steps : List (Surroundings × Step)) (p' : Portal)
    (run : runFrom Portal.step steps p = some p') (within : Along Portal.step (Within S) steps p) :
    ∀ codename ∈ p'.performed, codename ∈ S := by
  have start : Bounded S p := by
    refine ⟨?_, ?_⟩
    · rw [held]
      intro raw hraw t ht
      rw [List.mem_singleton.mp hraw, stored] at ht
      cases ht
      rw [scopes]
      exact narrow_scopeList nonempty
    · rw [fresh]
      exact nofun
  exact (runFrom_keeps (fun _ _ _ h hw hs => h.step hw hs) start within run).performed

/-- A token scoped to viewing nodes, of a user who may do more. -/
def viewToken : APIToken where
  raw := 1
  uuid := ⟨1⟩
  user := 7
  scopes := scopeList ["node.view"]

def viewer : Portal where
  tokens := [viewToken]
  held := [1]

/-- User 7 may view and manage the nodes of organization 1. -/
def managesNodes : Surroundings where
  grants := { assignments :=
    [{ user := 7, organization := 1, codenames := ["node.view", "node.manage"] }] }

def nodeView : GuardedView :=
  ⟨{ permissionMap := nodeViewSet.permissionMap },
    List.mem_append_left _ (List.mem_map_of_mem (by simp [organizationScoped]))⟩

/-- A narrower token is made and used, and deleting a node is refused. -/
def viewsOnly : List (Surroundings × Step) :=
  [(managesNodes, .api 1 (.resource nodeView .list none none true)),
    (managesNodes, .api 1 (.createToken (some (scopeList ["node.view"])) none ⟨2⟩ true)),
    (managesNodes, .api 2 (.resource nodeView .retrieve none (some (some 1)) true)),
    (managesNodes, .api 2 (.resource nodeView .destroy none (some (some 1)) true))]

theorem within_performed_viewsOnly :
    ∃ p, runFrom Portal.step viewsOnly viewer = some p ∧
      p.performed = ["node.view", "node.view"] ∧ ∀ codename ∈ p.performed, codename ∈ ["node.view"] :=
  ⟨_, rfl, rfl, within_performed ["node.view"] nofun viewer viewToken rfl rfl rfl rfl viewsOnly _ rfl
    (by decide)⟩

/-- The client makes a token without scopes and deletes a node with it. -/
def makesUnscoped : List (Surroundings × Step) :=
  [(managesNodes, .api 1 (.createToken none none ⟨2⟩ true)),
    (managesNodes, .api 2 (.resource nodeView .destroy none (some (some 1)) true))]

theorem makesUnscoped_escapes :
    viewToken.scopes = scopeList ["node.view"] ∧
      ∃ p, runFrom Portal.step makesUnscoped viewer = some p ∧ p.performed = ["node.manage"] ∧
        ¬ ∀ codename ∈ p.performed, codename ∈ ["node.view"] :=
  ⟨rfl, _, rfl, rfl, by decide⟩

end NodePilot.Access
