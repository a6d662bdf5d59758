import Mathlib
import NodePilot.Idempotency
import NodePilot.Lib.Separators

/-!
# Whose answers are replayed

A key of the cache gives away the user of the session or else the header, the method, and the path and the
idempotency key with a colon between them. So an answer stays with its identity where the middleware and
the API agree on whom a request is from, and where the path has no colon. A request without either
credential is one principal with all others of its kind, which matters to the views that admit anybody.
-/

namespace NodePilot.Idempotency

open Lib

/-! ## Tokens -/

section Tokens

variable {keyword header path : String} {issued : String → Option Identity} {live : String → Bool}
  {identity : Identity} {authorization : Option String} {c : Credentials}

/-- Every token is accepted. -/
def allLive : String → Bool := fun _ => true

/-- A header is accepted for its keyword and a live token. -/
theorem byKeyword_some : byKeyword keyword issued live header = .ok (some identity) ↔
    ∃ raw, words header = [keyword, raw] ∧ issued raw = some identity ∧ live raw = true := by
  unfold byKeyword
  split
  · next none => simp [none]
  · next first rest split =>
    rw [split]
    by_cases same : first = keyword
    · rw [if_pos same]
      match rest with
      | [] => simp
      | [raw] =>
        cases found : issued raw with
        | none => simp [found]
        | some i =>
          cases accepted : live raw with
          | false => simp [found, accepted]
          | true => simp [same, found, accepted]
      | _ :: _ :: _ => simp
    · simp [same]

/-- A header with another keyword is left to others. -/
theorem byKeyword_none : byKeyword keyword issued live header = .ok none ↔
    (words header).head? ≠ some keyword := by
  unfold byKeyword
  split
  · next none => simp [none]
  · next first rest split =>
    rw [split]
    by_cases same : first = keyword
    · rw [if_pos same]
      match rest with
      | [] => simp [same]
      | [raw] =>
        cases found : issued raw with
        | none => simp [same, found]
        | some i => cases accepted : live raw <;> simp [same, found, accepted]
      | _ :: _ :: _ => simp [same]
    · simp [same]

/-- Whom the header is issued to, accepted or not. -/
def Credentials.holder (c : Credentials) (path : String) (authorization : Option String) :
    Option Identity :=
  match c.byHeader path allLive authorization with
  | .ok identity => identity
  | .error _ => none

/-- The header is read by the classes of the path. -/
theorem byHeader_some : c.byHeader path live authorization = .ok (some identity) ↔
    if path ∈ agentPaths then
      c.agentTokenAuthentication live (authorization.getD "") = .ok (some identity)
    else
      c.jwtAuthentication live (authorization.getD "") = .ok (some identity) ∨
      c.jwtAuthentication live (authorization.getD "") = .ok none ∧
        c.apiTokenAuthentication live (authorization.getD "") = .ok (some identity) := by
  unfold Credentials.byHeader
  by_cases agents : path ∈ agentPaths
  · simp [agents]
  · cases jwt : c.jwtAuthentication live (authorization.getD "") with
    | error e => simp [agents, jwt, bind, Except.bind]
    | ok found => cases found <;> simp [agents, jwt, bind, Except.bind, pure, Except.pure]

/-- A token that is accepted is from its holder. -/
theorem holder_of_byHeader (h : c.byHeader path live authorization = .ok (some identity)) :
    c.holder path authorization = some identity := by
  have accepted {keyword : String} {issued : String → Option Identity}
      (h : byKeyword keyword issued live (authorization.getD "") = .ok (some identity)) :
      byKeyword keyword issued allLive (authorization.getD "") = .ok (some identity) := by
    obtain ⟨raw, split, found, -⟩ := byKeyword_some.mp h
    exact byKeyword_some.mpr ⟨raw, split, found, rfl⟩
  have all : c.byHeader path allLive authorization = .ok (some identity) := by
    rw [byHeader_some] at h ⊢
    by_cases agents : path ∈ agentPaths
    · rw [if_pos agents] at h ⊢
      exact accepted h
    · rw [if_neg agents] at h ⊢
      rcases h with jwt | ⟨other, api⟩
      · exact .inl (accepted jwt)
      · exact .inr ⟨byKeyword_none.mpr (byKeyword_none.mp other), accepted api⟩
  simp [Credentials.holder, all]

/-- The holder of a live token is accepted. -/
theorem byHeader_of_holder (h : c.holder path authorization = some identity) :
    c.byHeader path allLive authorization = .ok (some identity) := by
  unfold Credentials.holder at h
  split at h
  · next found => rw [found, h]
  · cases h

/-- Without a header there is no token. -/
theorem byHeader_absent : c.byHeader path live none = .ok none := by
  have empty : words "" = [] := by decide +kernel
  unfold Credentials.byHeader
  by_cases agents : path ∈ agentPaths
  · simp [agents, Credentials.agentTokenAuthentication, byKeyword, empty]
  · simp [agents, Credentials.jwtAuthentication, Credentials.apiTokenAuthentication, byKeyword, empty,
      bind, Except.bind]

/-- Without a session, who sends a request is the holder of its token. -/
theorem holder_of_identity {a : Arrival} (none : a.request.session = none)
    (h : c.identity a = some identity) :
    c.holder a.request.path a.request.authorization = some identity := by
  unfold Credentials.identity at h
  split at h
  · cases h
  · next found =>
    cases h
    exact holder_of_byHeader found
  · simp [bySession, none] at h

end Tokens

/-! ## Keys -/

section Keys

variable {site : Site} {a b : Arrival}

/-- The two requests are one principal to the middleware. -/
def SamePrincipal (a b : Arrival) : Prop :=
  a.request.session = b.request.session ∧
    (a.request.session = none → a.request.authorization.getD "" = b.request.authorization.getD "")

/-- A number has no colon. -/
theorem colon_notMem_nat (n : Nat) : ':' ∉ n.repr.toList := by
  intro mem
  have digits : ':' ∈ Nat.toDigits 10 n := by simpa [Nat.repr] using mem
  exact absurd (Nat.isDigit_of_mem_toDigits (by decide) (by decide) digits) (by decide)

/-- An integer has no colon. -/
theorem colon_notMem_int (n : Int) : ':' ∉ (toString n).toList := by
  cases n with
  | ofNat n => exact colon_notMem_nat n
  | negSucc n =>
    show ':' ∉ ("-" ++ (n + 1).repr).toList
    rw [String.toList_append, List.mem_append]
    rintro (sign | digits)
    · exact absurd sign (by decide)
    · exact colon_notMem_nat (n + 1) digits

/-- The parts of a principal. -/
theorem principalId_parts (site : Site) (a : Arrival) : ∃ tag number : String,
    site.principalId a = tag ++ ":" ++ number ∧ ':' ∉ tag.toList ∧ ':' ∉ number.toList := by
  unfold Site.principalId
  split
  · next pk _ => exact ⟨"user", toString pk, rfl, by decide, colon_notMem_nat pk⟩
  · exact ⟨"anon", _, rfl, by decide, colon_notMem_int _⟩

/-- A session's principal is its user. -/
theorem principalId_session {pk : Nat} (session : a.request.session = some pk) :
    site.principalId a = "user" ++ ":" ++ toString pk := by
  unfold Site.principalId
  split
  · next pk' same =>
    rw [session] at same
    cases same
    rfl
  · next none =>
    rw [session] at none
    cases none

/-- A principal is one user of a session, or one header. -/
theorem samePrincipal (same : site.principalId a = site.principalId b) : SamePrincipal a b := by
  have tags {x y : String} : "user" ++ ":" ++ x ≠ "anon" ++ ":" ++ y := by
    intro same
    have chars := congrArg String.toList same
    rw [toList_colon, toList_colon] at chars
    exact absurd (append_sep_inj (by decide) (by decide) chars).1 (by decide)
  have numbers {tag x y : String} (same : tag ++ ":" ++ x = tag ++ ":" ++ y) : x = y := by
    have chars := congrArg String.toList same
    rw [toList_colon, toList_colon] at chars
    exact String.toList_injective (List.cons.inj (List.append_cancel_left chars)).2
  unfold Site.principalId at same
  unfold SamePrincipal
  cases sa : a.request.session with
  | none =>
    cases sb : b.request.session with
    | none =>
      rw [sa, sb] at same
      exact ⟨rfl, fun _ => site.headerHash.collisionFree _ _ _ _ (Int.repr_injective (numbers same))⟩
    | some pk =>
      rw [sa, sb] at same
      exact absurd same.symm tags
  | some pk =>
    cases sb : b.request.session with
    | none =>
      rw [sa, sb] at same
      exact absurd same tags
    | some pk' =>
      rw [sa, sb] at same
      rw [Nat.repr_injective (numbers same)]
      exact ⟨rfl, fun none => by cases none⟩

/-- What is hashed for a key. -/
def Site.text (site : Site) (a : Arrival) : String :=
  site.principalId a ++ ":" ++ a.request.method ++ ":" ++ a.request.path ++ ":" ++
    a.request.idempotencyKey.getD ""

/-- Requests with the same key have the same principal, method, path and key text. -/
theorem text_of_keyOf (same : site.keyOf a = site.keyOf b) : site.text a = site.text b :=
  site.sha256.injective ((String.append_right_inj _).mp same)

/-- No tracked method has a colon. -/
theorem colon_notMem_method {r : Request} (tracked : r.tracked?.isSome = true) :
    ':' ∉ r.method.toList := by
  have method : r.method ∈ idempotentMethods := by
    unfold Request.tracked? at tracked
    split at tracked
    · assumption
    · cases tracked
  have all : ∀ m ∈ idempotentMethods, ':' ∉ m.toList := by decide
  exact all r.method method

/-- **What two requests with one key share.** -/
theorem shared_of_keyOf (same : site.keyOf a = site.keyOf b) (ha : a.request.tracked?.isSome = true)
    (hb : b.request.tracked?.isSome = true) :
    SamePrincipal a b ∧ a.request.method = b.request.method ∧
      a.request.path.toList ++ ':' :: (a.request.idempotencyKey.getD "").toList =
        b.request.path.toList ++ ':' :: (b.request.idempotencyKey.getD "").toList := by
  obtain ⟨tag, number, principal, tagPlain, numberPlain⟩ := principalId_parts site a
  obtain ⟨tag', number', principal', tagPlain', numberPlain'⟩ := principalId_parts site b
  have chars := congrArg String.toList (text_of_keyOf same)
  simp only [Site.text, principal, principal', toList_colon, List.append_assoc, List.cons_append] at chars
  obtain ⟨tags, chars⟩ := append_sep_inj tagPlain tagPlain' chars
  obtain ⟨numbers, chars⟩ := append_sep_inj numberPlain numberPlain' chars
  obtain ⟨methods, rest⟩ := append_sep_inj (colon_notMem_method ha) (colon_notMem_method hb) chars
  have principals : site.principalId a = site.principalId b := by
    rw [principal, principal', String.toList_injective tags, String.toList_injective numbers]
  exact ⟨samePrincipal principals, String.toList_injective methods, rest⟩

end Keys

/-! ## Attributed requests -/

/-- The path and the idempotency key, as they are joined. -/
def Request.joined (r : Request) : List Char := r.path.toList ++ ':' :: (r.idempotencyKey.getD "").toList

/-- The request that has the same key in the cache and no colon in its path. -/
def Request.fitted (r : Request) : Request where
  method := r.method
  path := String.ofList (r.joined.takeWhile (· ≠ ':'))
  idempotencyKey := some (String.ofList ((r.joined.dropWhile (· ≠ ':')).drop 1))
  authorization := r.authorization
  session := r.session
  csrf := r.csrf

section Fitted

variable {r : Request}

/-- What comes before the first colon of a list, and what comes after it. -/
theorem split_colon {l : List Char} (mem : ':' ∈ l) :
    l.takeWhile (· ≠ ':') ++ ':' :: (l.dropWhile (· ≠ ':')).drop 1 = l ∧
      ':' ∉ l.takeWhile (· ≠ ':') := by
  constructor
  · have rest : l.dropWhile (· ≠ ':') ≠ [] := by
      intro empty
      exact absurd (List.dropWhile_eq_nil_iff.mp empty ':' mem) (by decide)
    obtain ⟨c, cs, shape⟩ := List.exists_cons_of_ne_nil rest
    have first := List.head_dropWhile_not (· ≠ ':') rest
    simp only [shape, List.head_cons] at first
    have colon : c = ':' := by simpa using first
    have whole := List.takeWhile_append_dropWhile (p := (· ≠ ':')) (l := l)
    rw [shape, colon] at whole
    rw [shape]
    exact whole
  · intro inside
    exact absurd (List.mem_takeWhile_imp inside) (by decide)

/-- The path and the key are joined by a colon. -/
theorem colon_mem_joined : ':' ∈ r.joined := by simp [Request.joined]

/-- The fitted request has the same joined text. -/
theorem fitted_joined : r.fitted.joined = r.joined := by
  have split := (split_colon (colon_mem_joined (r := r))).1
  simpa [Request.fitted, Request.joined] using split

/-- The path of the fitted request has no colon. -/
theorem fitted_plain : ':' ∉ r.fitted.path.toList := by
  simpa [Request.fitted] using (split_colon (colon_mem_joined (r := r))).2

/-- A request whose path has no colon is fitted as it is. -/
theorem fitted_path (plain : ':' ∉ r.path.toList) : r.fitted.path = r.path :=
  String.toList_injective (append_sep_inj fitted_plain plain fitted_joined).1

/-- A request is tracked by its method and its header. -/
theorem tracked_iff : r.tracked?.isSome = true ↔
    r.method ∈ idempotentMethods ∧ r.idempotencyKey.getD "" ≠ "" := by
  unfold Request.tracked?
  by_cases method : r.method ∈ idempotentMethods
  · cases r.idempotencyKey with
    | none => simp
    | some key => by_cases empty : key = "" <;> simp [method, empty]
  · simp [method]

theorem tracked_congr {r' : Request} (method : r.method = r'.method)
    (key : r.idempotencyKey = r'.idempotencyKey) : r.tracked? = r'.tracked? := by
  unfold Request.tracked?
  rw [method, key]

/-- The fitted request is tracked as well. -/
theorem fitted_tracked (tracked : r.tracked?.isSome = true) : r.fitted.tracked?.isSome = true := by
  obtain ⟨method, key⟩ := tracked_iff.mp tracked
  refine tracked_iff.mpr ⟨method, fun empty => ?_⟩
  have chars : (r.idempotencyKey.getD "").toList ≠ [] := fun none =>
    key (String.toList_injective (none.trans rfl))
  -- with nothing after it, the first colon would be the last character
  have joined := fitted_joined (r := r)
  rw [Request.joined, empty, Request.joined] at joined
  have last := congrArg List.dropLast joined
  rw [show "".toList = [] from rfl, List.dropLast_concat, List.dropLast_append_of_ne_nil (by simp),
    List.dropLast_cons_of_ne_nil chars] at last
  exact fitted_plain (r := r) (by simp [last])

end Fitted

section Attribution

variable (site : Site)

/-- The API takes the request to be from the one whom the middleware keeps the answer for, and its path
has no colon. Or else no answer is kept for the likes of it: it has neither a session nor a token, and its
view does not admit just anybody. -/
def Site.Attributed (a : Arrival) : Prop :=
  a.request.tracked?.isSome = true →
    match a.request.session with
    | some pk => ':' ∉ a.request.path.toList ∧ site.credentials.identity a = some (.user pk)
    | none => (':' ∉ a.request.path.toList ∧ (site.credentials.identity a).isSome = true) ∨
        (site.credentials.identity a = none ∧ a.request.path ∉ openPaths ∧
          site.credentials.holder a.request.fitted.path a.request.authorization = none)

/-- One authenticated identity has made both requests, with the same method, path and key. -/
structure Site.Agree (a b : Arrival) : Prop where
  authenticated : (site.credentials.identity a).isSome = true
  identity : site.credentials.identity a = site.credentials.identity b
  method : a.request.method = b.request.method
  path : a.request.path = b.request.path
  key : a.request.idempotencyKey.getD "" = b.request.idempotencyKey.getD ""

/-- Every answer that was replayed has stayed with its identity, method, path and key. -/
def Site.Confined (s : State) : Prop := ∀ x ∈ s.replays, site.Agree x.1 x.2

variable {site} {a b : Arrival}

/-- An attributed request that was admitted has an identity, and a path without a colon. -/
theorem Site.Attributed.admitted (h : site.Attributed a) (tracked : a.request.tracked?.isSome = true)
    (admits : site.admits a = true) : ':' ∉ a.request.path.toList ∧
      ∃ identity, site.credentials.identity a = some identity ∧
        match a.request.session with
        | some pk => identity = .user pk
        | none => site.credentials.holder a.request.path a.request.authorization = some identity := by
  have cases := h tracked
  cases session : a.request.session with
  | some pk =>
    rw [session] at cases
    exact ⟨cases.1, .user pk, cases.2, rfl⟩
  | none =>
    rw [session] at cases
    rcases cases with ⟨plain, known⟩ | ⟨nobody, closed, -⟩
    · obtain ⟨identity, found⟩ := Option.isSome_iff_exists.mp known
      exact ⟨plain, identity, found, holder_of_identity session found⟩
    · simp [Site.admits, closed, nobody] at admits

/-- **A request that gets an answer of the cache is from the one it was kept for**, when both are
attributed. -/
theorem agree_of_keyOf (ta : a.request.tracked?.isSome = true) (tb : b.request.tracked?.isSome = true)
    (ha : site.Attributed a) (hb : site.Attributed b) (admits : site.admits a = true)
    (same : site.keyOf a = site.keyOf b) : site.Agree a b := by
  obtain ⟨⟨sessions, headers⟩, methods, rest⟩ := shared_of_keyOf same ta tb
  obtain ⟨plain, identity, found, whose⟩ := ha.admitted ta admits
  have path : a.request.path = b.request.fitted.path :=
    String.toList_injective (append_sep_inj plain fitted_plain (rest.trans fitted_joined.symm)).1
  have other := hb tb
  cases session : a.request.session with
  | some pk =>
    rw [session] at sessions whose
    rw [← sessions] at other
    obtain ⟨paths, keys⟩ := append_sep_inj plain other.1 rest
    exact ⟨by simp [found], by rw [found, other.2, whose], methods, String.toList_injective paths,
      String.toList_injective keys⟩
  | none =>
    rw [session] at sessions whose
    rw [← sessions] at other
    have sameHolder : site.credentials.holder b.request.fitted.path b.request.authorization =
        site.credentials.holder a.request.path a.request.authorization := by
      unfold Credentials.holder Credentials.byHeader
      rw [path, headers session]
    rcases other with ⟨plain', known⟩ | ⟨-, -, unknown⟩
    · obtain ⟨identity', found'⟩ := Option.isSome_iff_exists.mp known
      have whose' := holder_of_identity sessions.symm found'
      rw [← fitted_path plain', sameHolder, whose] at whose'
      obtain ⟨paths, keys⟩ := append_sep_inj plain plain' rest
      exact ⟨by simp [found], by rw [found, found', whose'], methods, String.toList_injective paths,
        String.toList_injective keys⟩
    · rw [sameHolder, whose] at unknown
      cases unknown

end Attribution

/-! ## Runs -/

section Runs

variable {site : Site} {s s' : State} {a b : Arrival}

/-- **The invariant**: what is cached is under the key of the attributed request that it was kept for. -/
structure Sound (site : Site) (s : State) : Prop where
  redis : ∀ key lease, s.redis key = some lease →
    key = site.keyOf lease.token.origin ∧ lease.token.origin.request.tracked?.isSome = true ∧
      site.Attributed lease.token.origin ∧ site.admits lease.token.origin = true
  running : ∀ a ∈ s.running, a.request.tracked?.isSome = true ∧ site.Attributed a
  confined : site.Confined s

/-- Looking for an answer keeps the cache sound. -/
theorem Sound.processRequest (h : Sound site s) (attributed : site.Attributed a) :
    Sound site (site.processRequest s a) := by
  unfold Site.processRequest
  split
  · exact h
  · next key tracked =>
    have tracked : a.request.tracked?.isSome = true := by simp [tracked]
    split
    · next lease found =>
      split
      · obtain ⟨sameKey, trackedOrigin, attributedOrigin, admits⟩ :=
          h.redis _ lease (Leases.at?_eq_some.mp found).1
        refine ⟨h.redis, h.running, fun x mem => ?_⟩
        rcases List.mem_cons.mp mem with rfl | old
        · exact agree_of_keyOf trackedOrigin tracked attributedOrigin attributed admits sameKey.symm
        · exact h.confined x old
      · exact h
    · refine ⟨h.redis, fun b mem => ?_, h.confined⟩
      rcases List.mem_append.mp mem with old | new
      · exact h.running b old
      · rw [List.mem_singleton.mp new]
        exact ⟨tracked, attributed⟩

/-- Keeping an answer keeps the cache sound. -/
theorem Sound.processResponse {r : Response} (h : Sound site s) (tracked : a.request.tracked?.isSome = true)
    (attributed : site.Attributed a) (admits : r.status < 400 → site.admits a = true) :
    Sound site (site.processResponse s a r) := by
  unfold Site.processResponse
  split
  · next body _ =>
    split
    · next good =>
      refine ⟨fun key lease found => ?_, h.running, h.confined⟩
      by_cases same : key = site.keyOf a
      · simp only [Leases.set, same, Function.update_self, Option.some.injEq] at found
        rw [← found]
        exact ⟨same, tracked, attributed, admits (by omega)⟩
      · simp only [Leases.set, Function.update_of_ne same] at found
        exact h.redis key lease found
    · exact h
  · exact h

/-- Every step keeps the cache sound. -/
theorem Sound.step {step : Step} (h : Sound site s)
    (attributed : ∀ a ∈ arrivals [step], site.Attributed a) (next : site.step step s = some s') :
    Sound site s' := by
  cases step with
  | receive a =>
    cases next
    exact h.processRequest (attributed a (by simp [arrivals]))
  | respond index r =>
    obtain ⟨a, found, next⟩ := Option.bind_eq_some_iff.mp next
    have erased : Sound site { s with running := s.running.eraseIdx index } :=
      ⟨h.redis, fun b mem => h.running b (List.mem_of_mem_eraseIdx mem), h.confined⟩
    obtain ⟨tracked, attributed⟩ := h.running a (List.mem_of_getElem? found)
    split at next
    · next admits =>
      cases next
      exact erased.processResponse tracked attributed admits
    · cases next
  | advance seconds =>
    cases next
    exact ⟨h.redis, h.running, h.confined⟩
  | forget key =>
    cases next
    refine ⟨fun key' lease found => ?_, h.running, h.confined⟩
    by_cases same : key' = key
    · simp [Leases.del, same] at found
    · exact h.redis key' lease (by simpa [Leases.del, same] using found)

/-- What arrives is what is received. -/
theorem mem_arrivals {steps : List Step} : a ∈ arrivals steps ↔ Step.receive a ∈ steps := by
  induction steps with
  | nil => simp [arrivals]
  | cons step steps ih => cases step <;> simp [arrivals, ih]

/-- A run of attributed requests is sound. -/
theorem sound (site : Site) {steps : List Step} (all : ∀ a ∈ arrivals steps, site.Attributed a) :
    ∀ s ∈ visited site.step steps {}, Sound site s := by
  intro s mem
  refine visited_keeps (I := Sound site)
    (C := fun step _ => ∀ a ∈ arrivals [step], site.Attributed a)
    (fun _ _ _ h attributed next => h.step attributed next) ?_ ?_ mem
  · exact ⟨fun _ _ found => (by cases found), fun _ mem => absurd mem List.not_mem_nil,
      fun _ mem => absurd mem List.not_mem_nil⟩
  · refine Along.of_forall (fun step inside _ a mem => ?_) _
    refine all a (mem_arrivals.mpr ?_)
    have same := mem_arrivals.mp mem
    rw [List.mem_singleton.mp same]
    exact inside

/-! ### Exactly those -/

/-- The first request is answered, and the second one gets the answer. -/
def replayed (a b : Arrival) : List Step :=
  [.receive a, .respond 0 ⟨200, some (.obj [])⟩, .receive b]

/-- Two requests with one key, and the second gets the answer of the first. -/
theorem replayed_visited (ta : a.request.tracked?.isSome = true) (tb : b.request.tracked?.isSome = true)
    (admits : site.admits a = true) (same : site.keyOf a = site.keyOf b) :
    ∃ s ∈ visited site.step (replayed a b) {}, (a, b) ∈ s.replays := by
  obtain ⟨key, ta⟩ := Option.isSome_iff_exists.mp ta
  obtain ⟨key', tb⟩ := Option.isSome_iff_exists.mp tb
  have empty : Leases.at? (fun _ => none : Leases String Stored) 0 (site.keyOf a) = none := rfl
  have first : site.processRequest {} a = { running := [a] } := by
    simp [Site.processRequest, ta, empty]
  let cached : State :=
    { redis := Leases.set (fun _ => none) 0 site.ttl (site.keyOf a) ⟨200, .obj [], a⟩ }
  have second : site.step (.respond 0 ⟨200, some (.obj [])⟩) { running := [a] } = some cached := by
    simp [Site.step, admits, Site.processResponse, cached]
  have held : cached.redis.at? 0 (site.keyOf b) = some ⟨⟨200, .obj [], a⟩, site.ttl⟩ := by
    simp [cached, Leases.at?_set site.ttl_pos, same]
  have third : site.processRequest cached b = { cached with replays := [(a, b)] } := by
    simp [Site.processRequest, tb, held, cached, isDict]
  refine ⟨{ cached with replays := [(a, b)] }, mem_visited ?_, List.mem_singleton_self _⟩
  show (some (site.processRequest {} a)).bind _ = _
  rw [first]
  show (site.step (.respond 0 ⟨200, some (.obj [])⟩) { running := [a] }).bind _ = _
  rw [second]
  exact congrArg some third

/-- A view is open, or it knows who asks. -/
theorem admits_iff : site.admits a = true ↔
    a.request.path ∈ openPaths ∨ (site.credentials.identity a).isSome = true := decide_eq_true_iff

/-- A request's key depends on its principal, its method and its joined text only. -/
theorem keyOf_congr (principal : site.principalId a = site.principalId b)
    (method : a.request.method = b.request.method) (joined : a.request.joined = b.request.joined) :
    site.keyOf a = site.keyOf b := by
  have text (c : Arrival) : (site.text c).toList =
      (site.principalId c).toList ++ ':' :: (c.request.method.toList ++ ':' :: c.request.joined) := by
    simp only [Site.text, toList_colon, List.append_assoc, List.cons_append]
    rfl
  have texts : site.text a = site.text b := by
    refine String.toList_injective ?_
    rw [text, text, principal, method, joined]
  exact congrArg (fun text => "nodepilot:idempotency:" ++ site.sha256 text) texts

/-- One of the two requests gets the answer of the other, and they do not agree. -/
def Confused (site : Site) (a b : Arrival) : Prop :=
  b.request.tracked?.isSome = true ∧ site.keyOf b = site.keyOf a ∧
    ((site.admits b = true ∧ ¬ site.Agree b a) ∨ (site.admits a = true ∧ ¬ site.Agree a b))

/-- The same session without a token. -/
def Arrival.withoutToken (a : Arrival) : Arrival where
  request := { a.request.fitted with authorization := none, csrf := true }
  live := a.live
  process := a.process

/-- Without a token the session is who asks. -/
theorem identity_withoutToken {pk : Nat} (session : a.request.session = some pk)
    (users : a.request.fitted.path ∉ agentPaths) :
    site.credentials.identity a.withoutToken = some (.user pk) := by
  have absent : site.credentials.byHeader a.withoutToken.request.path a.withoutToken.live
      a.withoutToken.request.authorization = .ok none := byHeader_absent
  have user : bySession a.withoutToken.request = some (.user pk) := by
    show (if a.request.fitted.path ∉ agentPaths ∧ true = true then
      a.request.session.map Identity.user else none) = _
    rw [if_pos ⟨users, rfl⟩, session]
    rfl
  unfold Credentials.identity
  rw [absent]
  exact user

/-- A request that is not attributed is confused with another's. -/
theorem withoutToken_confused {pk : Nat} (tracked : a.request.tracked?.isSome = true)
    (bad : ¬ site.Attributed a) (session : a.request.session = some pk)
    (users : a.request.fitted.path ∉ agentPaths) :
    site.Attributed a.withoutToken ∧ Confused site a a.withoutToken := by
  have found := @identity_withoutToken site a pk session users
  have sessionB : a.withoutToken.request.session = some pk := session
  have plain : ':' ∉ a.withoutToken.request.path.toList := fitted_plain (r := a.request)
  have attributed : site.Attributed a.withoutToken := by
    intro _
    rw [sessionB]
    exact ⟨plain, found⟩
  have principal : site.principalId a.withoutToken = site.principalId a :=
    (principalId_session sessionB).trans (principalId_session session).symm
  have joined : a.withoutToken.request.joined = a.request.joined := fitted_joined (r := a.request)
  have trackedB : a.withoutToken.request.tracked?.isSome = true := by
    have same : a.withoutToken.request.tracked? = a.request.fitted.tracked? := tracked_congr rfl rfl
    rw [same]
    exact fitted_tracked tracked
  have admits : site.admits a.withoutToken = true := admits_iff.mpr (.inr (by rw [found]; rfl))
  refine ⟨attributed, trackedB, keyOf_congr principal rfl joined, .inl ⟨admits, fun agree => ?_⟩⟩
  refine bad fun _ => ?_
  rw [session]
  exact ⟨agree.path ▸ plain, agree.identity.symm.trans found⟩

/-- The same header, with all tokens accepted or not. -/
def Arrival.fitted (a : Arrival) (live : String → Bool) : Arrival where
  request := a.request.fitted
  live := live
  process := a.process

/-- The fitted request has the same key. -/
theorem fitted_keyOf {live : String → Bool} : site.keyOf (a.fitted live) = site.keyOf a :=
  keyOf_congr rfl rfl fitted_joined

/-- A token that is accepted once. -/
theorem fitted_confused {identity : Identity} (tracked : a.request.tracked?.isSome = true)
    (bad : ¬ site.Attributed a) (session : a.request.session = none)
    (holder : site.credentials.holder a.request.fitted.path a.request.authorization = some identity) :
    site.Attributed (a.fitted allLive) ∧ Confused site a (a.fitted allLive) := by
  have found : site.credentials.identity (a.fitted allLive) = some identity := by
    have accepted : site.credentials.byHeader (a.fitted allLive).request.path (a.fitted allLive).live
        (a.fitted allLive).request.authorization = .ok (some identity) := byHeader_of_holder holder
    unfold Credentials.identity
    rw [accepted]
  have sessionB : (a.fitted allLive).request.session = none := session
  have attributed : site.Attributed (a.fitted allLive) := by
    intro _
    rw [sessionB]
    exact .inl ⟨fitted_plain, by rw [found]; rfl⟩
  refine ⟨attributed, fitted_tracked tracked, fitted_keyOf,
    .inl ⟨admits_iff.mpr (.inr (by rw [found]; rfl)), fun agree => bad fun _ => ?_⟩⟩
  rw [session]
  have path : a.request.fitted.path = a.request.path := agree.path
  exact .inl ⟨path ▸ fitted_plain, by rw [← agree.identity]; exact agree.authenticated⟩

/-- A token that the view of the fitted path does not know. -/
theorem fitted_refused {identity : Identity} (tracked : a.request.tracked?.isSome = true)
    (bad : ¬ site.Attributed a) (session : a.request.session = none)
    (holder : site.credentials.holder a.request.fitted.path a.request.authorization = none)
    (known : site.credentials.identity a = some identity) :
    site.Attributed (a.fitted a.live) ∧ Confused site a (a.fitted a.live) := by
  have colon : ':' ∈ a.request.path.toList := by
    by_contra plain
    refine bad fun _ => ?_
    rw [session]
    exact .inl ⟨plain, by rw [known]; rfl⟩
  have sessionB : (a.fitted a.live).request.session = none := session
  have refit : (a.fitted a.live).request.fitted.path = a.request.fitted.path := fitted_path fitted_plain
  have nobody : site.credentials.identity (a.fitted a.live) = none := by
    cases found : site.credentials.identity (a.fitted a.live) with
    | none => rfl
    | some identity' =>
      have whose : site.credentials.holder a.request.fitted.path a.request.authorization =
          some identity' := holder_of_identity sessionB found
      rw [holder] at whose
      cases whose
  have closed : a.request.fitted.path ∉ openPaths := by
    intro anybody
    have notAgents : ∀ path ∈ openPaths, path ∉ agentPaths := by decide
    have plainAgents : ∀ path ∈ agentPaths, ':' ∉ path.toList := by decide
    have same : site.credentials.holder a.request.fitted.path a.request.authorization =
        site.credentials.holder a.request.path a.request.authorization := by
      unfold Credentials.holder Credentials.byHeader
      rw [if_neg (notAgents _ anybody), if_neg fun agents => plainAgents _ agents colon]
    rw [same, holder_of_identity session known] at holder
    cases holder
  have attributed : site.Attributed (a.fitted a.live) := by
    intro _
    rw [sessionB]
    exact .inr ⟨nobody, closed, by rw [refit]; exact holder⟩
  refine ⟨attributed, fitted_tracked tracked, fitted_keyOf,
    .inr ⟨admits_iff.mpr (.inr (by rw [known]; rfl)), fun agree => ?_⟩⟩
  have path : a.request.path = a.request.fitted.path := agree.path
  exact absurd (path ▸ colon) fitted_plain

/-- **A request that is not attributed has a partner that is**, or is its own. -/
theorem partner (bad : ¬ site.Attributed a)
    (users : a.request.session = none ∨ a.request.fitted.path ∉ agentPaths) :
    a.request.tracked?.isSome = true ∧ ∃ b, (b = a ∨ site.Attributed b) ∧ Confused site a b := by
  have tracked : a.request.tracked?.isSome = true := by
    by_contra untracked
    exact bad fun tracked => absurd tracked untracked
  refine ⟨tracked, ?_⟩
  cases session : a.request.session with
  | some pk =>
    have users := users.resolve_left (by simp [session])
    obtain ⟨attributed, confused⟩ := withoutToken_confused tracked bad session users
    exact ⟨_, .inr attributed, confused⟩
  | none =>
    cases holder : site.credentials.holder a.request.fitted.path a.request.authorization with
    | some identity =>
      obtain ⟨attributed, confused⟩ := fitted_confused tracked bad session holder
      exact ⟨_, .inr attributed, confused⟩
    | none =>
      cases known : site.credentials.identity a with
      | some identity =>
        obtain ⟨attributed, confused⟩ := fitted_refused tracked bad session holder known
        exact ⟨_, .inr attributed, confused⟩
      | none =>
        -- the request by itself, from two clients
        have anybody : a.request.path ∈ openPaths := by
          by_contra closed
          refine bad fun _ => ?_
          rw [session]
          exact .inr ⟨known, closed, holder⟩
        refine ⟨a, .inl rfl, tracked, rfl, .inl ⟨admits_iff.mpr (.inl anybody), fun agree => ?_⟩⟩
        have authenticated := agree.authenticated
        rw [known] at authenticated
        cases authenticated

/-- **Answers are replayed to those they were kept for, in every run of attributed requests.** And of all
others that do not go to the agents' views, each gets or gives away an answer in some run whose other
requests are attributed. -/
theorem replays_confined (site : Site) :
    (∀ steps : List Step, (∀ a ∈ arrivals steps, site.Attributed a) →
      ∀ s ∈ visited site.step steps {}, site.Confined s) ∧
    ∀ a : Arrival, a.request.session = none ∨ a.request.fitted.path ∉ agentPaths →
      ((∀ steps : List Step, (∀ b ∈ arrivals steps, b = a ∨ site.Attributed b) →
        ∀ s ∈ visited site.step steps {}, site.Confined s) ↔ site.Attributed a) := by
  have run : ∀ steps : List Step, (∀ a ∈ arrivals steps, site.Attributed a) →
      ∀ s ∈ visited site.step steps {}, site.Confined s :=
    fun steps all s mem => (sound site all s mem).confined
  refine ⟨run, fun a users => ⟨fun confined => ?_, fun attributed steps all => run steps fun b mem => ?_⟩⟩
  · by_contra bad
    obtain ⟨tracked, b, who, trackedB, same, either⟩ := partner bad users
    rcases either with ⟨admits, disagree⟩ | ⟨admits, disagree⟩
    · obtain ⟨s, mem, replay⟩ := replayed_visited trackedB tracked admits same
      refine disagree (confined (replayed b a) ?_ s mem _ replay)
      intro c mem
      rcases (by simpa [replayed, arrivals] using mem : c = b ∨ c = a) with rfl | rfl
      · exact who
      · exact .inl rfl
    · obtain ⟨s, mem, replay⟩ := replayed_visited tracked trackedB admits same.symm
      refine disagree (confined (replayed a b) ?_ s mem _ replay)
      intro c mem
      rcases (by simpa [replayed, arrivals] using mem : c = a ∨ c = b) with rfl | rfl
      · exact .inl rfl
      · exact who
  · rcases all b mem with rfl | known
    · exact attributed
    · exact known

/-! ### Two logins -/

/-- A site without tokens. -/
def plainSite : Site where
  credentials := {}
  headerHash := {
    hash _ header := Encodable.encode (header.toList.map Char.toNat)
    collisionFree _ _ _ _ same := String.toList_injective
      (List.map_injective_iff.mpr (fun _ _ => Char.toNat_inj.mp)
        (Encodable.encode_injective (Int.natCast_inj.mp same))) }
  sha256 := .refl _
  ttl := 86400
  ttl_pos := by decide

/-- A login with a key, and without a header. -/
def login : Arrival where
  request := { method := "POST", path := "/api/v1/auth/login/", idempotencyKey := some "1" }
  live _ := false

/-- A VM is asked for in a session. -/
def sessionCreate : Arrival where
  request :=
    { method := "POST", path := "/api/v1/vms/", idempotencyKey := some "1", session := some 1 }
  live _ := false

theorem replays_confined_session :
    ∃ s, runFrom plainSite.step (replayed sessionCreate sessionCreate) {} = some s ∧
      plainSite.Confined s := by
  obtain ⟨s, ran⟩ : ∃ s, runFrom plainSite.step (replayed sessionCreate sessionCreate) {} = some s :=
    Option.isSome_iff_exists.mp (by decide +kernel)
  refine ⟨s, ran, (replays_confined plainSite).1 _ ?_ s (mem_visited ran)⟩
  intro a mem
  rcases (by simpa [replayed, arrivals] using mem : a = _) with rfl
  intro _
  exact ⟨by decide, by decide +kernel⟩

/-- Two clients that log in without a header and choose the same key: the second one gets the tokens of
the first. -/
theorem login_replayed : ¬ ∀ (site : Site) (steps : List Step),
    ∀ s ∈ visited site.step steps {}, site.Confined s := by
  intro confined
  obtain ⟨s, mem, replay⟩ := @replayed_visited plainSite login login (by decide +kernel)
    (by decide +kernel) (by decide +kernel) rfl
  have authenticated := (confined plainSite (replayed login login) s mem _ replay).authenticated
  revert authenticated
  decide +kernel

end Runs

end NodePilot.Idempotency
