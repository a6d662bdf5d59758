import Mathlib.Logic.Embedding.Basic
import NodePilot.Lib.Lease
import NodePilot.Lib.Pool
import NodePilot.Protocol

/-!
# Idempotency keys

`IdempotencyMiddleware` (`apps/common/middleware.py`) and its cache (`apps/common/idempotency.py`). A POST,
PUT or PATCH with an `Idempotency-Key` is answered from the cache if there is an answer to the same
principal, method, path and key. Otherwise its view is run, and an answer of 2xx is kept.

The middleware comes before the authentication of the API. What it takes for the principal is the user of
the session, or else a hash of the `Authorization` header. SHA-256 and the hash of the header are
parameters that do not collide, and so is what a token stands for. Headers are taken to be ASCII.
-/

namespace NodePilot.Idempotency

open Lib

/-! ## Requests -/

structure Request where
  method : String
  path : String
  idempotencyKey : Option String := none
  authorization : Option String := none
  /-- The active user that the session cookie stands for. -/
  session : Option Nat := none
  /-- The CSRF check, which `SessionAuthentication` makes. -/
  csrf : Bool := true

/-- A request, when it arrives. -/
structure Arrival where
  request : Request
  /-- The tokens that are accepted now: not expired or revoked, and of an active user or agent. -/
  live : String → Bool
  /-- The worker process. Each has a hash of its own. -/
  process : Nat := 0

/-! ## Authentication -/

/-- Whom a request is from. -/
inductive Identity
  | user (pk : Nat)
  | agent (pk : Nat)
deriving DecidableEq

/-- Whom a token was issued to. It stands for the same user or agent for good, as tokens are signed or
random, and no row gets another one's token. -/
structure Credentials where
  jwt : String → Option Nat := fun _ => none
  apiToken : String → Option Nat := fun _ => none
  agentToken : String → Option Nat := fun _ => none

/-- White space of `bytes.split()`. -/
def isSpace (c : Char) : Bool := c = ' ' ∨ 9 ≤ c.toNat ∧ c.toNat ≤ 13

/-- `bytes.split()` -/
def words (header : String) : List String :=
  ((header.toList.splitOnP isSpace).filter (· ≠ [])).map String.ofList

/-- One authentication class that goes by a keyword: not its header, or a failure, or an identity. -/
def byKeyword (keyword : String) (issued : String → Option Identity) (live : String → Bool)
    (header : String) : Except Unit (Option Identity) :=
  match words header with
  | [] => .ok none
  | first :: rest =>
    if first = keyword then
      match rest with
      | [raw] => match issued raw with
        | some identity => if live raw then .ok (some identity) else .error ()
        | none => .error ()
      | _ => .error ()
    else .ok none

/-- The views for agents. -/
def agentPaths : List String := ["/api/v1/agent/heartbeat/", "/api/v1/agent/vm-metrics/"]

/-- The views that admit anybody. -/
def openPaths : List String := ["/api/v1/auth/login/", "/api/v1/auth/refresh/"]

/-- `SessionAuthentication`, where the view has it. -/
def bySession (r : Request) : Option Identity :=
  if r.path ∉ agentPaths ∧ r.csrf then r.session.map .user else none

namespace Credentials

variable (c : Credentials)

/-- `AgentTokenAuthentication` -/
def agentTokenAuthentication : (String → Bool) → String → Except Unit (Option Identity) :=
  byKeyword "Agent" fun raw => (c.agentToken raw).map .agent

/-- `JWTAuthentication` -/
def jwtAuthentication : (String → Bool) → String → Except Unit (Option Identity) :=
  byKeyword "Bearer" fun raw => (c.jwt raw).map .user

/-- `APITokenAuthentication` -/
def apiTokenAuthentication : (String → Bool) → String → Except Unit (Option Identity) :=
  byKeyword "Token" fun raw => (c.apiToken raw).map .user

/-- The classes that go by the header, in their order. -/
def byHeader (path : String) (live : String → Bool) (authorization : Option String) :
    Except Unit (Option Identity) :=
  let header := authorization.getD ""
  if path ∈ agentPaths then c.agentTokenAuthentication live header
  else do
    match ← c.jwtAuthentication live header with
    | some identity => return some identity
    | none => c.apiTokenAuthentication live header

/-- Whom the API takes a request to be from, where the view has the default authentication classes or
those of the agents. The views of `openPaths` have none and do not ask. -/
def identity (a : Arrival) : Option Identity :=
  match c.byHeader a.request.path a.live a.request.authorization with
  | .error _ => none
  | .ok (some identity) => some identity
  | .ok none => bySession a.request

end Credentials

/-! ## The middleware -/

/-- Python's `hash` of a header in each process. -/
structure HeaderHash where
  hash : Nat → String → Int
  collisionFree : ∀ p p' h h', hash p h = hash p' h' → h = h'

/-- What a deployment has. -/
structure Site where
  credentials : Credentials
  headerHash : HeaderHash
  sha256 : String ↪ String
  /-- `IDEMPOTENCY_KEY_TTL_SECONDS` -/
  ttl : Nat
  ttl_pos : 0 < ttl

/-- `IDEMPOTENT_METHODS` -/
def idempotentMethods : List String := ["POST", "PUT", "PATCH"]

/-- The key of a request that the middleware deals with. -/
def Request.tracked? (r : Request) : Option String :=
  if r.method ∈ idempotentMethods then r.idempotencyKey.filter (· ≠ "") else none

/-- An answer of a view. Its content is `none` where it is not JSON, and an empty one counts as `{}`. -/
structure Response where
  status : Nat
  content : Option Json

/-- A response in the cache, and whose it was. -/
structure Stored where
  status : Nat
  body : Json
  origin : Arrival

structure State where
  now : Nat := 0
  redis : Leases String Stored := fun _ => none
  /-- The requests whose views are run, and which will be cached. -/
  running : List Arrival := []
  /-- The requests that were answered from the cache, each after the one it got the answer of. -/
  replays : List (Arrival × Arrival) := []

/-- `isinstance(data, dict)` -/
def isDict : Json → Bool
  | .obj _ => true
  | _ => false

namespace Site

variable (site : Site)

/-- `_principal_id` -/
def principalId (a : Arrival) : String :=
  match a.request.session with
  | some pk => "user" ++ ":" ++ toString pk
  | none => "anon" ++ ":" ++
    toString (site.headerHash.hash a.process (a.request.authorization.getD ""))

/-- `_cache_key` -/
def cacheKey (principal method path key : String) : String :=
  "nodepilot:idempotency:" ++ site.sha256 (principal ++ ":" ++ method ++ ":" ++ path ++ ":" ++ key)

/-- The key in the cache for a request. -/
def keyOf (a : Arrival) : String :=
  site.cacheKey (site.principalId a) a.request.method a.request.path
    (a.request.idempotencyKey.getD "")

/-- `IdempotencyMiddleware.process_request` -/
def processRequest (s : State) (a : Arrival) : State :=
  match a.request.tracked? with
  | none => s
  | some _ =>
    match s.redis.at? s.now (site.keyOf a) with
    | some cached =>
      -- `JsonResponse` raises for a body that is not a `dict`
      if isDict cached.token.body then { s with replays := (cached.token.origin, a) :: s.replays } else s
    | none => { s with running := s.running ++ [a] }

/-- A view turns away whoever is not authenticated, unless it admits anybody. -/
def admits (a : Arrival) : Bool :=
  a.request.path ∈ openPaths ∨ (site.credentials.identity a).isSome

/-- `IdempotencyMiddleware.process_response` -/
def processResponse (s : State) (a : Arrival) (r : Response) : State :=
  match r.content with
  | some body =>
    if 200 ≤ r.status ∧ r.status < 300 then
      { s with redis := s.redis.set s.now site.ttl (site.keyOf a) ⟨r.status, body, a⟩ }
    else s
  | none => s

end Site

/-- What happens, in any order. -/
inductive Step
  | receive (a : Arrival)
  /-- The view of a running request answers. -/
  | respond (index : Nat) (r : Response)
  | advance (seconds : Nat)
  | forget (key : String)

def Site.step (site : Site) : Step → State → Option State
  | .receive a, s => some (site.processRequest s a)
  | .respond index r, s => do
    let a ← s.running[index]?
    let s := { s with running := s.running.eraseIdx index }
    if r.status < 400 → site.admits a then return site.processResponse s a r else none
  | .advance seconds, s => some { s with now := s.now + seconds }
  | .forget key, s => some { s with redis := s.redis.del key }

/-- The requests of a run. -/
def arrivals : List Step → List Arrival
  | [] => []
  | .receive a :: steps => a :: arrivals steps
  | _ :: steps => arrivals steps

end NodePilot.Idempotency
