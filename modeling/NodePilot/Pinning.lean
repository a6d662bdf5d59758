import NodePilot.Lib.Pool
import NodePilot.Lib.Prog
import NodePilot.Urls

/-!
# Where a webhook is delivered

The check of a webhook's URL (`WebhookSerializer.validate_url`), and how `deliver_webhook` defends it against
a name that is pointed elsewhere later (`apps/webhooks/security.py`): it resolves the host, and while the
HTTP client works, `socket.getaddrinfo` answers that host with the address that was checked.

The deliveries are those of one worker process, which share `socket.getaddrinfo` and `_dns_patch_lock`. What
becomes of the answer (the status of the delivery, the next attempt) does not touch them; a further attempt
is a delivery like the first.
-/

namespace NodePilot.Pinning

open Lib Urls

/-- Saved addresses are looked up by their equality. -/
local instance lawfulSaved : LawfulBEq (List Char) := inferInstance

abbrev Url : Type := List Char

abbrev Host : Type := List Char

/-! ## The surroundings -/

/-- Python and the system, as far as `socket.getaddrinfo` depends on them. -/
structure Platform extends Unicode where
  /-- The `idna` codec, for a host that is not ASCII; `none` is a `UnicodeError`, as below. -/
  idna : Host → Option Host
  /-- The address that is read off a host without asking for it. -/
  numeric : Host → Option IpAddress

/-- The HTTP client. -/
structure Client where
  /-- The host that it looks up for a URL; `none` if it refuses the URL. -/
  asks : Url → Option Host

inductive Exn
  | valueError
  /-- `socket.gaierror` -/
  | gaierror
  | unicodeError
  /-- `ValidationError` -/
  | validation (message : String)
  /-- `UnsafeWebhookHostError`: could not resolve the host. -/
  | unresolved (host : Option Host)
  /-- `UnsafeWebhookHostError`: the host is an unsafe address. -/
  | unsafeLiteral (host : Host)
  /-- `UnsafeWebhookHostError`: the host resolves to an unsafe address. -/
  | resolvesTo (host : Host) (ip : IpAddress)
  /-- `requests.InvalidURL` -/
  | invalidUrl
  /-- `requests.ConnectionError` -/
  | connectionError
deriving DecidableEq

namespace Platform

variable (pf : Platform)

/-- The labels of an ASCII host have 1 to 63 characters; the last one may be empty. -/
def labelsFit (host : Host) : Bool :=
  let labels := host.splitOn '.'
  (labels.dropLast.all fun label => 0 < label.length ∧ label.length < 64) ∧
    (labels.getLast?.getD []).length < 64

/-- The host as the system sees it, after the `idna` codec. -/
def wire (host : Host) : Option Host :=
  if isAscii host then if labelsFit host then some host else none else pf.idna host

/-- The address that the system gives a host without asking for it. -/
def fixed (host : Host) : Option IpAddress := (pf.wire host).bind pf.numeric

/-- `socket.getaddrinfo(host, ...)`. The resolver answers with what it has at the moment, if it is asked;
`none` is a `gaierror`. -/
def getaddrinfo (answer : Option (List IpAddress)) (host : Host) : Except Exn (List IpAddress) :=
  match pf.wire host with
  | none => .error .unicodeError
  | some wired => match pf.numeric wired with
    | some ip => .ok [ip]
    | none => match answer with
      | some candidates => .ok candidates
      | none => .error .gaierror

/-- The client as it is documented: the host of the URL in lower case, or IDNA-encoded where it is not ASCII;
`none` where it cannot be encoded. -/
def normalising (idna : Host → Option Host) : Client where
  asks url := (urlsplit pf.toUnicode url).bind fun parsed =>
    if isAscii parsed.hostinfo then some (parsed.hostinfo.map Char.toLower) else idna parsed.hostinfo

/-- `urlparse(url).hostname` -/
def hostname (url : Url) : Except Exn (Option Host) :=
  match urlsplit pf.toUnicode url with
  | none => .error .valueError
  | some split => .ok (split.hostname pf.toUnicode)

end Platform

/-! ## Checks -/

/-- `_is_unsafe_ip` -/
def isUnsafeIp (ip : IpAddress) : Bool := ip.isPrivate ∨ ip.isLoopback ∨ ip.isLinkLocal ∨ ip.isReserved

/-- `is_private_host` -/
def isPrivateHost (pf : Platform) (answer : Option (List IpAddress)) (host : Host) : Except Exn Bool :=
  match ipAddress host with
  | some ip => .ok (isUnsafeIp ip)
  | none => match pf.getaddrinfo answer host with
    | .ok candidates => .ok (candidates.any isUnsafeIp)
    | .error .gaierror => .ok true
    | .error e => .error e

/-- `WebhookSerializer.validate_url` -/
def validateUrl (pf : Platform) (answer : Option (List IpAddress)) (url : Url) : Except Exn Url :=
  match urlsplit pf.toUnicode url with
  | none => .error .valueError
  | some parsed =>
    if parsed.scheme ≠ "http".toList ∧ parsed.scheme ≠ "https".toList then
      .error (.validation "Only http/https webhook URLs are supported.")
    else match parsed.hostname pf.toUnicode with
    | none => .error (.validation "URL must include a hostname.")
    | some host => match isPrivateHost pf answer host with
      | .error e => .error e
      | .ok true =>
        .error (.validation "Webhook URL must not target a private, loopback, or link-local address.")
      | .ok false => .ok url

/-! ## Deliveries -/

inductive NetOp
  /-- `socket.getaddrinfo(host, ...)`, whoever has patched it. -/
  | getaddrinfo (host : Host)
  /-- `pinned_dns` is entered: with `_dns_patch_lock` held, `socket.getaddrinfo` is replaced. -/
  | pin (host : Host) (ip : IpAddress)
  /-- `pinned_dns` is left. -/
  | unpin
  /-- The client connects, for a request to the URL. -/
  | connect (url : Url) (ip : IpAddress)

@[reducible]
def NetAns : NetOp → Type
  | .getaddrinfo _ => Except Exn (List IpAddress)
  | .pin _ _ | .unpin => Unit
  | .connect _ _ => Bool

abbrev NetM (α : Type) : Type := Script NetOp NetAns Exn Unit α

/-- The end of `resolve_safe_ip`: all the addresses are checked, and the first is taken. -/
def firstSafe (host : Host) : List IpAddress → Except Exn IpAddress
  | [] => .error (.unresolved (some host))
  | first :: more => match (first :: more).find? isUnsafeIp with
    | some ip => .error (.resolvesTo host ip)
    | none => .ok first

/-- `resolve_safe_ip`. The address is returned, not its text. -/
def resolveSafeIp (host : Host) : NetM IpAddress :=
  match ipAddress host with
  | some literal => if isUnsafeIp literal then throw (.unsafeLiteral host) else return literal
  | none => do
    match ← Script.perform (NetOp.getaddrinfo host) with
    | .error .gaierror => throw (.unresolved (some host))
    | .error e => throw e
    | .ok candidates => MonadExcept.ofExcept (firstSafe host candidates)

/-- The client tries the addresses in their order, up to the first that accepts. -/
def createConnection (url : Url) : List IpAddress → NetM Unit
  | [] => throw .connectionError
  | ip :: more => do
    let accepted : Bool ← Script.perform (NetOp.connect url ip)
    if accepted then return () else createConnection url more

/-- `requests.post(url, ..., allow_redirects=False)` -/
def post (client : Client) (url : Url) : NetM Unit :=
  match client.asks url with
  | none => throw .invalidUrl
  | some host => do
    match ← Script.perform (NetOp.getaddrinfo host) with
    | .error _ => throw .connectionError
    | .ok candidates => createConnection url candidates

/-- `with pinned_dns(host, ip):` -/
def pinnedDns (host : Host) (ip : IpAddress) (body : NetM Unit) : NetM Unit := do
  Script.perform (NetOp.pin host ip)
  tryCatch body fun e => do
    Script.perform NetOp.unpin
    throw e
  Script.perform NetOp.unpin

/-- An attempt of `deliver_webhook`. A URL without a host cannot be resolved. -/
def deliverWebhook (pf : Platform) (client : Client) (url : Url) : NetM Unit :=
  match pf.hostname url with
  | .error e => throw e
  | .ok none => throw (.unresolved none)
  | .ok (some host) => do
    let safeIp ← resolveSafeIp host
    pinnedDns host safeIp (post client url)

/-! ## Side by side -/

/-- An address that a client connected to. -/
structure Connection where
  url : Url
  ip : IpAddress
  /-- What `resolve_safe_ip` returned in this attempt. -/
  resolved : Option IpAddress

structure State where
  /-- The URLs of the webhooks that were created. -/
  webhooks : List Url := []
  /-- The thread that has patched `socket.getaddrinfo`, with the host and its address. -/
  pinned : Option (Nat × Host × IpAddress) := none
  connections : List Connection := []

/-- What the surroundings decide at one operation. -/
structure Choice where
  answer : Option (List IpAddress) := none
  accepts : Bool := true

/-- The address that the thread has pinned. -/
def State.resolvedBy (s : State) (thread : Nat) : Option IpAddress :=
  s.pinned.bind fun pinned => if pinned.1 = thread then some pinned.2.2 else none

def State.act (pf : Platform) (c : Choice) (thread : Nat) : (o : NetOp) → State → Option (NetAns o × State)
  | .getaddrinfo host, s =>
    match s.pinned with
    | some (_, pinned, ip) => if host = pinned then some (.ok [ip], s) else some (pf.getaddrinfo c.answer host, s)
    | none => some (pf.getaddrinfo c.answer host, s)
  | .pin host ip, s => if s.pinned.isSome then none else some ((), { s with pinned := some (thread, host, ip) })
  | .unpin, s => some ((), { s with pinned := none })
  | .connect url ip, s =>
    some (c.accepts, { s with connections := ⟨url, ip, s.resolvedBy thread⟩ :: s.connections })

inductive Event
  /-- A webhook is created, or gets another URL, as another process resolves its host. -/
  | save (url : Url) (answer : Option (List IpAddress))
  /-- An attempt to deliver to a webhook. -/
  | deliver (url : Url)

abbrev Worker : Type := Thread Url NetOp NetAns (Except Exn Unit × Unit)

def env (pf : Platform) (client : Client) : Event → State → Option (List Worker × State)
  | .save url answer, s =>
    match validateUrl pf answer url with
    | .ok url => some ([], { s with webhooks := url :: s.webhooks })
    | .error _ => some ([], s)
  | .deliver url, s =>
    if url ∈ s.webhooks then some ([⟨url, (deliverWebhook pf client url).prog ()⟩], s) else none

/-- The deliveries of a worker process. -/
def system (pf : Platform) (client : Client) :
    System Url NetOp NetAns (Except Exn Unit × Unit) State Choice Event :=
  ⟨State.act pf, env pf client⟩

end NodePilot.Pinning
