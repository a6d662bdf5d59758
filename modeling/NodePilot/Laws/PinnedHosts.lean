import NodePilot.Lib.Rely
import NodePilot.Pinning

/-!
# A delivery reaches the address that was checked

`pinned_dns` answers one text, the hostname that `urlparse` reads from the URL. The HTTP client looks up what it
makes of the URL itself: where that is another text, it asks the resolver afresh. `Agrees` says where the
difference does no harm, and `validated_iff` that it does harm everywhere else.
-/

namespace NodePilot.Pinning

open Lib Lib.Script Urls

/-- The client connected to the address that `resolve_safe_ip` returned in the same attempt, and this is no
private, loopback, link-local or reserved address. -/
def Connection.Validated (c : Connection) : Prop := c.resolved = some c.ip ∧ isUnsafeIp c.ip = false

/-- The address that `resolve_safe_ip` returns for a host, if the resolver is not asked for it. -/
def Platform.certain (pf : Platform) (host : Host) : Option IpAddress := (ipAddress host).or (pf.fixed host)

/-- What the client looks up for a URL is the hostname of the URL, or cannot be looked up, or is another text
for one address. -/
def Agrees (pf : Platform) (client : Client) (url : Url) : Prop :=
  ∀ asked, client.asks url = some asked → ∀ host, pf.hostname url = .ok (some host) →
    asked = host ∨ pf.wire asked = none ∨ ∃ ip, pf.fixed asked = some ip ∧ pf.certain host = some ip

/-! ## Lookups -/

section Lookups

variable {pf : Platform} {answer : Option (List IpAddress)} {host : Host} {ip : IpAddress}
variable {candidates : List IpAddress}

theorem getaddrinfo_fixed (known : pf.fixed host = some ip) : pf.getaddrinfo answer host = .ok [ip] := by
  obtain ⟨wired, wire, numeric⟩ := Option.bind_eq_some_iff.mp known
  simp [Platform.getaddrinfo, wire, numeric]

theorem getaddrinfo_unencodable (wire : pf.wire host = none) :
    pf.getaddrinfo answer host = .error .unicodeError := by
  simp [Platform.getaddrinfo, wire]

/-- A host that can be looked up and has no fixed address is given what the resolver answers. -/
theorem getaddrinfo_open (wire : pf.wire host ≠ none) (unknown : pf.fixed host = none) :
    pf.getaddrinfo (some candidates) host = .ok candidates := by
  obtain ⟨wired, wire⟩ := Option.ne_none_iff_exists'.mp wire
  have numeric : pf.numeric wired = none := by simpa [Platform.fixed, wire] using unknown
  simp [Platform.getaddrinfo, wire, numeric]

/-- What `resolve_safe_ip` takes is one of the addresses, and harmless. -/
theorem firstSafe_ok (safe : firstSafe host candidates = .ok ip) : ip ∈ candidates ∧ isUnsafeIp ip = false := by
  cases candidates with
  | nil => cases safe
  | cons first more =>
    cases found : (first :: more).find? isUnsafeIp with
    | some ip => simp [firstSafe, found] at safe
    | none =>
      obtain rfl : first = ip := by simpa [firstSafe, found] using safe
      exact ⟨List.mem_cons_self, by simpa using List.find?_eq_none.mp found first List.mem_cons_self⟩

theorem firstSafe_single (harmless : isUnsafeIp ip = false) : firstSafe host [ip] = .ok ip := by
  simp [firstSafe, harmless]

theorem certain_of_literal (literal : ipAddress host = some ip) : pf.certain host = some ip := by
  simp [Platform.certain, literal]

theorem certain_eq_fixed (name : ipAddress host = none) : pf.certain host = pf.fixed host := by
  simp [Platform.certain, name]

end Lookups

/-! ## The discipline -/

/-- The address may be pinned for the host. -/
def Sound (pf : Platform) (host : Host) (ip : IpAddress) : Prop :=
  isUnsafeIp ip = false ∧ ∀ known, pf.certain host = some known → ip = known

/-- The invariant: what is pinned was checked, and so was what clients connected to. -/
structure Checked (pf : Platform) (client : Client) (s : State) : Prop where
  pinned : ∀ i host ip, s.pinned = some (i, host, ip) → Sound pf host ip
  connections : ∀ c ∈ s.connections, Agrees pf client c.url → c.Validated

/-- The thread has the host pinned. -/
def Pinned (i : Nat) (host : Host) (ip : IpAddress) (s : State) : Prop := s.pinned = some (i, host, ip)

/-- What the thread has pinned it has pinned still, and nothing else. -/
def Relies (i : Nat) (s s' : State) : Prop := ∀ host ip, Pinned i host ip s ↔ Pinned i host ip s'

def discipline (pf : Platform) (client : Client) : Discipline (system pf client) where
  ok _ _ _ _ := True
  inv := Checked pf client
  rely := Relies
  guar i s s' := ∀ j, j ≠ i → Relies j s s'
  rely_refl _ _ _ _ := Iff.rfl
  rely_trans _ _ _ _ h h' host ip := (h host ip).trans (h' host ip)
  guar_rely _ j _ _ hne h := h j (Ne.symm hne)

section Statements

variable {pf : Platform} {client : Client} {i : Nat} {url : Url} {host asked : Host} {ip : IpAddress}

/-- From a state of `P` the delivery keeps to the discipline, and returns in `Q` or raises in `R`. -/
abbrev Delivers {α : Type} (pf : Platform) (client : Client) (i : Nat) (P : State → Prop) (x : NetM α)
    (Q : α → State → Prop) (R : State → Prop) : Prop :=
  Safe (discipline pf client) i P x Q fun _ => R

/-- The answer to a lookup, by whoever has patched it. -/
theorem act_getaddrinfo {c : Choice} {s s' : State} {a : Except Exn (List IpAddress)}
    (acted : State.act pf c i (.getaddrinfo host) s = some (a, s')) : s' = s ∧
      ((∃ j ip, Pinned j host ip s ∧ a = .ok [ip]) ∨
        (∀ j ip, ¬ Pinned j host ip s) ∧ a = pf.getaddrinfo c.answer host) := by
  unfold State.act at acted
  cases held : s.pinned with
  | none =>
    simp only [held] at acted
    cases acted
    exact ⟨rfl, .inr ⟨fun j ip pinned => by simp [Pinned, held] at pinned, rfl⟩⟩
  | some pinned =>
    obtain ⟨j, other, ip⟩ := pinned
    simp only [held] at acted
    by_cases same : host = other
    · rw [if_pos same] at acted
      cases acted
      exact ⟨rfl, .inl ⟨j, ip, by rw [Pinned, held, same], rfl⟩⟩
    · rw [if_neg same] at acted
      cases acted
      refine ⟨rfl, .inr ⟨fun j ip pinned => ?_, rfl⟩⟩
      rw [Pinned, held] at pinned
      cases pinned
      exact same rfl

/-- `resolve_safe_ip` returns what may be pinned. -/
theorem delivers_resolveSafeIp :
    Delivers pf client i (fun _ => True) (resolveSafeIp host) (fun ip _ => Sound pf host ip)
      fun _ => True := by
  unfold resolveSafeIp
  cases read : ipAddress host with
  | some literal =>
    by_cases harmful : isUnsafeIp literal = true
    · simp only [if_pos harmful]
      exact Safe.throw fun _ _ => trivial
    · simp only [if_neg harmful]
      refine Safe.pure fun _ _ => ⟨by simpa using harmful, fun known certain => ?_⟩
      rw [certain_of_literal read] at certain
      exact Option.some.inj certain
  | none =>
    have looked : Delivers pf client i (fun _ => True) (Script.perform (NetOp.getaddrinfo host))
        (fun a _ => ∀ candidates, a = .ok candidates → ∀ known, pf.certain host = some known →
          candidates = [known]) fun _ => True := by
      refine Safe.perform (fun _ _ _ h => h) fun s c a s' _ inv _ acted => ?_
      obtain ⟨rfl, answered⟩ := act_getaddrinfo (i := i) acted
      refine ⟨inv, fun _ _ _ _ => Iff.rfl, fun candidates ok known certain => ?_⟩
      rcases answered with ⟨j, ip, pinned, rfl⟩ | ⟨-, rfl⟩
      · cases ok
        rw [(inv.pinned j host ip pinned).2 known certain]
      · rw [certain_eq_fixed read] at certain
        rw [getaddrinfo_fixed certain] at ok
        cases ok
        rfl
    refine Safe.bind looked fun a => ?_
    rcases a with e | candidates
    · cases e <;> exact Safe.throw fun _ _ => trivial
    · cases safe : firstSafe host candidates with
      | error e =>
        simp only [safe]
        exact Safe.throw fun _ _ => trivial
      | ok first =>
        simp only [safe]
        refine Safe.pure fun _ h => ⟨(firstSafe_ok safe).2, fun known certain => ?_⟩
        have mem := (firstSafe_ok safe).1
        rw [h candidates rfl known certain] at mem
        exact List.mem_singleton.mp mem

theorem stable_pinned (s s' : State) (step : Relies i s s') (h : Pinned i host ip s) : Pinned i host ip s' :=
  (step host ip).mp h

/-- The client connects to what was checked, if what it is given is that. -/
theorem delivers_createConnection {candidates : List IpAddress} (sound : Sound pf host ip)
    (given : Agrees pf client url → ∀ candidate ∈ candidates, candidate = ip) :
    Delivers pf client i (Pinned i host ip) (createConnection url candidates) (fun _ => Pinned i host ip)
      (Pinned i host ip) := by
  induction candidates with
  | nil => exact Safe.throw fun _ h => h
  | cons candidate more ih =>
    have connected : Delivers pf client i (Pinned i host ip)
        (Script.perform (NetOp.connect url candidate)) (fun _ => Pinned i host ip) (Pinned i host ip) := by
      refine Safe.perform stable_pinned fun s c a s' pinned inv _ acted => ?_
      cases acted
      refine ⟨⟨inv.pinned, fun c mem agrees => ?_⟩, fun _ _ _ _ => Iff.rfl, pinned⟩
      rcases List.mem_cons.mp mem with rfl | mem
      · have same := given agrees candidate List.mem_cons_self
        subst same
        refine ⟨?_, sound.1⟩
        have held : s.pinned = some (i, host, candidate) := pinned
        simp [State.resolvedBy, held]
      · exact inv.connections c mem agrees
    refine Safe.bind connected fun accepted => ?_
    cases accepted with
    | true => exact Safe.pure fun _ h => h
    | false => exact ih fun agrees other mem => given agrees other (List.mem_cons_of_mem _ mem)

theorem delivers_post (parsed : pf.hostname url = .ok (some host)) (sound : Sound pf host ip) :
    Delivers pf client i (Pinned i host ip) (post client url) (fun _ => Pinned i host ip)
      (Pinned i host ip) := by
  unfold post
  cases asks : client.asks url with
  | none => exact Safe.throw fun _ h => h
  | some asked =>
    have looked : Delivers pf client i (Pinned i host ip) (Script.perform (NetOp.getaddrinfo asked))
        (fun a s => Pinned i host ip s ∧ ∀ candidates, a = .ok candidates → Agrees pf client url →
          ∀ candidate ∈ candidates, candidate = ip) (Pinned i host ip) := by
      refine Safe.perform stable_pinned fun s c a s' pinned inv _ acted => ?_
      obtain ⟨rfl, answered⟩ := act_getaddrinfo (i := i) acted
      refine ⟨inv, fun _ _ _ _ => Iff.rfl, pinned, fun candidates ok agrees => ?_⟩
      rcases answered with ⟨j, other, held, rfl⟩ | ⟨free, rfl⟩
      · cases ok
        have same : some (i, host, ip) = some (j, asked, other) := pinned.symm.trans held
        cases same
        exact fun candidate mem => List.mem_singleton.mp mem
      · rcases agrees asked asks host parsed with rfl | wire | ⟨known, fixed, certain⟩
        · exact absurd pinned (free i ip)
        · rw [getaddrinfo_unencodable wire] at ok
          cases ok
        · rw [getaddrinfo_fixed fixed] at ok
          cases ok
          intro candidate mem
          rw [List.mem_singleton.mp mem]
          exact (sound.2 known certain).symm
    refine Safe.bind looked fun a => ?_
    rcases a with e | candidates
    · exact Safe.throw fun _ h => h.1
    · intro l s h
      exact delivers_createConnection sound (h.2 candidates rfl) l s h.1

/-- `pinned_dns` is left as it is entered. -/
theorem delivers_pinnedDns {body : NetM Unit} (sound : Sound pf host ip)
    (h : Delivers pf client i (Pinned i host ip) body (fun _ => Pinned i host ip) (Pinned i host ip)) :
    Delivers pf client i (fun _ => True) (pinnedDns host ip body) (fun _ _ => True) fun _ => True := by
  have entered : Delivers pf client i (fun _ => True) (Script.perform (NetOp.pin host ip))
      (fun _ => Pinned i host ip) fun _ => True := by
    refine Safe.perform (fun _ _ _ h => h) fun s c a s' _ inv _ acted => ?_
    change (if s.pinned.isSome then none else some ((), _)) = some (a, s') at acted
    split at acted
    · cases acted
    · next free =>
      have free : s.pinned = none := by simpa using free
      cases acted
      refine ⟨⟨?_, inv.connections⟩, fun j other h' ip' => ?_, rfl⟩
      · intro j h' ip' pinned
        cases pinned
        exact sound
      · simp [Pinned, free, Ne.symm other]
  have left : Delivers pf client i (Pinned i host ip) (Script.perform NetOp.unpin) (fun _ _ => True)
      fun _ => True := by
    refine Safe.perform stable_pinned fun s c a s' pinned inv _ acted => ?_
    cases acted
    refine ⟨⟨fun j h' ip' none => (by cases none), inv.connections⟩, fun j other h' ip' => ?_, trivial⟩
    have held : s.pinned = some (i, host, ip) := pinned
    simp [Pinned, held, Ne.symm other]
  refine Safe.bind entered fun _ => Safe.bind (Safe.tryCatch h fun e => ?_) fun _ => left
  exact Safe.bind left fun _ => Safe.throw fun _ _ => trivial

theorem delivers_deliverWebhook :
    Delivers pf client i (fun _ => True) (deliverWebhook pf client url) (fun _ _ => True)
      fun _ => True := by
  unfold deliverWebhook
  cases parsed : pf.hostname url with
  | error e => exact Safe.throw fun _ _ => trivial
  | ok found =>
    cases found with
    | none => exact Safe.throw fun _ _ => trivial
    | some host =>
      refine Safe.bind delivers_resolveSafeIp fun ip l s sound => ?_
      exact delivers_pinnedDns sound (delivers_post parsed sound) l s trivial

end Statements

/-! ## Runs -/

section Runs

variable {pf : Platform} {client : Client} {url : Url} {host asked : Host} {ip ip' : IpAddress}

abbrev Deliveries : Type := Pool Url NetOp NetAns (Except Exn Unit × Unit) State

/-- A worker process, and no webhooks. -/
def start : Deliveries := ⟨[], {}⟩

theorem threaded_step {p p' : Deliveries} {l : Label Choice Event}
    (h : (discipline pf client).Threaded p) (next : (system pf client).step l p = some p') :
    (discipline pf client).Threaded p' := by
  cases l with
  | act i c => exact Discipline.keeps_act i h next fun _ _ _ _ => trivial
  | env e =>
    refine Discipline.keeps_env h next fun ts s henv => ?_
    cases e with
    | save url answer =>
      dsimp only [system, Pinning.env] at henv
      split at henv
      · cases henv
        exact ⟨⟨h.inv.pinned, h.inv.connections⟩, fun _ _ _ => Iff.rfl, fun j t ht => by simp at ht⟩
      · cases henv
        exact ⟨h.inv, fun _ _ _ => Iff.rfl, fun j t ht => by simp at ht⟩
    | deliver url =>
      change (if url ∈ p.shared.webhooks then some ([⟨url, (deliverWebhook pf client url).prog ()⟩], p.shared)
        else none) = some (ts, s) at henv
      split at henv
      · cases henv
        refine ⟨h.inv, fun _ _ _ => Iff.rfl, fun j t ht => ?_⟩
        obtain rfl : t = ⟨url, (deliverWebhook pf client url).prog ()⟩ := by
          cases j with
          | zero => exact (Option.some.inj ht).symm
          | succ j => simp at ht
        exact (delivers_deliverWebhook () _ trivial).mono fun _ _ _ => trivial
      · cases henv

theorem validated_of_agrees {ls : List (Label Choice Event)} {p : Deliveries}
    (mem : p ∈ visited (system pf client).step ls start) (agrees : Agrees pf client url) :
    ∀ c ∈ p.shared.connections, c.url = url → c.Validated := by
  have first : (discipline pf client).Threaded start := by
    refine ⟨⟨fun i host ip pinned => ?_, fun c mem => ?_⟩, fun j t ht => ?_⟩
    · cases pinned
    · cases mem
    · simp [start] at ht
  have threaded := visited_keeps (C := fun _ _ => True) (fun _ _ _ h _ next => threaded_step h next) first
    (Along.of_forall (fun _ _ _ => trivial) _) mem
  rintro c mem rfl
  exact threaded.inv.connections c mem agrees

/-- What the check of a URL says of its host. -/
theorem validateUrl_ok {answer : Option (List IpAddress)} (passes : validateUrl pf answer url = .ok url) :
    ∃ host, pf.hostname url = .ok (some host) ∧ isPrivateHost pf answer host = .ok false := by
  unfold validateUrl at passes
  unfold Platform.hostname
  cases split : urlsplit pf.toUnicode url with
  | none => simp [split] at passes
  | some parsed =>
    simp only [split] at passes
    split at passes
    · cases passes
    · cases named : parsed.hostname pf.toUnicode with
      | none => simp [named] at passes
      | some host =>
        simp only [named] at passes
        cases private' : isPrivateHost pf answer host with
        | error e => simp [private'] at passes
        | ok harmful =>
          cases harmful with
          | true => simp [private'] at passes
          | false => exact ⟨host, by simp [named], private'⟩

/-- How `resolve_safe_ip` comes to an address: it reads it off the host, or the resolver answers with it. -/
def Resolves (pf : Platform) (host : Host) (ip : IpAddress) : Prop :=
  isUnsafeIp ip = false ∧ (ipAddress host = some ip ∨
    ipAddress host = none ∧ pf.getaddrinfo (some [ip]) host = .ok [ip])

/-- A host that has passed the check resolves to its fixed address, or to any that one might wish. -/
theorem resolves_of_passes {answer : Option (List IpAddress)} {wish : IpAddress}
    (passes : isPrivateHost pf answer host = .ok false) (harmless : isUnsafeIp wish = false) :
    ∃ ip, Resolves pf host ip ∧ (pf.certain host = some ip ∨ pf.certain host = none ∧ ip = wish) := by
  unfold isPrivateHost at passes
  cases read : ipAddress host with
  | some literal =>
    simp only [read] at passes
    exact ⟨literal, ⟨Except.ok.inj passes, .inl read⟩, .inl (certain_of_literal read)⟩
  | none =>
    simp only [read] at passes
    rw [certain_eq_fixed read]
    cases known : pf.fixed host with
    | some ip =>
      rw [getaddrinfo_fixed known] at passes
      exact ⟨ip, ⟨by simpa using passes, .inr ⟨read, getaddrinfo_fixed known⟩⟩, .inl rfl⟩
    | none =>
      have wire : pf.wire host ≠ none := by
        intro wire
        rw [getaddrinfo_unencodable wire] at passes
        cases passes
      exact ⟨wish, ⟨harmless, .inr ⟨read, getaddrinfo_open wire known⟩⟩, .inr ⟨rfl, rfl⟩⟩

/-- The thread of a delivery that is alone, with its program. -/
def alone (url : Url) (q : Prog NetOp NetAns (Except Exn Unit × Unit)) (s : State) : Deliveries :=
  ⟨[⟨url, q⟩], s⟩

theorem alone_step {c : Choice} {o : NetOp} {k : NetAns o → Prog NetOp NetAns (Except Exn Unit × Unit)}
    {s s' : State} {a : NetAns o} (acted : State.act pf c 0 o s = some (a, s')) :
    (system pf client).step (.act 0 c) (alone url (.vis o k) s) = some (alone url (k a) s') := by
  have stepped : (system pf client).step (.act 0 c) (alone url (.vis o k) s) =
      (State.act pf c 0 o s).map fun r => alone url (k r.1) r.2 := rfl
  rw [stepped, acted]
  rfl

/-- The webhook is created and delivered to. -/
theorem starts {answer : Option (List IpAddress)} (passes : validateUrl pf answer url = .ok url) :
    runFrom (system pf client).step [.env (.save url answer), .env (.deliver url)] start =
      some (alone url ((deliverWebhook pf client url).prog ()) { webhooks := [url] }) := by
  simp [runFrom, System.step, system, env, start, alone, passes]

/-- The delivery comes to pin the address. -/
theorem reaches_pin {answer : Option (List IpAddress)} (passes : validateUrl pf answer url = .ok url)
    (parsed : pf.hostname url = .ok (some host)) (resolves : Resolves pf host ip) :
    ∃ ls, runFrom (system pf client).step ls start =
      some (alone url ((pinnedDns host ip (post client url)).prog ()) { webhooks := [url] }) := by
  obtain ⟨harmless, read | ⟨name, answered⟩⟩ := resolves
  · refine ⟨_, (starts passes).trans ?_⟩
    simp [deliverWebhook, parsed, resolveSafeIp, read, harmless]
  · refine ⟨[.env (.save url answer), .env (.deliver url)] ++ [.act 0 { answer := some [ip] }], ?_⟩
    rw [runFrom_append, starts passes]
    obtain ⟨k, looks, rest⟩ : ∃ k, (deliverWebhook pf client url).prog () = .vis (.getaddrinfo host) k ∧
        k (.ok [ip]) = (pinnedDns host ip (post client url)).prog () := by
      unfold deliverWebhook resolveSafeIp
      simp only [parsed, name]
      refine ⟨_, rfl, ?_⟩
      show ((MonadExcept.ofExcept (firstSafe host [ip]) : NetM IpAddress) >>= fun ip =>
        pinnedDns host ip (post client url)).prog () = _
      rw [firstSafe_single harmless]
      rfl
    rw [looks, ← rest]
    have acted : State.act pf { answer := some [ip] } 0 (.getaddrinfo host) { webhooks := [url] } =
        some (.ok [ip], { webhooks := [url] }) := by
      simp [State.act, answered]
    simp only [runFrom, Option.bind_some, alone_step acted]

/-- A client that looks up another text may connect to whatever that is resolved to. -/
theorem reaches_connection {answer : Option (List IpAddress)}
    (asks : client.asks url = some asked) (other : asked ≠ host)
    (answered : pf.getaddrinfo answer asked = .ok [ip']) :
    ∃ ls s, runFrom (system pf client).step ls
        (alone url ((pinnedDns host ip (post client url)).prog ()) { webhooks := [url] }) = some s ∧
      s.shared.connections = [⟨url, ip', some ip⟩] := by
  obtain ⟨k, pins, k', looks⟩ : ∃ k, (pinnedDns host ip (post client url)).prog () =
        .vis (.pin host ip) (fun _ => .vis (.getaddrinfo asked) k) ∧
      ∃ k', k (.ok [ip']) = .vis (.connect url ip') k' := by
    unfold pinnedDns post
    simp only [asks]
    exact ⟨_, rfl, _, rfl⟩
  let pinned : State := { webhooks := [url], pinned := some (0, host, ip) }
  have enter : State.act pf {} 0 (.pin host ip) { webhooks := [url] } = some ((), pinned) := rfl
  have look : State.act pf { answer := answer } 0 (.getaddrinfo asked) pinned = some (.ok [ip'], pinned) := by
    simp [State.act, pinned, other, answered]
  have connect : State.act pf {} 0 (.connect url ip') pinned =
      some (true, { pinned with connections := [⟨url, ip', some ip⟩] }) := rfl
  refine ⟨[.act 0 {}, .act 0 { answer := answer }, .act 0 {}],
    alone url (k' true) { pinned with connections := [⟨url, ip', some ip⟩] }, ?_, rfl⟩
  simp only [runFrom, pins, Option.bind_some, alone_step enter, alone_step look, looks, alone_step connect]

/-- The addresses that tell a lookup from another. -/
theorem exists_harmless_ne (ip : IpAddress) : ∃ wish, isUnsafeIp wish = false ∧ wish ≠ ip := by
  by_cases same : IpAddress.v4 0x08080808 = ip
  · exact ⟨.v4 0x01010101, by decide +kernel, by rw [← same]; decide⟩
  · exact ⟨.v4 0x08080808, by decide +kernel, same⟩

/-- Where the client looks up another text, the resolver can lead it elsewhere. -/
theorem agrees_of_validated {answer : Option (List IpAddress)}
    (passes : validateUrl pf answer url = .ok url)
    (validated : ∀ ls, ∀ p ∈ visited (system pf client).step ls start,
      ∀ c ∈ p.shared.connections, c.url = url → c.Validated) : Agrees pf client url := by
  obtain ⟨host, parsed, checked⟩ := validateUrl_ok passes
  intro asked asks host' parsed'
  rw [parsed] at parsed'
  cases parsed'
  by_contra differs
  rw [not_or, not_or] at differs
  obtain ⟨other, wire, apart⟩ := differs
  -- The client is told an address that is not the one that was pinned, or a harmful one.
  have misled : ∃ ip ip' answer', Resolves pf host ip ∧ pf.getaddrinfo answer' asked = .ok [ip'] ∧
      (ip' ≠ ip ∨ isUnsafeIp ip' = true) := by
    cases fixed : pf.fixed asked with
    | none =>
      have harmless : isUnsafeIp (.v4 0x08080808) = false := by decide +kernel
      obtain ⟨ip, resolves, -⟩ := resolves_of_passes checked harmless
      exact ⟨ip, .v4 0x7f000001, some [.v4 0x7f000001], resolves, getaddrinfo_open wire fixed,
        .inr (by decide +kernel)⟩
    | some ip' =>
      obtain ⟨wish, harmless, ne⟩ := exists_harmless_ne ip'
      obtain ⟨ip, resolves, known⟩ := resolves_of_passes checked harmless
      refine ⟨ip, ip', none, resolves, getaddrinfo_fixed fixed, .inl ?_⟩
      rintro rfl
      rcases known with certain | ⟨-, rfl⟩
      · exact apart ⟨ip', fixed, certain⟩
      · exact ne rfl
  obtain ⟨ip, ip', answer', resolves, answered, wrong⟩ := misled
  obtain ⟨before, pins⟩ := @reaches_pin pf client url host ip _ passes parsed resolves
  obtain ⟨behind, p, connects, connections⟩ := @reaches_connection pf client url host asked ip ip' _ asks other answered
  have run : runFrom (system pf client).step (before ++ behind) start = some p := by
    rw [runFrom_append, pins]
    exact connects
  have sound := validated _ p (mem_visited run) ⟨url, ip', some ip⟩ (by simp [connections]) rfl
  rcases wrong with ne | harmful
  · exact ne (Option.some.inj sound.1).symm
  · exact absurd (harmful.symm.trans sound.2) (by decide)

end Runs

/-- **A webhook's deliveries reach checked addresses exactly where the client looks up what was checked.** For
a URL that passes the check, whatever the resolver answers from one lookup to the next and however the
deliveries of a process interleave: every address that the client connects to was returned by
`resolve_safe_ip` in the same attempt and is a public one, if and only if the client and `urlparse` agree on
the host. -/
theorem validated_iff (pf : Platform) (client : Client) (url : Url)
    (passes : ∃ answer, validateUrl pf answer url = .ok url) :
    (∀ ls, ∀ p ∈ visited (system pf client).step ls start, ∀ c ∈ p.shared.connections,
      c.url = url → c.Validated) ↔ Agrees pf client url := by
  obtain ⟨answer, passes⟩ := passes
  exact ⟨agrees_of_validated passes, fun agrees _ _ mem => validated_of_agrees mem agrees⟩

/-- A client that only normalises the host agrees with `urlparse` on every ASCII host but, perhaps, one with a
zone. -/
theorem agrees_of_ascii {pf : Platform} {idna : Host → Option Host} {url : Url} {parsed : SplitUrl}
    (lower : ∀ s, isAscii s = true → pf.lower s = s.map Char.toLower)
    (split : urlsplit pf.toUnicode url = some parsed) (ascii : isAscii parsed.hostinfo = true)
    (plain : '%' ∉ parsed.hostinfo) : Agrees pf (pf.normalising idna) url := by
  intro asked asks host named
  have asked_eq : parsed.hostinfo.map Char.toLower = asked := by
    simpa [Platform.normalising, split, ascii] using asks
  have host_eq : lowerHost pf.toUnicode parsed.hostinfo = host := by
    have found : parsed.hostname pf.toUnicode = some host := by
      simpa [Platform.hostname, split] using named
    unfold SplitUrl.hostname at found
    split at found
    · cases found
    · exact Option.some.inj found
  rw [lowerHost, partition_of_not_mem plain] at host_eq
  exact .inl (asked_eq.symm.trans ((lower _ ascii).symm.trans host_eq))

/-! ### Two hosts -/

/-- A system that knows one name that is not ASCII. -/
def bookshop : Platform where
  lower s := s.map Char.toLower
  nfkc s := s
  idna host := if host = "bücher.example".toList then some "xn--bcher-kva.example".toList else none
  numeric := ipAddress

theorem validated_iff_ascii :
    (∀ ls, ∀ p ∈ visited (system bookshop (bookshop.normalising bookshop.idna)).step ls start,
      ∀ c ∈ p.shared.connections, c.url = "https://Example.com/hook".toList → c.Validated) ↔
      Agrees bookshop (bookshop.normalising bookshop.idna) "https://Example.com/hook".toList :=
  validated_iff bookshop (bookshop.normalising bookshop.idna) "https://Example.com/hook".toList
    ⟨some [.v4 0x08080808], by decide +kernel⟩

/-- The hostname is pinned as it stands in the URL, and the client looks up its IDNA form. -/
theorem idna_unpinned : ¬ ∀ (pf : Platform) (idna : Host → Option Host) (url : Url),
    (∃ answer, validateUrl pf answer url = .ok url) →
    ∀ ls, ∀ p ∈ visited (system pf (pf.normalising idna)).step ls start,
      ∀ c ∈ p.shared.connections, c.url = url → c.Validated := by
  intro validated
  have passes : validateUrl bookshop (some [.v4 0x08080808]) "http://bücher.example/".toList =
      .ok "http://bücher.example/".toList := by decide +kernel
  have agrees : Agrees bookshop (bookshop.normalising bookshop.idna) "http://bücher.example/".toList :=
    agrees_of_validated passes (validated bookshop bookshop.idna _ ⟨_, passes⟩)
  have asks : (bookshop.normalising bookshop.idna).asks "http://bücher.example/".toList =
      some "xn--bcher-kva.example".toList := by decide +kernel
  have named : bookshop.hostname "http://bücher.example/".toList = .ok (some "bücher.example".toList) := by
    decide +kernel
  rcases agrees _ asks _ named with same | wire | ⟨ip, fixed, -⟩
  · revert same
    decide +kernel
  · revert wire
    decide +kernel
  · have unknown : bookshop.fixed "xn--bcher-kva.example".toList = none := by decide +kernel
    rw [unknown] at fixed
    cases fixed

end NodePilot.Pinning
