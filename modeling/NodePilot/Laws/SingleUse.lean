import NodePilot.Tickets

/-!
# A ticket opens one connection

What the store holds are the tickets that were issued and not redeemed yet, each with its user and its end. So a
redemption succeeds once, in time, and names the user the ticket was issued to, whatever happens between the steps.
-/

namespace NodePilot.Tickets

open Lib

/-- The tickets that were issued. -/
def issuedTickets (log : List Entry) : List String :=
  log.filterMap fun
    | .issued ticket _ _ => some ticket
    | _ => none

/-- The tickets that were redeemed with success. -/
def redeemedTickets (log : List Entry) : List String :=
  log.filterMap fun
    | .redeemed _ ticket (some _) _ => some ticket
    | _ => none

/-- When it happened. -/
def Entry.time : Entry → Nat
  | .issued _ _ time | .redeemed _ _ _ time | .resolved _ _ _ _ time => time

/-- **What explains an entry** by what happened before it: a redemption succeeds if the ticket was issued, is not
over and was not redeemed; a connection has a user if its redemption has named one who is active. -/
def Explained (earlier : List Entry) : Entry → Prop
  | .issued _ _ _ => True
  | .redeemed _ ticket userUuid time =>
    ∀ text, userUuid = some text ↔
      ∃ user issue, .issued ticket user issue ∈ earlier ∧ text = user.str ∧ issue ≤ time ∧
        time < issue + ticketTtlMs ∧ ticket ∉ redeemedTickets earlier
  | .resolved connection presented accounts user _ =>
    (∀ account, user = some account → account ∈ accounts ∧ account.isActive ∧
      ∃ ticket time, presented = some ticket ∧ .redeemed connection ticket (some account.uuid.str) time ∈ earlier) ∧
    (user = none ↔ ∀ ticket userUuid time, presented = some ticket →
      .redeemed connection ticket (some userUuid) time ∈ earlier →
        ∀ account ∈ accounts, account.uuid.str = userUuid → account.isActive = false)

/-- The store and the connections, by what has happened. -/
structure Sound (s : Server) : Prop where
  past : ∀ entry ∈ s.log, entry.time ≤ s.now
  stored : ∀ ticket text expires, s.store (ticketKey ticket) = some ⟨text, expires⟩ ↔
    ∃ user issue, .issued ticket user issue ∈ s.log ∧ text = user.str ∧ expires = issue + ticketTtlMs ∧
      ticket ∉ redeemedTickets s.log
  known : ∀ ticket ∈ redeemedTickets s.log, ticket ∈ issuedTickets s.log
  waiting : ∀ connection ticket userUuid, s.waiting connection = some (ticket, userUuid) →
    ∃ time, .redeemed connection ticket userUuid time ∈ s.log
  numbered : ∀ connection ticket userUuid time, .redeemed connection ticket userUuid time ∈ s.log →
    connection < s.connections
  once : ∀ connection ticket userUuid time ticket' userUuid' time',
    .redeemed connection ticket userUuid time ∈ s.log → .redeemed connection ticket' userUuid' time' ∈ s.log →
      ticket = ticket' ∧ userUuid = userUuid'
  explained : ∀ later entry earlier, s.log = later ++ entry :: earlier → Explained earlier entry

/-! ## The parts -/

section Parts

theorem append_left_cancel {start a b : String} (h : start ++ a = start ++ b) : a = b := by
  have chars := congrArg String.toList h
  rw [String.toList_append, String.toList_append] at chars
  exact String.toList_inj.mp (List.append_cancel_left chars)

/-- Different tickets have different keys. -/
theorem ticketKey_ne {ticket ticket' : String} (ne : ticket ≠ ticket') : ticketKey ticket ≠ ticketKey ticket' := by
  intro same
  unfold ticketKey at same
  exact ne (append_left_cancel same)

/-- The account that is found is active and has the identifier. -/
theorem getActive_eq_some {accounts : List Account} {text : String} {account : Account}
    (h : getActive accounts text = some account) :
    account ∈ accounts ∧ account.uuid.str = text ∧ account.isActive := by
  have found := List.find?_some h
  simp only [Bool.and_eq_true, decide_eq_true_eq] at found
  exact ⟨List.mem_of_find?_eq_some h, found⟩

/-- None is found where none is. -/
theorem getActive_eq_none {accounts : List Account} {text : String} :
    getActive accounts text = none ↔ ∀ account ∈ accounts, account.uuid.str = text → account.isActive = false := by
  simp [getActive]

/-- A redemption returns what is under the ticket's key while it is not over, and takes it away. -/
theorem redeemTicket_eq_some {store store' : Leases String String} {now : Nat} {ticket text : String}
    (h : redeemTicket store now ticket = (some text, store')) :
    (∃ expires, store (ticketKey ticket) = some ⟨text, expires⟩ ∧ now < expires) ∧
      store' = store.del (ticketKey ticket) := by
  unfold redeemTicket at h
  split at h
  · next lease found =>
    obtain ⟨there, live⟩ := Leases.at?_eq_some.mp found
    cases h
    exact ⟨⟨lease.expires, there, live⟩, rfl⟩
  · cases h

/-- Where nothing is redeemed the ticket was not in the store, or had expired. -/
theorem redeemTicket_eq_none {store store' : Leases String String} {now : Nat} {ticket : String}
    (h : redeemTicket store now ticket = (none, store')) :
    (∀ text expires, store (ticketKey ticket) = some ⟨text, expires⟩ → expires ≤ now) ∧ store' = store := by
  unfold redeemTicket at h
  split at h
  · cases h
  · next free =>
    refine ⟨fun text expires there => ?_, (Prod.mk.inj h).2.symm⟩
    by_contra live
    rw [Leases.at?_eq_some.mpr ⟨there, Nat.not_le.mp live⟩] at free
    cases free

/-- The tickets that were issued are those of the log. -/
theorem mem_issuedTickets {log : List Entry} {ticket : String} :
    ticket ∈ issuedTickets log ↔ ∃ user time, .issued ticket user time ∈ log := by
  unfold issuedTickets
  rw [List.mem_filterMap]
  constructor
  · rintro ⟨entry, there, same⟩
    cases entry with
    | issued ticket' user time =>
      cases same
      exact ⟨user, time, there⟩
    | redeemed => cases same
    | resolved => cases same
  · rintro ⟨user, time, there⟩
    exact ⟨_, there, rfl⟩

/-- What explained the entries before explains them after one more. -/
theorem explained_cons {log : List Entry} {first : Entry}
    (old : ∀ later entry earlier, log = later ++ entry :: earlier → Explained earlier entry)
    (new : Explained log first) :
    ∀ later entry earlier, first :: log = later ++ entry :: earlier → Explained earlier entry := by
  intro later entry earlier same
  cases later with
  | nil =>
    obtain ⟨rfl, rfl⟩ := List.cons.inj same
    exact new
  | cons latest later => exact old later entry earlier (List.cons.inj same).2

end Parts

/-! ## The steps -/

section Steps

variable {s s' : Server}

/-- Time passing keeps the invariant. -/
theorem tick_sound (sound : Sound s) (milliseconds : Nat) : Sound { s with now := s.now + milliseconds } where
  past entry there := Nat.le_trans (sound.past entry there) (Nat.le_add_right _ _)
  stored := sound.stored
  known := sound.known
  waiting := sound.waiting
  numbered := sound.numbered
  once := sound.once
  explained := sound.explained

/-- A change of the accounts keeps the invariant. -/
theorem users_sound (sound : Sound s) (accounts : List Account) : Sound { s with accounts := accounts } where
  past := sound.past
  stored := sound.stored
  known := sound.known
  waiting := sound.waiting
  numbered := sound.numbered
  once := sound.once
  explained := sound.explained

/-- A fresh ticket keeps the invariant. -/
theorem issueTicket_sound (sound : Sound s) {user : Uuid} {ticket : String} (fresh : ticket ∉ issuedTickets s.log) :
    Sound (s.issueTicket user ticket) where
  past := List.forall_mem_cons.mpr ⟨Nat.le_refl s.now, sound.past⟩
  stored := by
    intro other text expires
    have unredeemed : ticket ∉ redeemedTickets s.log := fun there => fresh (sound.known ticket there)
    have store : (s.issueTicket user ticket).store =
        Function.update s.store (ticketKey ticket) (some ⟨user.str, s.now + ticketTtlMs⟩) := rfl
    have log : (s.issueTicket user ticket).log = .issued ticket user s.now :: s.log := rfl
    rw [store, log]
    by_cases same : other = ticket
    · subst same
      rw [Function.update_self, Option.some.injEq, Lease.mk.injEq]
      constructor
      · rintro ⟨token, ends⟩
        exact ⟨user, s.now, List.mem_cons_self, token.symm, ends.symm, unredeemed⟩
      · rintro ⟨user', issue, there, token, ends, -⟩
        rcases List.mem_cons.mp there with new | old
        · injection new with _ who when
          exact ⟨who ▸ token.symm, when ▸ ends.symm⟩
        · exact absurd (mem_issuedTickets.mpr ⟨user', issue, old⟩) fresh
    · rw [Function.update_of_ne (ticketKey_ne same), sound.stored]
      constructor
      · rintro ⟨user', issue, there, rest⟩
        exact ⟨user', issue, List.mem_cons_of_mem _ there, rest⟩
      · rintro ⟨user', issue, there, rest⟩
        rcases List.mem_cons.mp there with new | old
        · cases new
          exact absurd rfl same
        · exact ⟨user', issue, old, rest⟩
  known other there := List.mem_cons_of_mem _ (sound.known other there)
  waiting connection other userUuid held := by
    obtain ⟨time, there⟩ := sound.waiting connection other userUuid held
    exact ⟨time, List.mem_cons_of_mem _ there⟩
  numbered connection other userUuid time there :=
    sound.numbered connection other userUuid time (List.mem_of_ne_of_mem (fun h => by cases h) there)
  once connection ticket₁ userUuid₁ time₁ ticket₂ userUuid₂ time₂ there₁ there₂ :=
    sound.once connection _ _ time₁ _ _ time₂ (List.mem_of_ne_of_mem (fun h => by cases h) there₁)
      (List.mem_of_ne_of_mem (fun h => by cases h) there₂)
  explained := explained_cons sound.explained trivial

/-- A connection that has its user holds nothing any more. -/
theorem resolved_sound (sound : Sound s) {connection : Nat} {presented : Option String} {user : Option Account}
    {connections : Nat} {waiting : Nat → Option (String × Option String)}
    (new : Explained s.log (.resolved connection presented s.accounts user s.now))
    (more : s.connections ≤ connections) (kept : ∀ c held, waiting c = some held → s.waiting c = some held) :
    Sound { s with
      connections := connections
      waiting := waiting
      log := .resolved connection presented s.accounts user s.now :: s.log } where
  past := List.forall_mem_cons.mpr ⟨Nat.le_refl s.now, sound.past⟩
  stored ticket text expires := by
    have same : ∀ u time, Entry.issued ticket u time ∈
        Entry.resolved connection presented s.accounts user s.now :: s.log ↔ .issued ticket u time ∈ s.log := by
      simp
    simp only [same]
    exact sound.stored ticket text expires
  known := sound.known
  waiting c ticket userUuid held := by
    obtain ⟨time, there⟩ := sound.waiting c ticket userUuid (kept c _ held)
    exact ⟨time, List.mem_cons_of_mem _ there⟩
  numbered c ticket userUuid time there :=
    Nat.lt_of_lt_of_le (sound.numbered c ticket userUuid time (List.mem_of_ne_of_mem (fun h => by cases h) there)) more
  once c ticket₁ userUuid₁ time₁ ticket₂ userUuid₂ time₂ there₁ there₂ :=
    sound.once c _ _ time₁ _ _ time₂ (List.mem_of_ne_of_mem (fun h => by cases h) there₁)
      (List.mem_of_ne_of_mem (fun h => by cases h) there₂)
  explained := explained_cons sound.explained new

/-- A redemption succeeds exactly if the ticket was issued, is not over and was not redeemed. -/
theorem redeem_explained (sound : Sound s) {ticket : String} {userUuid : Option String} {store : Leases String String}
    (h : redeemTicket s.store s.now ticket = (userUuid, store)) :
    Explained s.log (.redeemed s.connections ticket userUuid s.now) := by
  intro text
  constructor
  · rintro rfl
    obtain ⟨⟨expires, there, live⟩, -⟩ := redeemTicket_eq_some h
    obtain ⟨user, issue, issued, rfl, rfl, unredeemed⟩ := (sound.stored ticket text expires).mp there
    exact ⟨user, issue, issued, rfl, sound.past _ issued, live, unredeemed⟩
  · rintro ⟨user, issue, issued, rfl, -, live, unredeemed⟩
    have there := (sound.stored ticket user.str (issue + ticketTtlMs)).mpr ⟨user, issue, issued, rfl, rfl, unredeemed⟩
    cases userUuid with
    | none => exact absurd live (Nat.not_lt.mpr ((redeemTicket_eq_none h).1 _ _ there))
    | some text =>
      obtain ⟨⟨expires, there', -⟩, -⟩ := redeemTicket_eq_some h
      rw [there, Option.some.injEq, Lease.mk.injEq] at there'
      rw [there'.1]

/-- What is stored after a redemption are the other tickets. -/
theorem redeem_stored (sound : Sound s) {ticket : String} {userUuid : Option String} {store : Leases String String}
    (h : redeemTicket s.store s.now ticket = (userUuid, store)) (other text : String) (expires : Nat) :
    store (ticketKey other) = some ⟨text, expires⟩ ↔
      ∃ user issue, .issued other user issue ∈ s.log ∧ text = user.str ∧ expires = issue + ticketTtlMs ∧
        other ∉ redeemedTickets (.redeemed s.connections ticket userUuid s.now :: s.log) := by
  cases userUuid with
  | none =>
    obtain ⟨-, rfl⟩ := redeemTicket_eq_none h
    exact sound.stored other text expires
  | some redeemed =>
    obtain ⟨-, rfl⟩ := redeemTicket_eq_some h
    have tickets : redeemedTickets (.redeemed s.connections ticket (some redeemed) s.now :: s.log) =
        ticket :: redeemedTickets s.log := rfl
    rw [tickets, List.mem_cons, not_or]
    by_cases same : other = ticket
    · subst same
      simp [Leases.del]
    · rw [Leases.del, Function.update_of_ne (ticketKey_ne same), sound.stored]
      simp only [same, not_false_eq_true, true_and]

/-- Only a ticket that was issued is redeemed. -/
theorem redeem_known (sound : Sound s) {ticket : String} {userUuid : Option String} {store : Leases String String}
    (h : redeemTicket s.store s.now ticket = (userUuid, store)) :
    ∀ other ∈ redeemedTickets (.redeemed s.connections ticket userUuid s.now :: s.log),
      other ∈ issuedTickets s.log := by
  cases userUuid with
  | none => exact sound.known
  | some text =>
    intro other there
    rcases List.mem_cons.mp there with rfl | old
    · obtain ⟨user, issue, issued, -⟩ := (redeem_explained sound h text).mp rfl
      exact mem_issuedTickets.mpr ⟨user, issue, issued⟩
    · exact sound.known other old

/-- Redeeming keeps the invariant. -/
theorem redeemed_sound (sound : Sound s) {ticket : String} {userUuid : Option String} {store : Leases String String}
    (h : redeemTicket s.store s.now ticket = (userUuid, store)) :
    Sound { s with
      store := store
      connections := s.connections + 1
      waiting := Function.update s.waiting s.connections (some (ticket, userUuid))
      log := .redeemed s.connections ticket userUuid s.now :: s.log } where
  past := List.forall_mem_cons.mpr ⟨Nat.le_refl s.now, sound.past⟩
  stored other text expires := by
    have same : ∀ u time, Entry.issued other u time ∈
        Entry.redeemed s.connections ticket userUuid s.now :: s.log ↔ .issued other u time ∈ s.log := by
      simp
    simp only [same]
    exact redeem_stored sound h other text expires
  known := redeem_known sound h
  waiting connection other answer held := by
    dsimp only at held ⊢
    by_cases same : connection = s.connections
    · subst same
      rw [Function.update_self] at held
      cases held
      exact ⟨s.now, List.mem_cons_self⟩
    · rw [Function.update_of_ne same] at held
      obtain ⟨time, there⟩ := sound.waiting connection other answer held
      exact ⟨time, List.mem_cons_of_mem _ there⟩
  numbered connection other answer time there := by
    dsimp only at there ⊢
    rcases List.mem_cons.mp there with new | old
    · injection new with number
      omega
    · have before := sound.numbered connection other answer time old
      omega
  once connection ticket₁ userUuid₁ time₁ ticket₂ userUuid₂ time₂ there₁ there₂ := by
    rcases List.mem_cons.mp there₁ with new₁ | old₁ <;> rcases List.mem_cons.mp there₂ with new₂ | old₂
    · injection new₁ with _ first₁ second₁
      injection new₂ with _ first₂ second₂
      exact ⟨first₁.trans first₂.symm, second₁.trans second₂.symm⟩
    · injection new₁ with number
      have before := sound.numbered _ _ _ _ old₂
      omega
    · injection new₂ with number
      have before := sound.numbered _ _ _ _ old₁
      omega
    · exact sound.once _ _ _ _ _ _ _ old₁ old₂
  explained := explained_cons sound.explained (redeem_explained sound h)

/-- A connection keeps the invariant. -/
theorem connect_sound (sound : Sound s) (query : List (String × List String)) : Sound (s.connect query) := by
  unfold Server.connect
  cases presentedTicket query with
  | none =>
    apply resolved_sound sound ⟨?_, ?_⟩ (Nat.le_succ _) fun _ _ held => held
    · rintro account ⟨⟩
    · simp
  | some ticket => exact redeemed_sound sound rfl

/-- Looking up the account keeps the invariant. -/
theorem lookup_sound (sound : Sound s) {connection : Nat} {ticket : String} {userUuid : Option String}
    (held : s.waiting connection = some (ticket, userUuid)) : Sound (s.lookup connection ticket userUuid) := by
  obtain ⟨time, there⟩ := sound.waiting connection ticket userUuid held
  apply resolved_sound sound ⟨?_, ?_⟩ (Nat.le_refl _)
  · intro c other kept
    dsimp only at kept
    by_cases same : c = connection
    · simp [same] at kept
    · rwa [Function.update_of_ne same] at kept
  · intro account found
    obtain ⟨text, rfl, found⟩ := Option.bind_eq_some_iff.mp found
    obtain ⟨member, rfl, active⟩ := getActive_eq_some found
    exact ⟨member, active, ticket, time, rfl, there⟩
  · rw [Option.bind_eq_none_iff]
    constructor
    · rintro nobody ticket' text time' - there'
      obtain ⟨-, rfl⟩ := sound.once _ _ _ _ _ _ _ there there'
      exact getActive_eq_none.mp (nobody text rfl)
    · rintro inactive text rfl
      exact getActive_eq_none.mpr (inactive ticket text time rfl there)

/-- **One step keeps the invariant**, while no ticket is drawn twice. -/
theorem step_sound {next : Step} (sound : Sound s) (h : Server.step next s = some s')
    (distinct : (issuedTickets s'.log).Nodup) : Sound s' := by
  cases next with
  | tick milliseconds =>
    cases h
    exact tick_sound sound milliseconds
  | users accounts =>
    cases h
    exact users_sound sound accounts
  | issue user ticket =>
    cases h
    exact issueTicket_sound sound (List.nodup_cons.mp distinct).1
  | connect query =>
    cases h
    exact connect_sound sound query
  | lookup connection =>
    obtain ⟨⟨ticket, userUuid⟩, held, done⟩ := Option.bind_eq_some_iff.mp h
    cases done
    exact lookup_sound sound held

/-- What has happened before a step has happened after it. -/
theorem step_log {next : Step} (h : Server.step next s = some s') : s.log <:+ s'.log := by
  cases next with
  | tick milliseconds =>
    cases h
    exact List.suffix_refl _
  | users accounts =>
    cases h
    exact List.suffix_refl _
  | issue user ticket =>
    cases h
    exact List.suffix_cons _ _
  | connect query =>
    cases h
    unfold Server.connect
    cases presentedTicket query with
    | none => exact List.suffix_cons _ _
    | some ticket => exact List.suffix_cons _ _
  | lookup connection =>
    obtain ⟨⟨ticket, userUuid⟩, -, done⟩ := Option.bind_eq_some_iff.mp h
    cases done
    exact List.suffix_cons _ _

/-- A run adds to the log. -/
theorem run_log {steps : List Step} (h : Server.run steps s = some s') : s.log <:+ s'.log := by
  induction steps generalizing s with
  | nil =>
    cases h
    exact List.suffix_refl _
  | cons next steps ih =>
    obtain ⟨between, first, rest⟩ := Option.bind_eq_some_iff.mp h
    exact (step_log first).trans (ih rest)

/-- **A run keeps the invariant**, while no ticket is drawn twice. -/
theorem run_sound {steps : List Step} (sound : Sound s) (h : Server.run steps s = some s')
    (distinct : (issuedTickets s'.log).Nodup) : Sound s' := by
  induction steps generalizing s with
  | nil =>
    cases h
    exact sound
  | cons next steps ih =>
    obtain ⟨between, first, rest⟩ := Option.bind_eq_some_iff.mp h
    have earlier : (issuedTickets between.log).Nodup := distinct.sublist ((run_log rest).sublist.filterMap _)
    exact ih (step_sound sound first earlier) rest

end Steps

/-! ## Runs -/

/-- Nothing has happened yet, and no ticket is stored. -/
structure Started (s : Server) : Prop where
  log : s.log = []
  store : ∀ ticket, s.store (ticketKey ticket) = none
  waiting : ∀ connection, s.waiting connection = none

/-- The invariant holds at the start. -/
theorem Started.sound {s : Server} (started : Started s) : Sound s where
  past := by simp [started.log]
  stored := by simp [started.log, started.store]
  known := by simp [started.log, redeemedTickets]
  waiting := by simp [started.waiting]
  numbered := by simp [started.log]
  once := by simp [started.log]
  explained := by simp [started.log]

/-- No ticket is redeemed twice where a redemption needs that it was not redeemed before. -/
theorem redeemedTickets_nodup {log : List Entry}
    (explained : ∀ later entry earlier, log = later ++ entry :: earlier → Explained earlier entry) :
    (redeemedTickets log).Nodup := by
  induction log with
  | nil => exact List.nodup_nil
  | cons first log ih =>
    have before := ih fun later entry earlier same => explained (first :: later) entry earlier (by rw [same]; rfl)
    cases first with
    | issued => exact before
    | resolved => exact before
    | redeemed connection ticket userUuid time =>
      cases userUuid with
      | none => exact before
      | some text =>
        have new : Explained log (.redeemed connection ticket (some text) time) := explained [] _ log rfl
        obtain ⟨-, -, -, -, -, -, unredeemed⟩ := (new text).mp rfl
        exact List.nodup_cons.mpr ⟨unredeemed, before⟩

/-- **A ticket opens one connection.** In every run in which no ticket is drawn twice, a ticket is redeemed once at
most, and exactly if it was issued less than `TICKET_TTL_SECONDS` ago and was not redeemed before; what is returned
is the UUID of the user it was issued to. A connection has a user only by a ticket that was issued to that user and
was redeemed for this connection in time, and while the user is active; otherwise its user is anonymous. -/
theorem ticket_single_use {start s : Server} {steps : List Step} (started : Started start)
    (ran : Server.run steps start = some s) (distinct : (issuedTickets s.log).Nodup) :
    (redeemedTickets s.log).Nodup ∧
    (∀ later connection ticket userUuid time earlier,
      s.log = later ++ .redeemed connection ticket userUuid time :: earlier →
        ∀ text, userUuid = some text ↔
          ∃ user issue, .issued ticket user issue ∈ earlier ∧ text = user.str ∧ issue ≤ time ∧
            time < issue + ticketTtlMs ∧ ticket ∉ redeemedTickets earlier) ∧
    ∀ later connection presented accounts user time earlier,
      s.log = later ++ .resolved connection presented accounts user time :: earlier →
        (∀ account, user = some account → account ∈ accounts ∧ account.isActive ∧
          ∃ ticket issue redeemed, presented = some ticket ∧ .issued ticket account.uuid issue ∈ earlier ∧
            .redeemed connection ticket (some account.uuid.str) redeemed ∈ earlier ∧ issue ≤ redeemed ∧
            redeemed < issue + ticketTtlMs) ∧
        (user = none ↔ ∀ ticket userUuid redeemed, presented = some ticket →
          .redeemed connection ticket (some userUuid) redeemed ∈ earlier →
            ∀ account ∈ accounts, account.uuid.str = userUuid → account.isActive = false) := by
  have sound := run_sound started.sound ran distinct
  refine ⟨redeemedTickets_nodup sound.explained, ?redemptions, ?connections⟩
  case redemptions =>
    intro later connection ticket userUuid time earlier same
    exact sound.explained _ _ _ same
  case connections =>
    intro later connection presented accounts user time earlier same
    obtain ⟨somebody, nobody⟩ := sound.explained _ _ _ same
    refine ⟨fun account found => ?_, nobody⟩
    obtain ⟨member, active, ticket, redeemed, rfl, there⟩ := somebody account found
    obtain ⟨between, before, rfl⟩ := List.append_of_mem there
    have split : s.log = (later ++ .resolved connection (some ticket) accounts user time :: between) ++
        .redeemed connection ticket (some account.uuid.str) redeemed :: before := by
      rw [same, List.append_assoc, List.cons_append]
    have redemption := sound.explained _ _ _ split
    obtain ⟨issuer, issue, issued, named, past, live, -⟩ := (redemption account.uuid.str).mp rfl
    rw [← Uuid.str_injective named] at issued
    exact ⟨member, active, ticket, issue, redeemed, rfl, by simp [issued], there, past, live⟩

/-- A ticket that is presented by two connections. -/
def replay : List Step :=
  [.users [⟨⟨7⟩, true⟩], .issue ⟨7⟩ "t", .tick 1000, .connect [("ticket", ["t"])], .connect [("ticket", ["t"])],
    .lookup 1, .lookup 0]

theorem ticket_single_use_replay : ∃ s, Server.run replay {} = some s ∧ issuedTickets s.log = ["t"] ∧
    (redeemedTickets s.log).Nodup := by
  have ran : ∃ s, Server.run replay {} = some s ∧ issuedTickets s.log = ["t"] := ⟨_, rfl, rfl⟩
  obtain ⟨s, ran, issued⟩ := ran
  have started : Started {} := ⟨rfl, fun _ => rfl, fun _ => rfl⟩
  exact ⟨s, ran, issued, (ticket_single_use started ran (by rw [issued]; decide)).1⟩

end NodePilot.Tickets
