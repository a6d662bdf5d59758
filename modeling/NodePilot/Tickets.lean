import NodePilot.Lib.Lease
import NodePilot.Protocol

/-!
# Tickets of WebSocket connections

`apps/authentication/ws_ticket.py` and the middleware of `apps/authentication/ws_auth.py`. Any number of requests
and connections work on one Redis and one table of users. Redis runs a `SET` or the script of `redeem_ticket` in one
step; the middleware reads the user in a later one, and in between the clock may move and users may change. The
clock counts milliseconds. What a ticket is stored as is the text of a `UUID`, so a user is found by that text.
-/

namespace NodePilot.Tickets

open Lib

/-- What is read of a user. -/
structure Account where
  uuid : Uuid
  isActive : Bool
deriving DecidableEq

/-- What has happened, as far as somebody was answered. -/
inductive Entry
  /-- `issue_ticket` has returned. -/
  | issued (ticket : String) (user : Uuid) (time : Nat)
  /-- `redeem_ticket` has returned, for a connection. -/
  | redeemed (connection : Nat) (ticket : String) (userUuid : Option String) (time : Nat)
  /-- `scope["user"]` is set, from the users there are; `none` is the anonymous user. -/
  | resolved (connection : Nat) (presented : Option String) (accounts : List Account) (user : Option Account)
    (time : Nat)

structure Server where
  now : Nat := 0
  store : Leases String String := fun _ => none
  accounts : List Account := []
  /-- How many connections there have been. -/
  connections : Nat := 0
  /-- The connections between the script and the query: the ticket, and what the script has returned. -/
  waiting : Nat → Option (String × Option String) := fun _ => none
  /-- What has happened, newest first. -/
  log : List Entry := []

def ticketTtlSeconds : Nat := 30

def ticketTtlMs : Nat := ticketTtlSeconds * 1000

def ticketKey (ticket : String) : String := "nodepilot:ws_ticket:" ++ ticket

/-- `redeem_ticket`: what `_REDEEM_SCRIPT` returns, and what it leaves of the store. -/
def redeemTicket (store : Leases String String) (now : Nat) (ticket : String) :
    Option String × Leases String String :=
  match store.at? now (ticketKey ticket) with
  | some lease => (some lease.token, store.del (ticketKey ticket))
  | none => (none, store)

/-- `User.objects.get(uuid=user_uuid, is_active=True)` -/
def getActive (accounts : List Account) (userUuid : String) : Option Account :=
  accounts.find? fun account => account.uuid.str = userUuid && account.isActive

/-- `(query.get("ticket") or [None])[0]`, where an empty ticket counts as none. -/
def presentedTicket (query : List (String × List String)) : Option String :=
  ((query.lookup "ticket").bind List.head?).filter fun ticket => ticket ≠ ""

inductive Step
  | tick (milliseconds : Nat)
  /-- The users have changed. -/
  | users (accounts : List Account)
  /-- `issue_ticket`, with what `secrets.token_urlsafe` draws. -/
  | issue (user : Uuid) (ticket : String)
  /-- A connection comes in; the script runs if it has a ticket. -/
  | connect (query : List (String × List String))
  /-- The middleware reads the user of a ticket. -/
  | lookup (connection : Nat)

namespace Server

def record (s : Server) (entry : Entry) : Server := { s with log := entry :: s.log }

/-- `issue_ticket` -/
def issueTicket (s : Server) (user : Uuid) (ticket : String) : Server :=
  { s with store := s.store.set s.now ticketTtlMs (ticketKey ticket) user.str }.record (.issued ticket user s.now)

/-- `TicketAuthMiddleware`, up to the query of the user. -/
def connect (s : Server) (query : List (String × List String)) : Server :=
  let connection := s.connections
  let s := { s with connections := connection + 1 }
  match presentedTicket query with
  | none => s.record (.resolved connection none s.accounts none s.now)
  | some ticket =>
    let (userUuid, store) := redeemTicket s.store s.now ticket
    { s with
      store := store
      waiting := Function.update s.waiting connection (some (ticket, userUuid)) }.record
      (.redeemed connection ticket userUuid s.now)

/-- `_user_from_ticket`, after the script. -/
def lookup (s : Server) (connection : Nat) (ticket : String) (userUuid : Option String) : Server :=
  { s with waiting := Function.update s.waiting connection none }.record
    (.resolved connection (some ticket) s.accounts (userUuid.bind (getActive s.accounts)) s.now)

def step : Step → Server → Option Server
  | .tick milliseconds, s => some { s with now := s.now + milliseconds }
  | .users accounts, s => some { s with accounts := accounts }
  | .issue user ticket, s => some (s.issueTicket user ticket)
  | .connect query, s => some (s.connect query)
  | .lookup connection, s => do
    let (ticket, userUuid) ← s.waiting connection
    return s.lookup connection ticket userUuid

def run (steps : List Step) (s : Server) : Option Server := steps.foldlM (fun s next => step next s) s

end Server

end NodePilot.Tickets
