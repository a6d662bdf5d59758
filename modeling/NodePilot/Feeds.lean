import NodePilot.JsonText
import NodePilot.Lib.Positional
import NodePilot.Policies

/-!
# The feeds

The websockets that show a browser what happens to a job, a VM, a node or in an organization: `JobConsumer`,
`VMConsumer`, `NodeStatusConsumer` and `EventsConsumer`, with the messages of `_broadcast`, `broadcast_vm_status` and
`broadcast_node_status`. A socket asks for its object and for its user's permission once, joins the group of what its
URL names, and from then on shows what is sent to that group. The steps of `connect` are apart, as other tasks run in
between. The channel layer keeps the order of what is in a mailbox, and leaves out what comes while it is full.
-/

namespace NodePilot.Feeds

open Lib Rbac

/-! ## What a feed is about -/

/-- `uuid.UUID(text)`, of a text of hexadecimal digits and dashes: the dashes are ignored, wherever they stand. -/
def parseUuid (text : List Char) : Option Uuid := do
  let digits := text.filter (· ≠ '-')
  if digits.length ≠ 32 then none
  let values ← digits.mapM Json.hexValue
  return ⟨BitVec.ofNat 128 (horner 16 values)⟩

/-- The consumers that show one object. -/
inductive Kind
  | job | vm | node
deriving DecidableEq

def Kind.groupPrefix : Kind → String
  | .job => "job."
  | .vm => "vm."
  | .node => "node_status."

/-- The codename that is asked for. -/
def Kind.codename : Kind → String
  | .job => "job.view"
  | .vm => "vm.view"
  | .node => "node.view"

/-- What a URL asks for: an object, by the text in it, or the organization of its query. -/
inductive Feed
  | object (kind : Kind) (text : String)
  | events (organization : Option Uuid)

def Feed.codename : Feed → String
  | .object kind _ => kind.codename
  | .events _ => "event.view"

/-- What a message is about. -/
inductive Subject
  | object (kind : Kind) (uuid : Uuid)
  | organization (pk : Nat)
deriving DecidableEq

/-- The group that a message is sent to. -/
def Subject.group : Subject → String
  | .object kind uuid => kind.groupPrefix ++ uuid.str
  | .organization pk => "events." ++ toString pk

/-! ## Tables -/

/-- What a consumer reads of an object: its organization, and what `_serialize` makes of a job. -/
structure Record where
  organization : Nat
  data : Json

structure Directory where
  objects : Kind → Uuid → Option Record
  organizations : Uuid → Option Nat

/-- The organization of what a message is about. -/
def Directory.organizationOf (d : Directory) : Subject → Option Nat
  | .object kind uuid => (d.objects kind uuid).map Record.organization
  | .organization pk => some pk

/-- What `connect` has found. -/
structure Found where
  group : String
  organization : Nat
  snapshot : Option Json

/-- `_get_job`, `_get_vm`, `_get_node` or `_get_organization`, and the group that `connect` is going to join. -/
def Feed.find (d : Directory) : Feed → Option Found
  | .object kind text => do
    let uuid ← parseUuid text.toList
    let record ← d.objects kind uuid
    return ⟨kind.groupPrefix ++ text, record.organization, if kind = .job then some record.data else none⟩
  | .events organization => do
    let pk ← d.organizations (← organization)
    return ⟨"events." ++ toString pk, pk, none⟩

/-! ## Sockets -/

structure Message where
  about : Subject
  data : Json

/-- What a browser is sent. -/
inductive Shown
  | snapshot (data : Json)
  | update (message : Message)

/-- How far `connect` is, or that the socket is closed. -/
inductive Phase
  | connecting | loaded | permitted | joined | accepted | closed
deriving DecidableEq

structure Socket where
  user : Asker
  feed : Feed
  phase : Phase := .connecting
  found : Option Found := none
  mailbox : List Message := []
  shown : List Shown := []

/-- The group that a socket is in. -/
def Socket.group (k : Socket) : Option String :=
  match k.phase with
  | .joined | .accepted => k.found.map Found.group
  | _ => none

structure World where
  directory : Directory
  policy : State
  sockets : Nat → Option Socket := fun _ => none

inductive Event
  | connect (id : Nat) (user : Asker) (feed : Feed)
  /-- The object is loaded. -/
  | load (id : Nat)
  /-- `has_permission` is asked. -/
  | check (id : Nat)
  /-- `group_add` -/
  | join (id : Nat)
  /-- `accept`, and the snapshot of a job. -/
  | accept (id : Nat)
  /-- The next message of the mailbox is handled. -/
  | deliver (id : Nat)
  | disconnect (id : Nat)
  /-- `group_send`, while these mailboxes are full. -/
  | broadcast (message : Message) (full : List Nat)
  /-- Something else happens to the policy service or its tables. -/
  | policy (step : Step)
  /-- Objects are made, changed and deleted. -/
  | edit (directory : Directory)

namespace World

/-- A step of one socket. -/
def update (w : World) (id : Nat) (f : Socket → Socket) : World :=
  { w with sockets := fun other => if other = id then (w.sockets id).map f else w.sockets other }

/-- The object is loaded, or the socket closes. -/
def load (w : World) (k : Socket) : Socket :=
  if k.phase = .connecting then
    match k.feed.find w.directory with
    | some found => { k with phase := .loaded, found := some found }
    | none => { k with phase := .closed }
  else k

/-- The question of a socket that has loaded its object. -/
def question (w : World) (id : Nat) : Option (Asker × Nat × String) := do
  let k ← w.sockets id
  let found ← k.found
  if k.phase = .loaded then return (k.user, found.organization, k.feed.codename) else none

/-- What the answer makes of a socket. -/
def answered (permitted : Bool) (k : Socket) : Socket :=
  { k with phase := if permitted then .permitted else .closed }

def join (k : Socket) : Socket := if k.phase = .permitted then { k with phase := .joined } else k

def accept (k : Socket) : Socket :=
  if k.phase = .joined then
    { k with
      phase := .accepted
      shown := k.shown ++ ((k.found.bind Found.snapshot).map Shown.snapshot).toList }
  else k

def deliver (k : Socket) : Socket :=
  if k.phase = .accepted then
    match k.mailbox with
    | [] => k
    | message :: rest => { k with mailbox := rest, shown := k.shown ++ [.update message] }
  else k

def receive (message : Message) (full : Bool) (k : Socket) : Socket :=
  if k.group = some message.about.group ∧ ¬ full then { k with mailbox := k.mailbox ++ [message] } else k

def step (w : World) : Event → World
  | .connect id user feed =>
    if (w.sockets id).isSome then w
    else { w with sockets := fun other => if other = id then some { user := user, feed := feed } else w.sockets other }
  | .load id => w.update id w.load
  | .check id =>
    match w.question id with
    | some (user, organization, codename) =>
      let (permitted, policy) := w.policy.hasPermission user (some organization) codename none
      { w with policy := policy }.update id (answered permitted)
    | none => w
  | .join id => w.update id join
  | .accept id => w.update id accept
  | .deliver id => w.update id deliver
  | .disconnect id => w.update id fun k => { k with phase := .closed }
  | .broadcast message full => { w with
      sockets := fun id => (w.sockets id).map (receive message (full.contains id)) }
  | .policy step => { w with policy := w.policy.step step }
  | .edit directory => { w with directory := directory }

end World

/-- The world after a run that begins without sockets, and with an empty cache. -/
def after (directory : Directory) (db : Database) (events : List Event) : World :=
  events.foldl World.step { directory := directory, policy := { db := db } }

end NodePilot.Feeds
