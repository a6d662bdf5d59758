import NodePilot.Agent.Transport
import NodePilot.AgentLink
import NodePilot.JsonText

/-!
# The command channel from end to end

What `NodePilot.AgentLink` has of the controller and `NodePilot.Agent.Transport` of the agent, with all that lies
between them: the group of a node's `AgentConsumer`s, the mailboxes that the channel layer keeps for consumers, the two
directions of a websocket, and the browsers of the consoles (`apps/nodes/consumers.py`, `apps/nodes/agent_client.py`,
`apps/virtual_machines/consumers.py`, `nodepilot_agent/transport.py`, `console.py`). Each node runs one agent process,
which reads one connection at a time. A mailbox and a websocket keep the order of what they hold. The channel layer may
drop what is in a mailbox, and what is under way on a connection that ends is lost.

Frames of a browser and of a VNC server, calls that have ended and texts that were taken are remembered. No handler
reads that.
-/

namespace NodePilot

open Lib Agent

/-! ## Messages -/

/-- `AgentRequest.to_wire` -/
def AgentRequest.toWire (request : AgentRequest) (requestId : String) : Dict :=
  [("request_id", .str requestId), ("operation", .str request.operation.value),
    ("resource_id", .str request.resourceId), ("payload", .obj request.payload)]

/-- `AgentResponse.to_wire` -/
def Agent.Response.toWire (response : Response) : Dict :=
  [("request_id", response.requestId), ("success", .bool response.success), ("data", .obj response.data),
    ("error", (response.error.map Json.str).getD .null)]

/-- `json.loads`, of a text of a command connection. -/
def readText (text : String) : Except Unreadable Json :=
  match Json.loads text with
  | some value => .ok value
  | none => .error .valueError

/-! ## Base64 -/

/-- The alphabet. -/
def base64Char (n : Nat) : Char :=
  if n < 26 then .ofNat (n + 65)
  else if n < 52 then .ofNat (n + 71)
  else if n < 62 then .ofNat (n - 4)
  else if n = 62 then '+'
  else '/'

def b64Chars : List UInt8 → List Char
  | [] => []
  | [a] => [base64Char (a.toNat / 4), base64Char (a.toNat % 4 * 16), '=', '=']
  | [a, b] =>
    [base64Char (a.toNat / 4), base64Char (a.toNat % 4 * 16 + b.toNat / 16), base64Char (b.toNat % 16 * 4), '=']
  | a :: b :: c :: rest =>
    base64Char (a.toNat / 4) :: base64Char (a.toNat % 4 * 16 + b.toNat / 16) ::
      base64Char (b.toNat % 16 * 4 + c.toNat / 64) :: base64Char (c.toNat % 64) :: b64Chars rest

/-- `base64.b64encode(data).decode()` -/
def b64encode (data : List UInt8) : String := String.ofList (b64Chars data)

/-! ## Console messages -/

/-- What a browser sends. -/
inductive BrowserFrame
  | bytes (data : List UInt8)
  | text (data : String)

/-- The data of `console_input`. -/
def BrowserFrame.payload : BrowserFrame → String
  | .bytes data => b64encode data
  | .text data => data

/-- The bytes that the agent makes of it. -/
def BrowserFrame.decoded (frame : BrowserFrame) : Option (List UInt8) := (b64decode (.str frame.payload)).toOption

def consoleInput (sessionId : String) (frame : BrowserFrame) : Dict :=
  [("type", .str "console_input"), ("session_id", .str sessionId), ("data", .str frame.payload)]

def consoleClose (sessionId : String) : Dict := [("type", .str "console_close"), ("session_id", .str sessionId)]

/-- `send_console_data` -/
def consoleData (sessionId : String) (chunk : List UInt8) : Dict :=
  [("type", .str "console_data"), ("session_id", .str sessionId), ("data", .str (b64encode chunk))]

/-- OPEN_CONSOLE, as `_open_console` sends it. -/
def openConsole (sessionId vmUuid : String) : AgentRequest :=
  { operation := .openConsole, resourceId := vmUuid, payload := [("session_id", .str sessionId)] }

/-! ## Agent processes -/

/-- For which connection the `send_console_data` of a session was made, and by which operation. -/
structure Outlet where
  operation : Nat
  sessionId : Json
  connection : Nat

/-- The agent process of a node. -/
structure AgentProcess where
  /-- The connection that its loop reads. -/
  connection : Option Nat := none
  transport : Transport := {}
  /-- The operations that are not finished and belong to an earlier connection. -/
  orphans : List (Nat × Nat) := []
  /-- Newest first. -/
  outlets : List Outlet := []
  /-- The texts that the loop has taken, on whichever connection. -/
  taken : List String := []
  /-- What the sessions have written to their VNC servers. -/
  written : List (String × List UInt8) := []
  /-- What they have read from them. -/
  read : List (String × List UInt8) := []

namespace AgentProcess

variable (same : Json → Json → Bool)

/-- The loop takes a text. -/
def take (p : AgentProcess) (text : String) : AgentProcess :=
  { p with transport := p.transport.receive readText same text, taken := p.taken ++ [text] }

/-- The sessions that an operation of the connection has opened. -/
def opened (before after : Transport) (operation connection : Nat) : List Outlet :=
  (after.sessions.drop before.sessions.length).map fun s => ⟨operation, s.sessionId, connection⟩

/-- `_handle` goes on with what an operation has come to, and sends the answer. -/
def finish (p : AgentProcess) (connection operation : Nat) (result : Except String Dict) :
    AgentProcess × List Response :=
  let t := p.transport.handle same operation result
  ({ p with transport := t, outlets := opened p.transport t operation connection ++ p.outlets },
    (t.sent.drop p.transport.sent.length).map Prod.snd)

/-- `_handle`, with a connection that is gone. -/
def finishOrphan (p : AgentProcess) (connection operation : Nat) (result : Except String Dict) : AgentProcess :=
  match p.transport.dispatched[operation]? with
  | none => p
  | some request =>
    let (response, t) := p.transport.dispatch same request result
    { p with
      transport := { t with unsent := t.unsent ++ [(operation, response)] }
      orphans := p.orphans.erase (connection, operation)
      outlets := opened p.transport t operation connection ++ p.outlets }

/-- The connection is gone. The operations go on. -/
def lose (p : AgentProcess) : AgentProcess :=
  match p.connection with
  | none => p
  | some connection => { p with
      connection := none
      transport := { p.transport with raised := none, running := [] }
      orphans := p.orphans ++ p.transport.running.map fun operation => (connection, operation) }

/-- The process ends and is started again. -/
def restart (p : AgentProcess) : AgentProcess :=
  { p with
    connection := none
    transport := { p.transport with sessions := [], raised := none, running := [] }
    orphans := [] }

/-- `pump_inbound` -/
def pumpInbound (p : AgentProcess) (sessionId : String) : Option AgentProcess :=
  match p.transport.session same (.str sessionId) with
  | some ⟨_, chunk :: _⟩ => some { p with
      transport := { p.transport with
        sessions := p.transport.sessions.map fun s =>
          if same s.sessionId (.str sessionId) then { s with inbound := s.inbound.tail } else s }
      written := p.written ++ [(sessionId, chunk)] }
  | _ => none

/-- `pump_outbound`: the chunk is sent on the connection of the session. Where that is closed the session ends. -/
def pumpOutbound (p : AgentProcess) (sessionId : String) (chunk : List UInt8) :
    Option (AgentProcess × Option (Nat × Dict)) :=
  match p.transport.session same (.str sessionId), p.outlets.find? fun o => same o.sessionId (.str sessionId) with
  | some _, some outlet =>
    let read := p.read ++ [(sessionId, chunk)]
    if p.connection = some outlet.connection ∧ p.transport.raised.isNone then
      some ({ p with read := read }, some (outlet.connection, consoleData sessionId chunk))
    else some ({ p with transport := p.transport.popSession same (.str sessionId), read := read }, none)
  | _, _ => none

end AgentProcess

/-! ## The channel -/

/-- A `ConsoleConsumer`. -/
structure ConsoleConsumer where
  sessionId : String
  /-- The node of its VM. -/
  nodeUuid : String
  /-- The request of its OPEN_CONSOLE. -/
  requestId : String
  /-- OPEN_CONSOLE has returned, and with it `connect`. -/
  opened : Bool := false
  /-- `console.data` events that were not handled yet. -/
  mail : List Json := []

structure Channel where
  link : Link := {}
  /-- What was sent to the groups `agent.{node_uuid}`. -/
  commands : List (String × Dict) := []
  /-- `agent.command` events that an `AgentConsumer` has not handled yet. -/
  mail : Nat → List Dict := fun _ => []
  /-- The texts on a websocket, to the agent and from it. -/
  down : Nat → List String := fun _ => []
  up : Nat → List String := fun _ => []
  processes : String → AgentProcess := fun _ => {}
  consoles : List ConsoleConsumer := []
  /-- The frames that browsers have sent. -/
  typed : List (String × BrowserFrame) := []
  /-- The frames that browsers have been sent. -/
  shown : List (String × List UInt8) := []
  /-- The calls that were sent and have ended. -/
  ended : List (Call × Outcome) := []

namespace Channel

inductive Event
  | tick (milliseconds : Nat)
  /-- `register_agent` or `revoke_agent` -/
  | credential (request : Agents.Request)
  /-- `send_operation` is called. -/
  | send (node : Node) (request : AgentRequest) (requestId : String) (timeout : Option Nat)
  /-- One round of the loop in `send_operation`. -/
  | poll (requestId : String)
  /-- The channel layer drops a command. -/
  | drop (id place : Nat)
  /-- An `AgentConsumer` handles its next command. -/
  | relay (id : Nat)
  /-- An `AgentConsumer` receives the next text. -/
  | receive (id : Nat)
  | disconnect (id : Nat)
  /-- An agent process opens a connection. -/
  | connect (nodeUuid : String) (token : Option String)
  | lose (nodeUuid : String)
  | restart (nodeUuid : String)
  | take (nodeUuid : String)
  | finish (nodeUuid : String) (operation : Nat) (result : Except String Dict)
  | finishOrphan (nodeUuid : String) (connection operation : Nat) (result : Except String Dict)
  | pumpInbound (nodeUuid sessionId : String)
  | pumpOutbound (nodeUuid sessionId : String) (chunk : List UInt8)
  /-- `_run_session` ends. -/
  | sessionEnds (nodeUuid sessionId : String)
  /-- A browser is admitted to the console of a VM. -/
  | openConsole (sessionId : String) (node : Node) (vmUuid requestId : String)
  | input (sessionId : String) (frame : BrowserFrame)
  /-- A `ConsoleConsumer` handles its next event. -/
  | display (sessionId : String)
  /-- The channel layer drops console data. -/
  | dropData (sessionId : String) (place : Nat)
  | closeConsole (sessionId : String)

section Steps

variable (sha256 : String → String) (str : Json → String) (same : Json → Json → Bool)

/-- `group_send(f"agent.{node_uuid}", ...)` -/
def groupSend (s : Channel) (nodeUuid : String) (message : Dict) : Channel :=
  { s with
    commands := s.commands ++ [(nodeUuid, message)]
    mail := fun id =>
      if s.link.connections.any fun c => c.id = id && c.nodeUuid = nodeUuid then s.mail id ++ [message] else s.mail id }

/-- `send_operation`, up to its loop. -/
def send (s : Channel) (node : Node) (request : AgentRequest) (requestId : String) (timeout : Option Nat) : Channel :=
  let t := { s with link := s.link.send node request.operation requestId timeout }
  if (s.link.unavailable node).isNone then t.groupSend node.uuid.str (request.toWire requestId) else t

/-- `ConsoleConsumer.disconnect` -/
def closeConsole (s : Channel) (console : ConsoleConsumer) : Channel :=
  { s with
    link := { s.link with consoles := s.link.consoles.filter (·.sessionId ≠ console.sessionId) }
    consoles := s.consoles.filter (·.sessionId ≠ console.sessionId) }.groupSend console.nodeUuid
      (consoleClose console.sessionId)

/-- `ConsoleConsumer.connect`, of a browser that is admitted. -/
def openConsole (s : Channel) (sessionId : String) (node : Node) (vmUuid requestId : String) : Channel :=
  let console := { sessionId := sessionId, nodeUuid := node.uuid.str, requestId := requestId : ConsoleConsumer }
  let t := { s with
    link := { s.link with consoles := ⟨sessionId, node.uuid.str⟩ :: s.link.consoles }
    consoles := console :: s.consoles }.send node (NodePilot.openConsole sessionId vmUuid) requestId none
  if (s.link.unavailable node).isNone then t else t.closeConsole console

/-- What `_open_console` makes of the end of its call. -/
def answerConsole (s : Channel) (call : Call) (outcome : Outcome) : Channel :=
  match s.consoles.find? (·.requestId = call.requestId) with
  | none => s
  | some console =>
    match outcome with
    | .returned _ => { s with
        consoles := s.consoles.map fun c => if c.sessionId = console.sessionId then { c with opened := true } else c }
    | _ => s.closeConsole console

/-- One round of the loop in `send_operation`. -/
def poll (s : Channel) (call : Call) : Channel :=
  let link := s.link.poll call
  let t := { s with link := link }
  match link.ended.take (link.ended.length - s.link.ended.length) with
  | [] => t
  | e :: _ => { t with ended := (call, e.outcome) :: s.ended }.answerConsole call e.outcome

/-- `AgentConsumer.agent_command` -/
def relay (s : Channel) (id : Nat) : Option Channel :=
  match s.mail id with
  | [] => none
  | message :: rest => some { s with
      mail := Function.update s.mail id rest
      down := Function.update s.down id (s.down id ++ [Json.dumps (.obj message)]) }

/-- What `AgentConsumer.receive` is given. -/
def frameOf (text : String) : Frame :=
  if text = "" then .empty
  else
    match Json.loads text with
    | none => .malformed
    | some (.obj message) => .object message
    | some _ => .notObject

/-- `AgentConsumer.receive`, of the next text. -/
def receive (s : Channel) (connection : Connection) : Option Channel :=
  match s.up connection.id with
  | [] => none
  | text :: rest =>
    let link := s.link.receive str connection (frameOf text)
    let relayed := link.relayed.take (link.relayed.length - s.link.relayed.length)
    some { s with
      link := link
      up := Function.update s.up connection.id rest
      consoles := s.consoles.map fun c => { c with
        mail := c.mail ++ (relayed.filter (·.console.sessionId = c.sessionId)).map Relayed.data } }

/-- `ConsoleConsumer.console_data`, of the next event. -/
def display (s : Channel) (console : ConsoleConsumer) : Option Channel :=
  match console.mail with
  | [] => none
  | data :: rest =>
    match b64decode data with
    | .ok bytes => some { s with
        consoles := s.consoles.map fun c => if c.sessionId = console.sessionId then { c with mail := rest } else c
        shown := s.shown ++ [(console.sessionId, bytes)] }
    -- The exception ends the consumer, and `disconnect` is never called.
    | .error _ => some { s with consoles := s.consoles.filter (·.sessionId ≠ console.sessionId) }

def setProcess (s : Channel) (nodeUuid : String) (p : AgentProcess) : Channel :=
  { s with processes := Function.update s.processes nodeUuid p }

/-- `ws.send(json.dumps(message))` -/
def transmit (s : Channel) (id : Nat) (messages : List Dict) : Channel :=
  { s with up := Function.update s.up id (s.up id ++ messages.map fun m => Json.dumps (.obj m)) }

/-- `websockets.connect`, of a process that has no connection. -/
def connect (s : Channel) (nodeUuid : String) (token : Option String) : Channel :=
  let link := s.link.connect sha256 nodeUuid token
  let t := { s with link := link }
  if s.link.accepted < link.accepted then
    t.setProcess nodeUuid { s.processes nodeUuid with connection := some s.link.accepted }
  else t

/-- One step. -/
def step : Event → Channel → Option Channel
  | .tick milliseconds, s => some { s with link := { s.link with now := s.link.now + milliseconds } }
  | .credential request, s => some { s with link := s.link.credential sha256 request }
  | .send node request requestId timeout, s => some (s.send node request requestId timeout)
  | .poll requestId, s => (s.link.calls.find? (·.requestId = requestId)).map s.poll
  | .drop id place, s => some { s with mail := Function.update s.mail id ((s.mail id).eraseIdx place) }
  | .relay id, s => (s.link.connections.find? (·.id = id)).bind fun _ => s.relay id
  | .receive id, s => (s.link.connections.find? (·.id = id)).bind (s.receive str)
  | .disconnect id, s => (s.link.connections.find? (·.id = id)).map fun c => { s with link := s.link.disconnect c }
  | .connect nodeUuid token, s =>
    if (s.processes nodeUuid).connection.isNone then some (s.connect sha256 nodeUuid token) else none
  | .lose nodeUuid, s => some (s.setProcess nodeUuid (s.processes nodeUuid).lose)
  | .restart nodeUuid, s => some (s.setProcess nodeUuid (s.processes nodeUuid).restart)
  | .take nodeUuid, s => do
    let p := s.processes nodeUuid
    let id ← p.connection
    match s.down id with
    | [] => none
    | text :: rest =>
      if p.transport.raised.isNone then
        some ({ s with down := Function.update s.down id rest }.setProcess nodeUuid (p.take same text))
      else none
  | .finish nodeUuid operation result, s => do
    let id ← (s.processes nodeUuid).connection
    let (p, responses) := (s.processes nodeUuid).finish same id operation result
    return (s.setProcess nodeUuid p).transmit id (responses.map Response.toWire)
  | .finishOrphan nodeUuid connection operation result, s =>
    if (s.processes nodeUuid).orphans.contains (connection, operation) then
      some (s.setProcess nodeUuid ((s.processes nodeUuid).finishOrphan same connection operation result))
    else none
  | .pumpInbound nodeUuid sessionId, s =>
    ((s.processes nodeUuid).pumpInbound same sessionId).map (s.setProcess nodeUuid)
  | .pumpOutbound nodeUuid sessionId chunk, s => do
    let (p, sent) ← (s.processes nodeUuid).pumpOutbound same sessionId chunk
    let t := s.setProcess nodeUuid p
    match sent with
    | some (id, message) => return t.transmit id [message]
    | none => return t
  | .sessionEnds nodeUuid sessionId, s =>
    let p := s.processes nodeUuid
    some (s.setProcess nodeUuid { p with transport := p.transport.popSession same (.str sessionId) })
  | .openConsole sessionId node vmUuid requestId, s => some (s.openConsole sessionId node vmUuid requestId)
  | .input sessionId frame, s => do
    let console ← s.consoles.find? fun c => c.sessionId = sessionId && c.opened
    return { s with typed := s.typed ++ [(sessionId, frame)] }.groupSend console.nodeUuid (consoleInput sessionId frame)
  | .display sessionId, s => (s.consoles.find? fun c => c.sessionId = sessionId && c.opened).bind s.display
  | .dropData sessionId place, s => some { s with
      consoles := s.consoles.map fun c =>
        if c.sessionId = sessionId then { c with mail := c.mail.eraseIdx place } else c }
  | .closeConsole sessionId, s => (s.consoles.find? (·.sessionId = sessionId)).map s.closeConsole

end Steps

end Channel

end NodePilot
