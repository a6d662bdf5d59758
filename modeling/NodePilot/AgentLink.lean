import NodePilot.Credentials
import NodePilot.Lib.Lease

/-!
# Command connections

The command connections of the agents and the calls that wait for their answers: `AgentConsumer`
(`apps/nodes/consumers.py`), `is_agent_connected` and `send_operation` (`apps/nodes/agent_client.py`)
and the relay to a `ConsoleConsumer` (`apps/virtual_machines/consumers.py`). They meet in Redis and
in channel groups: one flag for each node that lasts 120 seconds, one response for each request id,
one group for each console session. A step is one handler of a consumer, one round of the loop in
`send_operation`, or the clock, which counts milliseconds.

Where a message came from is remembered beside it, and which connections belong to an agent that was
revoked since. No handler reads that.

A request or session id of a message may be any JSON value; Python's `str` makes the key of it and is
a parameter, as SHA-256 is.
-/

namespace NodePilot

open Lib

/-! ## Consumers -/

/-- An accepted `AgentConsumer` that has not been disconnected. -/
structure Connection where
  id : Nat
  /-- `self.node_uuid`, for which its token was accepted. -/
  nodeUuid : String

/-- A frame from an agent. -/
inductive Frame
  /-- No text. -/
  | empty
  /-- A text that is no JSON. -/
  | malformed
  /-- A JSON value that has no `get`: the handler raises. Nothing is assumed of the consumer after that: in some
  runs it is never given a frame again, in others it is. -/
  | notObject
  | object (message : Dict)

/-- A message, and the connection it was received on. -/
structure Received where
  connection : Connection
  message : Dict
  /-- The agent had been revoked since the connection was accepted. -/
  revoked : Bool

/-- A `ConsoleConsumer` in its group, with the node of its VM. -/
structure Console where
  sessionId : String
  nodeUuid : String

/-- Console data that a `ConsoleConsumer` was given. -/
structure Relayed where
  console : Console
  data : Json
  source : Received

/-! ## Calls -/

/-- What `send_operation` reads of a node. -/
structure Node where
  uuid : Uuid
  name : String

/-- A call of `send_operation` that waits for its response. -/
structure Call where
  requestId : String
  node : Node
  operation : OperationType
  deadline : Nat

/-- How a call ends. -/
inductive Outcome
  | returned (data : Json)
  | agentOperationFailed (error details : Json)
  | agentUnavailable (message : String)

/-- A call that has ended, and the message that ended it. -/
structure Ended where
  node : Node
  outcome : Outcome
  source : Option Received := none

/-- `x or default` -/
def Json.orElse (x : Option Json) (default : Json) : Json :=
  match x with
  | some v => if v.truthy then v else default
  | none => default

/-- `AgentResponse.from_wire`, and what `send_operation` makes of it. -/
def Outcome.ofMessage (message : Dict) : Outcome :=
  let data := Json.orElse (message.get? "data") (.obj [])
  if (message.get? "success").any Json.truthy then .returned data
  else .agentOperationFailed (Json.orElse (message.get? "error")
    (.str "The agent reported an unspecified error.")) data

/-- `settings.NODEPILOT["AGENT_RPC_TIMEOUT_SECONDS"]` -/
def agentRpcTimeoutSeconds : Nat := 30

/-! ## The link -/

/-- What the consumers and the calls share. -/
structure Link where
  now : Nat := 0
  agents : List AgentRow := []
  /-- The consumers that are accepted and not disconnected. -/
  connections : List Connection := []
  /-- How many consumers have been accepted. -/
  accepted : Nat := 0
  /-- The connections whose agent was revoked since. -/
  revoked : List Nat := []
  /-- `nodepilot:agent:conn:{node_uuid}` -/
  flags : Leases String Unit := fun _ => none
  /-- `nodepilot:agent:response:{request_id}` -/
  responses : Leases String Received := fun _ => none
  calls : List Call := []
  ended : List Ended := []
  consoles : List Console := []
  relayed : List Relayed := []

inductive Link.Event
  | tick (milliseconds : Nat)
  | connect (nodeUuid : String) (token : Option String)
  | disconnect (id : Nat)
  | receive (id : Nat) (frame : Frame)
  /-- `send_operation` is called. -/
  | send (node : Node) (operation : OperationType) (requestId : String) (timeout : Option Nat)
  /-- One round of the loop in `send_operation`. -/
  | poll (requestId : String)
  /-- A `ConsoleConsumer` for a VM of the node joins its group. -/
  | openConsole (sessionId nodeUuid : String)
  | closeConsole (sessionId : String)
  /-- `register_agent` or `revoke_agent` -/
  | credential (request : Agents.Request)

namespace Link

variable (sha256 : String → String) (str : Json → String)

/-- `is_agent_connected` -/
def isAgentConnected (s : Link) (node : Node) : Bool := (s.flags.at? s.now node.uuid.str).isSome

/-- `AgentConsumer.connect`. A consumer that is not accepted has no group, and its `disconnect` does
nothing. -/
def connect (s : Link) (nodeUuid : String) (token : Option String) : Link :=
  match Agents.consumerAuthenticate sha256 s.agents nodeUuid token with
  | none => s
  | some _ => { s with
      connections := s.connections ++ [{ id := s.accepted, nodeUuid := nodeUuid }]
      accepted := s.accepted + 1
      flags := s.flags.set s.now 120000 nodeUuid () }

/-- `AgentConsumer.disconnect` -/
def disconnect (s : Link) (connection : Connection) : Link :=
  { s with
    connections := s.connections.filter (·.id ≠ connection.id)
    flags := s.flags.del connection.nodeUuid }

/-- `AgentConsumer._relay_console_data` -/
def relayConsoleData (s : Link) (source : Received) : Link :=
  match source.message.get? "session_id" with
  | none => s
  | some sessionId =>
    if sessionId.truthy then { s with
      relayed := (s.consoles.filter (·.sessionId = str sessionId)).map (fun console =>
        ⟨console, (source.message.get? "data").getD (.str ""), source⟩) ++ s.relayed }
    else s

/-- The response that a message is kept as. -/
def keepResponse (s : Link) (source : Received) : Link :=
  match source.message.get? "request_id" with
  | none => s
  | some requestId =>
    if requestId.truthy then
      { s with responses := s.responses.set s.now 60000 (str requestId) source }
    else s

/-- `message.get("type", "response") == "console_data"` -/
def isConsoleData (message : Dict) : Bool :=
  match message.get? "type" with
  | some (.str type) => type = "console_data"
  | _ => false

/-- The flag's time begins anew, if the flag is set. -/
def refresh (s : Link) (connection : Connection) : Link :=
  { s with flags := s.flags.pexpire s.now 120000 connection.nodeUuid }

/-- `AgentConsumer.receive`. For a value that is no object the flag is refreshed before the handler raises. -/
def receive (s : Link) (connection : Connection) : Frame → Link
  | .empty | .malformed => s
  | .notObject => s.refresh connection
  | .object message =>
    let source := ⟨connection, message, connection.id ∈ s.revoked⟩
    if isConsoleData message then (s.refresh connection).relayConsoleData str source
    else (s.refresh connection).keepResponse str source

/-- The checks of `send_operation`: the text of `AgentUnavailable` if one of them fails. -/
def unavailable (s : Link) (node : Node) : Option String :=
  if ¬ (Agents.ofNode s.agents node.uuid).any AgentRow.isUsable then
    some ("Node " ++ node.name ++ " has no active agent.")
  else if ¬ s.isAgentConnected node then
    some ("Node " ++ node.name ++ "'s agent is not currently connected.")
  else none

/-- The call ends. -/
def endCall (s : Link) (call : Call) (outcome : Outcome) (source : Option Received) : Link :=
  { s with
    calls := s.calls.filter (·.requestId ≠ call.requestId)
    ended := ⟨call.node, outcome, source⟩ :: s.ended }

/-- `send_operation`, up to its loop. -/
def send (s : Link) (node : Node) (operation : OperationType) (requestId : String)
    (timeout : Option Nat) : Link :=
  match s.unavailable node with
  | some message => { s with ended := { node := node, outcome := .agentUnavailable message } :: s.ended }
  | none =>
    let seconds := (orNat timeout none).getD agentRpcTimeoutSeconds
    { s with calls := ⟨requestId, node, operation, s.now + seconds * 1000⟩ :: s.calls }

/-- One round of the loop in `send_operation`. -/
def poll (s : Link) (call : Call) : Link :=
  if s.now < call.deadline then
    match s.responses.at? s.now call.requestId with
    | some response => { s with responses := s.responses.del call.requestId }.endCall call
        (.ofMessage response.token.message) response.token
    | none => s
  else s.endCall call (.agentUnavailable ("Timed out waiting for node " ++ call.node.name ++
    "'s agent to respond to " ++ call.operation.value ++ ".")) none

/-- `register_agent` or `revoke_agent`. The connections of a node stay open when its agent is
revoked. -/
def credential (s : Link) (request : Agents.Request) : Link :=
  match Agents.serve sha256 s.agents request with
  | (.ok .revoked, agents) => { s with
      agents := agents
      revoked := (s.connections.filter (·.nodeUuid = request.node.str)).map Connection.id ++ s.revoked }
  | (_, agents) => { s with agents := agents }

/-- One step. -/
def step : Event → Link → Option Link
  | .tick milliseconds, s => some { s with now := s.now + milliseconds }
  | .connect nodeUuid token, s => some (s.connect sha256 nodeUuid token)
  | .disconnect id, s => (s.connections.find? (·.id = id)).map s.disconnect
  | .receive id frame, s => (s.connections.find? (·.id = id)).map (s.receive str · frame)
  | .send node operation requestId timeout, s => some (s.send node operation requestId timeout)
  | .poll requestId, s => (s.calls.find? (·.requestId = requestId)).map s.poll
  | .openConsole sessionId nodeUuid, s =>
    some { s with consoles := ⟨sessionId, nodeUuid⟩ :: s.consoles }
  | .closeConsole sessionId, s =>
    some { s with consoles := s.consoles.filter (·.sessionId ≠ sessionId) }
  | .credential request, s => some (s.credential sha256 request)

end Link

end NodePilot
