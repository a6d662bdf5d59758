import NodePilot.Protocol

/-!
# The agent's command channel

`nodepilot_agent/transport.py`, `protocol.py` and `console.py`: the receive loop over the messages of one connection,
the operations that it starts and does not wait for, and the console sessions it feeds. Text is decoded by
`json.loads`, and two values that Python holds equal are one key of a `dict`; both are parameters here.

The loop is left alone by `stop_event`, which is set when the agent is shut down.
-/

namespace NodePilot.Agent

/-! ## Requests and responses -/

/-- `OperationType(value)` -/
def operationType (value : Json) : Option OperationType :=
  match value with
  | .str text => OperationType.all.find? (·.value = text)
  | _ => none

/-- `AgentRequest`, as the agent decodes it. -/
structure Request where
  requestId : Json
  operation : OperationType
  resourceId : Json
  payload : Json

/-- Why `AgentRequest.from_wire` raises. -/
inductive RequestError
  | keyError (key : String)
  | valueError

/-- `message[key]` -/
def subscript (message : Dict) (key : String) : Except RequestError Json :=
  match message.get? key with
  | some value => .ok value
  | none => .error (.keyError key)

/-- `AgentRequest.from_wire` -/
def Request.fromWire (message : Dict) : Except RequestError Request := do
  let requestId ← subscript message "request_id"
  let value ← subscript message "operation"
  let operation ← match operationType value with
    | some operation => .ok operation
    | none => .error .valueError
  return {
    requestId := requestId
    operation := operation
    resourceId := (message.get? "resource_id").getD (.str "")
    payload := match message.get? "payload" with
      | some payload => if payload.truthy then payload else .obj []
      | none => .obj [] }

/-- `AgentResponse` -/
structure Response where
  requestId : Json
  success : Bool
  data : Dict := []
  error : Option String := none

/-- `AgentResponse.ok` -/
def Response.ok (requestId : Json) (data : Dict) : Response := { requestId := requestId, success := true, data := data }

/-- `AgentResponse.fail` -/
def Response.fail (requestId : Json) (error : String) : Response :=
  { requestId := requestId, success := false, error := some error }

/-! ## Base64 -/

/-- Why `base64.b64decode` raises. -/
inductive DecodeError
  /-- A `TypeError`: neither text nor bytes. -/
  | notText
  /-- A `ValueError`: the text is not ASCII. -/
  | notAscii
  /-- A `binascii.Error`. -/
  | incorrectPadding
  | oneTooMany
deriving DecidableEq

/-- The six bits of a character of the alphabet. -/
def sextet (c : Char) : Option Nat :=
  if 'A' ≤ c ∧ c ≤ 'Z' then some (c.toNat - 65)
  else if 'a' ≤ c ∧ c ≤ 'z' then some (c.toNat - 71)
  else if '0' ≤ c ∧ c ≤ '9' then some (c.toNat + 4)
  else if c = '+' then some 62
  else if c = '/' then some 63
  else none

/-- `binascii.a2b_base64`: `place` is the place in a group of four, `left` the bits left over from the character
before, `pads` how many `=` have come. Other characters are passed over. -/
def a2bBase64 (place left pads : Nat) (bytes : List UInt8) : List Char → Except DecodeError (List UInt8)
  | [] =>
    match place with
    | 0 => .ok bytes
    | 1 => .error .oneTooMany
    | _ => .error .incorrectPadding
  | c :: rest =>
    if c = '=' then
      if place < 2 then a2bBase64 place left pads bytes rest
      else if 4 ≤ place + (pads + 1) then .ok bytes
      else a2bBase64 place left (pads + 1) bytes rest
    else
      match sextet c with
      | none => a2bBase64 place left pads bytes rest
      | some bits =>
        match place with
        | 0 => a2bBase64 1 bits 0 bytes rest
        | 1 => a2bBase64 2 (bits % 16) 0 (bytes ++ [.ofNat (left * 4 + bits / 16)]) rest
        | 2 => a2bBase64 3 (bits % 4) 0 (bytes ++ [.ofNat (left * 16 + bits / 4)]) rest
        | _ => a2bBase64 0 0 0 (bytes ++ [.ofNat (left * 64 + bits)]) rest

/-- `base64.b64decode` -/
def b64decode (data : Json) : Except DecodeError (List UInt8) :=
  match data with
  | .str text => if text.toList.all (·.toNat < 128) then a2bBase64 0 0 0 [] text.toList else .error .notAscii
  | _ => .error .notText

/-! ## The loop -/

/-- A value can be a key of a `dict`. -/
def hashable (value : Json) : Bool :=
  match value with
  | .arr _ | .obj _ => false
  | _ => true

/-- What `json.loads` raises. -/
inductive Unreadable
  | valueError
  /-- Nothing that the loop catches, such as a `RecursionError`. -/
  | other
deriving DecidableEq

/-- The exceptions that leave the loop. -/
inductive LoopError
  | unreadable
  /-- `message.get` of a value that is no object. -/
  | attributeError
  | keyError (key : String)
  /-- A list or an object as a session id. -/
  | unhashable
  | undecodable (e : DecodeError)

/-- `ConsoleSession` -/
structure ConsoleSession where
  sessionId : Json
  inbound : List (List UInt8) := []

/-- A connection of the agent, with what its operations have come to. -/
structure Transport where
  /-- `console._sessions` -/
  sessions : List ConsoleSession := []
  /-- The exception that has ended the loop, and with it the connection. -/
  raised : Option LoopError := none
  /-- The requests for which `_handle` was started, in their order. -/
  dispatched : List Request := []
  /-- Those of them that are not finished, by their places. -/
  running : List Nat := []
  /-- The answers that were sent on the connection. -/
  sent : List (Nat × Response) := []
  /-- The answers that found the connection closed. -/
  unsent : List (Nat × Response) := []

/-- What `msg_type` is compared with. -/
inductive Kind
  | consoleInput | consoleClose | request
deriving DecidableEq

/-- `message.get("type", "request")` -/
def kind (message : Dict) : Kind :=
  match message.get? "type" with
  | some (.str text) =>
    if text = "console_input" then .consoleInput
    else if text = "console_close" then .consoleClose
    else .request
  | _ => .request

inductive Event (Raw : Type)
  /-- A message of the connection. -/
  | message (raw : Raw)
  /-- An operation is carried out, or raises with this text. -/
  | finish (operation : Nat) (result : Except String Dict)
  /-- `_run_session` ends. -/
  | sessionEnds (sessionId : Json)

namespace Transport

variable {Raw : Type} (loads : Raw → Except Unreadable Json) (same : Json → Json → Bool)

/-- `_sessions.get(session_id)` -/
def session (t : Transport) (sessionId : Json) : Option ConsoleSession :=
  t.sessions.find? fun s => same s.sessionId sessionId

/-- `_sessions.pop(session_id, None)` -/
def popSession (t : Transport) (sessionId : Json) : Transport :=
  { t with sessions := t.sessions.filter fun s => ¬ same s.sessionId sessionId }

def fail (t : Transport) (e : LoopError) : Transport := { t with raised := some e }

/-- `feed_input` -/
def feedInput (t : Transport) (sessionId data : Json) : Transport :=
  if ¬ hashable sessionId then t.fail .unhashable
  else
    match t.session same sessionId with
    | none => t
    | some _ =>
      match b64decode data with
      | .error e => t.fail (.undecodable e)
      | .ok bytes => { t with
          sessions := t.sessions.map fun s =>
            if same s.sessionId sessionId then { s with inbound := s.inbound ++ [bytes] } else s }

/-- `close_session` -/
def closeSession (t : Transport) (sessionId : Json) : Transport :=
  if ¬ hashable sessionId then t.fail .unhashable else t.popSession same sessionId

/-- The branch of the loop for `console_input`. -/
def consoleInput (t : Transport) (message : Dict) : Transport :=
  match message.get? "session_id", message.get? "data" with
  | none, _ => t.fail (.keyError "session_id")
  | some _, none => t.fail (.keyError "data")
  | some sessionId, some data => t.feedInput same sessionId data

/-- The branch of the loop for `console_close`. -/
def consoleClose (t : Transport) (message : Dict) : Transport :=
  match message.get? "session_id" with
  | none => t.fail (.keyError "session_id")
  | some sessionId => t.closeSession same sessionId

/-- `asyncio.ensure_future(_handle(ws, dispatcher, request))` -/
def start (t : Transport) (request : Request) : Transport :=
  { t with dispatched := t.dispatched ++ [request], running := t.running ++ [t.dispatched.length] }

/-- One round of `_receive_loop`. -/
def receive (t : Transport) (raw : Raw) : Transport :=
  match loads raw with
  | .error .valueError => t
  | .error .other => t.fail .unreadable
  | .ok (.obj message) =>
    match kind message with
    | .consoleInput => t.consoleInput same message
    | .consoleClose => t.consoleClose same message
    | .request =>
      match Request.fromWire message with
      | .ok request => t.start request
      | .error _ => t
  | .ok _ => t.fail .attributeError

/-! ## Operations -/

/-- `payload["session_id"]`, with the text of the exception where there is none. -/
def sessionIdOf (payload : Json) : Except String Json :=
  match payload with
  | .obj fields =>
    match Dict.get? fields "session_id" with
    | some sessionId => .ok sessionId
    | none => .error "'session_id'"
  | .arr _ => .error "list indices must be integers or slices, not str"
  | .str _ => .error "string indices must be integers, not 'str'"
  | .int _ => .error "'int' object is not subscriptable"
  | .float _ => .error "'float' object is not subscriptable"
  | .bool _ => .error "'bool' object is not subscriptable"
  | .null => .error "'NoneType' object is not subscriptable"

/-- `open_session` -/
def openSession (t : Transport) (sessionId : Json) : Except String Transport :=
  match sessionId with
  | .arr _ => .error "unhashable type: 'list'"
  | .obj _ => .error "unhashable type: 'dict'"
  | _ =>
    if (t.session same sessionId).isSome then .ok t
    else .ok { t with sessions := t.sessions ++ [{ sessionId := sessionId }] }

/-- OPEN_CONSOLE, as the dispatcher carries it out. -/
def openConsole (t : Transport) (payload : Json) : Except String Transport := do
  let sessionId ← sessionIdOf payload
  t.openSession same sessionId

/-- `Dispatcher.dispatch`: whatever an operation raises is answered. -/
def dispatch (t : Transport) (request : Request) (result : Except String Dict) : Response × Transport :=
  if request.operation = .openConsole then
    match t.openConsole same request.payload with
    | .ok opened => (.ok request.requestId [], opened)
    | .error text => (.fail request.requestId text, t)
  else
    match result with
    | .ok data => (.ok request.requestId data, t)
    | .error text => (.fail request.requestId text, t)

/-- The end of `_handle`. -/
def answer (t : Transport) (operation : Nat) (response : Response) : Transport :=
  if t.raised.isNone then
    { t with running := t.running.erase operation, sent := t.sent ++ [(operation, response)] }
  else { t with running := t.running.erase operation, unsent := t.unsent ++ [(operation, response)] }

/-- `_handle` goes on with what the operation has come to. -/
def handle (t : Transport) (operation : Nat) (result : Except String Dict) : Transport :=
  if operation ∈ t.running then
    match t.dispatched[operation]? with
    | some request =>
      let (response, t) := t.dispatch same request result
      t.answer operation response
    | none => t
  else t

/-- One step. A loop that has ended takes no message. -/
def step (t : Transport) : Event Raw → Transport
  | .message raw => if t.raised.isNone then t.receive loads same raw else t
  | .finish operation result => t.handle same operation result
  | .sessionEnds sessionId => t.popSession same sessionId

/-- Step after step. -/
def run (t : Transport) (events : List (Event Raw)) : Transport := events.foldl (step loads same) t

end Transport

end NodePilot.Agent
