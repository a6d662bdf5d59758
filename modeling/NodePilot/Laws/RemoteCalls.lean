import NodePilot.Laws.AgentProcesses
import NodePilot.Laws.ConnectionFlag

/-!
# Calls from end to end

What a node's agent process takes was sent to the node's group, in that order and each message once, over however many
connections. So a request is carried out once at most, and a call of `send_operation` that ends with a response ends
with what the handler of its own node has come to for its own request: the data that was returned, or the text that was
raised. Nothing is assumed of the order in which handlers finish, consumers relay and callers poll, nor of what is lost.
-/

namespace NodePilot.Channel

open Lib Agent AgentProcess

open Agent.Transport (Answers PlainResult)

/-! ## Messages -/

section Messages

/-- An operation is known by its name on the wire. -/
theorem operationType_value (operation : OperationType) : operationType (.str operation.value) = some operation := by
  cases operation <;> rfl

/-- A request arrives as it was sent. -/
theorem requestIn_toWire (request : AgentRequest) (requestId : String) : requestIn (request.toWire requestId) =
    some ⟨.str requestId, request.operation, .str request.resourceId, .obj request.payload⟩ := by
  have id : subscript (request.toWire requestId) "request_id" = .ok (.str requestId) := rfl
  have operation : subscript (request.toWire requestId) "operation" = .ok (.str request.operation.value) := rfl
  have resource : (request.toWire requestId).get? "resource_id" = some (.str request.resourceId) := rfl
  have payload : (request.toWire requestId).get? "payload" = some (.obj request.payload) := rfl
  have read : Request.fromWire (request.toWire requestId) =
      .ok ⟨.str requestId, request.operation, .str request.resourceId, .obj request.payload⟩ := by
    simp only [Request.fromWire, id, operation, resource, payload, operationType_value, bind, Except.bind]
    cases request.payload <;> rfl
  have type : kind (request.toWire requestId) = .request := rfl
  rw [requestIn, if_pos type, read]
  rfl

/-- The id of a request. -/
def requestIdOf (message : Dict) : Option String :=
  match message.get? "request_id" with
  | some (.str id) => some id
  | _ => none

/-- A request is plain JSON when its payload is. -/
theorem plain_toWire {request : AgentRequest} (requestId : String) (plain : Json.Plain (.obj request.payload)) :
    Json.Plain (.obj (request.toWire requestId)) := by
  simp only [AgentRequest.toWire, Json.Plain, Json.PlainFields] at plain ⊢
  exact ⟨by simp, trivial, trivial, trivial, plain, trivial⟩

/-- What a browser types is plain JSON, whatever the frame. -/
theorem plain_consoleInput (sessionId : String) (frame : BrowserFrame) :
    Json.Plain (.obj (consoleInput sessionId frame)) := by
  simp only [consoleInput, Json.Plain, Json.PlainFields]
  exact ⟨by simp, trivial, trivial, trivial, trivial⟩

theorem plain_consoleClose (sessionId : String) : Json.Plain (.obj (consoleClose sessionId)) := by
  simp only [consoleClose, Json.Plain, Json.PlainFields]
  exact ⟨by simp, trivial, trivial, trivial⟩

/-- What a console shows is plain JSON, whatever the bytes. -/
theorem plain_consoleData (sessionId : String) (chunk : List UInt8) :
    Json.Plain (.obj (consoleData sessionId chunk)) := by
  simp only [consoleData, Json.Plain, Json.PlainFields]
  exact ⟨by simp, trivial, trivial, trivial, trivial⟩

/-- A response is plain JSON when its data is. -/
theorem plain_response {response : Response} {id : String} (named : response.requestId = .str id)
    (plain : Json.Plain (.obj response.data)) : Json.Plain (.obj response.toWire) := by
  have error : Json.Plain ((response.error.map Json.str).getD .null) := by
    cases response.error <;> simp [Json.Plain]
  simp only [Response.toWire, named, Json.Plain, Json.PlainFields] at plain ⊢
  exact ⟨by simp, trivial, trivial, plain, error, trivial⟩

/-- What `AgentConsumer.receive` reads of a message that was sent to it. -/
theorem frameOf_dumps {message : Dict} (plain : Json.Plain (.obj message)) :
    frameOf (Json.dumps (.obj message)) = .object message := by
  have read := Json.loads_dumps plain
  have text : Json.dumps (.obj message) ≠ "" := by
    intro empty
    have nothing : Json.loads "" = none := rfl
    rw [empty, nothing] at read
    cases read
  rw [frameOf, if_neg text, read]

end Messages

/-! ## What was sent and what has arrived -/

/-- What was sent to the group of a node. -/
def commandsTo (s : Channel) (nodeUuid : String) : List Dict :=
  (s.commands.filter (·.1 = nodeUuid)).map Prod.snd

/-- The way from the group of a node to its process: what the process has taken, what is on its websocket, and what is
in the mailbox of its consumer. -/
def pipeline (s : Channel) (nodeUuid : String) : List (List Dict) :=
  (s.processes nodeUuid).messages :: match (s.processes nodeUuid).connection with
    | some id => [(s.down id).filterMap messageOf, s.mail id]
    | none => []

/-- The invariant of the ways to the agents. -/
structure Wired (s : Channel) : Prop where
  commands : ∀ x ∈ s.commands, Json.Plain (.obj x.2)
  mail : ∀ id, ∀ message ∈ s.mail id, Json.Plain (.obj message)
  connections : ∀ c ∈ s.link.connections, c.id < s.link.accepted
  unused : ∀ id, s.link.accepted ≤ id → s.mail id = [] ∧ s.down id = []
  /-- The connection of a process was accepted for its node. -/
  own : ∀ nodeUuid id, (s.processes nodeUuid).connection = some id →
    id < s.link.accepted ∧ ∀ c ∈ s.link.connections, c.id = id → c.nodeUuid = nodeUuid
  flows : ∀ nodeUuid, Flows (s.commandsTo nodeUuid) (s.pipeline nodeUuid)

section Wires

variable {s s' : Channel}

/-- A message is sent to one node's group and to no other. -/
theorem commandsTo_groupSend {message : Dict} {nodeUuid : String} (other : String) :
    (s.groupSend nodeUuid message).commandsTo other =
      s.commandsTo other ++ if nodeUuid = other then [message] else [] := by
  simp only [commandsTo, groupSend, List.filter_append, List.map_append]
  split <;> simp [*]

/-- What is on its way from a connected agent: what it wrote, what the socket holds, what was
received. -/
theorem pipeline_some {nodeUuid : String} {id : Nat} (h : (s.processes nodeUuid).connection = some id) :
    s.pipeline nodeUuid = [(s.processes nodeUuid).messages, (s.down id).filterMap messageOf, s.mail id] := by
  rw [pipeline, h]

/-- From an agent without a connection only what it wrote is left. -/
theorem pipeline_none {nodeUuid : String} (h : (s.processes nodeUuid).connection = none) :
    s.pipeline nodeUuid = [(s.processes nodeUuid).messages] := by
  rw [pipeline, h]

/-- A step that leaves the ways alone. -/
theorem Wired.of_same (h : Wired s) (accepted : s'.link.accepted = s.link.accepted)
    (connections : ∀ c ∈ s'.link.connections, c ∈ s.link.connections) (commands : s'.commands = s.commands)
    (mail : s'.mail = s.mail) (down : s'.down = s.down)
    (processes : ∀ nodeUuid, (s'.processes nodeUuid).connection = (s.processes nodeUuid).connection ∧
      (s'.processes nodeUuid).taken = (s.processes nodeUuid).taken) : Wired s' where
  commands := commands ▸ h.commands
  mail := mail ▸ h.mail
  connections c hc := accepted ▸ h.connections c (connections c hc)
  unused := by
    rw [accepted, mail, down]
    exact h.unused
  own nodeUuid id here := by
    rw [(processes nodeUuid).1] at here
    obtain ⟨below, owned⟩ := h.own nodeUuid id here
    exact ⟨accepted ▸ below, fun c hc => owned c (connections c hc)⟩
  flows nodeUuid := by
    have flows := h.flows nodeUuid
    simp only [commandsTo, pipeline, messages, (processes nodeUuid).1, (processes nodeUuid).2, commands, mail, down]
      at flows ⊢
    exact flows

/-- A plain message keeps the wires plain. -/
theorem Wired.groupSend {nodeUuid : String} {message : Dict} (h : Wired s) (plain : Json.Plain (.obj message)) :
    Wired (s.groupSend nodeUuid message) where
  commands x hx := by
    rcases List.mem_append.mp hx with old | new
    · exact h.commands x old
    · rw [List.mem_singleton.mp new]
      exact plain
  mail id m hm := by
    simp only [Channel.groupSend] at hm
    split at hm
    · rcases List.mem_append.mp hm with old | new
      · exact h.mail id m old
      · rw [List.mem_singleton.mp new]
        exact plain
    · exact h.mail id m hm
  connections := h.connections
  unused id le := by
    refine ⟨?_, (h.unused id le).2⟩
    simp only [Channel.groupSend]
    rw [if_neg, (h.unused id le).1]
    intro joined
    obtain ⟨c, hc, same⟩ := List.any_eq_true.mp joined
    simp only [Bool.and_eq_true, decide_eq_true_eq] at same
    have below := h.connections c hc
    have above : s.link.accepted ≤ id := le
    omega
  own := h.own
  flows other := by
    have flows := h.flows other
    rw [commandsTo_groupSend]
    cases here : (s.processes other).connection with
    | none =>
      rw [pipeline_none here] at flows
      rw [pipeline_none (s := s.groupSend nodeUuid message) here]
      exact flows.append
    | some id =>
      rw [pipeline_some here] at flows
      rw [pipeline_some (s := s.groupSend nodeUuid message) here]
      by_cases same : nodeUuid = other
      · simp only [Channel.groupSend, if_pos same]
        split
        · exact flows.feed [_, _] [message]
        · exact flows.append
      · simp only [Channel.groupSend, if_neg same, List.append_nil]
        rw [if_neg]
        · exact flows
        · intro joined
          obtain ⟨c, hc, named⟩ := List.any_eq_true.mp joined
          simp only [Bool.and_eq_true, decide_eq_true_eq] at named
          exact same (named.2.symm.trans ((h.own other id here).2 c hc named.1))

/-- The channel layer loses some of a mailbox. -/
theorem Wired.drop {id : Nat} {rest : List Dict} (h : Wired s) (fewer : rest.Sublist (s.mail id)) :
    Wired { s with mail := Function.update s.mail id rest } where
  commands := h.commands
  mail other message hm := by
    rcases eq_or_ne other id with rfl | ne
    · simp only [Function.update_self] at hm
      exact h.mail other message (fewer.subset hm)
    · simp only [Function.update_of_ne ne] at hm
      exact h.mail other message hm
  connections := h.connections
  unused other le := by
    refine ⟨?_, (h.unused other le).2⟩
    rcases eq_or_ne other id with rfl | ne
    · simp only [Function.update_self]
      exact List.sublist_nil.mp ((h.unused other le).1 ▸ fewer)
    · simp only [Function.update_of_ne ne]
      exact (h.unused other le).1
  own := h.own
  flows nodeUuid := by
    have flows := h.flows nodeUuid
    simp only [pipeline, commandsTo] at flows ⊢
    split at flows
    · next other here =>
      rcases eq_or_ne other id with rfl | ne
      · rw [Function.update_self]
        exact flows.lose [_, _] [] fewer
      · rw [Function.update_of_ne ne]
        exact flows
    · exact flows

/-- A consumer passes a command on. -/
theorem Wired.relay {id : Nat} (h : Wired s) (used : id < s.link.accepted) (relayed : s.relay id = some s') :
    Wired s' := by
  unfold Channel.relay at relayed
  cases waiting : s.mail id with
  | nil => simp [waiting] at relayed
  | cons message rest =>
    simp only [waiting, Option.some.injEq] at relayed
    subst relayed
    have plain : Json.Plain (.obj message) := h.mail id message (waiting ▸ List.mem_cons_self)
    refine ⟨h.commands, fun other m hm => ?_, h.connections, fun other le => ?_, h.own, fun nodeUuid => ?_⟩
    · rcases eq_or_ne other id with rfl | ne
      · simp only [Function.update_self] at hm
        exact h.mail other m (waiting ▸ List.mem_cons_of_mem _ hm)
      · simp only [Function.update_of_ne ne] at hm
        exact h.mail other m hm
    · have ne : other ≠ id := fun same => absurd used (by simp only at le; omega)
      simp only [Function.update_of_ne ne]
      exact h.unused other le
    · have flows := h.flows nodeUuid
      simp only [pipeline, commandsTo] at flows ⊢
      split at flows
      · next other here =>
        rcases eq_or_ne other id with rfl | ne
        · rw [waiting] at flows
          simp only [Function.update_self, List.filterMap_append, List.filterMap_cons, List.filterMap_nil,
            messageOf_dumps plain]
          exact flows.move [_] []
        · simp only [Function.update_of_ne ne]
          exact flows
      · exact flows

/-- A process takes a text. -/
theorem Wired.take {nodeUuid text : String} {id : Nat} {rest : List String} {p : AgentProcess} (h : Wired s)
    (here : (s.processes nodeUuid).connection = some id) (next : s.down id = text :: rest)
    (connection : p.connection = some id) (taken : p.taken = (s.processes nodeUuid).taken ++ [text]) :
    Wired ({ s with down := Function.update s.down id rest }.setProcess nodeUuid p) where
  commands := h.commands
  mail := h.mail
  connections := h.connections
  unused other le := by
    have ne : other ≠ id := fun same => absurd (h.own nodeUuid id here).1 (by simp only [setProcess] at le; omega)
    simp only [setProcess, Function.update_of_ne ne]
    exact h.unused other le
  own other other' found := by
    rcases eq_or_ne other nodeUuid with rfl | ne
    · simp only [setProcess, Function.update_self, connection, Option.some.injEq] at found
      exact found ▸ h.own other id here
    · simp only [setProcess, Function.update_of_ne ne] at found
      exact h.own other other' found
  flows other := by
    have flows := h.flows other
    rcases eq_or_ne other nodeUuid with rfl | ne
    · rw [pipeline_some here, next] at flows
      have here' : (({ s with down := Function.update s.down id rest }.setProcess other p).processes other).connection =
          some id := by simp [setProcess, connection]
      rw [pipeline_some here']
      simp only [setProcess, Function.update_self, messages, taken, List.filterMap_append, List.filterMap_cons,
        List.filterMap_nil] at flows ⊢
      cases read : messageOf text with
      | none => simpa [read, commandsTo] using flows
      | some message =>
        simp only [read] at flows
        exact flows.move [] [_]
    · simp only [pipeline, commandsTo, setProcess, Function.update_of_ne ne] at flows ⊢
      split at flows
      · next other' there =>
        rcases eq_or_ne other' id with rfl | ne
        · rw [next] at flows
          simp only [Function.update_self]
          exact flows.lose [_] [_] (List.Sublist.filterMap _ (List.sublist_cons_self text rest))
        · simp only [Function.update_of_ne ne]
          exact flows
      · exact flows

/-- A process whose connection is gone, or that works on without taking a text. -/
theorem Wired.setProcess {nodeUuid : String} {p : AgentProcess} (h : Wired s)
    (connection : p.connection = none ∨ p.connection = (s.processes nodeUuid).connection)
    (taken : p.taken = (s.processes nodeUuid).taken) : Wired (s.setProcess nodeUuid p) where
  commands := h.commands
  mail := h.mail
  connections := h.connections
  unused := h.unused
  own other id found := by
    rcases eq_or_ne other nodeUuid with rfl | ne
    · simp only [Channel.setProcess, Function.update_self] at found
      rcases connection with gone | kept
      · rw [gone] at found
        cases found
      · exact h.own other id (kept ▸ found)
    · simp only [Channel.setProcess, Function.update_of_ne ne] at found
      exact h.own other id found
  flows other := by
    have flows := h.flows other
    rcases eq_or_ne other nodeUuid with rfl | ne
    · have same : p.messages = (s.processes other).messages := by rw [messages, taken, messages]
      rcases connection with gone | kept
      · rw [pipeline_none (by simp [Channel.setProcess, gone])]
        simp only [Channel.setProcess, Function.update_self, same]
        exact flows_singleton.mpr flows.head
      · simp only [pipeline, commandsTo, Channel.setProcess, Function.update_self, same, kept] at flows ⊢
        exact flows
    · simp only [pipeline, commandsTo, Channel.setProcess, Function.update_of_ne ne] at flows ⊢
      exact flows

/-- A connection is refused, or is the process's new one. -/
theorem connect_cases (s : Channel) (sha256 : String → String) (nodeUuid : String) (token : Option String) :
    s.connect sha256 nodeUuid token = s ∨ ∃ flags, s.connect sha256 nodeUuid token =
      { s with link := { s.link with
          connections := s.link.connections ++ [(⟨s.link.accepted, nodeUuid⟩ : Connection)]
          accepted := s.link.accepted + 1
          flags := flags } }.setProcess nodeUuid { s.processes nodeUuid with connection := some s.link.accepted } := by
  unfold Channel.connect Link.connect
  cases Agents.consumerAuthenticate sha256 s.link.agents nodeUuid token with
  | none =>
    simp only [Nat.lt_irrefl, if_false]
    exact .inl trivial
  | some agent =>
    simp only [Nat.lt_add_one, if_true]
    exact .inr ⟨_, rfl⟩

/-- A new connection starts with empty wires. -/
theorem Wired.connect {sha256 : String → String} {nodeUuid : String} {token : Option String} (h : Wired s) :
    Wired (s.connect sha256 nodeUuid token) := by
  rcases connect_cases s sha256 nodeUuid token with refused | ⟨flags, made⟩
  · rw [refused]
    exact h
  · rw [made]
    have empty := h.unused s.link.accepted (Nat.le_refl _)
    refine ⟨h.commands, h.mail, fun c hc => ?_, fun id le => h.unused id (Nat.le_of_succ_le le), ?_, ?_⟩
    · rcases List.mem_append.mp hc with old | new
      · exact Nat.lt_succ_of_lt (h.connections c old)
      · rw [List.mem_singleton.mp new]
        exact Nat.lt_succ_self _
    · intro other id found
      rcases eq_or_ne other nodeUuid with rfl | ne
      · simp only [Channel.setProcess, Function.update_self, Option.some.injEq] at found
        subst found
        refine ⟨Nat.lt_succ_self _, fun c hc same => ?_⟩
        rcases List.mem_append.mp hc with old | new
        · exact absurd (h.connections c old) (by omega)
        · rw [List.mem_singleton.mp new]
      · simp only [Channel.setProcess, Function.update_of_ne ne] at found
        obtain ⟨below, owned⟩ := h.own other id found
        refine ⟨Nat.lt_succ_of_lt below, fun c hc same => ?_⟩
        rcases List.mem_append.mp hc with old | new
        · exact owned c old same
        · rw [List.mem_singleton.mp new] at same
          exact absurd below (by simp only at same; omega)
    · intro other
      have flows := h.flows other
      rcases eq_or_ne other nodeUuid with rfl | ne
      · simp only [pipeline, commandsTo, Channel.setProcess, Function.update_self, empty.1, empty.2, List.filterMap_nil]
        refine flows_cons.mpr ?_
        simp only [List.flatten_cons, List.flatten_nil, List.append_nil]
        exact flows.head
      · simp only [pipeline, commandsTo, Channel.setProcess, Function.update_of_ne ne] at flows ⊢
        exact flows

end Wires

/-! ## What was asked -/

/-- The call's request was sent. -/
def Sent (s : Channel) (call : Call) : Prop :=
  ∃ request : AgentRequest, (call.node.uuid.str, request.toWire call.requestId) ∈ s.commands ∧
    request.operation = call.operation

/-- The invariant of the calls: the requests among the commands have ids of their own, and a call has sent its own. -/
structure Asked (s : Channel) : Prop where
  commands : ∀ x ∈ s.commands, (∃ (request : AgentRequest) (requestId : String), x.2 = request.toWire requestId) ∨
    requestIn x.2 = none ∧ requestIdOf x.2 = none
  ids : (s.commands.filterMap fun x => requestIdOf x.2).Nodup
  calls : ∀ call ∈ s.link.calls, s.Sent call

/-- No request has the id, which is drawn by `uuid4`. -/
def NewRequest (s : Channel) (requestId : String) : Prop := ∀ x ∈ s.commands, requestIdOf x.2 ≠ some requestId

section Asked

variable {s s' : Channel}

/-- What was sent stays sent. -/
theorem Sent.mono {call : Call} (h : s.Sent call) (more : ∀ x ∈ s.commands, x ∈ s'.commands) : s'.Sent call := by
  obtain ⟨request, mem, operation⟩ := h
  exact ⟨request, more _ mem, operation⟩

/-- Where nothing is sent and no call is added, every call was asked. -/
theorem Asked.of_same (h : Asked s) (commands : s'.commands = s.commands)
    (calls : ∀ call ∈ s'.link.calls, call ∈ s.link.calls) : Asked s' where
  commands := commands ▸ h.commands
  ids := commands ▸ h.ids
  calls call mem := (h.calls call (calls call mem)).mono fun _ hx => commands ▸ hx

/-- A console's message. -/
theorem Asked.groupSend {nodeUuid : String} {message : Dict} (h : Asked s)
    (other : requestIn message = none ∧ requestIdOf message = none) : Asked (s.groupSend nodeUuid message) where
  commands x hx := by
    rcases List.mem_append.mp hx with old | new
    · exact h.commands x old
    · rw [List.mem_singleton.mp new]
      exact .inr other
  ids := by
    simp only [Channel.groupSend, List.filterMap_append, List.filterMap_cons, other.2, List.filterMap_nil,
      List.append_nil]
    exact h.ids
  calls call mem := (h.calls call mem).mono fun _ hx => List.mem_append_left _ hx

/-- Starting a call leaves the connections alone. -/
theorem connections_send (l : Link) (node : Node) (operation : OperationType) (requestId : String)
    (timeout : Option Nat) : (l.send node operation requestId timeout).accepted = l.accepted ∧
      (l.send node operation requestId timeout).connections = l.connections ∧
      (l.send node operation requestId timeout).responses = l.responses := by
  unfold Link.send
  split <;> exact ⟨rfl, rfl, rfl⟩

/-- Starting a call adds that call at most. -/
theorem calls_send {l : Link} {node : Node} {operation : OperationType} {requestId : String} {timeout : Option Nat}
    {call : Call} (mem : call ∈ (l.send node operation requestId timeout).calls) : call ∈ l.calls ∨
      (l.unavailable node).isNone ∧ call.node = node ∧ call.operation = operation ∧ call.requestId = requestId := by
  unfold Link.send at mem
  split at mem
  · exact .inl mem
  · next available =>
    rcases List.mem_cons.mp mem with rfl | old
    · exact .inr ⟨by rw [available]; rfl, rfl, rfl, rfl⟩
    · exact .inl old

/-- A call sends its request, or there is no call. -/
theorem Asked.send {node : Node} {request : AgentRequest} {requestId : String} {timeout : Option Nat} (h : Asked s)
    (new : s.NewRequest requestId) : Asked (s.send node request requestId timeout) := by
  unfold Channel.send
  split
  · next available =>
    refine ⟨fun x hx => ?_, ?_, fun call mem => ?_⟩
    · rcases List.mem_append.mp hx with old | added
      · exact h.commands x old
      · rw [List.mem_singleton.mp added]
        exact .inl ⟨request, requestId, rfl⟩
    · have id : requestIdOf (request.toWire requestId) = some requestId := rfl
      simp only [Channel.groupSend, List.filterMap_append, List.filterMap_cons, id, List.filterMap_nil]
      refine List.nodup_append.mpr ⟨h.ids, List.nodup_singleton _, fun a ha b hb same => ?_⟩
      obtain ⟨x, hx, named⟩ := List.mem_filterMap.mp ha
      exact new x hx (by rw [named, same, List.mem_singleton.mp hb])
    · rcases calls_send mem with old | ⟨-, rfl, operation, rfl⟩
      · exact (h.calls call old).mono fun _ hx => List.mem_append_left _ hx
      · exact ⟨request, List.mem_append_right _ (List.mem_singleton_self _), operation.symm⟩
  · next refused =>
    refine h.of_same rfl fun call mem => ?_
    rcases calls_send mem with old | ⟨available, -⟩
    · exact old
    · exact absurd available refused

end Asked

/-! ## What was told -/

/-- The text is an answer of the process, or data of one of its consoles. -/
def FromProcess (p : AgentProcess) (text : String) : Prop :=
  (∃ x ∈ p.transport.sent, text = Json.dumps (.obj x.2.toWire)) ∨
    ∃ sessionId chunk, text = Json.dumps (.obj (consoleData sessionId chunk))

/-- The message under the key is an answer of the node that it came from. -/
def Genuine (str : Json → String) (s : Channel) (key : String) (source : Received) : Prop :=
  ∃ x ∈ (s.processes source.connection.nodeUuid).transport.sent, source.message = x.2.toWire ∧ str x.2.requestId = key

/-- The call has ended for want of an answer, or with an answer under its id. -/
def Settled (str : Json → String) (s : Channel) (call : Call) (outcome : Outcome) : Prop :=
  s.Sent call ∧ ((∃ message, outcome = .agentUnavailable message) ∨
    ∃ nodeUuid, ∃ x ∈ (s.processes nodeUuid).transport.sent, str x.2.requestId = call.requestId ∧
      outcome = .ofMessage x.2.toWire)

/-- The invariant of the ways from the agents. -/
structure Told (str : Json → String) (s : Channel) : Prop where
  unused : ∀ id, s.link.accepted ≤ id → s.up id = []
  up : ∀ c ∈ s.link.connections, ∀ text ∈ s.up c.id, FromProcess (s.processes c.nodeUuid) text
  responses : ∀ key lease, s.link.responses key = some lease → Genuine str s key lease.token
  ended : ∀ x ∈ s.ended, Settled str s x.1 x.2

section Told

variable {str : Json → String} {s s' : Channel}

/-- What a process sent stays sent. -/
theorem FromProcess.mono {p p' : AgentProcess} {text : String} (h : FromProcess p text)
    (more : ∀ x ∈ p.transport.sent, x ∈ p'.transport.sent) : FromProcess p' text := by
  rcases h with ⟨x, hx, same⟩ | data
  · exact .inl ⟨x, more x hx, same⟩
  · exact .inr data

/-- A genuine response stays genuine. -/
theorem Genuine.mono {key : String} {source : Received} (h : Genuine str s key source)
    (more : ∀ nodeUuid, ∀ x ∈ (s.processes nodeUuid).transport.sent, x ∈ (s'.processes nodeUuid).transport.sent) :
    Genuine str s' key source := by
  obtain ⟨x, hx, same⟩ := h
  exact ⟨x, more _ x hx, same⟩

/-- How a call ended stays settled. -/
theorem Settled.mono {call : Call} {outcome : Outcome} (h : Settled str s call outcome)
    (commands : ∀ x ∈ s.commands, x ∈ s'.commands)
    (more : ∀ nodeUuid, ∀ x ∈ (s.processes nodeUuid).transport.sent, x ∈ (s'.processes nodeUuid).transport.sent) :
    Settled str s' call outcome := by
  obtain ⟨sent, none | ⟨nodeUuid, x, hx, told⟩⟩ := h
  · exact ⟨sent.mono commands, .inl none⟩
  · exact ⟨sent.mono commands, .inr ⟨nodeUuid, x, more _ x hx, told⟩⟩

/-- A step that brings no message back. -/
theorem Told.of_more (h : Told str s) (accepted : s'.link.accepted = s.link.accepted)
    (connections : ∀ c ∈ s'.link.connections, c ∈ s.link.connections) (up : s'.up = s.up)
    (responses : ∀ key lease, s'.link.responses key = some lease → s.link.responses key = some lease)
    (ended : s'.ended = s.ended) (commands : ∀ x ∈ s.commands, x ∈ s'.commands)
    (sent : ∀ nodeUuid, ∀ x ∈ (s.processes nodeUuid).transport.sent, x ∈ (s'.processes nodeUuid).transport.sent) :
    Told str s' where
  unused := by
    rw [accepted, up]
    exact h.unused
  up c hc text ht := (h.up c (connections c hc) text (up ▸ ht)).mono (sent _)
  responses key lease found := (h.responses key lease (responses key lease found)).mono sent
  ended x hx := (h.ended x (ended ▸ hx)).mono commands sent

/-- A message to an agent settles nothing. -/
theorem Told.groupSend {nodeUuid : String} {message : Dict} (h : Told str s) :
    Told str (s.groupSend nodeUuid message) :=
  h.of_more rfl (fun _ hc => hc) rfl (fun _ _ found => found) rfl (fun _ hx => List.mem_append_left _ hx)
    fun _ _ hx => hx

/-- A process that forgets nothing it sent keeps what was told. -/
theorem Told.setProcess {nodeUuid : String} {p : AgentProcess} (h : Told str s)
    (sent : ∀ x ∈ (s.processes nodeUuid).transport.sent, x ∈ p.transport.sent) :
    Told str (s.setProcess nodeUuid p) := by
  refine h.of_more rfl (fun _ hc => hc) rfl (fun _ _ found => found) rfl (fun _ hx => hx) fun other x hx => ?_
  rcases eq_or_ne other nodeUuid with rfl | ne
  · simp only [Channel.setProcess, Function.update_self]
    exact sent x hx
  · simp only [Channel.setProcess, Function.update_of_ne ne]
    exact hx

/-- What a process sends is its own. -/
theorem Told.transmit {id : Nat} {messages : List Dict} {nodeUuid : String} (h : Told str s)
    (used : id < s.link.accepted) (own : ∀ c ∈ s.link.connections, c.id = id → c.nodeUuid = nodeUuid)
    (sent : ∀ m ∈ messages, FromProcess (s.processes nodeUuid) (Json.dumps (.obj m))) :
    Told str (s.transmit id messages) where
  unused other le := by
    have ne : other ≠ id := fun same => absurd used (by simp only [Channel.transmit] at le; omega)
    simp only [Channel.transmit, Function.update_of_ne ne]
    exact h.unused other le
  up c hc text ht := by
    rcases eq_or_ne c.id id with same | ne
    · simp only [Channel.transmit, same, Function.update_self] at ht
      rcases List.mem_append.mp ht with old | new
      · exact h.up c hc text (same ▸ old)
      · obtain ⟨m, hm, rfl⟩ := List.mem_map.mp new
        rw [own c hc same]
        exact sent m hm
    · simp only [Channel.transmit, Function.update_of_ne ne] at ht
      exact h.up c hc text ht
  responses := h.responses
  ended := h.ended

/-- A new connection settles nothing. -/
theorem Told.connect {sha256 : String → String} {nodeUuid : String} {token : Option String} (h : Told str s) :
    Told str (s.connect sha256 nodeUuid token) := by
  rcases connect_cases s sha256 nodeUuid token with refused | ⟨flags, made⟩
  · rw [refused]
    exact h
  · rw [made]
    refine Told.setProcess (s := { s with link := _ }) ⟨fun id le => h.unused id (Nat.le_of_succ_le le), fun c hc => ?_,
      h.responses, h.ended⟩ fun _ hx => hx
    rcases List.mem_append.mp hc with old | new
    · exact h.up c old
    · rw [List.mem_singleton.mp new]
      intro text ht
      rw [h.unused _ (Nat.le_refl _)] at ht
      cases ht

end Told

/-! ## The invariant -/

/-- **The invariant** of the command channel. -/
structure Linked (str : Json → String) (same : Json → Json → Bool) (s : Channel) : Prop where
  wired : Wired s
  asked : Asked s
  told : Told str s
  processes : ∀ nodeUuid, Orderly same (s.processes nodeUuid)

/-- A request, as the agent that gets it decodes it. -/
def arrived (request : AgentRequest) (requestId : String) : Request :=
  ⟨.str requestId, request.operation, .str request.resourceId, .obj request.payload⟩

section Linked

variable {str : Json → String} {same : Json → Json → Bool} {s s' : Channel}

/-- The commands of a node are those sent to its group. -/
theorem mem_commandsTo {nodeUuid : String} {message : Dict} :
    message ∈ s.commandsTo nodeUuid ↔ (nodeUuid, message) ∈ s.commands := by
  simp only [commandsTo, List.mem_map, List.mem_filter, decide_eq_true_eq]
  constructor
  · rintro ⟨x, ⟨mem, rfl⟩, rfl⟩
    exact mem
  · intro mem
    exact ⟨_, ⟨mem, rfl⟩, rfl⟩

/-- What a process has started was sent to its group. -/
theorem Linked.sent_of_dispatched (h : Linked str same s) {nodeUuid : String} {decoded : Request}
    (mem : decoded ∈ (s.processes nodeUuid).transport.dispatched) : ∃ request requestId,
      (nodeUuid, AgentRequest.toWire request requestId) ∈ s.commands ∧ decoded = arrived request requestId := by
  rw [(h.processes nodeUuid).dispatched] at mem
  obtain ⟨message, taken, holds⟩ := List.mem_filterMap.mp mem
  have sent := mem_commandsTo.mp ((h.wired.flows nodeUuid).head.subset taken)
  rcases h.asked.commands _ sent with ⟨request, requestId, same⟩ | ⟨other, -⟩
  · dsimp only at same
    subst same
    rw [requestIn_toWire] at holds
    exact ⟨request, requestId, sent, (Option.some.inj holds).symm⟩
  · rw [other] at holds
    cases holds

/-- An answer is one to a request that was sent to the group. -/
theorem Linked.origin (h : Linked str same s) {nodeUuid : String} {x : Nat × Response}
    (answer : x ∈ (s.processes nodeUuid).transport.sent) : ∃ request requestId,
      (nodeUuid, AgentRequest.toWire request requestId) ∈ s.commands ∧
      (s.processes nodeUuid).transport.dispatched[x.1]? = some (arrived request requestId) ∧
      Answers (arrived request requestId) x.2 := by
  obtain ⟨decoded, here, answers⟩ := (h.processes nodeUuid).answers x (List.mem_append_left _ answer)
  obtain ⟨request, requestId, sent, rfl⟩ := h.sent_of_dispatched (List.mem_of_getElem? here)
  exact ⟨request, requestId, sent, here, answers⟩

/-- A response carries the id of the request it answers. -/
theorem requestId_of_answers {request : AgentRequest} {requestId : String} {response : Response}
    (answers : Answers (arrived request requestId) response) : response.requestId = .str requestId := by
  cases answers <;> rfl

/-- A response to a request is plain JSON. -/
theorem plain_of_answers {request : AgentRequest} {requestId : String} {response : Response}
    (answers : Answers (arrived request requestId) response) : Json.Plain (.obj response.toWire) := by
  cases answers with
  | ok data plain => exact plain_response rfl plain
  | fail text => exact plain_response rfl (by simp [Response.fail, Json.Plain, Json.PlainFields])

/-- A step that sends nothing and brings nothing back. -/
theorem Linked.of_same (h : Linked str same s) (accepted : s'.link.accepted = s.link.accepted)
    (connections : ∀ c ∈ s'.link.connections, c ∈ s.link.connections)
    (responses : ∀ key lease, s'.link.responses key = some lease → s.link.responses key = some lease)
    (calls : ∀ call ∈ s'.link.calls, call ∈ s.link.calls) (commands : s'.commands = s.commands)
    (mail : s'.mail = s.mail) (down : s'.down = s.down) (up : s'.up = s.up) (processes : s'.processes = s.processes)
    (ended : s'.ended = s.ended) : Linked str same s' where
  wired := h.wired.of_same accepted connections commands mail down fun nodeUuid => by simp [processes]
  asked := h.asked.of_same commands calls
  told := h.told.of_more accepted connections up responses ended (fun _ hx => commands ▸ hx)
    fun _ _ hx => processes ▸ hx
  processes := processes ▸ h.processes

/-- A message that is no request keeps the invariant. -/
theorem Linked.groupSend {nodeUuid : String} {message : Dict} (h : Linked str same s)
    (plain : Json.Plain (.obj message)) (other : requestIn message = none ∧ requestIdOf message = none) :
    Linked str same (s.groupSend nodeUuid message) where
  wired := h.wired.groupSend plain
  asked := h.asked.groupSend other
  told := h.told.groupSend
  processes := h.processes

/-- Closing a console keeps the invariant. -/
theorem Linked.closeConsole {console : ConsoleConsumer} (h : Linked str same s) :
    Linked str same (s.closeConsole console) := by
  refine Linked.groupSend ?_ (plain_consoleClose _) ⟨rfl, rfl⟩
  exact h.of_same rfl (fun _ hc => hc) (fun _ _ found => found) (fun _ mem => mem) rfl rfl rfl rfl rfl rfl

/-- A call with a fresh id keeps the invariant. -/
theorem Linked.send {request : AgentRequest} {requestId : String} (h : Linked str same s) (node : Node)
    (timeout : Option Nat) (plain : Json.Plain (.obj request.payload)) (new : s.NewRequest requestId) :
    Linked str same (s.send node request requestId timeout) := by
  obtain ⟨accepted, connections, responses⟩ := connections_send s.link node request.operation requestId timeout
  refine ⟨?_, h.asked.send new, ?_, ?_⟩
  · have kept : Wired { s with link := s.link.send node request.operation requestId timeout } :=
      h.wired.of_same accepted (fun _ hc => connections ▸ hc) rfl rfl rfl fun _ => ⟨rfl, rfl⟩
    unfold Channel.send
    split
    · exact kept.groupSend (plain_toWire requestId plain)
    · exact kept
  · have kept : Told str { s with link := s.link.send node request.operation requestId timeout } :=
      h.told.of_more accepted (fun _ hc => connections ▸ hc) rfl (fun _ _ found => responses ▸ found) rfl
        (fun _ hx => hx) fun _ _ hx => hx
    unfold Channel.send
    split
    · exact kept.groupSend
    · exact kept
  · unfold Channel.send
    split <;> exact h.processes

/-- Opening a console is a call of its own. -/
theorem Linked.openConsole {sessionId vmUuid requestId : String} {node : Node} (h : Linked str same s)
    (new : s.NewRequest requestId) : Linked str same (s.openConsole sessionId node vmUuid requestId) := by
  have joined : Linked str same { s with
      link := { s.link with consoles := ⟨sessionId, node.uuid.str⟩ :: s.link.consoles }
      consoles := { sessionId := sessionId, nodeUuid := node.uuid.str, requestId := requestId } :: s.consoles } :=
    h.of_same rfl (fun _ hc => hc) (fun _ _ found => found) (fun _ mem => mem) rfl rfl rfl rfl rfl rfl
  have plain : Json.Plain (.obj (NodePilot.openConsole sessionId vmUuid).payload) := by
    simp [NodePilot.openConsole, Json.Plain, Json.PlainFields]
  have sent := joined.send node none plain new
  unfold Channel.openConsole
  split
  · exact sent
  · exact sent.closeConsole

/-- What a console does with its answer keeps the invariant. -/
theorem Linked.answerConsole {call : Call} {outcome : Outcome} (h : Linked str same s) :
    Linked str same (s.answerConsole call outcome) := by
  unfold Channel.answerConsole
  split
  · exact h
  · split
    · exact h.of_same rfl (fun _ hc => hc) (fun _ _ found => found) (fun _ mem => mem) rfl rfl rfl rfl rfl rfl
    · exact h.closeConsole

/-! ## Polling -/

/-- One round of the loop leaves the call alone, or ends it: with the response under its id, or when it is late. -/
theorem poll_cases (l : Link) (call : Call) : l.poll call = l ∨
    (∃ lease, l.responses.at? l.now call.requestId = some lease ∧
      l.poll call = { l with responses := l.responses.del call.requestId }.endCall call (.ofMessage lease.token.message)
        lease.token) ∨
    ∃ message, l.poll call = l.endCall call (.agentUnavailable message) none := by
  unfold Link.poll
  split
  · split
    · next lease found => exact .inr (.inl ⟨lease, found, rfl⟩)
    · exact .inl rfl
  · exact .inr (.inr ⟨_, rfl⟩)

/-- A poll that ends the call records how it ended. -/
theorem poll_of_endCall {call : Call} {l : Link} {outcome : Outcome} {source : Option Received}
    (ends : s.link.poll call = l.endCall call outcome source) (ended : l.ended = s.link.ended) :
    s.poll call = { s with
      link := l.endCall call outcome source
      ended := (call, outcome) :: s.ended }.answerConsole call outcome := by
  have one : (l.endCall call outcome source).ended.take
      ((l.endCall call outcome source).ended.length - s.link.ended.length) = [⟨call.node, outcome, source⟩] := by
    simp [Link.endCall, ended]
  simp only [Channel.poll, ends, one]

/-- A poll that finds nothing changes nothing. -/
theorem poll_of_same {call : Call} (idle : s.link.poll call = s.link) : s.poll call = s := by
  simp only [Channel.poll, idle, Nat.sub_self, List.take_zero]

/-- Ending a call with a genuine outcome keeps the invariant. -/
theorem Linked.endCall {call : Call} {l : Link} {outcome : Outcome} {source : Option Received}
    (h : Linked str same s) (accepted : l.accepted = s.link.accepted) (connections : l.connections = s.link.connections)
    (responses : ∀ key lease, l.responses key = some lease → s.link.responses key = some lease)
    (calls : l.calls = s.link.calls) (settled : Settled str s call outcome) :
    Linked str same { s with link := l.endCall call outcome source, ended := (call, outcome) :: s.ended } where
  wired := h.wired.of_same accepted (fun _ hc => connections ▸ hc) rfl rfl rfl fun _ => ⟨rfl, rfl⟩
  asked := h.asked.of_same rfl fun _ mem => calls ▸ (List.mem_filter.mp mem).1
  told := by
    have kept : Told str { s with link := l.endCall call outcome source } :=
      h.told.of_more accepted (fun _ hc => connections ▸ hc) rfl responses rfl (fun _ hx => hx) fun _ _ hx => hx
    refine ⟨kept.unused, kept.up, kept.responses, fun x hx => ?_⟩
    rcases List.mem_cons.mp hx with rfl | old
    · exact settled
    · exact h.told.ended x old
  processes := h.processes

/-- A poll keeps the invariant. -/
theorem Linked.poll {call : Call} (h : Linked str same s) (mem : call ∈ s.link.calls) :
    Linked str same (s.poll call) := by
  rcases poll_cases s.link call with idle | ⟨lease, found, ends⟩ | ⟨message, ends⟩
  · rw [poll_of_same idle]
    exact h
  · obtain ⟨x, hx, message, key⟩ := h.told.responses _ _ (Leases.at?_eq_some.mp found).1
    rw [poll_of_endCall ends rfl]
    refine Linked.answerConsole (h.endCall rfl rfl (fun key lease there => ?_) rfl ⟨h.asked.calls call mem, .inr ?_⟩)
    · simp only [Leases.del] at there
      rcases eq_or_ne key call.requestId with rfl | ne
      · rw [Function.update_self] at there
        cases there
      · rwa [Function.update_of_ne ne] at there
    · exact ⟨_, x, hx, key, congrArg Outcome.ofMessage message⟩
  · rw [poll_of_endCall ends rfl]
    exact (h.endCall rfl rfl (fun _ _ there => there) rfl ⟨h.asked.calls call mem, .inl ⟨message, rfl⟩⟩).answerConsole

/-! ## Receiving -/

/-- A frame changes the responses by the one that it brings. -/
theorem responses_receive {l : Link} {connection : Connection} {frame : Frame} {key : String} {lease : Lease Received}
    (found : (l.receive str connection frame).responses key = some lease) : l.responses key = some lease ∨
      ∃ message id, frame = .object message ∧ Link.isConsoleData message = false ∧
        message.get? "request_id" = some id ∧ key = str id ∧ lease.token.connection = connection ∧
        lease.token.message = message := by
  cases frame with
  | empty | malformed | notObject => exact .inl found
  | object message =>
    simp only [Link.receive] at found
    split at found
    · unfold Link.relayConsoleData at found
      split at found
      · exact .inl found
      · split at found <;> exact .inl found
    · next data =>
      unfold Link.keepResponse at found
      split at found
      · exact .inl found
      · next id there =>
        split at found
        · simp only [Leases.set] at found
          rcases eq_or_ne key (str id) with rfl | ne
          · rw [Function.update_self, Option.some.injEq] at found
            subst found
            exact .inr ⟨message, id, rfl, by simpa using data, there, rfl, rfl, rfl⟩
          · rw [Function.update_of_ne ne] at found
            exact .inl found
        · exact .inl found

/-- Receiving a frame leaves the connections alone. -/
theorem link_receive (str : Json → String) (l : Link) (connection : Connection) (frame : Frame) :
    (l.receive str connection frame).accepted = l.accepted ∧
      (l.receive str connection frame).connections = l.connections ∧
      (l.receive str connection frame).calls = l.calls := by
  cases frame with
  | empty | malformed | notObject => exact ⟨rfl, rfl, rfl⟩
  | object message =>
    simp only [Link.receive]
    split
    · unfold Link.relayConsoleData
      split
      · exact ⟨rfl, rfl, rfl⟩
      · split <;> exact ⟨rfl, rfl, rfl⟩
    · unfold Link.keepResponse
      split
      · exact ⟨rfl, rfl, rfl⟩
      · split <;> exact ⟨rfl, rfl, rfl⟩

/-- What a node's connection brings under an id is an answer of the node's process under that id. -/
theorem Linked.genuine {connection : Connection} {text key : String} {source : Received} (h : Linked str same s)
    (told : FromProcess (s.processes connection.nodeUuid) text) {message : Dict} {id : Json}
    (frame : frameOf text = .object message) (response : Link.isConsoleData message = false)
    (there : message.get? "request_id" = some id) (named : key = str id) (received : source.connection = connection)
    (holds : source.message = message) : Genuine str s key source := by
  rcases told with ⟨x, hx, rfl⟩ | ⟨sessionId, chunk, rfl⟩
  · obtain ⟨request, requestId, -, -, answers⟩ := h.origin hx
    rw [frameOf_dumps (plain_of_answers answers)] at frame
    cases frame
    cases there
    exact ⟨x, received ▸ hx, holds, named.symm⟩
  · rw [frameOf_dumps (plain_consoleData sessionId chunk)] at frame
    cases frame
    cases response

/-- Receiving what a connection holds keeps the invariant. -/
theorem Linked.receive {connection : Connection} (h : Linked str same s) (mem : connection ∈ s.link.connections)
    (received : s.receive str connection = some s') : Linked str same s' := by
  unfold Channel.receive at received
  cases next : s.up connection.id with
  | nil => simp [next] at received
  | cons text rest =>
    simp only [next, Option.some.injEq] at received
    subst received
    obtain ⟨accepted, connections, calls⟩ := link_receive str s.link connection (frameOf text)
    have below := h.wired.connections connection mem
    refine ⟨?_, ?_, ?_, h.processes⟩
    · exact h.wired.of_same accepted (fun _ hc => connections ▸ hc) rfl rfl rfl fun _ => ⟨rfl, rfl⟩
    · exact h.asked.of_same rfl fun _ hx => calls ▸ hx
    · refine ⟨fun id le => ?_, fun c hc t ht => ?_, fun key lease found => ?_, h.told.ended⟩
      · have le : s.link.accepted ≤ id := accepted ▸ le
        have ne : id ≠ connection.id := by omega
        simp only [Function.update_of_ne ne]
        exact h.told.unused id le
      · have hc : c ∈ s.link.connections := connections ▸ hc
        refine h.told.up c hc t ?_
        rcases eq_or_ne c.id connection.id with eq | ne
        · simp only [eq, Function.update_self] at ht
          rw [eq, next]
          exact List.mem_cons_of_mem _ ht
        · simpa only [Function.update_of_ne ne] using ht
      · rcases responses_receive found with old | ⟨message, id, frame, response, there, named, source, holds⟩
        · exact h.told.responses key lease old
        · have told := h.told.up connection mem text (next ▸ List.mem_cons_self)
          exact h.genuine told frame response there named source holds

/-! ## Processes -/

/-- A process that stays orderly keeps the invariant. -/
theorem Linked.setProcess {nodeUuid : String} {p : AgentProcess} (h : Linked str same s) (orderly : Orderly same p)
    (connection : p.connection = none ∨ p.connection = (s.processes nodeUuid).connection)
    (taken : p.taken = (s.processes nodeUuid).taken)
    (sent : ∀ x ∈ (s.processes nodeUuid).transport.sent, x ∈ p.transport.sent) :
    Linked str same (s.setProcess nodeUuid p) where
  wired := h.wired.setProcess connection taken
  asked := h.asked.of_same rfl fun _ mem => mem
  told := h.told.setProcess sent
  processes other := by
    rcases eq_or_ne other nodeUuid with rfl | ne
    · simp only [Channel.setProcess, Function.update_self]
      exact orderly
    · simp only [Channel.setProcess, Function.update_of_ne ne]
      exact h.processes other

/-- What a process sends goes onto its own wire. -/
theorem Linked.transmit {id : Nat} {messages : List Dict} (h : Linked str same s) (nodeUuid : String)
    (here : (s.processes nodeUuid).connection = some id)
    (sent : ∀ m ∈ messages, FromProcess (s.processes nodeUuid) (Json.dumps (.obj m))) :
    Linked str same (s.transmit id messages) where
  wired := h.wired.of_same rfl (fun _ hc => hc) rfl rfl rfl fun _ => ⟨rfl, rfl⟩
  asked := h.asked.of_same rfl fun _ mem => mem
  told := h.told.transmit (h.wired.own nodeUuid id here).1 (h.wired.own nodeUuid id here).2 sent
  processes := h.processes

/-- A new connection keeps the invariant. -/
theorem Linked.connect {sha256 : String → String} {nodeUuid : String} {token : Option String} (h : Linked str same s) :
    Linked str same (s.connect sha256 nodeUuid token) := by
  refine ⟨h.wired.connect, ?_, h.told.connect, fun other => ?_⟩
  · rcases connect_cases s sha256 nodeUuid token with refused | ⟨flags, made⟩
    · rw [refused]
      exact h.asked
    · rw [made]
      exact h.asked.of_same rfl fun _ mem => mem
  · rcases connect_cases s sha256 nodeUuid token with refused | ⟨flags, made⟩
    · rw [refused]
      exact h.processes other
    · rw [made]
      rcases eq_or_ne other nodeUuid with rfl | ne
      · simp only [Channel.setProcess, Function.update_self]
        exact (h.processes other).connected _
      · simp only [Channel.setProcess, Function.update_of_ne ne]
        exact h.processes other

/-- A process that takes a command keeps the invariant. -/
theorem Linked.take {nodeUuid text : String} {id : Nat} {rest : List String} (texts : ComparesTexts same)
    (h : Linked str same s) (here : (s.processes nodeUuid).connection = some id) (next : s.down id = text :: rest) :
    Linked str same ({ s with down := Function.update s.down id rest }.setProcess nodeUuid
      ((s.processes nodeUuid).take same text)) where
  wired := h.wired.take here next here rfl
  asked := h.asked.of_same rfl fun _ mem => mem
  told := by
    have kept : Told str { s with down := Function.update s.down id rest } :=
      h.told.of_more rfl (fun _ hc => hc) rfl (fun _ _ found => found) rfl (fun _ hx => hx) fun _ _ hx => hx
    refine kept.setProcess fun x hx => ?_
    simp only [AgentProcess.take, (Transport.taken_receive same _ text).sent]
    exact hx
  processes other := by
    rcases eq_or_ne other nodeUuid with rfl | ne
    · simp only [Channel.setProcess, Function.update_self]
      exact (h.processes other).take texts text
    · simp only [Channel.setProcess, Function.update_of_ne ne]
      exact h.processes other

/-- Handling an operation forgets nothing that was sent. -/
theorem sent_handle {t : Transport} {operation : Nat} {result : Except String Dict} {x : Nat × Response}
    (mem : x ∈ t.sent) : x ∈ (t.handle same operation result).sent := by
  rcases Transport.handle_cases same t operation result with idle | ⟨request, -, -, handled⟩
  · rwa [idle]
  · have work := (@Transport.dispatch_spec same t request result).2
    rw [handled, Transport.answer]
    split
    · exact List.mem_append_left _ (work.sent ▸ mem)
    · exact work.sent ▸ mem

/-- A finished operation keeps the invariant. -/
theorem Linked.finish {nodeUuid : String} {id operation : Nat} {result : Except String Dict} (h : Linked str same s)
    (plain : PlainResult result) (here : (s.processes nodeUuid).connection = some id) :
    Linked str same ((s.setProcess nodeUuid ((s.processes nodeUuid).finish same id operation result).1).transmit id
      (((s.processes nodeUuid).finish same id operation result).2.map Response.toWire)) := by
  have kept : Linked str same (s.setProcess nodeUuid ((s.processes nodeUuid).finish same id operation result).1) :=
    h.setProcess ((h.processes nodeUuid).finish plain) (.inr rfl) rfl fun x hx => sent_handle hx
  refine kept.transmit nodeUuid ?_ fun m hm => ?_
  · simp only [Channel.setProcess, Function.update_self]
    exact here
  · obtain ⟨response, hr, rfl⟩ := List.mem_map.mp hm
    obtain ⟨x, hx, rfl⟩ := List.mem_map.mp hr
    simp only [Channel.setProcess, Function.update_self]
    exact .inl ⟨x, List.mem_of_mem_drop hx, rfl⟩

/-- An operation of a lost connection answers nobody. -/
theorem Linked.finishOrphan {nodeUuid : String} {connection operation : Nat} {result : Except String Dict}
    (h : Linked str same s) (plain : PlainResult result)
    (orphan : (connection, operation) ∈ (s.processes nodeUuid).orphans) : Linked str same
      (s.setProcess nodeUuid ((s.processes nodeUuid).finishOrphan same connection operation result)) := by
  have orderly : Orderly same ((s.processes nodeUuid).finishOrphan same connection operation result) :=
    (h.processes nodeUuid).finishOrphan plain orphan
  unfold AgentProcess.finishOrphan at orderly ⊢
  split
  · exact h.setProcess (h.processes nodeUuid) (.inr rfl) rfl fun _ hx => hx
  · next request here =>
    have work := (@Transport.dispatch_spec same (s.processes nodeUuid).transport request result).2
    rw [here] at orderly
    exact h.setProcess orderly (.inr rfl) rfl fun x hx => work.sent ▸ hx

/-- Output of a console keeps the invariant. -/
theorem Linked.pumpOutbound {nodeUuid sessionId : String} {chunk : List UInt8} {p : AgentProcess}
    {sent : Option (Nat × Dict)} (texts : ComparesTexts same) (h : Linked str same s)
    (pumped : (s.processes nodeUuid).pumpOutbound same sessionId chunk = some (p, sent)) :
    Linked str same (s.setProcess nodeUuid p) ∧
      ∀ id message, sent = some (id, message) → Linked str same ((s.setProcess nodeUuid p).transmit id [message]) := by
  have orderly := (h.processes nodeUuid).pumpOutbound texts pumped
  unfold AgentProcess.pumpOutbound at pumped
  split at pumped
  · simp only [] at pumped
    split at pumped
    · next own =>
      cases pumped
      have kept : Linked str same (s.setProcess nodeUuid _) := h.setProcess orderly (.inr rfl) rfl fun _ hx => hx
      refine ⟨kept, fun id message same => ?_⟩
      cases same
      refine kept.transmit nodeUuid ?_ fun m hm => ?_
      · simp only [Channel.setProcess, Function.update_self]
        exact own.1
      · rw [List.mem_singleton.mp hm]
        exact .inr ⟨sessionId, chunk, rfl⟩
    · cases pumped
      exact ⟨h.setProcess orderly (.inr rfl) rfl fun _ hx => hx, nofun⟩
  · cases pumped

/-- Input of a console keeps the invariant. -/
theorem Linked.pumpInbound {nodeUuid sessionId : String} {p : AgentProcess} (texts : ComparesTexts same)
    (h : Linked str same s) (pumped : (s.processes nodeUuid).pumpInbound same sessionId = some p) :
    Linked str same (s.setProcess nodeUuid p) := by
  have orderly := (h.processes nodeUuid).pumpInbound texts pumped
  unfold AgentProcess.pumpInbound at pumped
  split at pumped
  · cases pumped
    exact h.setProcess orderly (.inr rfl) rfl fun _ hx => hx
  · cases pumped

/-- A lost connection keeps the invariant. -/
theorem Linked.lose {nodeUuid : String} (h : Linked str same s) :
    Linked str same (s.setProcess nodeUuid (s.processes nodeUuid).lose) := by
  have orderly := (h.processes nodeUuid).lose
  unfold AgentProcess.lose at orderly ⊢
  split
  · exact h.setProcess (h.processes nodeUuid) (.inr rfl) rfl fun _ hx => hx
  · next here =>
    rw [here] at orderly
    exact h.setProcess orderly (.inl rfl) rfl fun _ hx => hx

/-- What a browser is shown keeps the invariant. -/
theorem Linked.display {console : ConsoleConsumer} (h : Linked str same s) (shown : s.display console = some s') :
    Linked str same s' := by
  unfold Channel.display at shown
  split at shown
  · cases shown
  · split at shown <;>
    · cases shown
      exact h.of_same rfl (fun _ hc => hc) (fun _ _ found => found) (fun _ mem => mem) rfl rfl rfl rfl rfl rfl

end Linked

/-! ## Runs -/

/-- No session has the id, which is drawn by `uuid4`. -/
def NewSession (s : Channel) (sessionId : String) : Prop :=
  ∀ x ∈ s.commands, Transport.sessionOf x.2 ≠ some sessionId

/-- A step that Python can take: ids are new, and a `dict` has each key once. Nobody but a console sends
OPEN_CONSOLE. -/
def Proper : Event → Channel → Prop
  | .send _ request requestId _, s =>
    Json.Plain (.obj request.payload) ∧ request.operation ≠ .openConsole ∧ s.NewRequest requestId
  | .openConsole sessionId _ _ requestId, s => s.NewRequest requestId ∧ s.NewSession sessionId
  | .finish _ _ result, _ | .finishOrphan _ _ _ result, _ => PlainResult result
  | _, _ => True

instance : (result : Except String Dict) → Decidable (PlainResult result)
  | .ok data => inferInstanceAs (Decidable (Json.Plain (.obj data)))
  | .error _ => isTrue trivial

instance (s : Channel) (requestId : String) : Decidable (s.NewRequest requestId) :=
  inferInstanceAs (Decidable (∀ x ∈ s.commands, _ ≠ _))

instance (s : Channel) (sessionId : String) : Decidable (s.NewSession sessionId) :=
  inferInstanceAs (Decidable (∀ x ∈ s.commands, _ ≠ _))

instance : (e : Event) → (s : Channel) → Decidable (Proper e s)
  | .send _ request requestId _, s => inferInstanceAs (Decidable
      (Json.Plain (.obj request.payload) ∧ request.operation ≠ .openConsole ∧ s.NewRequest requestId))
  | .openConsole sessionId _ _ requestId, s =>
    inferInstanceAs (Decidable (s.NewRequest requestId ∧ s.NewSession sessionId))
  | .finish _ _ result, _ | .finishOrphan _ _ _ result, _ => inferInstanceAs (Decidable (PlainResult result))
  | .tick _, _ | .credential _, _ | .poll _, _ | .drop _ _, _ | .relay _, _ | .receive _, _ | .disconnect _, _
  | .connect _ _, _ | .lose _, _ | .restart _, _ | .take _, _ | .pumpInbound _ _, _ | .pumpOutbound _ _ _, _
  | .sessionEnds _ _, _ | .input _ _, _ | .display _, _ | .dropData _ _, _ | .closeConsole _, _ => isTrue trivial

section Runs

variable {sha256 : String → String} {str : Json → String} {same : Json → Json → Bool} {s s' : Channel}

/-- The invariant holds before anything happened. -/
theorem Linked.start : Linked str same {} where
  wired := ⟨nofun, nofun, nofun, fun _ _ => ⟨rfl, rfl⟩, nofun, fun _ => List.Sublist.refl _⟩
  asked := ⟨nofun, List.nodup_nil, nofun⟩
  told := ⟨fun _ _ => rfl, nofun, nofun, nofun⟩
  processes _ := .start

/-- Every step keeps the invariant. -/
theorem Linked.step (texts : ComparesTexts same) {e : Event} (h : Linked str same s) (proper : Proper e s)
    (taken : Channel.step sha256 str same e s = some s') : Linked str same s' := by
  cases e with
  | tick milliseconds =>
    cases taken
    exact h.of_same rfl (fun _ hc => hc) (fun _ _ found => found) (fun _ mem => mem) rfl rfl rfl rfl rfl rfl
  | credential request =>
    cases taken
    unfold Link.credential
    split <;>
      exact h.of_same rfl (fun _ hc => hc) (fun _ _ found => found) (fun _ mem => mem) rfl rfl rfl rfl rfl rfl
  | send node request requestId timeout =>
    cases taken
    exact h.send node timeout proper.1 proper.2.2
  | poll requestId =>
    obtain ⟨call, found, rfl⟩ := Option.map_eq_some_iff.mp taken
    exact h.poll (List.mem_of_find?_eq_some found)
  | drop id place =>
    cases taken
    exact ⟨h.wired.drop (List.eraseIdx_sublist ..), h.asked.of_same rfl fun _ mem => mem,
      h.told.of_more rfl (fun _ hc => hc) rfl (fun _ _ found => found) rfl (fun _ hx => hx) fun _ _ hx => hx,
      h.processes⟩
  | relay id =>
    obtain ⟨c, found, relayed⟩ := Option.bind_eq_some_iff.mp taken
    have used : id < s.link.accepted := by
      have same : c.id = id := by simpa using List.find?_some found
      exact same ▸ h.wired.connections c (List.mem_of_find?_eq_some found)
    refine ⟨h.wired.relay used relayed, ?_, ?_, ?_⟩
    all_goals
      unfold Channel.relay at relayed
      split at relayed
      · cases relayed
      · cases relayed
        first
          | exact h.asked.of_same rfl fun _ mem => mem
          | exact h.told.of_more rfl (fun _ hc => hc) rfl (fun _ _ found => found) rfl (fun _ hx => hx) fun _ _ hx => hx
          | exact h.processes
  | receive id =>
    obtain ⟨c, found, received⟩ := Option.bind_eq_some_iff.mp taken
    exact h.receive (List.mem_of_find?_eq_some found) received
  | disconnect id =>
    obtain ⟨c, found, rfl⟩ := Option.map_eq_some_iff.mp taken
    exact h.of_same rfl (fun _ hc => (List.mem_filter.mp hc).1) (fun _ _ found => found) (fun _ mem => mem) rfl rfl rfl
      rfl rfl rfl
  | connect nodeUuid token =>
    simp only [Channel.step] at taken
    split at taken
    · cases taken
      exact h.connect
    · cases taken
  | lose nodeUuid =>
    cases taken
    exact h.lose
  | restart nodeUuid =>
    cases taken
    exact h.setProcess (h.processes nodeUuid).restart (.inl rfl) rfl fun _ hx => hx
  | take nodeUuid =>
    obtain ⟨id, here, taken⟩ := Option.bind_eq_some_iff.mp taken
    split at taken
    · cases taken
    · next text rest next =>
      split at taken
      · cases taken
        exact h.take texts here next
      · cases taken
  | finish nodeUuid operation result =>
    obtain ⟨id, here, taken⟩ := Option.bind_eq_some_iff.mp taken
    cases taken
    exact h.finish proper here
  | finishOrphan nodeUuid connection operation result =>
    simp only [Channel.step] at taken
    split at taken
    · next orphan =>
      cases taken
      exact h.finishOrphan proper (List.contains_iff_mem.mp orphan)
    · cases taken
  | pumpInbound nodeUuid sessionId =>
    obtain ⟨p, pumped, rfl⟩ := Option.map_eq_some_iff.mp taken
    exact h.pumpInbound texts pumped
  | pumpOutbound nodeUuid sessionId chunk =>
    obtain ⟨⟨p, sent⟩, pumped, taken⟩ := Option.bind_eq_some_iff.mp taken
    obtain ⟨kept, sends⟩ := h.pumpOutbound texts pumped
    cases sent with
    | none =>
      cases taken
      exact kept
    | some sent =>
      cases taken
      exact sends _ _ rfl
  | sessionEnds nodeUuid sessionId =>
    cases taken
    exact h.setProcess ((h.processes nodeUuid).popSession texts _) (.inr rfl) rfl fun _ hx => hx
  | openConsole sessionId node vmUuid requestId =>
    cases taken
    exact h.openConsole proper.1
  | input sessionId frame =>
    obtain ⟨console, -, taken⟩ := Option.bind_eq_some_iff.mp taken
    cases taken
    refine Linked.groupSend ?_ (plain_consoleInput _ _) ⟨rfl, rfl⟩
    exact h.of_same rfl (fun _ hc => hc) (fun _ _ found => found) (fun _ mem => mem) rfl rfl rfl rfl rfl rfl
  | display sessionId =>
    obtain ⟨console, -, shown⟩ := Option.bind_eq_some_iff.mp taken
    exact h.display shown
  | dropData sessionId place =>
    cases taken
    exact h.of_same rfl (fun _ hc => hc) (fun _ _ found => found) (fun _ mem => mem) rfl rfl rfl rfl rfl rfl
  | closeConsole sessionId =>
    obtain ⟨console, -, rfl⟩ := Option.map_eq_some_iff.mp taken
    exact h.closeConsole

/-- The invariant holds along every run. -/
theorem linked_run (texts : ComparesTexts same) {es : List Event}
    (run : runFrom (Channel.step sha256 str same) es {} = some s)
    (proper : Along (Channel.step sha256 str same) Proper es {}) : Linked str same s :=
  runFrom_keeps (fun _ _ _ h proper taken => h.step texts proper taken) .start proper run

/-! ## Calls and requests -/

/-- What `send_operation` makes of an answer. -/
inductive Told.Ends : Response → Outcome → Prop
  | returns (id : Json) (data : Dict) : Told.Ends (.ok id data) (.returned (.obj data))
  | raises (id : Json) (text : String) : Told.Ends (.fail id text) (.agentOperationFailed
      (.str (if text = "" then "The agent reported an unspecified error." else text)) (.obj []))

/-- A response ends a call as it says. -/
theorem ends_ofMessage {request : Request} {response : Response} (answers : Answers request response) :
    Told.Ends response (.ofMessage response.toWire) := by
  cases answers with
  | ok data plain =>
    have told : Outcome.ofMessage (Response.ok request.requestId data).toWire = .returned (.obj data) := by
      cases data <;> rfl
    rw [told]
    exact .returns _ data
  | fail text =>
    have told : Outcome.ofMessage (Response.fail request.requestId text).toWire = .agentOperationFailed
        (.str (if text = "" then "The agent reported an unspecified error." else text)) (.obj []) := by
      have error : Json.orElse (some (.str text)) (.str "The agent reported an unspecified error.") =
          .str (if text = "" then "The agent reported an unspecified error." else text) := by
        by_cases empty : text = "" <;> simp [Json.orElse, Json.truthy, empty]
      exact congrArg (Outcome.agentOperationFailed · (.obj [])) error
    rw [told]
    exact .raises _ text

/-- Requests with one id are one. -/
theorem Asked.unique (h : Asked s) {x y : String × Dict} {id : String} (hx : x ∈ s.commands) (hy : y ∈ s.commands)
    (idx : requestIdOf x.2 = some id) (idy : requestIdOf y.2 = some id) : x = y :=
  eq_of_nodup_filterMap h.ids hx hy idx idy

/-- The id of a request is read back from the wire. -/
theorem requestIdOf_toWire (request : AgentRequest) (requestId : String) :
    requestIdOf (request.toWire requestId) = some requestId := rfl

/-- **A call that ends has sent its request, and ends for want of an answer or with what the handler of its own node has
come to for that request.** -/
theorem calls_end (sha256 : String → String) (texts : ComparesTexts same) (text : ∀ s, str (.str s) = s)
    {es : List Event} (run : runFrom (Channel.step sha256 str same) es {} = some s)
    (proper : Along (Channel.step sha256 str same) Proper es {}) : ∀ x ∈ s.ended, ∃ request,
      (x.1.node.uuid.str, AgentRequest.toWire request x.1.requestId) ∈ s.commands ∧ request.operation = x.1.operation ∧
      ((∃ message, x.2 = .agentUnavailable message) ∨ ∃ operation response,
        (s.processes x.1.node.uuid.str).transport.dispatched[operation]? = some (arrived request x.1.requestId) ∧
        (operation, response) ∈ (s.processes x.1.node.uuid.str).transport.sent ∧ Told.Ends response x.2) := by
  intro x hx
  have h := linked_run texts run proper
  obtain ⟨⟨request, sent, operation⟩, none | ⟨nodeUuid, y, hy, key, outcome⟩⟩ := h.told.ended x hx
  · exact ⟨request, sent, operation, .inl none⟩
  · refine ⟨request, sent, operation, .inr ?_⟩
    obtain ⟨request', requestId, sent', here, answers⟩ := h.origin hy
    rw [requestId_of_answers answers, text] at key
    subst key
    have one := h.asked.unique sent' sent (requestIdOf_toWire ..) (requestIdOf_toWire ..)
    obtain ⟨node, wire⟩ := Prod.mk.inj one
    have same : arrived request' x.1.requestId = arrived request x.1.requestId := by
      have read := congrArg requestIn wire
      rw [requestIn_toWire, requestIn_toWire] at read
      exact Option.some.inj read
    rw [node, same] at here
    exact ⟨y.1, y.2, here, node ▸ hy, outcome ▸ ends_ofMessage answers⟩

/-- A process has started some of the requests that were sent to its group, in their order. -/
theorem Linked.started (linked : Linked str same s) (n : String) :
    (s.processes n).transport.dispatched.Sublist ((s.commandsTo n).filterMap requestIn) := by
  rw [(linked.processes n).dispatched]
  exact List.Sublist.filterMap _ (linked.wired.flows n).head

/-- **A node's process starts the requests that were sent to it, in their order and each of them once at most, and
finishes each operation once at most**, over however many connections. -/
theorem started_once (sha256 : String → String) (str : Json → String) (texts : ComparesTexts same) {es : List Event}
    (run : runFrom (Channel.step sha256 str same) es {} = some s)
    (proper : Along (Channel.step sha256 str same) Proper es {}) (nodeUuid : String) :
    ((s.processes nodeUuid).transport.dispatched).Sublist ((s.commandsTo nodeUuid).filterMap requestIn) ∧
      ((s.commandsTo nodeUuid).filterMap requestIdOf).Nodup ∧
      (∀ operation, (s.processes nodeUuid).transport.finished.count operation ≤ 1) := by
  have h := linked_run texts run proper
  have orderly := h.processes nodeUuid
  refine ⟨h.started nodeUuid, ?_, fun operation => ?_⟩
  · have part : ((s.commandsTo nodeUuid).filterMap requestIdOf).Sublist
        (s.commands.filterMap fun x => requestIdOf x.2) := by
      rw [commandsTo, List.filterMap_map]
      exact List.Sublist.filterMap _ List.filter_sublist
    exact List.Sublist.nodup part h.asked.ids
  · have limit := orderly.once operation
    simp only [load] at limit
    split_ifs at limit <;> omega

end Runs

/-! ### One call -/

/-- `==` of two texts. -/
def sameText : Json → Json → Bool
  | .str a, .str b => a = b
  | _, _ => false

/-- The comparison of the examples is one of texts. -/
theorem comparesTexts_sameText : ComparesTexts sameText where
  left text value := by
    cases value <;> simp [sameText, eq_comm]
  right value text := by
    cases value <;> simp [sameText]

/-- The events of one call of START_VM. -/
def oneCall : List Event :=
  [.credential (.registerAgent ⟨1⟩ ⟨11⟩ "a"), .connect (Uuid.str ⟨1⟩) (some "npa_a"),
    .send ⟨⟨1⟩, "n"⟩ ⟨.startVm, "vm", []⟩ "r" none, .relay 0, .take (Uuid.str ⟨1⟩),
    .finish (Uuid.str ⟨1⟩) 0 (.ok []), .receive 0, .poll "r"]

theorem ran_oneCall : ∃ s, runFrom (Channel.step id Link.textOf sameText) oneCall {} = some s ∧
    s.ended.length = 1 ∧ (s.processes (Uuid.str ⟨1⟩)).transport.dispatched.length = 1 := by
  have ran : (runFrom (Channel.step id Link.textOf sameText) oneCall {}).any (fun s =>
      s.ended.length = 1 ∧ (s.processes (Uuid.str ⟨1⟩)).transport.dispatched.length = 1) := by decide +kernel
  obtain ⟨s, run, ends⟩ := (Option.any_eq_true _ _).mp ran
  exact ⟨s, run, of_decide_eq_true ends⟩

theorem proper_oneCall : Along (Channel.step id Link.textOf sameText) Proper oneCall {} := by decide +kernel

theorem calls_end_oneCall : ∃ s, runFrom (Channel.step id Link.textOf sameText) oneCall {} = some s ∧
    s.ended.length = 1 ∧ ∀ x ∈ s.ended, ∃ request,
      (x.1.node.uuid.str, AgentRequest.toWire request x.1.requestId) ∈ s.commands ∧ request.operation = x.1.operation ∧
      ((∃ message, x.2 = .agentUnavailable message) ∨ ∃ operation response,
        (s.processes x.1.node.uuid.str).transport.dispatched[operation]? = some (arrived request x.1.requestId) ∧
        (operation, response) ∈ (s.processes x.1.node.uuid.str).transport.sent ∧ Told.Ends response x.2) := by
  obtain ⟨s, run, one, -⟩ := ran_oneCall
  exact ⟨s, run, one, calls_end id comparesTexts_sameText (fun _ => rfl) run proper_oneCall⟩

theorem started_once_oneCall : ∃ s, runFrom (Channel.step id Link.textOf sameText) oneCall {} = some s ∧
    (s.processes (Uuid.str ⟨1⟩)).transport.dispatched.length = 1 ∧
    ((s.processes (Uuid.str ⟨1⟩)).transport.dispatched).Sublist ((s.commandsTo (Uuid.str ⟨1⟩)).filterMap requestIn) ∧
      ((s.commandsTo (Uuid.str ⟨1⟩)).filterMap requestIdOf).Nodup ∧
      (∀ operation, (s.processes (Uuid.str ⟨1⟩)).transport.finished.count operation ≤ 1) := by
  obtain ⟨s, run, -, one⟩ := ran_oneCall
  exact ⟨s, run, one, started_once id Link.textOf comparesTexts_sameText run proper_oneCall (Uuid.str ⟨1⟩)⟩

end NodePilot.Channel
