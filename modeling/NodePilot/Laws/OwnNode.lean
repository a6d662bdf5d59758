import NodePilot.Laws.ConnectionFlag

/-!
# For which node an agent speaks

A response is found by its request id and console data by their session id, and both ids are what the
message says. Nothing ties them to the connection that the message came on, and a connection that was
accepted stays open when its agent is revoked. `Discreet` says of a step that no message names what
another node, or a node whose agent was revoked, has been asked for.
-/

namespace NodePilot.Link

open Lib

/-- The key that a message makes of one of its fields. -/
def keyOf (str : Json → String) (message : Dict) (field : String) : Option String :=
  match message.get? field with
  | some value => if value.truthy then some (str value) else none
  | none => none

/-- The message was received on a connection that was accepted for the node, and its agent had not
been revoked since. -/
def Received.isFrom (r : Received) (nodeUuid : String) : Prop :=
  r.connection.nodeUuid = nodeUuid ∧ r.revoked = false

/-- Whatever calls have returned or raised, and whatever consoles were given, was made of messages
from the node that it is about. Where `AgentUnavailable` is raised, no message has a part in it. -/
structure Owned (s : Link) : Prop where
  ended : ∀ e ∈ s.ended,
    (e.source = none ∧ ∃ message, e.outcome = .agentUnavailable message) ∨
    ∃ r, e.source = some r ∧ e.outcome = .ofMessage r.message ∧ Received.isFrom r e.node.uuid.str
  relayed : ∀ x ∈ s.relayed, Received.isFrom x.source x.console.nodeUuid

/-- A message that names a call under way, or a console, comes on a connection of its node, whose
agent has not been revoked since; and no response waits under the id of a new call. -/
def Discreet (str : Json → String) : Event → Link → Prop
  | .receive id (.object message), s => ∀ c ∈ s.connections, c.id = id →
      if isConsoleData message then
        ∀ console ∈ s.consoles, keyOf str message "session_id" = some console.sessionId →
          c.nodeUuid = console.nodeUuid ∧ c.id ∉ s.revoked
      else
        ∀ call ∈ s.calls, keyOf str message "request_id" = some call.requestId →
          c.nodeUuid = call.node.uuid.str ∧ c.id ∉ s.revoked
  | .send _ _ requestId _, s => (s.responses.at? s.now requestId).isNone
  | _, _ => True

instance (str : Json → String) : (e : Event) → (s : Link) → Decidable (Discreet str e s)
  | .receive _ (.object _), s => inferInstanceAs (Decidable (∀ c ∈ s.connections, _))
  | .send _ _ _ _, _ => inferInstanceAs (Decidable (_ = true))
  | .receive _ .empty, _ | .receive _ .malformed, _ | .receive _ .notObject, _ | .tick _, _
  | .connect _ _, _ | .disconnect _, _ | .poll _, _ | .openConsole _ _, _ | .closeConsole _, _
  | .credential _, _ => inferInstanceAs (Decidable True)

/-- **The invariant**: what waits under the id of a call comes from the call's node. -/
structure Loyal (s : Link) : Prop extends Owned s where
  waiting : ∀ call ∈ s.calls, ∀ lease, s.responses.at? s.now call.requestId = some lease →
    Received.isFrom lease.token call.node.uuid.str

section Steps

variable {s s' : Link} {sha256 : String → String} {str : Json → String}

/-- A step that adds nothing to what was made of messages. -/
theorem Loyal.of_fewer (h : Loyal s) (ended : s'.ended = s.ended) (relayed : s'.relayed = s.relayed)
    (calls : ∀ call ∈ s'.calls, call ∈ s.calls)
    (responses : ∀ key lease, s'.responses.at? s'.now key = some lease →
      s.responses.at? s.now key = some lease) : Loyal s' where
  ended := ended ▸ h.ended
  relayed := relayed ▸ h.relayed
  waiting call hcall lease found := h.waiting call (calls call hcall) lease (responses _ _ found)

theorem Loyal.connect {nodeUuid : String} {token : Option String} (h : Loyal s) :
    Loyal (s.connect sha256 nodeUuid token) := by
  unfold Link.connect
  split
  · exact h
  · exact h.of_fewer rfl rfl (fun _ hc => hc) fun _ _ found => found

theorem Loyal.tick {milliseconds : Nat} (h : Loyal s) :
    Loyal { s with now := s.now + milliseconds } :=
  h.of_fewer rfl rfl (fun _ hc => hc) fun _ _ found =>
    Leases.at?_of_later found (Nat.le_add_right _ _)

theorem Loyal.refresh {connection : Connection} (h : Loyal s) : Loyal (s.refresh connection) :=
  h.of_fewer rfl rfl (fun _ hc => hc) fun _ _ found => found

theorem Loyal.credential {request : Agents.Request} (h : Loyal s) :
    Loyal (s.credential sha256 request) := by
  unfold Link.credential
  split <;> exact h.of_fewer rfl rfl (fun _ hc => hc) fun _ _ found => found

/-- Console data goes to the consoles that it names. -/
theorem Loyal.relayConsoleData {source : Received} (h : Loyal s)
    (own : ∀ console ∈ s.consoles, keyOf str source.message "session_id" = some console.sessionId →
      Received.isFrom source console.nodeUuid) : Loyal (s.relayConsoleData str source) := by
  unfold Link.relayConsoleData
  split
  · exact h
  · next sessionId found =>
    split
    · next truthy =>
      refine ⟨⟨h.ended, ?_⟩, h.waiting⟩
      intro x hx
      rcases List.mem_append.mp hx with new | old
      · obtain ⟨console, hconsole, rfl⟩ := List.mem_map.mp new
        obtain ⟨hconsole, same⟩ := List.mem_filter.mp hconsole
        refine own console hconsole ?_
        simp only [decide_eq_true_eq] at same
        simp [keyOf, found, truthy, same]
      · exact h.relayed x old
    · exact h

/-- A response is kept under the id that it names. -/
theorem Loyal.keepResponse {source : Received} (h : Loyal s)
    (own : ∀ call ∈ s.calls, keyOf str source.message "request_id" = some call.requestId →
      Received.isFrom source call.node.uuid.str) : Loyal (s.keepResponse str source) := by
  unfold Link.keepResponse
  split
  · exact h
  · next requestId found =>
    split
    · next truthy =>
      refine ⟨⟨h.ended, h.relayed⟩, ?_⟩
      intro call hcall lease kept
      rw [Leases.at?_set (by decide)] at kept
      split at kept
      · next same =>
        cases kept
        exact own call hcall (by simp [keyOf, found, truthy, same])
      · exact h.waiting call hcall lease kept
    · exact h

theorem Loyal.receive {id : Nat} {connection : Connection} {frame : Frame} (h : Loyal s)
    (found : s.connections.find? (·.id = id) = some connection)
    (discreet : Discreet str (.receive id frame) s) : Loyal (s.receive str connection frame) := by
  cases frame with
  | empty | malformed => exact h
  | notObject => exact h.refresh
  | object message =>
    have here := discreet connection (List.mem_of_find?_eq_some found) (by simpa using List.find?_some found)
    simp only [Link.receive]
    by_cases console : isConsoleData message
    · rw [if_pos console] at here ⊢
      refine h.refresh.relayConsoleData ?_
      intro c hc named
      obtain ⟨same, active⟩ := here c hc named
      exact ⟨same, decide_eq_false active⟩
    · rw [if_neg console] at here ⊢
      refine h.refresh.keepResponse ?_
      intro call hcall named
      obtain ⟨same, active⟩ := here call hcall named
      exact ⟨same, decide_eq_false active⟩

theorem Loyal.send {node : Node} {operation : OperationType} {requestId : String}
    {timeout : Option Nat} (h : Loyal s)
    (discreet : Discreet str (.send node operation requestId timeout) s) :
    Loyal (s.send node operation requestId timeout) := by
  unfold Link.send
  split
  · next message _ =>
    refine ⟨⟨?_, h.relayed⟩, h.waiting⟩
    intro e he
    rcases List.mem_cons.mp he with rfl | old
    · exact .inl ⟨rfl, message, rfl⟩
    · exact h.ended e old
  · refine ⟨⟨h.ended, h.relayed⟩, ?_⟩
    intro call hcall lease found
    rcases List.mem_cons.mp hcall with rfl | old
    · -- nothing waits under the id of the new call
      have free : s.responses.at? s.now requestId = none := Option.isNone_iff_eq_none.mp discreet
      rw [show s.responses.at? s.now requestId = some lease from found] at free
      cases free
    · exact h.waiting call old lease found

theorem Loyal.poll {call : Call} (h : Loyal s) (hcall : call ∈ s.calls) : Loyal (s.poll call) := by
  unfold Link.poll
  split
  · split
    · next response found =>
      refine ⟨⟨?_, h.relayed⟩, ?_⟩
      · intro e he
        rcases List.mem_cons.mp he with rfl | old
        · exact .inr ⟨response.token, rfl, rfl, h.waiting call hcall response found⟩
        · exact h.ended e old
      · intro other hother lease waits
        rw [show (Link.endCall _ call _ _).responses = s.responses.del call.requestId from rfl,
          Leases.at?_del] at waits
        split at waits
        · cases waits
        · exact h.waiting other (List.mem_filter.mp hother).1 lease waits
    · exact h
  · refine ⟨⟨?_, h.relayed⟩, ?_⟩
    · intro e he
      rcases List.mem_cons.mp he with rfl | old
      · exact .inl ⟨rfl, _, rfl⟩
      · exact h.ended e old
    · intro other hother lease waits
      exact h.waiting other (List.mem_filter.mp hother).1 lease waits

theorem Loyal.step {e : Event} (h : Loyal s) (discreet : Discreet str e s)
    (hstep : step sha256 str e s = some s') : Loyal s' := by
  cases e with
  | tick milliseconds =>
    cases hstep
    exact h.tick
  | connect nodeUuid token =>
    cases hstep
    exact h.connect
  | disconnect id =>
    obtain ⟨connection, -, rfl⟩ := Option.map_eq_some_iff.mp hstep
    exact h.of_fewer rfl rfl (fun _ hc => hc) fun _ _ found => found
  | receive id frame =>
    obtain ⟨connection, found, rfl⟩ := Option.map_eq_some_iff.mp hstep
    exact h.receive found discreet
  | send node operation requestId timeout =>
    cases hstep
    exact h.send discreet
  | poll requestId =>
    obtain ⟨call, found, rfl⟩ := Option.map_eq_some_iff.mp hstep
    exact h.poll (List.mem_of_find?_eq_some found)
  | openConsole | closeConsole =>
    cases hstep
    exact h.of_fewer rfl rfl (fun _ hc => hc) fun _ _ found => found
  | credential request =>
    cases hstep
    exact h.credential

end Steps

/-- **When agents speak for their own nodes only.** Over any number of agents and any sequence of
their messages, of calls, consoles, revocations and clock advances: if every step is discreet, then
at every time each call of `send_operation` that has ended was ended by a message received on a
connection of its own node, or by no message, each console was given only what came on a connection
of its VM's node, and no message of an agent that had been revoked has a part in either. -/
theorem agents_speak_for_own_node (sha256 : String → String) (str : Json → String)
    (es : List Event) (discreet : Along (step sha256 str) (Discreet str) es {}) :
    ∀ s ∈ visited (step sha256 str) es {}, Owned s := by
  have first : Loyal {} := ⟨⟨nofun, nofun⟩, nofun⟩
  intro s hs
  have loyal : Loyal s :=
    visited_keeps (I := Loyal) (fun _ _ _ h here hstep => h.step here hstep) first discreet hs
  exact loyal.toOwned

/-- Two nodes with their agents connected: the connection 0 is of the first, 1 of the second. -/
def twoAgents : List Event :=
  [.credential (.registerAgent ⟨1⟩ ⟨11⟩ "a"), .credential (.registerAgent ⟨2⟩ ⟨12⟩ "b"),
    .connect (Uuid.str ⟨1⟩) (some "npa_a"), .connect (Uuid.str ⟨2⟩) (some "npa_b")]

/-- The response to a request, as an agent sends it. -/
def responseTo (requestId : String) : Dict := [("request_id", .str requestId), ("success", .bool true)]

/-- What an agent sends of a console. -/
def consoleData (sessionId : String) : Dict :=
  [("type", .str "console_data"), ("session_id", .str sessionId), ("data", .str "aGk=")]

/-- A call to the first node and a console on it, answered on the connection `id`. -/
def answeredOn (id : Nat) : List Event :=
  [.send ⟨⟨1⟩, "n"⟩ .startVm "r1" none, .openConsole "s1" (Uuid.str ⟨1⟩),
    .receive id (.object (responseTo "r1")), .receive id (.object (consoleData "s1")), .poll "r1"]

theorem agents_speak_own_answer :
    Along (step id textOf) (Discreet textOf) (twoAgents ++ answeredOn 0) {} ∧
      (∃ s, runFrom (step id textOf) (twoAgents ++ answeredOn 0) {} = some s ∧
        s.ended.length = 1 ∧ s.relayed.length = 1) ∧
      ∀ s ∈ visited (step id textOf) (twoAgents ++ answeredOn 0) {}, Owned s := by
  have discreet : Along (step id textOf) (Discreet textOf) (twoAgents ++ answeredOn 0) {} := by decide
  exact ⟨discreet, ⟨_, rfl, rfl, rfl⟩, agents_speak_for_own_node id textOf _ discreet⟩

/-- The first node's agent is revoked before it answers. -/
def revokedAgent : List Event :=
  [.send ⟨⟨1⟩, "n"⟩ .startVm "r1" none, .openConsole "s1" (Uuid.str ⟨1⟩),
    .credential (.revokeAgent ⟨1⟩ 0), .receive 0 (.object (responseTo "r1")),
    .receive 0 (.object (consoleData "s1")), .poll "r1"]

/-- The second node's agent ends the call to the first node and writes on its console, and so does
an agent that was revoked. -/
theorem agents_speak_for_others :
    (∃ s ∈ visited (step id textOf) (twoAgents ++ answeredOn 1) {},
      (∃ e ∈ s.ended, ∃ r, e.source = some r ∧ e.node.uuid = ⟨1⟩ ∧
        r.connection.nodeUuid = Uuid.str ⟨2⟩) ∧
      (∃ x ∈ s.relayed, x.console.nodeUuid = Uuid.str ⟨1⟩ ∧
        x.source.connection.nodeUuid = Uuid.str ⟨2⟩) ∧ ¬ Owned s) ∧
    ∃ s ∈ visited (step id textOf) (twoAgents ++ revokedAgent) {},
      (∃ e ∈ s.ended, ∃ r, e.source = some r ∧ r.revoked = true) ∧
      (∃ x ∈ s.relayed, x.source.revoked = true) ∧ ¬ Owned s := by
  constructor
  · refine ⟨_, List.mem_of_getElem? (i := 9) rfl, ⟨_, List.mem_cons_self, _, rfl, rfl, rfl⟩,
      ⟨_, List.mem_cons_self, rfl, rfl⟩, ?_⟩
    intro owned
    have same := (owned.relayed _ List.mem_cons_self).1
    revert same
    decide
  · refine ⟨_, List.mem_of_getElem? (i := 10) rfl, ⟨_, List.mem_cons_self, _, rfl, rfl⟩,
      ⟨_, List.mem_cons_self, rfl⟩, ?_⟩
    intro owned
    cases (owned.relayed _ List.mem_cons_self).2

end NodePilot.Link
