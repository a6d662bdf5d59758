import NodePilot.AgentLink

/-!
# The connection flag

One Redis key stands for all the connections of a node. Only frames from the agent keep it alive,
while heartbeats travel over HTTP; and whichever connection ends deletes it. `Steady` says of a step
that it neither lets the flag of a connected node run out nor ends one of several connections. The
flag tells the truth all along a run exactly when all its steps are steady.
-/

namespace NodePilot

open Lib

/-- A consumer is accepted only for the node of the agent that its token belongs to. -/
theorem Agents.node_of_consumerAuthenticate {sha256 : String → String} {agents : List AgentRow}
    {nodeUuid : String} {token : Option String} {agent : AgentRow}
    (h : consumerAuthenticate sha256 agents nodeUuid token = some agent) :
    agent.node.str = nodeUuid := by
  obtain ⟨raw, -, h⟩ := Option.bind_eq_some_iff.mp h
  split at h
  · cases h
  · obtain ⟨found, -, h⟩ := Option.bind_eq_some_iff.mp h
    split at h
    · cases h
    · next same =>
      cases h
      exact not_not.mp same

namespace Link

/-- The node has a consumer that is accepted and not disconnected. -/
def HasConnection (s : Link) (nodeUuid : String) : Prop :=
  ∃ c ∈ s.connections, c.nodeUuid = nodeUuid

/-- The flag tells the truth, and no call to a connected agent is refused. -/
structure Truthful (s : Link) : Prop where
  flag : ∀ node, s.isAgentConnected node ↔ s.HasConnection node.uuid.str
  admitted : ∀ node, s.HasConnection node.uuid.str →
    (Agents.ofNode s.agents node.uuid).any AgentRow.isUsable → s.unavailable node = none

/-- The clock stops short of the end of the flag of a node that has a connection, and a connection
that ends is the only one of its node. -/
def Steady : Event → Link → Prop
  | .tick milliseconds, s => ∀ c ∈ s.connections,
      (s.flags c.nodeUuid).any fun lease => s.now + milliseconds < lease.expires
  | .disconnect id, s => ∀ c ∈ s.connections, c.id = id →
      ∀ c' ∈ s.connections, c'.nodeUuid = c.nodeUuid → c'.id = id
  | _, _ => True

instance : (e : Event) → (s : Link) → Decidable (Steady e s)
  | .tick _, s => inferInstanceAs (Decidable (∀ c ∈ s.connections, _))
  | .disconnect _, s => inferInstanceAs (Decidable (∀ c ∈ s.connections, _))
  | .connect _ _, _ | .receive _ _, _ | .send _ _ _ _, _ | .poll _, _ | .openConsole _ _, _
  | .closeConsole _, _ | .credential _, _ => inferInstanceAs (Decidable True)

/-- **The invariant**: a key is set exactly for the nodes that have a connection; the connections
have distinct ids, and each is for the text of a uuid. -/
structure Flagged (s : Link) : Prop where
  flag : ∀ nodeUuid, (s.flags.at? s.now nodeUuid).isSome ↔ s.HasConnection nodeUuid
  ids : (s.connections.map Connection.id).Nodup
  below : ∀ c ∈ s.connections, c.id < s.accepted
  ofUuid : ∀ c ∈ s.connections, ∃ uuid : Uuid, c.nodeUuid = uuid.str

section Steps

variable {s s' : Link} {sha256 : String → String} {str : Json → String}

theorem Truthful.of_flag
    (h : ∀ node : Node, s.isAgentConnected node ↔ s.HasConnection node.uuid.str) : Truthful s := by
  refine ⟨h, ?_⟩
  intro node connected usable
  simp [unavailable, usable, (h node).mpr connected]

theorem Flagged.truthful (h : Flagged s) : Truthful s := .of_flag fun node => h.flag node.uuid.str

/-- A step that touches neither the clock nor the flags nor the connections. -/
theorem Flagged.of_same (h : Flagged s) (now : s'.now = s.now) (flags : s'.flags = s.flags)
    (connections : s'.connections = s.connections) (accepted : s'.accepted = s.accepted) :
    Flagged s' := by
  refine ⟨?_, ?_, ?_, ?_⟩
  · intro nodeUuid
    rw [now, flags, HasConnection, connections]
    exact h.flag nodeUuid
  · rw [connections]
    exact h.ids
  · rw [connections, accepted]
    exact h.below
  · rw [connections]
    exact h.ofUuid

theorem Flagged.connect {nodeUuid : String} {token : Option String} (h : Flagged s) :
    Flagged (s.connect sha256 nodeUuid token) := by
  unfold Link.connect
  split
  · exact h
  · next agent found =>
    have text : ∃ uuid : Uuid, nodeUuid = uuid.str :=
      ⟨agent.node, (Agents.node_of_consumerAuthenticate found).symm⟩
    refine ⟨?_, ?_, ?_, ?_⟩
    · intro other
      rw [Leases.at?_set (by decide)]
      by_cases same : other = nodeUuid
      · simp [HasConnection, same]
      · have rest := h.flag other
        simp only [HasConnection] at rest ⊢
        rw [if_neg same, rest]
        simp [Ne.symm same]
    · rw [List.map_append, List.nodup_append]
      refine ⟨h.ids, List.nodup_singleton _, ?_⟩
      intro i hi j hj
      obtain ⟨c, hc, rfl⟩ := List.mem_map.mp hi
      rw [List.mem_singleton.mp hj]
      exact Nat.ne_of_lt (h.below c hc)
    · intro c hc
      rcases List.mem_append.mp hc with old | new
      · exact Nat.lt_succ_of_lt (h.below c old)
      · rw [List.mem_singleton.mp new]
        exact Nat.lt_succ_self _
    · intro c hc
      rcases List.mem_append.mp hc with old | new
      · exact h.ofUuid c old
      · rw [List.mem_singleton.mp new]
        exact text

/-- A frame keeps the flag of a node that has it. -/
theorem Flagged.refresh {connection : Connection} (h : Flagged s) :
    Flagged (s.refresh connection) := by
  refine ⟨?_, h.ids, h.below, h.ofUuid⟩
  intro nodeUuid
  rw [← show s.HasConnection nodeUuid ↔ (s.refresh connection).HasConnection nodeUuid from Iff.rfl,
    ← h.flag nodeUuid]
  simp only [Link.refresh]
  rw [Leases.at?_pexpire (by decide)]
  by_cases same : nodeUuid = connection.nodeUuid <;> simp [same]

theorem Flagged.relayConsoleData {source : Received} (h : Flagged s) :
    Flagged (s.relayConsoleData str source) := by
  unfold Link.relayConsoleData
  split
  · exact h
  · split
    · exact h.of_same rfl rfl rfl rfl
    · exact h

theorem Flagged.keepResponse {source : Received} (h : Flagged s) :
    Flagged (s.keepResponse str source) := by
  unfold Link.keepResponse
  split
  · exact h
  · split
    · exact h.of_same rfl rfl rfl rfl
    · exact h

theorem Flagged.receive {connection : Connection} {frame : Frame} (h : Flagged s) :
    Flagged (s.receive str connection frame) := by
  cases frame with
  | empty | malformed => exact h
  | notObject => exact h.refresh
  | object message =>
    simp only [Link.receive]
    split
    · exact h.refresh.relayConsoleData
    · exact h.refresh.keepResponse

theorem Flagged.send {node : Node} {operation : OperationType} {requestId : String}
    {timeout : Option Nat} (h : Flagged s) : Flagged (s.send node operation requestId timeout) := by
  unfold Link.send
  split <;> exact h.of_same rfl rfl rfl rfl

theorem Flagged.poll {call : Call} (h : Flagged s) : Flagged (s.poll call) := by
  unfold Link.poll
  split
  · split
    · exact h.of_same rfl rfl rfl rfl
    · exact h
  · exact h.of_same rfl rfl rfl rfl

theorem Flagged.credential {request : Agents.Request} (h : Flagged s) :
    Flagged (s.credential sha256 request) := by
  unfold Link.credential
  split <;> exact h.of_same rfl rfl rfl rfl

/-! ## The steps that may not be steady -/

/-- The flags tell the truth after a while exactly if none of them ran out in it. -/
theorem Flagged.tick {milliseconds : Nat} (h : Flagged s) :
    (Steady (.tick milliseconds) s → Flagged { s with now := s.now + milliseconds }) ∧
    (Truthful { s with now := s.now + milliseconds } → Steady (.tick milliseconds) s) := by
  constructor
  · intro steady
    refine ⟨?_, h.ids, h.below, h.ofUuid⟩
    intro nodeUuid
    constructor
    · intro set
      obtain ⟨lease, found⟩ := Option.isSome_iff_exists.mp set
      exact (h.flag nodeUuid).mp
        (Option.isSome_iff_exists.mpr ⟨lease, Leases.at?_of_later found (Nat.le_add_right _ _)⟩)
    · rintro ⟨c, hc, rfl⟩
      obtain ⟨lease, found, live⟩ := (Option.any_eq_true _ _).mp (steady c hc)
      exact Option.isSome_iff_exists.mpr ⟨lease, Leases.at?_eq_some.mpr ⟨found, by simpa using live⟩⟩
  · intro truthful c hc
    obtain ⟨uuid, text⟩ := h.ofUuid c hc
    have set := (truthful.flag ⟨uuid, ""⟩).mpr ⟨c, hc, text⟩
    obtain ⟨lease, found⟩ := Option.isSome_iff_exists.mp set
    obtain ⟨found, live⟩ := Leases.at?_eq_some.mp found
    rw [text]
    exact (Option.any_eq_true _ _).mpr ⟨lease, found, by simpa using live⟩

/-- The flag of a node tells the truth after the end of a connection exactly if it was the node's
only one. -/
theorem Flagged.disconnect {id : Nat} {connection : Connection} (h : Flagged s)
    (found : s.connections.find? (·.id = id) = some connection) :
    (Steady (.disconnect id) s → Flagged (s.disconnect connection)) ∧
    (Truthful (s.disconnect connection) → Steady (.disconnect id) s) := by
  have hmem : connection ∈ s.connections := List.mem_of_find?_eq_some found
  have hid : connection.id = id := by simpa using List.find?_some found
  have only : ∀ c ∈ s.connections, c.id = id → c = connection := by
    intro c hc same
    exact List.inj_on_of_nodup_map h.ids hc hmem (same.trans hid.symm)
  constructor
  · intro steady
    refine ⟨?_, ?_, ?_, ?_⟩
    · intro nodeUuid
      simp only [Link.disconnect]
      rw [Leases.at?_del]
      by_cases same : nodeUuid = connection.nodeUuid
      · -- the connection was the only one of its node
        rw [if_pos same]
        refine iff_of_false (by simp) ?_
        rintro ⟨c, hc, hnode⟩
        obtain ⟨hc, other⟩ := List.mem_filter.mp hc
        have := steady connection hmem hid c hc (hnode.trans same)
        simp [hid, this] at other
      · rw [if_neg same, h.flag nodeUuid]
        constructor
        · rintro ⟨c, hc, rfl⟩
          refine ⟨c, List.mem_filter.mpr ⟨hc, ?_⟩, rfl⟩
          have : c.id ≠ connection.id := fun e => same (by rw [only c hc (e.trans hid)])
          simpa using this
        · rintro ⟨c, hc, rfl⟩
          exact ⟨c, (List.mem_filter.mp hc).1, rfl⟩
    · exact (List.filter_sublist.map Connection.id).nodup h.ids
    · exact fun c hc => h.below c (List.mem_filter.mp hc).1
    · exact fun c hc => h.ofUuid c (List.mem_filter.mp hc).1
  · intro truthful c hc same c' hc' hnode
    obtain rfl := only c hc same
    by_contra other
    obtain ⟨uuid, text⟩ := h.ofUuid c hc
    have left : (s.disconnect c).HasConnection uuid.str := by
      refine ⟨c', List.mem_filter.mpr ⟨hc', ?_⟩, hnode.trans text⟩
      simpa [hid] using other
    have set := (truthful.flag ⟨uuid, ""⟩).mpr left
    simp [isAgentConnected, Link.disconnect, text] at set

end Steps

/-! ## All the steps -/

theorem Flagged.step {sha256 : String → String} {str : Json → String} {e : Event} {s s' : Link}
    (h : Flagged s) (hstep : step sha256 str e s = some s') :
    (Steady e s → Flagged s') ∧ (Truthful s' → Steady e s) := by
  cases e with
  | tick milliseconds =>
    cases hstep
    exact h.tick
  | disconnect id =>
    obtain ⟨connection, found, rfl⟩ := Option.map_eq_some_iff.mp hstep
    exact h.disconnect found
  | connect nodeUuid token =>
    cases hstep
    exact ⟨fun _ => h.connect, fun _ => trivial⟩
  | receive id frame =>
    obtain ⟨connection, -, rfl⟩ := Option.map_eq_some_iff.mp hstep
    exact ⟨fun _ => h.receive, fun _ => trivial⟩
  | send node operation requestId timeout =>
    cases hstep
    exact ⟨fun _ => h.send, fun _ => trivial⟩
  | poll requestId =>
    obtain ⟨call, -, rfl⟩ := Option.map_eq_some_iff.mp hstep
    exact ⟨fun _ => h.poll, fun _ => trivial⟩
  | openConsole | closeConsole =>
    cases hstep
    exact ⟨fun _ => h.of_same rfl rfl rfl rfl, fun _ => trivial⟩
  | credential request =>
    cases hstep
    exact ⟨fun _ => h.credential, fun _ => trivial⟩

/-- A disconnect of a connection that is not open does not happen. -/
theorem steady_of_refused {sha256 : String → String} {str : Json → String} {e : Event} {s : Link}
    (h : step sha256 str e s = none) : Steady e s := by
  cases e with
  | disconnect id =>
    intro c hc same
    have missing := List.find?_eq_none.mp (Option.map_eq_none_iff.mp h) c hc
    simp [same] at missing
  | tick milliseconds => cases h
  | _ => trivial

/-- **When the connection flag tells the truth.** Over any sequence of connects, disconnects,
messages, calls and clock advances: at every time `is_agent_connected` holds for exactly the nodes
with an accepted connection that has not been disconnected, and no call to a connected agent is
refused, if and only if every step was steady. -/
theorem flag_truthful_iff (sha256 : String → String) (str : Json → String) (es : List Event) :
    (∀ s ∈ visited (step sha256 str) es {}, Truthful s) ↔
      Along (step sha256 str) Steady es {} := by
  have first : Flagged {} :=
    ⟨fun _ => by simp [HasConnection, Leases.at?], List.nodup_nil, nofun, nofun⟩
  exact visited_iff (F := fun _ _ => True) (fun _ h => h.truthful) (fun _ _ _ h _ hs => h.step hs)
    (fun _ _ refused => steady_of_refused refused) first (Along.of_forall (fun _ _ _ => trivial) _)

/-- `str` of a text. -/
def textOf : Json → String
  | .str s => s
  | _ => ""

/-- A node whose agent has the token `npa_a`. -/
def registered : List Event := [.credential (.registerAgent ⟨1⟩ ⟨11⟩ "a")]

/-- The agent sends a frame every now and then. -/
def lively : List Event :=
  registered ++ [.connect (Uuid.str ⟨1⟩) (some "npa_a"), .tick 60000, .receive 0 (.object []),
    .tick 119999, .disconnect 0]

example : Along (step id textOf) Steady lively {} := by decide

/-- The agent connects and stays silent for two minutes. -/
def idle : List Event := registered ++ [.connect (Uuid.str ⟨1⟩) (some "npa_a"), .tick 120000]

/-- The agent connects again, and the end of its old connection is handled after that. -/
def reconnect : List Event :=
  registered ++ [.connect (Uuid.str ⟨1⟩) (some "npa_a"), .connect (Uuid.str ⟨1⟩) (some "npa_a"),
    .disconnect 0]

/-- A connected agent is refused: after two silent minutes, and after a reconnect. -/
theorem flag_untruthful :
    (∃ s ∈ visited (step id textOf) idle {}, s.HasConnection (Uuid.str ⟨1⟩) ∧
      s.unavailable ⟨⟨1⟩, "n"⟩ = some "Node n's agent is not currently connected." ∧
      ¬ Truthful s) ∧
    ∃ s ∈ visited (step id textOf) reconnect {}, s.HasConnection (Uuid.str ⟨1⟩) ∧
      s.unavailable ⟨⟨1⟩, "n"⟩ = some "Node n's agent is not currently connected." ∧
      ¬ Truthful s := by
  have refused {s : Link} (connected : s.HasConnection (Uuid.str ⟨1⟩))
      (usable : (Agents.ofNode s.agents ⟨1⟩).any AgentRow.isUsable)
      (h : s.unavailable ⟨⟨1⟩, "n"⟩ = some "Node n's agent is not currently connected.") :
      ¬ Truthful s := by
    intro truthful
    rw [truthful.admitted ⟨⟨1⟩, "n"⟩ connected usable] at h
    cases h
  constructor
  · refine ⟨_, List.mem_of_getElem? (i := 3) rfl, ⟨_, List.mem_of_getElem? (i := 0) rfl, rfl⟩, rfl, ?_⟩
    exact refused ⟨_, List.mem_of_getElem? (i := 0) rfl, rfl⟩ rfl rfl
  · refine ⟨_, List.mem_of_getElem? (i := 4) rfl, ⟨_, List.mem_of_getElem? (i := 0) rfl, rfl⟩, rfl, ?_⟩
    exact refused ⟨_, List.mem_of_getElem? (i := 0) rfl, rfl⟩ rfl rfl

end Link

end NodePilot
