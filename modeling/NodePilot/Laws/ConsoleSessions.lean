import NodePilot.Laws.RemoteCalls

/-!
# Console sessions

Each session is opened by one command, at one node, and has one consumer. What is sent to a node as input for a session
was typed by the browser of that session, and the session was opened at that node.
-/

namespace NodePilot

open Lib Agent

namespace Channel

open AgentProcess

open Agent.Transport (sessionOf opens)

/-! ## Sessions -/

/-- OPEN_CONSOLE was sent for the session to the node. -/
def OpenedAt (s : Channel) (nodeUuid sessionId : String) : Prop :=
  ∃ x ∈ s.commands, x.1 = nodeUuid ∧ sessionOf x.2 = some sessionId

/-- The invariant of the sessions: each is opened by one command, and has one consumer. -/
structure Sessions (s : Channel) : Prop where
  once : (s.commands.filterMap fun x => sessionOf x.2).Nodup
  consoles : ∀ c ∈ s.consoles, s.OpenedAt c.nodeUuid c.sessionId
  joined : ∀ c ∈ s.link.consoles, s.OpenedAt c.nodeUuid c.sessionId
  apart : (s.consoles.map ConsoleConsumer.sessionId).Nodup
  apartJoined : (s.link.consoles.map Console.sessionId).Nodup

section Sessions

variable {s s' : Channel}

/-- Only OPEN_CONSOLE opens a session. -/
theorem sessionOf_toWire {request : AgentRequest} (requestId : String) (other : request.operation ≠ .openConsole) :
    sessionOf (request.toWire requestId) = none := by
  rw [sessionOf, requestIn_toWire, Option.bind_some, opens, if_neg other]

/-- OPEN_CONSOLE opens the session it names. -/
theorem sessionOf_openConsole (sessionId vmUuid requestId : String) :
    sessionOf ((NodePilot.openConsole sessionId vmUuid).toWire requestId) = some sessionId := by
  rw [sessionOf, requestIn_toWire]
  rfl

theorem sessionOf_consoleInput (sessionId : String) (frame : BrowserFrame) :
    sessionOf (consoleInput sessionId frame) = none := rfl

theorem sessionOf_consoleClose (sessionId : String) : sessionOf (consoleClose sessionId) = none := rfl

/-- A session stays opened where it was. -/
theorem OpenedAt.mono {nodeUuid sessionId : String} (h : s.OpenedAt nodeUuid sessionId)
    (more : ∀ x ∈ s.commands, x ∈ s'.commands) : s'.OpenedAt nodeUuid sessionId := by
  obtain ⟨x, hx, opened⟩ := h
  exact ⟨x, more x hx, opened⟩

/-- A session belongs to one node. -/
theorem Sessions.unique (h : Sessions s) {n n' sessionId : String} (opened : s.OpenedAt n sessionId)
    (opened' : s.OpenedAt n' sessionId) : n = n' := by
  obtain ⟨x, hx, rfl, named⟩ := opened
  obtain ⟨x', hx', rfl, named'⟩ := opened'
  rw [eq_of_nodup_filterMap h.once hx hx' named named']

/-- A step that opens no console. -/
theorem Sessions.of_fewer (h : Sessions s) (commands : s'.commands = s.commands)
    (consoles : (s'.consoles.map fun c => (c.nodeUuid, c.sessionId)).Sublist
      (s.consoles.map fun c => (c.nodeUuid, c.sessionId)))
    (joined : s'.link.consoles.Sublist s.link.consoles) : Sessions s' where
  once := commands ▸ h.once
  consoles c hc := by
    obtain ⟨c', hc', same⟩ := List.mem_map.mp (consoles.subset (List.mem_map_of_mem hc))
    obtain ⟨node, session⟩ := Prod.mk.inj same
    have opened := h.consoles c' hc'
    rw [node, session] at opened
    exact opened.mono fun _ hx => commands ▸ hx
  joined c hc := (h.joined c (joined.subset hc)).mono fun _ hx => commands ▸ hx
  apart := by
    have fewer := consoles.map Prod.snd
    rw [List.map_map, List.map_map] at fewer
    exact List.Sublist.nodup fewer h.apart
  apartJoined := List.Sublist.nodup (joined.map _) h.apartJoined

/-- A message that opens no session. -/
theorem Sessions.groupSend (h : Sessions s) {nodeUuid : String} {message : Dict} (other : sessionOf message = none) :
    Sessions (s.groupSend nodeUuid message) where
  once := by
    simp only [Channel.groupSend, List.filterMap_append, List.filterMap_cons, other, List.filterMap_nil,
      List.append_nil]
    exact h.once
  consoles c hc := (h.consoles c hc).mono fun _ hx => List.mem_append_left _ hx
  joined c hc := (h.joined c hc).mono fun _ hx => List.mem_append_left _ hx
  apart := h.apart
  apartJoined := h.apartJoined

/-- Closing a console opens no session. -/
theorem Sessions.closeConsole (h : Sessions s) {console : ConsoleConsumer} : Sessions (s.closeConsole console) := by
  refine Sessions.groupSend ?_ (sessionOf_consoleClose _)
  exact h.of_fewer rfl (List.filter_sublist.map _) List.filter_sublist

/-- The answer to a console's call opens no session. -/
theorem Sessions.answerConsole (h : Sessions s) {call : Call} {outcome : Outcome} :
    Sessions (s.answerConsole call outcome) := by
  unfold Channel.answerConsole
  split
  · exact h
  · split
    · refine h.of_fewer rfl ?_ (List.Sublist.refl _)
      rw [List.map_map, List.map_congr_left fun c _ => ?_]
      rw [Function.comp_apply]
      split <;> rfl
    · exact h.closeConsole

/-- A call leaves the consoles. -/
theorem consoles_send (l : Link) (node : Node) (operation : OperationType) (requestId : String)
    (timeout : Option Nat) : (l.send node operation requestId timeout).consoles = l.consoles := by
  unfold Link.send
  split <;> rfl

/-- Another call opens no session. -/
theorem Sessions.send (h : Sessions s) {node : Node} {request : AgentRequest} {requestId : String}
    {timeout : Option Nat} (other : request.operation ≠ .openConsole) :
    Sessions (s.send node request requestId timeout) := by
  have kept : Sessions { s with link := s.link.send node request.operation requestId timeout } :=
    h.of_fewer rfl (List.Sublist.refl _) (by rw [consoles_send])
  unfold Channel.send
  split
  · exact kept.groupSend (sessionOf_toWire requestId other)
  · exact kept

/-- A console that opens sends OPEN_CONSOLE, or closes at once. -/
theorem openConsole_cases (s : Channel) (sessionId vmUuid requestId : String) (node : Node) :
    (∃ link : Link, link.consoles = ⟨sessionId, node.uuid.str⟩ :: s.link.consoles ∧
      s.openConsole sessionId node vmUuid requestId = { s with
        link := link
        consoles := { sessionId := sessionId, nodeUuid := node.uuid.str, requestId := requestId } :: s.consoles
        }.groupSend node.uuid.str ((NodePilot.openConsole sessionId vmUuid).toWire requestId)) ∨
    ∃ link : Link, link.consoles = s.link.consoles.filter (·.sessionId ≠ sessionId) ∧
      s.openConsole sessionId node vmUuid requestId = { s with
        link := link
        consoles := s.consoles.filter (·.sessionId ≠ sessionId) }.groupSend node.uuid.str (consoleClose sessionId) := by
  by_cases available : (s.link.unavailable node).isNone
  · refine .inl ⟨_, ?_, (if_pos available).trans (if_pos available)⟩
    rw [consoles_send]
  · let joined := { s.link with consoles := ⟨sessionId, node.uuid.str⟩ :: s.link.consoles }
    let link := joined.send node .openConsole requestId none
    have unsent : ¬ (joined.unavailable node).isNone := available
    have left : link.consoles.filter (·.sessionId ≠ sessionId) = s.link.consoles.filter (·.sessionId ≠ sessionId) := by
      simp [link, joined, consoles_send]
    refine .inr ⟨{ link with consoles := link.consoles.filter (·.sessionId ≠ sessionId) }, left,
      (if_neg available).trans ?_⟩
    have own : (ConsoleConsumer.mk sessionId node.uuid.str requestId false [] :: s.consoles).filter
        (·.sessionId ≠ sessionId) = s.consoles.filter (·.sessionId ≠ sessionId) := by
      simp
    rw [Channel.send, if_neg unsent, Channel.closeConsole, ← own]
    rfl

/-- A console joins with a session of its own. -/
theorem Sessions.openConsole (h : Sessions s) {sessionId vmUuid requestId : String} {node : Node}
    (new : s.NewSession sessionId) : Sessions (s.openConsole sessionId node vmUuid requestId) := by
  have fresh {n : String} : ¬ s.OpenedAt n sessionId := fun ⟨x, hx, _, named⟩ => new x hx named
  rcases openConsole_cases s sessionId vmUuid requestId node with ⟨link, joined, sent⟩ | ⟨link, joined, closed⟩
  · have opens := sessionOf_openConsole sessionId vmUuid requestId
    rw [sent]
    refine ⟨?_, fun c hc => ?_, fun c hc => ?_, ?_, ?_⟩
    · simp only [Channel.groupSend, List.filterMap_append, List.filterMap_cons, opens, List.filterMap_nil]
      refine List.nodup_append.mpr ⟨h.once, List.nodup_singleton _, fun a ha b hb same => ?_⟩
      obtain ⟨x, hx, named⟩ := List.mem_filterMap.mp ha
      exact new x hx (by rw [named, same, List.mem_singleton.mp hb])
    · rcases List.mem_cons.mp hc with rfl | old
      · exact ⟨_, List.mem_append_right _ (List.mem_singleton_self _), rfl, opens⟩
      · exact (h.consoles c old).mono fun _ hx => List.mem_append_left _ hx
    · rcases List.mem_cons.mp (joined ▸ hc) with rfl | old
      · exact ⟨_, List.mem_append_right _ (List.mem_singleton_self _), rfl, opens⟩
      · exact (h.joined c old).mono fun _ hx => List.mem_append_left _ hx
    · refine List.nodup_cons.mpr ⟨fun mem => ?_, h.apart⟩
      obtain ⟨c, hc, same⟩ := List.mem_map.mp mem
      exact fresh (same ▸ h.consoles c hc)
    · simp only [Channel.groupSend, joined]
      refine List.nodup_cons.mpr ⟨fun mem => ?_, h.apartJoined⟩
      obtain ⟨c, hc, same⟩ := List.mem_map.mp mem
      exact fresh (same ▸ h.joined c hc)
  · rw [closed]
    have kept : Sessions { s with link := link, consoles := s.consoles.filter (·.sessionId ≠ sessionId) } :=
      h.of_fewer rfl (List.filter_sublist.map _) (joined ▸ List.filter_sublist)
    exact kept.groupSend (sessionOf_consoleClose _)

/-- A poll leaves the consoles. -/
theorem consoles_poll (l : Link) (call : Call) : (l.poll call).consoles = l.consoles := by
  unfold Link.poll
  split
  · split <;> rfl
  · rfl

/-- A poll opens no session. -/
theorem Sessions.poll (h : Sessions s) (call : Call) : Sessions (s.poll call) := by
  have kept : Sessions { s with link := s.link.poll call } :=
    h.of_fewer rfl (List.Sublist.refl _) (by rw [consoles_poll])
  unfold Channel.poll
  dsimp only
  split
  · exact kept
  · refine Sessions.answerConsole ?_
    exact kept.of_fewer rfl (List.Sublist.refl _) (List.Sublist.refl _)

/-- Receiving a frame leaves the consoles. -/
theorem consoles_receive (str : Json → String) (l : Link) (connection : Connection) (frame : Frame) :
    (l.receive str connection frame).consoles = l.consoles := by
  cases frame with
  | empty | malformed | notObject => rfl
  | object message =>
    simp only [Link.receive]
    split
    · unfold Link.relayConsoleData
      split
      · rfl
      · split <;> rfl
    · unfold Link.keepResponse
      split
      · rfl
      · split <;> rfl

/-- Showing output opens no session. -/
theorem Sessions.display (h : Sessions s) {console : ConsoleConsumer} (shown : s.display console = some s') :
    Sessions s' := by
  unfold Channel.display at shown
  split at shown
  · cases shown
  · split at shown
    · cases shown
      refine h.of_fewer rfl ?_ (List.Sublist.refl _)
      rw [List.map_map, List.map_congr_left fun c _ => ?_]
      rw [Function.comp_apply]
      split <;> rfl
    · cases shown
      exact h.of_fewer rfl (List.filter_sublist.map _) (List.Sublist.refl _)

/-- Every step keeps one node for each session. -/
theorem Sessions.step {sha256 : String → String} {str : Json → String} {same : Json → Json → Bool} {e : Event}
    (h : Sessions s) (proper : Proper e s) (taken : Channel.step sha256 str same e s = some s') : Sessions s' := by
  have kept : ∀ s' : Channel, s'.commands = s.commands → s'.consoles = s.consoles →
      s'.link.consoles = s.link.consoles → Sessions s' :=
    fun s' commands consoles joined => h.of_fewer commands (by rw [consoles]) (by rw [joined])
  cases e with
  | tick milliseconds =>
    cases taken
    exact kept _ rfl rfl rfl
  | credential request =>
    cases taken
    refine kept _ rfl rfl ?_
    unfold Link.credential
    split <;> rfl
  | send node request requestId timeout =>
    cases taken
    exact h.send proper.2.1
  | poll requestId =>
    obtain ⟨call, -, rfl⟩ := Option.map_eq_some_iff.mp taken
    exact h.poll call
  | drop id place =>
    cases taken
    exact kept _ rfl rfl rfl
  | relay id =>
    obtain ⟨c, -, relayed⟩ := Option.bind_eq_some_iff.mp taken
    unfold Channel.relay at relayed
    split at relayed
    · cases relayed
    · cases relayed
      exact kept _ rfl rfl rfl
  | receive id =>
    obtain ⟨c, -, received⟩ := Option.bind_eq_some_iff.mp taken
    unfold Channel.receive at received
    split at received
    · cases received
    · cases received
      refine h.of_fewer rfl ?_ (by rw [consoles_receive])
      rw [List.map_map]
      exact List.Sublist.refl _
  | disconnect id =>
    obtain ⟨c, -, rfl⟩ := Option.map_eq_some_iff.mp taken
    exact kept _ rfl rfl rfl
  | connect nodeUuid token =>
    simp only [Channel.step] at taken
    split at taken
    · cases taken
      rcases connect_cases s sha256 nodeUuid token with refused | ⟨flags, made⟩
      · rw [refused]
        exact h
      · rw [made]
        exact kept _ rfl rfl rfl
    · cases taken
  | lose nodeUuid | restart nodeUuid | sessionEnds nodeUuid sessionId =>
    cases taken
    exact kept _ rfl rfl rfl
  | take nodeUuid =>
    obtain ⟨id, -, taken⟩ := Option.bind_eq_some_iff.mp taken
    split at taken
    · cases taken
    · split at taken
      · cases taken
        exact kept _ rfl rfl rfl
      · cases taken
  | finish nodeUuid operation result =>
    obtain ⟨id, -, taken⟩ := Option.bind_eq_some_iff.mp taken
    cases taken
    exact kept _ rfl rfl rfl
  | finishOrphan nodeUuid connection operation result =>
    simp only [Channel.step] at taken
    split at taken
    · cases taken
      exact kept _ rfl rfl rfl
    · cases taken
  | pumpInbound nodeUuid sessionId =>
    obtain ⟨p, -, rfl⟩ := Option.map_eq_some_iff.mp taken
    exact kept _ rfl rfl rfl
  | pumpOutbound nodeUuid sessionId chunk =>
    obtain ⟨⟨p, sent⟩, -, taken⟩ := Option.bind_eq_some_iff.mp taken
    cases sent <;>
    · cases taken
      exact kept _ rfl rfl rfl
  | openConsole sessionId node vmUuid requestId =>
    cases taken
    exact h.openConsole proper.2
  | input sessionId frame =>
    obtain ⟨console, -, taken⟩ := Option.bind_eq_some_iff.mp taken
    cases taken
    exact (kept { s with typed := s.typed ++ [(sessionId, frame)] } rfl rfl rfl).groupSend
      (sessionOf_consoleInput sessionId frame)
  | display sessionId =>
    obtain ⟨console, -, shown⟩ := Option.bind_eq_some_iff.mp taken
    exact h.display shown
  | dropData sessionId place =>
    cases taken
    refine h.of_fewer rfl ?_ (List.Sublist.refl _)
    rw [List.map_map, List.map_congr_left fun c _ => ?_]
    rw [Function.comp_apply]
    split <;> rfl
  | closeConsole sessionId =>
    obtain ⟨console, -, rfl⟩ := Option.map_eq_some_iff.mp taken
    exact h.closeConsole

end Sessions

/-! ## What is typed -/

/-- What a browser has typed, as the agent decodes it. -/
def typedOn (s : Channel) (sessionId : String) : List (List UInt8) :=
  s.typed.filterMap fun x => if x.1 = sessionId then x.2.decoded else none

/-- The invariant of the input: what was sent to a node for a session was typed there, and the session was opened at the
node. -/
structure Typed (s : Channel) : Prop where
  flows : ∀ nodeUuid sessionId, ((s.commandsTo nodeUuid).filterMap (inputFor sessionId)).Sublist (s.typedOn sessionId)
  opened : ∀ x ∈ s.commands, ∀ sessionId, (inputFor sessionId x.2).isSome → s.OpenedAt x.1 sessionId

section Typed

variable {s s' : Channel}

/-- A request is no input. -/
theorem inputFor_toWire (request : AgentRequest) (requestId sessionId : String) :
    inputFor sessionId (request.toWire requestId) = none := rfl

/-- Closing a console is no input. -/
theorem inputFor_consoleClose (sessionId other : String) : inputFor sessionId (consoleClose other) = none := rfl

/-- What a browser types is input for its own session only. -/
theorem inputFor_consoleInput (sessionId other : String) (frame : BrowserFrame) :
    inputFor sessionId (consoleInput other frame) = if other = sessionId then frame.decoded else none := rfl

/-- What a step sends to the groups of the agents: no input, or a frame of the browser of some console. -/
inductive Sends (s s' : Channel) : Prop
  | other (sent : List (String × Dict)) (commands : s'.commands = s.commands ++ sent)
      (none : ∀ x ∈ sent, ∀ sessionId, inputFor sessionId x.2 = none) (typed : s'.typed = s.typed)
  | input (console : ConsoleConsumer) (mem : console ∈ s.consoles) (frame : BrowserFrame)
      (commands : s'.commands = s.commands ++ [(console.nodeUuid, consoleInput console.sessionId frame)])
      (typed : s'.typed = s.typed ++ [(console.sessionId, frame)])

/-- Nothing is sent and nothing is typed. -/
theorem Sends.nothing (commands : s'.commands = s.commands) (typed : s'.typed = s.typed) : Sends s s' :=
  .other [] (by rw [commands, List.append_nil]) nofun typed

/-- One message that is no input is sent. -/
theorem Sends.one {nodeUuid : String} {message : Dict} (commands : s'.commands = s.commands ++ [(nodeUuid, message)])
    (none : ∀ sessionId, inputFor sessionId message = none) (typed : s'.typed = s.typed) : Sends s s' :=
  .other _ commands (fun x hx => by rw [List.mem_singleton.mp hx]; exact none) typed

/-- Closing a console sends no input. -/
theorem sends_closeConsole (s : Channel) (console : ConsoleConsumer) : Sends s (s.closeConsole console) :=
  .one rfl (inputFor_consoleClose · _) rfl

/-- A call sends no input. -/
theorem sends_send (s : Channel) (node : Node) (request : AgentRequest) (requestId : String) (timeout : Option Nat) :
    Sends s (s.send node request requestId timeout) := by
  unfold Channel.send
  split
  · exact .one rfl (inputFor_toWire _ _) rfl
  · exact .nothing rfl rfl

/-- The answer to a console's call sends no input. -/
theorem sends_answerConsole (s : Channel) (call : Call) (outcome : Outcome) :
    Sends s (s.answerConsole call outcome) := by
  unfold Channel.answerConsole
  split
  · exact .nothing rfl rfl
  · split
    · exact .nothing rfl rfl
    · exact sends_closeConsole s _

/-- A poll sends nothing. -/
theorem sends_poll (s : Channel) (call : Call) : Sends s (s.poll call) := by
  unfold Channel.poll
  dsimp only
  split
  · exact .nothing rfl rfl
  · next ended rest _ =>
    have told := sends_answerConsole { s with link := s.link.poll call, ended := (call, ended.outcome) :: s.ended } call
      ended.outcome
    cases told with
    | other sent commands none typed => exact .other sent commands none typed
    | input console mem frame commands typed => exact .input console mem frame commands typed

/-- Every step sends what was typed. -/
theorem sends_step {sha256 : String → String} {str : Json → String} {same : Json → Json → Bool} {e : Event}
    (taken : Channel.step sha256 str same e s = some s') : Sends s s' := by
  cases e with
  | tick milliseconds | credential request | drop id place | lose nodeUuid | restart nodeUuid
  | sessionEnds nodeUuid sessionId | dropData sessionId place =>
    cases taken
    exact .nothing rfl rfl
  | send node request requestId timeout =>
    cases taken
    exact sends_send s node request requestId timeout
  | poll requestId =>
    obtain ⟨call, -, rfl⟩ := Option.map_eq_some_iff.mp taken
    exact sends_poll s call
  | relay id =>
    obtain ⟨c, -, relayed⟩ := Option.bind_eq_some_iff.mp taken
    unfold Channel.relay at relayed
    split at relayed
    · cases relayed
    · cases relayed
      exact .nothing rfl rfl
  | receive id =>
    obtain ⟨c, -, received⟩ := Option.bind_eq_some_iff.mp taken
    unfold Channel.receive at received
    split at received
    · cases received
    · cases received
      exact .nothing rfl rfl
  | disconnect id =>
    obtain ⟨c, -, rfl⟩ := Option.map_eq_some_iff.mp taken
    exact .nothing rfl rfl
  | connect nodeUuid token =>
    simp only [Channel.step] at taken
    split at taken
    · cases taken
      rcases connect_cases s sha256 nodeUuid token with refused | ⟨flags, made⟩
      · rw [refused]
        exact .nothing rfl rfl
      · rw [made]
        exact .nothing rfl rfl
    · cases taken
  | take nodeUuid =>
    obtain ⟨id, -, taken⟩ := Option.bind_eq_some_iff.mp taken
    split at taken
    · cases taken
    · split at taken
      · cases taken
        exact .nothing rfl rfl
      · cases taken
  | finish nodeUuid operation result =>
    obtain ⟨id, -, taken⟩ := Option.bind_eq_some_iff.mp taken
    cases taken
    exact .nothing rfl rfl
  | finishOrphan nodeUuid connection operation result =>
    simp only [Channel.step] at taken
    split at taken
    · cases taken
      exact .nothing rfl rfl
    · cases taken
  | pumpInbound nodeUuid sessionId =>
    obtain ⟨p, -, rfl⟩ := Option.map_eq_some_iff.mp taken
    exact .nothing rfl rfl
  | pumpOutbound nodeUuid sessionId chunk =>
    obtain ⟨⟨p, sent⟩, -, taken⟩ := Option.bind_eq_some_iff.mp taken
    cases sent <;>
    · cases taken
      exact .nothing rfl rfl
  | openConsole sessionId node vmUuid requestId =>
    cases taken
    rcases openConsole_cases s sessionId vmUuid requestId node with ⟨link, -, sent⟩ | ⟨link, -, closed⟩
    · rw [sent]
      exact .one rfl (inputFor_toWire _ _) rfl
    · rw [closed]
      exact .one rfl (inputFor_consoleClose · _) rfl
  | input sessionId frame =>
    obtain ⟨console, found, taken⟩ := Option.bind_eq_some_iff.mp taken
    cases taken
    have named : console.sessionId = sessionId ∧ console.opened = true := by simpa using List.find?_some found
    exact .input console (List.mem_of_find?_eq_some found) frame (by rw [named.1]; rfl) (by rw [named.1]; rfl)
  | display sessionId =>
    obtain ⟨console, -, shown⟩ := Option.bind_eq_some_iff.mp taken
    unfold Channel.display at shown
    split at shown
    · cases shown
    · split at shown <;>
      · cases shown
        exact .nothing rfl rfl
  | closeConsole sessionId =>
    obtain ⟨console, -, rfl⟩ := Option.map_eq_some_iff.mp taken
    exact sends_closeConsole s console

/-- What is sent to one node. -/
theorem commandsTo_of_append {sent : List (String × Dict)} (commands : s'.commands = s.commands ++ sent)
    (nodeUuid : String) :
    s'.commandsTo nodeUuid = s.commandsTo nodeUuid ++ (sent.filter (·.1 = nodeUuid)).map Prod.snd := by
  rw [commandsTo, commands, List.filter_append, List.map_append, commandsTo]

/-- What was typed has been sent in its order. -/
theorem Typed.of_sends (h : Typed s) (sessions : Sessions s) (sends : Sends s s') : Typed s' := by
  cases sends with
  | other sent commands none typed =>
    have more : ∀ x ∈ s.commands, x ∈ s'.commands := fun x hx => commands ▸ List.mem_append_left _ hx
    refine ⟨fun nodeUuid sessionId => ?_, fun x hx sessionId input => ?_⟩
    · have nothing : ((sent.filter (·.1 = nodeUuid)).map Prod.snd).filterMap (inputFor sessionId) = [] := by
        rw [List.filterMap_eq_nil_iff]
        intro message mem
        obtain ⟨x, hx, rfl⟩ := List.mem_map.mp mem
        exact none x (List.mem_filter.mp hx).1 sessionId
      rw [commandsTo_of_append commands, List.filterMap_append, nothing, List.append_nil, typedOn, typed]
      exact h.flows nodeUuid sessionId
    · rw [commands] at hx
      rcases List.mem_append.mp hx with old | new
      · exact (h.opened x old sessionId input).mono more
      · rw [none x new] at input
        cases input
  | input console mem frame commands typed =>
    have more : ∀ x ∈ s.commands, x ∈ s'.commands := fun x hx => commands ▸ List.mem_append_left _ hx
    refine ⟨fun nodeUuid sessionId => ?_, fun x hx sessionId input => ?_⟩
    · rw [commandsTo_of_append commands, List.filterMap_append, typedOn, typed, List.filterMap_append]
      refine (h.flows nodeUuid sessionId).append ?_
      by_cases node : console.nodeUuid = nodeUuid
      · simp only [node, decide_true, List.filter_cons, if_true, List.filter_nil, List.map_cons, List.map_nil,
          List.filterMap_cons, inputFor_consoleInput]
        exact List.Sublist.refl _
      · simp [node]
    · rw [commands] at hx
      rcases List.mem_append.mp hx with old | new
      · exact (h.opened x old sessionId input).mono more
      · rw [List.mem_singleton.mp new] at input ⊢
        rw [inputFor_consoleInput] at input
        split at input
        · next own => exact own ▸ (sessions.consoles console mem).mono more
        · cases input

end Typed

end Channel

end NodePilot
