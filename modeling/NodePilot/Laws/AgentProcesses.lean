import NodePilot.CommandChannel
import NodePilot.Laws.JsonText
import NodePilot.Laws.ReceiveLoop
import NodePilot.Lib.Pipeline

/-!
# What an agent process does with the texts it takes

The operations that a process has started are the requests of the texts that its loops took, in their order, and none of
them is finished twice. What a session has written to its VNC server, followed by what it has still to write, came in in
that order. Connections may be lost at any time, and the process may be started again.
-/

namespace NodePilot

open Lib Agent

/-! ## Reading -/

/-- The object that a text holds. -/
def messageOf (text : String) : Option Dict :=
  match Json.loads text with
  | some (.obj message) => some message
  | _ => none

/-- A plain message is read back from the wire. -/
theorem messageOf_dumps {message : Dict} (plain : Json.Plain (.obj message)) :
    messageOf (Json.dumps (.obj message)) = some message := by
  rw [messageOf, Json.loads_dumps plain]

/-- The request that a message holds. -/
def requestIn (message : Dict) : Option Request :=
  if kind message = .request then (Request.fromWire message).toOption else none

/-- The bytes for a session, of the data that was sent under some id. -/
def dataFor (sessionId : String) (id data : Json) : Option (List UInt8) :=
  match id with
  | .str text => if text = sessionId then (b64decode data).toOption else none
  | _ => none

/-- What a message brings for a console session. -/
def inputFor (sessionId : String) (message : Dict) : Option (List UInt8) :=
  match kind message, message.get? "session_id", message.get? "data" with
  | .consoleInput, some id, some data => dataFor sessionId id data
  | _, _, _ => none

/-- Python's `==`, where one of the two is a text. -/
structure ComparesTexts (same : Json → Json → Bool) : Prop where
  left : ∀ text value, same (.str text) value = true ↔ value = .str text
  right : ∀ value text, same value (.str text) = true ↔ value = .str text

/-! ## Sessions -/

namespace Agent.Transport

variable {same : Json → Json → Bool} {t : Transport} {sessionId data : Json} {id : String}

/-- What a session has still to write. -/
def inboundOf (same : Json → Json → Bool) (t : Transport) (id : String) : List (List UInt8) :=
  ((t.session same (.str id)).map ConsoleSession.inbound).getD []

theorem inboundOf_congr {t' : Transport} (sessions : t'.sessions = t.sessions) :
    inboundOf same t' id = inboundOf same t id := by
  rw [inboundOf, inboundOf, session, session, sessions]

/-- The sessions are rewritten one by one. -/
theorem session_map {f : ConsoleSession → ConsoleSession} (ids : ∀ s, (f s).sessionId = s.sessionId) :
    session same { t with sessions := t.sessions.map f } sessionId = (t.session same sessionId).map f := by
  simp only [session, List.find?_map]
  congr 2
  funext s
  rw [Function.comp_apply, ids]

theorem sessionId_of_session {s : ConsoleSession} (texts : ComparesTexts same)
    (found : t.session same (.str id) = some s) : s.sessionId = .str id := by
  have named : same s.sessionId (.str id) = true := by simpa using List.find?_some found
  exact (texts.right _ _).mp named

/-- Closing a session loses input and adds none. -/
theorem inboundOf_popSession (texts : ComparesTexts same) :
    (inboundOf same (t.popSession same sessionId) id).Sublist (inboundOf same t id) := by
  by_cases own : same (.str id) sessionId = true
  · have gone : (t.popSession same sessionId).session same (.str id) = none := by
      rw [session, popSession, List.find?_filter, List.find?_eq_none]
      intro s _ kept
      simp only [decide_eq_true_eq, texts.right] at kept
      exact kept.1 (kept.2 ▸ own)
    rw [inboundOf, gone]
    exact List.nil_sublist _
  · have here : (t.popSession same sessionId).session same (.str id) = t.session same (.str id) := by
      simp only [session, popSession, List.find?_filter]
      congr 1
      funext s
      cases found : same s.sessionId (.str id) with
      | false => simp
      | true => simp [(texts.right _ _).mp found, own]
    rw [inboundOf, inboundOf, here]

/-- Input goes to the session that it names, if there is one and the data can be decoded. -/
theorem inboundOf_feedInput (texts : ComparesTexts same) :
    (inboundOf same (t.feedInput same sessionId data) id).Sublist
      (inboundOf same t id ++ (dataFor id sessionId data).toList) := by
  unfold feedInput
  split
  · exact List.sublist_append_left _ _
  · split
    · exact List.sublist_append_left _ _
    · split
      · exact List.sublist_append_left _ _
      · next bytes decoded =>
        rw [inboundOf, session_map (fun s => by split <;> rfl), inboundOf]
        cases found : t.session same (.str id) with
        | none => exact List.nil_sublist _
        | some s =>
          have named := sessionId_of_session texts found
          by_cases own : same (.str id) sessionId = true
          · simp [named, (texts.left _ _).mp own, (texts.left id _).mpr, dataFor, decoded, Except.toOption]
          · simp [named, own]

/-- Input opens no session. -/
theorem sessions_feedInput {s : ConsoleSession} (mem : s ∈ (t.feedInput same sessionId data).sessions) :
    ∃ s' ∈ t.sessions, s'.sessionId = s.sessionId := by
  unfold feedInput at mem
  split at mem
  · exact ⟨s, mem, rfl⟩
  · split at mem
    · exact ⟨s, mem, rfl⟩
    · split at mem
      · exact ⟨s, mem, rfl⟩
      · obtain ⟨s', there, rfl⟩ := List.mem_map.mp mem
        exact ⟨s', there, by split <;> rfl⟩

/-- Closing a session opens none. -/
theorem sessions_popSession {s : ConsoleSession} (mem : s ∈ (t.popSession same sessionId).sessions) :
    s ∈ t.sessions :=
  (List.mem_filter.mp mem).1

/-- What one text does to the operations. -/
structure Taken (t t' : Transport) (request : Option Request) : Prop where
  dispatched : t'.dispatched = t.dispatched ++ request.toList
  running : t'.running = t.running ++ request.toList.map fun _ => t.dispatched.length
  sent : t'.sent = t.sent
  unsent : t'.unsent = t.unsent

/-- What leaves the requests and the answers takes no request. -/
theorem Taken.of_work {t' : Transport} (h : t'.dispatched = t.dispatched ∧ t'.running = t.running ∧ t'.sent = t.sent ∧
    t'.unsent = t.unsent) : Taken t t' none where
  dispatched := h.1.trans (List.append_nil _).symm
  running := h.2.1.trans (List.append_nil _).symm
  sent := h.2.2.1
  unsent := h.2.2.2

/-- Input takes no request. -/
theorem taken_feedInput : Taken t (t.feedInput same sessionId data) none := by
  refine .of_work ?_
  unfold feedInput
  split
  · exact ⟨rfl, rfl, rfl, rfl⟩
  · split
    · exact ⟨rfl, rfl, rfl, rfl⟩
    · split <;> exact ⟨rfl, rfl, rfl, rfl⟩

/-- A message of input takes no request. -/
theorem taken_consoleInput {message : Dict} : Taken t (t.consoleInput same message) none := by
  unfold consoleInput
  split
  · exact .of_work ⟨rfl, rfl, rfl, rfl⟩
  · exact .of_work ⟨rfl, rfl, rfl, rfl⟩
  · exact taken_feedInput

/-- A message that closes a session takes no request. -/
theorem taken_consoleClose {message : Dict} : Taken t (t.consoleClose same message) none := by
  refine .of_work ?_
  unfold consoleClose closeSession
  split
  · exact ⟨rfl, rfl, rfl, rfl⟩
  · split <;> exact ⟨rfl, rfl, rfl, rfl⟩

/-- A text starts the request that it holds, whatever else it does. -/
theorem taken_receive (same : Json → Json → Bool) (t : Transport) (text : String) :
    Taken t (t.receive readText same text) ((messageOf text).bind requestIn) := by
  unfold receive readText messageOf
  cases Json.loads text with
  | none => exact .of_work ⟨rfl, rfl, rfl, rfl⟩
  | some value =>
    cases value with
    | obj message =>
      simp only [Option.bind_some, requestIn]
      cases kind message with
      | consoleInput => exact taken_consoleInput
      | consoleClose => exact taken_consoleClose
      | request =>
        cases Request.fromWire message with
        | ok request => exact ⟨rfl, rfl, rfl, rfl⟩
        | error e => exact .of_work ⟨rfl, rfl, rfl, rfl⟩
    | _ => exact .of_work ⟨rfl, rfl, rfl, rfl⟩

theorem inboundOf_consoleInput {message : Dict} (texts : ComparesTexts same) (input : kind message = .consoleInput) :
    (inboundOf same (t.consoleInput same message) id).Sublist
      (inboundOf same t id ++ (inputFor id message).toList) := by
  unfold consoleInput inputFor
  rw [input]
  cases message.get? "session_id" with
  | none => exact List.sublist_append_left _ _
  | some sessionId =>
    cases message.get? "data" with
    | none => exact List.sublist_append_left _ _
    | some data =>
      exact inboundOf_feedInput texts

/-- A text adds the input that it brings to what its session has to write. -/
theorem inboundOf_receive (texts : ComparesTexts same) (text : String) :
    (inboundOf same (t.receive readText same text) id).Sublist
      (inboundOf same t id ++ ((messageOf text).bind (inputFor id)).toList) := by
  unfold receive readText messageOf
  cases Json.loads text with
  | none => exact List.sublist_append_left _ _
  | some value =>
    cases value with
    | obj message =>
      rw [Option.bind_some]
      cases input : kind message with
      | consoleInput =>
        simp only [input]
        exact inboundOf_consoleInput texts input
      | consoleClose =>
        refine List.Sublist.trans ?_ (List.sublist_append_left _ _)
        simp only [input]
        unfold consoleClose closeSession
        split
        · exact List.Sublist.refl _
        · split
          · exact List.Sublist.refl _
          · exact inboundOf_popSession texts
      | request =>
        simp only [input]
        cases Request.fromWire message <;> exact List.sublist_append_left _ _
    | _ => exact List.sublist_append_left _ _

/-- A text opens no session. -/
theorem sessions_receive {text : String} {s : ConsoleSession} (mem : s ∈ (t.receive readText same text).sessions) :
    ∃ s' ∈ t.sessions, s'.sessionId = s.sessionId := by
  unfold receive at mem
  split at mem
  · exact ⟨s, mem, rfl⟩
  · exact ⟨s, mem, rfl⟩
  · split at mem
    · unfold consoleInput at mem
      split at mem
      · exact ⟨s, mem, rfl⟩
      · exact ⟨s, mem, rfl⟩
      · exact sessions_feedInput mem
    · unfold consoleClose closeSession at mem
      split at mem
      · exact ⟨s, mem, rfl⟩
      · split at mem
        · exact ⟨s, mem, rfl⟩
        · exact ⟨s, sessions_popSession mem, rfl⟩
    · split at mem <;> exact ⟨s, mem, rfl⟩
  · exact ⟨s, mem, rfl⟩

/-! ## Operations -/

/-- The response is what some result of the request's handler is answered with. -/
inductive Answers (request : Request) : Response → Prop
  | ok (data : Dict) (plain : Json.Plain (.obj data)) : Answers request (.ok request.requestId data)
  | fail (text : String) : Answers request (.fail request.requestId text)

/-- A result that Python can hold: a `dict` has each key once. -/
def PlainResult : Except String Dict → Prop
  | .ok data => Json.Plain (.obj data)
  | .error _ => True

variable {operation : Nat} {request : Request} {result : Except String Dict}

/-- What is dispatched is answered with its own result. -/
theorem answers_dispatch (plain : PlainResult result) : Answers request (t.dispatch same request result).1 := by
  unfold dispatch
  split
  · split
    · exact .ok [] (by simp [Json.Plain, Json.PlainFields])
    · exact .fail _
  · cases result with
    | ok data => exact .ok data plain
    | error text => exact .fail text

/-- The session that a request opens. -/
def opens (request : Request) : Option Json :=
  if request.operation = .openConsole then (sessionIdOf request.payload).toOption else none

/-- The session that a message opens. -/
def sessionOf (message : Dict) : Option String :=
  match (requestIn message).bind opens with
  | some (.str sessionId) => some sessionId
  | _ => none

/-- OPEN_CONSOLE adds its session, if it is not there. -/
theorem sessions_dispatch (same : Json → Json → Bool) (t : Transport) (request : Request)
    (result : Except String Dict) : (t.dispatch same request result).2.sessions = t.sessions ∨
    ∃ sessionId, opens request = some sessionId ∧
      (t.dispatch same request result).2.sessions = t.sessions ++ [{ sessionId := sessionId }] := by
  unfold dispatch opens
  split
  · split
    · next opened ran =>
      obtain ⟨sessionId, named, made⟩ := Lib.bind_eq_ok ran
      rw [named]
      unfold openSession at made
      split at made
      · cases made
      · cases made
      · split at made
        · cases made
          exact .inl rfl
        · cases made
          exact .inr ⟨sessionId, rfl, rfl⟩
    · exact .inl rfl
  · split <;> exact .inl rfl

/-- A session that is opened has nothing to write. -/
theorem inboundOf_dispatch (same : Json → Json → Bool) (t : Transport) (request : Request)
    (result : Except String Dict) (id : String) :
    inboundOf same (t.dispatch same request result).2 id = inboundOf same t id := by
  rcases sessions_dispatch same t request result with kept | ⟨sessionId, -, added⟩
  · exact inboundOf_congr kept
  · rw [inboundOf, inboundOf, session, session, added, List.find?_append]
    cases t.sessions.find? fun s => same s.sessionId (.str id) with
    | some s => rfl
    | none =>
      rw [Option.none_or, List.find?_singleton]
      split <;> rfl

/-- An operation that runs is dispatched and answered; any other is ignored. -/
theorem handle_cases (same : Json → Json → Bool) (t : Transport) (operation : Nat) (result : Except String Dict) :
    t.handle same operation result = t ∨
    ∃ request, operation ∈ t.running ∧ t.dispatched[operation]? = some request ∧ t.handle same operation result =
      (t.dispatch same request result).2.answer operation (t.dispatch same request result).1 := by
  unfold handle
  split
  · next running =>
    split
    · next request here => exact .inr ⟨request, running, here, rfl⟩
    · exact .inl rfl
  · exact .inl rfl

/-- An answer leaves the sessions. -/
theorem sessions_answer {response : Response} : (t.answer operation response).sessions = t.sessions := by
  unfold answer
  split <;> rfl

/-- The operations that are finished. -/
def finished (t : Transport) : List Nat := t.sent.map Prod.fst ++ t.unsent.map Prod.fst

/-- The answers, whether they could be sent or not. -/
def answers (t : Transport) : List (Nat × Response) := t.sent ++ t.unsent

/-- An answered operation no longer runs. -/
theorem running_answer {response : Response} : (t.answer operation response).running = t.running.erase operation := by
  unfold answer
  split <;> rfl

/-- An answered operation is finished once more. -/
theorem count_finished_answer {response : Response} (n : Nat) :
    (t.answer operation response).finished.count n = t.finished.count n + [operation].count n := by
  unfold answer finished
  split <;> simp only [List.map_append, List.map_cons, List.map_nil, List.count_append] <;> omega

/-- One answer is added at most. -/
theorem mem_answers_answer {response : Response} {x : Nat × Response}
    (mem : x ∈ (t.answer operation response).answers) : x ∈ t.answers ∨ x = (operation, response) := by
  unfold answer answers at mem
  unfold answers
  split at mem <;> simp only [List.mem_append, List.mem_singleton] at mem ⊢ <;> tauto

end Agent.Transport

/-! ## Processes -/

namespace AgentProcess

open Agent.Transport

variable {same : Json → Json → Bool} {p : AgentProcess}

/-- The messages that the loops have taken. -/
def messages (p : AgentProcess) : List Dict := p.taken.filterMap messageOf

/-- What a session has written to its VNC server. -/
def writtenFor (p : AgentProcess) (sessionId : String) : List (List UInt8) :=
  (p.written.filter (·.1 = sessionId)).map Prod.snd

/-- What a session has read from its VNC server. -/
def readFor (p : AgentProcess) (sessionId : String) : List (List UInt8) :=
  (p.read.filter (·.1 = sessionId)).map Prod.snd

/-- How often an operation is under way or finished. -/
def load (p : AgentProcess) (n : Nat) : Nat :=
  p.transport.running.count n + (p.orphans.map Prod.snd).count n + p.transport.finished.count n

/-- **The invariant** of a process, whatever texts it is given. -/
structure Orderly (same : Json → Json → Bool) (p : AgentProcess) : Prop where
  /-- The operations are the requests of the texts, in their order. -/
  dispatched : p.transport.dispatched = p.messages.filterMap requestIn
  once : ∀ n, p.load n ≤ if n < p.transport.dispatched.length then 1 else 0
  answers : ∀ x ∈ p.transport.answers, ∃ request, p.transport.dispatched[x.1]? = some request ∧ Answers request x.2
  /-- An outlet belongs to the OPEN_CONSOLE that has opened its session. -/
  outlets : ∀ o ∈ p.outlets, o.operation ∈ p.transport.finished ∧
    ∃ request, p.transport.dispatched[o.operation]? = some request ∧ opens request = some o.sessionId
  apart : (p.outlets.map Outlet.operation).Nodup
  sessions : ∀ s ∈ p.transport.sessions, ∃ o ∈ p.outlets, o.sessionId = s.sessionId
  inbound : ∀ id, Flows (p.messages.filterMap (inputFor id)) [p.writtenFor id, inboundOf same p.transport id]

theorem getElem?_append_of_some {α : Type} {xs ys : List α} {n : Nat} {x : α} (h : xs[n]? = some x) :
    (xs ++ ys)[n]? = some x := by
  rw [List.getElem?_append_left (List.getElem?_eq_some_iff.mp h).1, h]

/-- A new process is orderly. -/
theorem Orderly.start : Orderly same {} where
  dispatched := rfl
  once _ := Nat.zero_le _
  answers := by simp [Transport.answers]
  outlets := by simp
  apart := List.nodup_nil
  sessions := by simp
  inbound _ := List.nil_sublist _

/-- Taking a message keeps it orderly. -/
theorem Orderly.take (texts : ComparesTexts same) (h : Orderly same p) (text : String) :
    Orderly same (p.take same text) := by
  have taken := taken_receive same p.transport text
  have messages : (p.take same text).messages = p.messages ++ (messageOf text).toList := by
    simp only [AgentProcess.messages, AgentProcess.take, List.filterMap_append]
    cases found : messageOf text <;> simp [found]
  have read (β : Type) (f : Dict → Option β) : (p.take same text).messages.filterMap f =
      p.messages.filterMap f ++ ((messageOf text).bind f).toList := by
    rw [messages, List.filterMap_append]
    cases messageOf text with
    | none => rfl
    | some message => cases found : f message <;> simp [found]
  refine ⟨?_, ?_, ?_, ?_, h.apart, ?_, ?_⟩
  · rw [read, ← h.dispatched]
    exact taken.dispatched
  · intro n
    have before := h.once n
    simp only [load, finished, AgentProcess.take, taken.running, taken.dispatched, taken.sent, taken.unsent] at before ⊢
    cases (messageOf text).bind requestIn with
    | none => simpa using before
    | some request =>
      simp only [Option.toList_some, List.map_cons, List.map_nil, List.count_append, List.count_singleton,
        List.length_append, List.length_singleton, beq_iff_eq] at before ⊢
      split_ifs at before ⊢ <;> omega
  · intro x hx
    simp only [Transport.answers, AgentProcess.take, taken.sent, taken.unsent] at hx
    obtain ⟨request, here, answer⟩ := h.answers x hx
    refine ⟨request, ?_, answer⟩
    simp only [AgentProcess.take, taken.dispatched]
    exact getElem?_append_of_some here
  · intro o ho
    obtain ⟨done, request, here, opened⟩ := h.outlets o ho
    simp only [finished, AgentProcess.take, taken.sent, taken.unsent, taken.dispatched]
    exact ⟨done, request, getElem?_append_of_some here, opened⟩
  · intro s hs
    obtain ⟨s', there, same⟩ := sessions_receive hs
    exact same ▸ h.sessions s' there
  · intro id
    rw [read]
    have fed := (h.inbound id).feed [p.writtenFor id] ((messageOf text).bind (inputFor id)).toList
    exact fed.lose [p.writtenFor id] [] (inboundOf_receive texts text)

/-- An operation that was under way is finished. -/
theorem Orderly.settle (h : Orderly same p) {t : Transport} {orphans : List (Nat × Nat)} {operation : Nat}
    {request : Request} {response : Response} (connection : Nat)
    (here : p.transport.dispatched[operation]? = some request) (answered : Answers request response)
    (dispatched : t.dispatched = p.transport.dispatched)
    (sessions : t.sessions = p.transport.sessions ∨
      ∃ sessionId, opens request = some sessionId ∧ t.sessions = p.transport.sessions ++ [{ sessionId := sessionId }])
    (inbound : ∀ id, inboundOf same t id = inboundOf same p.transport id)
    (answers : ∀ x ∈ t.answers, x ∈ p.transport.answers ∨ x = (operation, response))
    (finished : ∀ n, t.finished.count n = p.transport.finished.count n + [operation].count n)
    (moved : ∀ n, t.running.count n + (orphans.map Prod.snd).count n + [operation].count n =
      p.transport.running.count n + (p.orphans.map Prod.snd).count n) :
    Orderly same { p with
      transport := t, orphans := orphans, outlets := opened p.transport t operation connection ++ p.outlets } := by
  have more (n : Nat) (mem : n ∈ p.transport.finished) : n ∈ t.finished := by
    have counted := finished n
    have positive := List.count_pos_iff.mpr mem
    exact List.count_pos_iff.mp (by omega)
  have unfinished : operation ∉ p.transport.finished := by
    intro mem
    have limit := h.once operation
    have way := moved operation
    have positive := List.count_pos_iff.mpr mem
    simp only [load, List.count_singleton_self] at limit way
    split_ifs at limit <;> omega
  have done : operation ∈ t.finished := by
    have counted := finished operation
    rw [List.count_singleton_self] at counted
    exact List.count_pos_iff.mp (by omega)
  have outlet : opened p.transport t operation connection = [] ∧ t.sessions = p.transport.sessions ∨
      ∃ sessionId, opens request = some sessionId ∧ t.sessions = p.transport.sessions ++ [{ sessionId := sessionId }] ∧
        opened p.transport t operation connection = [⟨operation, sessionId, connection⟩] := by
    rcases sessions with kept | ⟨sessionId, named, added⟩
    · exact .inl ⟨by rw [opened, kept, List.drop_length, List.map_nil], kept⟩
    · exact .inr ⟨sessionId, named, added, by rw [opened, added, List.drop_left]; rfl⟩
  refine ⟨dispatched.trans h.dispatched, ?_, ?_, ?_, ?_, ?_, ?_⟩
  · intro n
    have limit := h.once n
    have counted := finished n
    have way := moved n
    simp only [load, dispatched] at limit ⊢
    omega
  · intro x hx
    rw [dispatched]
    rcases answers x hx with old | rfl
    · exact h.answers x old
    · exact ⟨request, here, answered⟩
  · intro o ho
    rw [dispatched]
    rcases List.mem_append.mp ho with new | old
    · rcases outlet with ⟨none, -⟩ | ⟨sessionId, named, -, one⟩
      · rw [none] at new
        cases new
      · rw [one, List.mem_singleton] at new
        subst new
        exact ⟨done, request, here, named⟩
    · obtain ⟨mem, found⟩ := h.outlets o old
      exact ⟨more _ mem, found⟩
  · rcases outlet with ⟨none, -⟩ | ⟨sessionId, -, -, one⟩
    · rw [none]
      exact h.apart
    · rw [one]
      refine List.nodup_cons.mpr ⟨fun mem => ?_, h.apart⟩
      obtain ⟨o, ho, same⟩ := List.mem_map.mp mem
      have mem := (h.outlets o ho).1
      rw [same] at mem
      exact unfinished mem
  · intro s hs
    rcases outlet with ⟨-, kept⟩ | ⟨sessionId, -, added, one⟩
    · obtain ⟨o, ho, same⟩ := h.sessions s (kept ▸ hs)
      exact ⟨o, List.mem_append_right _ ho, same⟩
    · rcases List.mem_append.mp (added ▸ hs) with old | new
      · obtain ⟨o, ho, same⟩ := h.sessions s old
        exact ⟨o, List.mem_append_right _ ho, same⟩
      · refine ⟨⟨operation, sessionId, connection⟩, List.mem_append_left _ ?_, ?_⟩
        · rw [one]
          exact List.mem_singleton_self _
        · rw [List.mem_singleton.mp new]
  · intro id
    have flows := h.inbound id
    rwa [← inbound id] at flows

/-- Finishing an operation keeps it orderly. -/
theorem Orderly.finish {connection operation : Nat} {result : Except String Dict} (h : Orderly same p)
    (plain : PlainResult result) : Orderly same (p.finish same connection operation result).1 := by
  unfold AgentProcess.finish
  rcases handle_cases same p.transport operation result with idle | ⟨request, running, here, handled⟩
  · simp only [idle, opened, List.drop_length, List.map_nil, List.nil_append]
    exact h
  · have work := (@dispatch_spec same p.transport request result).2
    have answered : Answers request (p.transport.dispatch same request result).1 := answers_dispatch plain
    simp only [handled]
    refine h.settle connection here answered ?_ ?_ ?_ ?_ ?_ ?_
    · exact answer_frame.2.trans work.dispatched
    · rw [sessions_answer]
      exact sessions_dispatch same p.transport request result
    · intro id
      rw [inboundOf_congr sessions_answer, inboundOf_dispatch]
    · intro x hx
      rcases mem_answers_answer hx with old | new
      · rw [Transport.answers, work.sent, work.unsent] at old
        exact .inl old
      · exact .inr new
    · intro n
      rw [count_finished_answer, finished, work.sent, work.unsent, finished]
    · intro n
      have positive := List.count_pos_iff.mpr running
      rw [running_answer, work.running, List.count_erase]
      simp only [List.count_singleton, beq_iff_eq]
      split_ifs with same
      · subst same
        omega
      · omega

/-- So does finishing one of a lost connection. -/
theorem Orderly.finishOrphan {connection operation : Nat} {result : Except String Dict} (h : Orderly same p)
    (plain : PlainResult result) (orphan : (connection, operation) ∈ p.orphans) :
    Orderly same (p.finishOrphan same connection operation result) := by
  unfold AgentProcess.finishOrphan
  cases here : p.transport.dispatched[operation]? with
  | none => exact h
  | some request =>
    have work := (@dispatch_spec same p.transport request result).2
    have answered : Answers request (p.transport.dispatch same request result).1 := answers_dispatch plain
    have sessions := sessions_dispatch same p.transport request result
    have inbound := inboundOf_dispatch same p.transport request result
    dsimp only
    generalize p.transport.dispatch same request result = dispatched at work answered sessions inbound ⊢
    obtain ⟨response, t⟩ := dispatched
    dsimp only at work
    refine h.settle connection here answered work.dispatched sessions inbound ?_ ?_ ?_
    · intro x hx
      simp only [Transport.answers, work.sent, work.unsent, ← List.append_assoc] at hx ⊢
      rcases List.mem_append.mp hx with old | new
      · exact .inl old
      · exact .inr (List.mem_singleton.mp new)
    · intro n
      simp only [finished, work.sent, work.unsent, List.map_append, List.map_cons, List.map_nil, List.count_append]
      omega
    · intro n
      have counted := ((List.perm_cons_erase orphan).map Prod.snd).count_eq n
      rw [List.map_cons, List.count_cons] at counted
      dsimp only at counted
      simp only [work.running, List.count_singleton]
      omega

/-- The operations go on without the connection. -/
theorem Orderly.lose (h : Orderly same p) : Orderly same p.lose := by
  unfold AgentProcess.lose
  cases p.connection with
  | none => exact h
  | some connection =>
    refine ⟨h.dispatched, fun n => ?_, h.answers, h.outlets, h.apart, h.sessions, h.inbound⟩
    have limit := h.once n
    simp only [load, finished, List.map_append, List.map_map, List.count_append, List.count_nil] at limit ⊢
    have same : p.transport.running.map (Prod.snd ∘ fun operation => (connection, operation)) = p.transport.running :=
      List.map_id _
    rw [same]
    omega

/-- A restarted process is orderly. -/
theorem Orderly.restart (h : Orderly same p) : Orderly same p.restart := by
  refine ⟨h.dispatched, fun n => ?_, h.answers, h.outlets, h.apart, nofun, fun id => ?_⟩
  · refine Nat.le_trans ?_ (h.once n)
    simp only [load, AgentProcess.restart, finished, List.map_nil, List.count_nil]
    omega
  · exact (h.inbound id).lose [p.writtenFor id] [] (List.nil_sublist _)

/-- So is one that connects. -/
theorem Orderly.connected (h : Orderly same p) (connection : Option Nat) :
    Orderly same { p with connection := connection } :=
  ⟨h.dispatched, h.once, h.answers, h.outlets, h.apart, h.sessions, h.inbound⟩

/-- Closing a session keeps it orderly. -/
theorem Orderly.popSession (texts : ComparesTexts same) (h : Orderly same p) (sessionId : Json) :
    Orderly same { p with transport := p.transport.popSession same sessionId } where
  dispatched := h.dispatched
  once := h.once
  answers := h.answers
  outlets := h.outlets
  apart := h.apart
  sessions s hs := h.sessions s (sessions_popSession hs)
  inbound id := (h.inbound id).lose [p.writtenFor id] [] (inboundOf_popSession texts)

/-- The first chunk of a session moves to its VNC server. -/
theorem Orderly.pumpInbound {p' : AgentProcess} {sessionId : String} (texts : ComparesTexts same) (h : Orderly same p)
    (pumped : p.pumpInbound same sessionId = some p') : Orderly same p' := by
  unfold AgentProcess.pumpInbound at pumped
  split at pumped
  · next own chunk rest found =>
    cases pumped
    refine ⟨h.dispatched, h.once, h.answers, h.outlets, h.apart, fun s hs => ?_, fun id => ?_⟩
    · obtain ⟨s', there, rfl⟩ := List.mem_map.mp hs
      obtain ⟨o, ho, named⟩ := h.sessions s' there
      exact ⟨o, ho, named.trans (by split <;> rfl)⟩
    · have flows := h.inbound id
      have after : ∀ s, p.transport.session same (.str id) = some s → inboundOf same { p.transport with
          sessions := p.transport.sessions.map fun s =>
            if same s.sessionId (.str sessionId) then { s with inbound := s.inbound.tail } else s } id =
            if sessionId = id then s.inbound.tail else s.inbound := by
        intro s here
        rw [inboundOf, session_map (fun s => by split <;> rfl), here]
        have named := sessionId_of_session texts here
        by_cases own : sessionId = id
        · simp [named, own, (texts.left id _).mpr rfl]
        · have other : ¬ same (.str id) (.str sessionId) = true := by
            rw [texts.left]
            exact fun h => own (Json.str.inj h)
          simp [named, own, other]
      by_cases own : sessionId = id
      · subst own
        rw [after _ found, if_pos rfl]
        have before : inboundOf same p.transport sessionId = chunk :: rest := by rw [inboundOf, found]; rfl
        rw [before] at flows
        have moved := flows.move [] []
        simpa [writtenFor, messages] using moved
      · have kept : inboundOf same { p.transport with
            sessions := p.transport.sessions.map fun s =>
              if same s.sessionId (.str sessionId) then { s with inbound := s.inbound.tail } else s } id =
            inboundOf same p.transport id := by
          cases here : p.transport.session same (.str id) with
          | none => rw [inboundOf, session_map (fun s => by split <;> rfl), here, inboundOf, here]; rfl
          | some s =>
            rw [after s here, if_neg own, inboundOf, here]
            rfl
        rw [kept]
        simpa [writtenFor, messages, own] using flows
  · cases pumped

/-- Output of a console keeps it orderly. -/
theorem Orderly.pumpOutbound {p' : AgentProcess} {sessionId : String} {chunk : List UInt8}
    {sent : Option (Nat × Dict)} (texts : ComparesTexts same) (h : Orderly same p)
    (pumped : p.pumpOutbound same sessionId chunk = some (p', sent)) : Orderly same p' := by
  unfold AgentProcess.pumpOutbound at pumped
  split at pumped
  · simp only [] at pumped
    split at pumped
    · cases pumped
      exact ⟨h.dispatched, h.once, h.answers, h.outlets, h.apart, h.sessions, h.inbound⟩
    · cases pumped
      have popped := h.popSession texts (.str sessionId)
      exact ⟨popped.dispatched, popped.once, popped.answers, popped.outlets, popped.apart, popped.sessions,
        popped.inbound⟩
  · cases pumped

end AgentProcess

end NodePilot
