import NodePilot.Agent.Transport
import NodePilot.JsonText
import NodePilot.Lib.Prog

/-!
# The receive loop survives

A message ends the loop unless it is no JSON at all or an object, and unless a console message has its session id, and
input for an open session the data to decode. As long as no message ends it, every request is dispatched once, and
what it comes to is answered on the connection.
-/

namespace NodePilot.Agent

def Event.raw {Raw : Type} : Event Raw → Option Raw
  | .message raw => some raw
  | _ => none

namespace Transport

variable {Raw : Type} (loads : Raw → Except Unreadable Json) (same : Json → Json → Bool)

/-! ## Messages that are served -/

/-- The request that a message holds. -/
def requestOf (raw : Raw) : Option Request :=
  match loads raw with
  | .ok (.obj message) => if kind message = .request then (Request.fromWire message).toOption else none
  | _ => none

/-- Every operation that was started is running, or was answered once, under the id of its request. -/
structure Answered (t : Transport) : Prop where
  once : (t.running ++ t.sent.map Prod.fst).Perm (List.range t.dispatched.length)
  unsent : t.unsent = []
  ids : ∀ x ∈ t.sent, (t.dispatched[x.1]?).map Request.requestId = some x.2.requestId

/-- The loop has not ended, and every request of the messages was dispatched once. -/
structure Survived (events : List (Event Raw)) (t : Transport) : Prop where
  raised : t.raised = none
  dispatched : t.dispatched = (events.filterMap Event.raw).filterMap (requestOf loads)
  answered : Answered t

/-- What the loop takes of a console message. -/
def harmlessInput (t : Transport) (message : Dict) : Bool :=
  (message.get? "session_id").any fun sessionId => hashable sessionId && (message.get? "data").any fun data =>
    (t.session same sessionId).isNone || (b64decode data).toOption.isSome

def harmlessClose (message : Dict) : Bool := (message.get? "session_id").any hashable

/-- The loop takes the message. -/
def harmless (t : Transport) (raw : Raw) : Bool :=
  match loads raw with
  | .error e => e = .valueError
  | .ok (.obj message) =>
    match kind message with
    | .consoleInput => t.harmlessInput same message
    | .consoleClose => harmlessClose message
    | .request => true
  | .ok _ => false

/-- The loop takes every message, at the moment when it comes. -/
def Harmless (t : Transport) : List (Event Raw) → Prop
  | [] => True
  | e :: events => (∀ raw, e.raw = some raw → t.harmless loads same raw) ∧ (t.step loads same e).Harmless events

/-! ## One message -/

section Messages

variable {loads : Raw → Except Unreadable Json} {same : Json → Json → Bool} {t t' : Transport}

/-- The operations and their answers are the same, and so is the loop. -/
structure SameWork (t t' : Transport) : Prop where
  raised : t'.raised = t.raised
  dispatched : t'.dispatched = t.dispatched
  running : t'.running = t.running
  sent : t'.sent = t.sent
  unsent : t'.unsent = t.unsent

theorem feedInput_cases (t : Transport) (sessionId data : Json) :
    (hashable sessionId ∧ ((t.session same sessionId).isNone ∨ (b64decode data).toOption.isSome) ∧
        SameWork t (t.feedInput same sessionId data)) ∨
      (¬ (hashable sessionId ∧ ((t.session same sessionId).isNone ∨ (b64decode data).toOption.isSome)) ∧
        (t.feedInput same sessionId data).raised ≠ none) := by
  unfold feedInput
  by_cases key : hashable sessionId
  · rw [if_neg (not_not.mpr key)]
    cases here : t.session same sessionId with
    | none => exact .inl ⟨key, .inl rfl, rfl, rfl, rfl, rfl, rfl⟩
    | some s =>
      cases decoded : b64decode data with
      | ok bytes => exact .inl ⟨key, .inr rfl, rfl, rfl, rfl, rfl, rfl⟩
      | error e => exact .inr ⟨fun fed => fed.2.elim nofun nofun, nofun⟩
  · rw [if_pos key]
    exact .inr ⟨fun fed => key fed.1, nofun⟩

theorem consoleInput_cases (t : Transport) (message : Dict) :
    (t.harmlessInput same message ∧ SameWork t (t.consoleInput same message)) ∨
      (¬ t.harmlessInput same message ∧ (t.consoleInput same message).raised ≠ none) := by
  unfold harmlessInput consoleInput
  cases message.get? "session_id" with
  | none => exact .inr ⟨nofun, nofun⟩
  | some sessionId =>
    cases message.get? "data" with
    | none => exact .inr ⟨by simp, nofun⟩
    | some data =>
      rcases feedInput_cases t sessionId data with ⟨key, taken, work⟩ | ⟨untaken, raised⟩
      · exact .inl ⟨by simpa [key] using taken, work⟩
      · exact .inr ⟨by simpa using untaken, raised⟩

theorem consoleClose_cases (t : Transport) (message : Dict) :
    (harmlessClose message ∧ SameWork t (t.consoleClose same message)) ∨
      (¬ harmlessClose message ∧ (t.consoleClose same message).raised ≠ none) := by
  unfold harmlessClose consoleClose
  cases message.get? "session_id" with
  | none => exact .inr ⟨nofun, nofun⟩
  | some sessionId =>
    by_cases key : hashable sessionId
    · simp only [closeSession, if_neg (not_not.mpr key)]
      exact .inl ⟨key, rfl, rfl, rfl, rfl, rfl⟩
    · simp only [closeSession, if_pos key]
      exact .inr ⟨key, nofun⟩

/-- What one message does: it starts the request that it holds, or leaves the operations alone, or ends the loop. -/
theorem receive_cases (loads : Raw → Except Unreadable Json) (same : Json → Json → Bool) (t : Transport)
    (raw : Raw) :
    (∃ r, requestOf loads raw = some r ∧ t.harmless loads same raw ∧ t.receive loads same raw = t.start r) ∨
      (requestOf loads raw = none ∧ t.harmless loads same raw ∧ SameWork t (t.receive loads same raw)) ∨
      (¬ t.harmless loads same raw ∧ (t.receive loads same raw).raised ≠ none) := by
  unfold requestOf harmless receive
  cases loads raw with
  | error e =>
    cases e with
    | valueError => exact .inr (.inl ⟨rfl, rfl, rfl, rfl, rfl, rfl, rfl⟩)
    | other => exact .inr (.inr ⟨nofun, nofun⟩)
  | ok value =>
    cases value with
    | obj message =>
      cases type : kind message with
      | consoleInput =>
        simp only [type]
        rcases consoleInput_cases t message with taken | ended
        · exact .inr (.inl ⟨rfl, taken⟩)
        · exact .inr (.inr ended)
      | consoleClose =>
        simp only [type]
        rcases consoleClose_cases t message with taken | ended
        · exact .inr (.inl ⟨rfl, taken⟩)
        · exact .inr (.inr ended)
      | request =>
        simp only [type]
        cases Request.fromWire message with
        | ok r => exact .inl ⟨r, rfl, trivial, rfl⟩
        | error e => exact .inr (.inl ⟨rfl, trivial, rfl, rfl, rfl, rfl, rfl⟩)
    | _ => exact .inr (.inr ⟨nofun, nofun⟩)

end Messages

/-! ## Operations -/

section Operations

variable {loads : Raw → Except Unreadable Json} {same : Json → Json → Bool} {t t' : Transport}

theorem Answered.of_same (h : Answered t) (work : SameWork t t') : Answered t' := by
  obtain ⟨-, dispatched, running, sent, unsent⟩ := work
  refine ⟨?_, unsent.trans h.unsent, ?_⟩
  · rw [running, sent, dispatched]
    exact h.once
  · rw [sent, dispatched]
    exact h.ids

/-- The answer is under the id of the request, and the operations are left alone. -/
theorem dispatch_spec (t : Transport) (request : Request) (result : Except String Dict) :
    (t.dispatch same request result).1.requestId = request.requestId ∧
      SameWork t (t.dispatch same request result).2 := by
  have opened {t' : Transport} (h : t.openConsole same request.payload = .ok t') : SameWork t t' := by
    obtain ⟨sessionId, -, h⟩ := Lib.bind_eq_ok h
    unfold openSession at h
    split at h
    · cases h
    · cases h
    · split at h
      · cases h
        exact ⟨rfl, rfl, rfl, rfl, rfl⟩
      · cases h
        exact ⟨rfl, rfl, rfl, rfl, rfl⟩
  unfold dispatch
  split
  · split
    · exact ⟨rfl, opened ‹_›⟩
    · exact ⟨rfl, rfl, rfl, rfl, rfl, rfl⟩
  · split
    · exact ⟨rfl, rfl, rfl, rfl, rfl, rfl⟩
    · exact ⟨rfl, rfl, rfl, rfl, rfl, rfl⟩

/-- A request that is started is running. -/
theorem Answered.start (h : Answered t) (request : Request) : Answered (t.start request) where
  once := by
    have more : ((t.running ++ [t.dispatched.length]) ++ t.sent.map Prod.fst).Perm
        ((t.running ++ t.sent.map Prod.fst) ++ [t.dispatched.length]) := by
      rw [List.append_assoc, List.append_assoc]
      exact List.Perm.append_left _ List.perm_append_comm
    simp only [Transport.start, List.length_append, List.length_singleton, List.range_succ]
    exact more.trans (h.once.append_right _)
  unsent := h.unsent
  ids := by
    intro x hx
    have found := h.ids x hx
    simp only [Transport.start]
    cases here : t.dispatched[x.1]? with
    | none => simp [here] at found
    | some r => rw [List.getElem?_append_left (List.getElem?_eq_some_iff.mp here).1, here, ← here, found]

/-- An answer of a running operation, on an open connection. -/
theorem Answered.answer {operation : Nat} {request : Request} {response : Response} (h : Answered t)
    (raised : t.raised = none) (running : operation ∈ t.running) (here : t.dispatched[operation]? = some request)
    (id : response.requestId = request.requestId) : Answered (t.answer operation response) := by
  unfold Transport.answer
  rw [if_pos (by rw [raised]; rfl)]
  refine ⟨?_, h.unsent, fun x hx => ?_⟩
  · have moved : (t.running.erase operation ++ (t.sent.map Prod.fst ++ [operation])).Perm
        (t.running ++ t.sent.map Prod.fst) := by
      have front := (List.perm_cons_erase running).symm.append_right (t.sent.map Prod.fst)
      refine List.Perm.trans ?_ front
      rw [← List.append_assoc]
      exact List.perm_append_comm
    simp only [List.map_append, List.map_cons, List.map_nil]
    exact moved.trans h.once
  · rcases List.mem_append.mp hx with old | new
    · exact h.ids x old
    · rw [List.mem_singleton.mp new, here, id]
      rfl

theorem answer_frame {operation : Nat} {response : Response} :
    (t.answer operation response).raised = t.raised ∧ (t.answer operation response).dispatched = t.dispatched := by
  unfold Transport.answer
  split
  · exact ⟨rfl, rfl⟩
  · exact ⟨rfl, rfl⟩

theorem answered_handle {operation : Nat} {result : Except String Dict} (h : Answered t) (raised : t.raised = none) :
    Answered (t.handle same operation result) := by
  unfold handle
  split
  · rename_i running
    split
    · next request here =>
      obtain ⟨id, work⟩ := dispatch_spec t request result
      refine (h.of_same work).answer (work.raised.trans raised) ?_ ?_ id
      · rw [work.running]
        exact running
      · rw [work.dispatched]
        exact here
    · exact h
  · exact h

theorem handle_frame {operation : Nat} {result : Except String Dict} :
    (t.handle same operation result).raised = t.raised ∧ (t.handle same operation result).dispatched = t.dispatched := by
  unfold handle
  split
  · split
    · next request _ =>
      have work := (@dispatch_spec same t request result).2
      exact ⟨answer_frame.1.trans work.raised, answer_frame.2.trans work.dispatched⟩
    · exact ⟨rfl, rfl⟩
  · exact ⟨rfl, rfl⟩

end Operations

/-! ## Runs -/

section Runs

variable {loads : Raw → Except Unreadable Json} {same : Json → Json → Bool} {t : Transport}

/-- A loop that has ended stays so. -/
theorem raised_step (e : Event Raw) (raised : t.raised ≠ none) : (t.step loads same e).raised ≠ none := by
  cases e with
  | message raw =>
    simp only [step]
    rw [if_neg (by simpa using raised)]
    exact raised
  | finish operation result =>
    intro h
    exact raised ((handle_frame (t := t)).1.symm.trans h)
  | sessionEnds sessionId => exact raised

theorem raised_run (events : List (Event Raw)) (raised : t.raised ≠ none) : (t.run loads same events).raised ≠ none := by
  induction events generalizing t with
  | nil => exact raised
  | cons e events ih => exact ih (raised_step e raised)

/-- A step whose message the loop takes. -/
theorem Survived.step {done : List (Event Raw)} (h : Survived loads done t) (e : Event Raw)
    (harmless : ∀ raw, e.raw = some raw → t.harmless loads same raw) :
    Survived loads (done ++ [e]) (t.step loads same e) := by
  have quiet (silent : e.raw = none) :
      ((done ++ [e]).filterMap Event.raw).filterMap (requestOf loads) = t.dispatched := by
    simp [List.filterMap_append, silent, h.dispatched]
  cases e with
  | message raw =>
    have heard : ((done ++ [Event.message raw]).filterMap Event.raw).filterMap (requestOf loads) =
        t.dispatched ++ [raw].filterMap (requestOf loads) := by
      simp [List.filterMap_append, Event.raw, h.dispatched]
    simp only [Transport.step]
    rw [if_pos (by rw [h.raised]; rfl)]
    rcases t.receive_cases loads same raw with ⟨r, held, -, started⟩ | ⟨held, -, work⟩ | ⟨harmful, -⟩
    · rw [started]
      exact ⟨h.raised, by rw [heard]; simp [held, Transport.start], h.answered.start r⟩
    · exact ⟨work.raised.trans h.raised, by rw [heard, work.dispatched]; simp [held], h.answered.of_same work⟩
    · exact absurd (harmless raw rfl) harmful
  | finish operation result =>
    exact ⟨handle_frame.1.trans h.raised, handle_frame.2.trans (quiet rfl).symm, answered_handle h.answered h.raised⟩
  | sessionEnds sessionId =>
    exact ⟨h.raised, (quiet rfl).symm, h.answered.of_same ⟨rfl, rfl, rfl, rfl, rfl⟩⟩

/-- A step whose message it does not take. -/
theorem raised_of_harmful {raw : Raw} (raised : t.raised = none) (harmful : ¬ t.harmless loads same raw) :
    (t.step loads same (.message raw)).raised ≠ none := by
  simp only [step]
  rw [if_pos (by rw [raised]; rfl)]
  rcases t.receive_cases loads same raw with ⟨-, -, taken, -⟩ | ⟨-, taken, -⟩ | ⟨-, ended⟩
  · exact absurd taken harmful
  · exact absurd taken harmful
  · exact ended

theorem survived_run (events : List (Event Raw)) {done : List (Event Raw)} (h : Survived loads done t) :
    Survived loads (done ++ events) (t.run loads same events) ↔ t.Harmless loads same events := by
  induction events generalizing t done with
  | nil =>
    rw [List.append_nil]
    exact ⟨fun _ => trivial, fun _ => h⟩
  | cons e events ih =>
    have further : done ++ e :: events = (done ++ [e]) ++ events := by simp
    rw [further]
    constructor
    · intro survived
      have harmless : ∀ raw, e.raw = some raw → t.harmless loads same raw := by
        intro raw message
        by_contra harmful
        cases e with
        | message raw' =>
          cases message
          exact raised_run events (raised_of_harmful h.raised harmful) survived.raised
        | _ => cases message
      exact ⟨harmless, (ih (h.step e harmless)).mp survived⟩
    · rintro ⟨harmless, rest⟩
      exact (ih (h.step e harmless)).mpr rest

end Runs

/-- On a new connection, whatever console sessions there are: the loop survives the messages, and every request of
them is dispatched once and answered on the connection, exactly when the loop takes every message at the moment when
it comes. -/
theorem receive_loop_survives_iff (loads : Raw → Except Unreadable Json) (same : Json → Json → Bool)
    (sessions : List ConsoleSession) (events : List (Event Raw)) :
    Survived loads events (run loads same { sessions := sessions } events) ↔
      Harmless loads same { sessions := sessions } events := by
  have fresh : Survived loads [] { sessions := sessions } := ⟨rfl, rfl, .refl _, rfl, nofun⟩
  exact survived_run events fresh

/-! ### A text frame of a browser -/

/-- `json.loads`, of a text frame. -/
def jsonLoads (raw : String) : Except Unreadable Json :=
  match Json.loads raw with
  | some value => .ok value
  | none => .error .valueError

/-- What `ConsoleConsumer.receive` sends the agent for a text frame: the text as it is. -/
def consoleInputMessage (sessionId text : String) : String :=
  Json.dumps (.obj [("type", .str "console_input"), ("session_id", .str sessionId), ("data", .str text)])

/-- A browser sends the text `x` to its open console: no Base64, so the loop ends by an exception. -/
theorem text_frame_ends_loop : ¬ ∀ (loads : String → Except Unreadable Json) (same : Json → Json → Bool)
    (sessions : List ConsoleSession) (events : List (Event String)),
    Survived loads events (run loads same { sessions := sessions } events) := by
  intro h
  have survived := h jsonLoads (fun x y => x.dumps = y.dumps) [{ sessionId := .str "5f0c" }]
    [.message (consoleInputMessage "5f0c" "x")]
  have ended : (run jsonLoads (fun x y => x.dumps = y.dumps) { sessions := [{ sessionId := .str "5f0c" }] }
      [.message (consoleInputMessage "5f0c" "x")]).raised.isSome := by decide +kernel
  rw [survived.raised] at ended
  cases ended

end Transport

end NodePilot.Agent
