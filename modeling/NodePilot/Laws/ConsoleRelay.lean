import NodePilot.Laws.ConsoleSessions

/-!
# The relay of the consoles

A console session is a relay between one browser and the VNC server of one VM. What the VNC server gets is what the
browser has typed, in its order and each frame once at most; what the browser is shown is what the session has read from
that VNC server, likewise. Nothing of a session goes to another node or another session, whatever is lost, in whichever
order the parties take their steps, and however often the agents connect.
-/

namespace NodePilot

open Lib Agent

/-! ## Base64 -/

section Base64

/-- Six bits are read back from their character. -/
theorem sextet_base64Char {n : Nat} (h : n < 64) : sextet (base64Char n) = some n :=
  (by decide : ∀ n : Fin 64, sextet (base64Char n) = some n.val) ⟨n, h⟩

/-- No six bits are written as padding. -/
theorem base64Char_ne {n : Nat} (h : n < 64) : base64Char n ≠ '=' :=
  (by decide : ∀ n : Fin 64, base64Char n ≠ '=') ⟨n, h⟩

/-- Base64 is ASCII. -/
theorem base64Char_ascii {n : Nat} (h : n < 64) : (base64Char n).toNat < 128 :=
  (by decide : ∀ n : Fin 64, (base64Char n).toNat < 128) ⟨n, h⟩

/-- A byte, put together again from the bits that two characters have of it. -/
theorem ofNat_split (byte : UInt8) {n : Nat} (whole : n = byte.toNat) : UInt8.ofNat n = byte := by
  rw [whole, UInt8.ofNat_toNat]

section Group

variable {left pads n : Nat} {bytes : List UInt8} {rest : List Char}

/-- The first character of four is kept. -/
theorem a2bBase64_first (h : n < 64) :
    a2bBase64 0 left pads bytes (base64Char n :: rest) = a2bBase64 1 n 0 bytes rest := by
  simp only [a2bBase64, if_neg (base64Char_ne h), sextet_base64Char h]

/-- The second completes a byte. -/
theorem a2bBase64_second (h : n < 64) : a2bBase64 1 left pads bytes (base64Char n :: rest) =
    a2bBase64 2 (n % 16) 0 (bytes ++ [.ofNat (left * 4 + n / 16)]) rest := by
  simp only [a2bBase64, if_neg (base64Char_ne h), sextet_base64Char h]

/-- The third completes another. -/
theorem a2bBase64_third (h : n < 64) : a2bBase64 2 left pads bytes (base64Char n :: rest) =
    a2bBase64 3 (n % 4) 0 (bytes ++ [.ofNat (left * 16 + n / 4)]) rest := by
  simp only [a2bBase64, if_neg (base64Char_ne h), sextet_base64Char h]

/-- The fourth completes the last. -/
theorem a2bBase64_fourth (h : n < 64) : a2bBase64 3 left pads bytes (base64Char n :: rest) =
    a2bBase64 0 0 0 (bytes ++ [.ofNat (left * 64 + n)]) rest := by
  simp only [a2bBase64, if_neg (base64Char_ne h), sextet_base64Char h]

end Group

/-- All bytes are read back from their base64. -/
theorem a2bBase64_b64Chars (data bytes : List UInt8) : a2bBase64 0 0 0 bytes (b64Chars data) = .ok (bytes ++ data) := by
  induction data using b64Chars.induct generalizing bytes with
  | case1 => simp [b64Chars, a2bBase64]
  | case2 a =>
    have ha := a.toNat_lt
    rw [b64Chars, a2bBase64_first (by omega), a2bBase64_second (by omega), ofNat_split a (by omega)]
    rfl
  | case3 a b =>
    have ha := a.toNat_lt
    have hb := b.toNat_lt
    rw [b64Chars, a2bBase64_first (by omega), a2bBase64_second (by omega), a2bBase64_third (by omega),
      ofNat_split a (by omega), ofNat_split b (by omega), List.append_assoc]
    rfl
  | case4 a b c rest ih =>
    have ha := a.toNat_lt
    have hb := b.toNat_lt
    have hc := c.toNat_lt
    rw [b64Chars, a2bBase64_first (by omega), a2bBase64_second (by omega), a2bBase64_third (by omega),
      a2bBase64_fourth (by omega), ofNat_split a (by omega), ofNat_split b (by omega), ofNat_split c (by omega), ih]
    simp

/-- The base64 of bytes is ASCII. -/
theorem b64Chars_ascii (data : List UInt8) : ∀ c ∈ b64Chars data, c.toNat < 128 := by
  induction data using b64Chars.induct with
  | case1 => simp [b64Chars]
  | case2 a =>
    have ha := a.toNat_lt
    simp only [b64Chars, List.forall_mem_cons]
    exact ⟨base64Char_ascii (by omega), base64Char_ascii (by omega), by decide, by decide, nofun⟩
  | case3 a b =>
    have ha := a.toNat_lt
    have hb := b.toNat_lt
    simp only [b64Chars, List.forall_mem_cons]
    exact ⟨base64Char_ascii (by omega), base64Char_ascii (by omega), base64Char_ascii (by omega), by decide, nofun⟩
  | case4 a b c rest ih =>
    have ha := a.toNat_lt
    have hb := b.toNat_lt
    have hc := c.toNat_lt
    simp only [b64Chars, List.forall_mem_cons]
    exact ⟨base64Char_ascii (by omega), base64Char_ascii (by omega), base64Char_ascii (by omega),
      base64Char_ascii (by omega), ih⟩

/-- What was encoded is decoded again. -/
theorem b64decode_b64encode (data : List UInt8) : b64decode (.str (b64encode data)) = .ok data := by
  have ascii : (b64encode data).toList.all (·.toNat < 128) = true := by
    rw [b64encode, String.toList_ofList, List.all_eq_true]
    exact fun c hc => decide_eq_true (b64Chars_ascii data c hc)
  rw [b64decode, if_pos ascii, b64encode, String.toList_ofList, a2bBase64_b64Chars, List.nil_append]

end Base64

namespace Channel

open AgentProcess

open Agent.Transport (sessionOf opens PlainResult)

/-! ## What is shown -/

/-- The chunk that a message brings for a session. -/
def outputFor (sessionId : String) (message : Dict) : Option (List UInt8) :=
  match Link.isConsoleData message, message.get? "session_id", message.get? "data" with
  | true, some id, some data => dataFor sessionId id data
  | _, _, _ => none

/-- Console data is output for its own session only. -/
theorem outputFor_consoleData (sessionId other : String) (chunk : List UInt8) :
    outputFor sessionId (consoleData other chunk) = if other = sessionId then some chunk else none := by
  have read : outputFor sessionId (consoleData other chunk) = dataFor sessionId (.str other) (.str (b64encode chunk)) :=
    rfl
  rw [read, dataFor, b64decode_b64encode]
  rfl

/-- A response is no output. -/
theorem outputFor_toWire (sessionId : String) (response : Response) : outputFor sessionId response.toWire = none := rfl

section Views

variable (s : Channel) (sessionId : String)

/-- What is under way on a connection for a session. -/
def dataOn (id : Nat) : List (List UInt8) :=
  (s.up id).filterMap fun text => (messageOf text).bind (outputFor sessionId)

/-- What the consumer of a session has still to show. -/
def waiting : List (List UInt8) :=
  ((s.consoles.find? (·.sessionId = sessionId)).map fun c =>
    c.mail.filterMap fun data => (b64decode data).toOption).getD []

/-- What the browser of a session was shown. -/
def shownTo : List (List UInt8) := (s.shown.filter (·.1 = sessionId)).map Prod.snd

/-- A process sends the data of the session on a connection. -/
def OutletAt (nodeUuid : String) (id : Nat) : Prop :=
  ∃ o ∈ (s.processes nodeUuid).outlets, o.sessionId = .str sessionId ∧ o.connection = id

/-- The session was not opened, and has no data. -/
structure Silent : Prop where
  outlets : ∀ nodeUuid id, ¬ s.OutletAt sessionId nodeUuid id
  data : ∀ id, s.dataOn sessionId id = []
  waiting : s.waiting sessionId = []
  shown : s.shownTo sessionId = []

/-- The data of the session comes from one process on one connection. -/
structure Piped (nodeUuid : String) (id : Nat) : Prop where
  outlet : s.OutletAt sessionId nodeUuid id
  only : ∀ n i, s.OutletAt sessionId n i → n = nodeUuid ∧ i = id
  alone : ∀ i, i ≠ id → s.dataOn sessionId i = []
  flows : Flows ((s.processes nodeUuid).readFor sessionId)
    [s.shownTo sessionId, s.waiting sessionId, s.dataOn sessionId id]

/-- The invariant of the output. -/
def Relays : Prop := s.Silent sessionId ∨ ∃ nodeUuid id, s.Piped sessionId nodeUuid id

end Views

section Relays

variable {str : Json → String} {same : Json → Json → Bool} {s s' : Channel} {sessionId : String}

/-- A step that opens no session and brings no data. -/
theorem Relays.of_less (h : s.Relays sessionId)
    (outlets : ∀ n, (s'.processes n).outlets = (s.processes n).outlets)
    (read : ∀ n, ((s.processes n).readFor sessionId).Sublist ((s'.processes n).readFor sessionId))
    (data : ∀ id, (s'.dataOn sessionId id).Sublist (s.dataOn sessionId id))
    (waiting : (s'.waiting sessionId).Sublist (s.waiting sessionId))
    (shown : s'.shownTo sessionId = s.shownTo sessionId) : s'.Relays sessionId := by
  have at_iff (n : String) (id : Nat) : s'.OutletAt sessionId n id ↔ s.OutletAt sessionId n id := by
    rw [OutletAt, OutletAt, outlets]
  rcases h with silent | ⟨n, id, piped⟩
  · refine .inl ⟨fun n id opened => silent.outlets n id ((at_iff n id).mp opened), fun id => ?_, ?_, ?_⟩
    · exact List.sublist_nil.mp (silent.data id ▸ data id)
    · exact List.sublist_nil.mp (silent.waiting ▸ waiting)
    · exact shown.trans silent.shown
  · refine .inr ⟨n, id, (at_iff n id).mpr piped.outlet, fun n i opened => piped.only n i ((at_iff n i).mp opened),
      fun i ne => ?_, ?_⟩
    · exact List.sublist_nil.mp (piped.alone i ne ▸ data i)
    · rw [shown]
      exact .trans (flows_singleton.mpr (read n)) ((piped.flows.lose [_] [_] waiting).lose [_, _] [] (data id))

/-- A step that changes nothing of a console. -/
theorem Relays.of_same (h : s.Relays sessionId) (processes : s'.processes = s.processes) (up : s'.up = s.up)
    (consoles : s'.consoles = s.consoles) (shown : s'.shown = s.shown) : s'.Relays sessionId :=
  h.of_less (fun n => by rw [processes]) (fun n => by rw [processes])
    (fun id => by rw [dataOn, up, dataOn]) (by rw [waiting, consoles, waiting]) (by rw [shownTo, shown, shownTo])

/-! ### Consumers -/

/-- Fewer consumers. -/
theorem waiting_filter {other : String} (consoles : s'.consoles = s.consoles.filter (·.sessionId ≠ other)) :
    (s'.waiting sessionId).Sublist (s.waiting sessionId) := by
  rw [waiting, consoles, List.find?_filter, waiting]
  by_cases own : other = sessionId
  · rw [List.find?_eq_none.mpr fun c _ => by simp [own]]
    exact List.nil_sublist _
  · have here : (s.consoles.find? fun c => decide (decide (c.sessionId ≠ other) = true ∧
        decide (c.sessionId = sessionId) = true)) = s.consoles.find? (·.sessionId = sessionId) := by
      congr 1
      funext c
      by_cases named : c.sessionId = sessionId
      · simp [named, Ne.symm own]
      · simp [named]
    rw [here]

/-- The consumers are rewritten one by one. -/
theorem find?_consoles_map {consoles : List ConsoleConsumer} {f : ConsoleConsumer → ConsoleConsumer}
    (ids : ∀ c, (f c).sessionId = c.sessionId) :
    (consoles.map f).find? (·.sessionId = sessionId) = (consoles.find? (·.sessionId = sessionId)).map f := by
  rw [List.find?_map]
  congr 2
  funext c
  rw [Function.comp_apply, ids]

/-- Each keeps or loses some of its mail. -/
theorem waiting_map {f : ConsoleConsumer → ConsoleConsumer} (consoles : s'.consoles = s.consoles.map f)
    (ids : ∀ c, (f c).sessionId = c.sessionId) (mail : ∀ c, c.sessionId = sessionId → (f c).mail.Sublist c.mail) :
    (s'.waiting sessionId).Sublist (s.waiting sessionId) := by
  rw [waiting, consoles, find?_consoles_map ids, waiting]
  cases found : s.consoles.find? (·.sessionId = sessionId) with
  | none => exact List.Sublist.refl _
  | some c => exact List.Sublist.filterMap _ (mail c (by simpa using List.find?_some found))

/-- The consumer of the session is given some more. -/
theorem waiting_feed {f : ConsoleConsumer → ConsoleConsumer} {more : List Json}
    (consoles : s'.consoles = s.consoles.map f) (ids : ∀ c, (f c).sessionId = c.sessionId)
    (mail : ∀ c, c.sessionId = sessionId → (f c).mail = c.mail ++ more) :
    (s'.waiting sessionId).Sublist (s.waiting sessionId ++ more.filterMap fun data => (b64decode data).toOption) := by
  rw [waiting, consoles, find?_consoles_map ids, waiting]
  cases found : s.consoles.find? (·.sessionId = sessionId) with
  | none => exact List.nil_sublist _
  | some c =>
    have named : c.sessionId = sessionId := by simpa using List.find?_some found
    simp only [Option.map_some, Option.getD_some, mail c named, List.filterMap_append]
    exact List.Sublist.refl _

/-- Closing a console shows nothing. -/
theorem Relays.closeConsole (h : s.Relays sessionId) {console : ConsoleConsumer} :
    (s.closeConsole console).Relays sessionId :=
  h.of_less (fun _ => rfl) (fun _ => List.Sublist.refl _) (fun _ => List.Sublist.refl _) (waiting_filter rfl) rfl

/-- The answer to a console's call shows nothing. -/
theorem Relays.answerConsole (h : s.Relays sessionId) {call : Call} {outcome : Outcome} :
    (s.answerConsole call outcome).Relays sessionId := by
  unfold Channel.answerConsole
  split
  · exact h
  · split
    · refine h.of_less (fun _ => rfl) (fun _ => List.Sublist.refl _) (fun _ => List.Sublist.refl _)
        (waiting_map rfl ?_ ?_) rfl
      · intro c
        split <;> rfl
      · intro c _
        split <;> exact List.Sublist.refl _
    · exact h.closeConsole

/-- A poll shows nothing. -/
theorem Relays.poll (h : s.Relays sessionId) (call : Call) : (s.poll call).Relays sessionId := by
  unfold Channel.poll
  dsimp only
  split
  · exact h.of_same rfl rfl rfl rfl
  · refine Relays.answerConsole ?_
    exact h.of_same rfl rfl rfl rfl

/-- A call shows nothing. -/
theorem Relays.send (h : s.Relays sessionId) {node : Node} {request : AgentRequest} {requestId : String}
    {timeout : Option Nat} : (s.send node request requestId timeout).Relays sessionId := by
  unfold Channel.send
  split <;> exact h.of_same rfl rfl rfl rfl

/-- Opening a console shows nothing. -/
theorem Relays.openConsole (h : s.Relays sessionId) {other vmUuid requestId : String} {node : Node} :
    (s.openConsole other node vmUuid requestId).Relays sessionId := by
  rcases openConsole_cases s other vmUuid requestId node with ⟨link, -, sent⟩ | ⟨link, -, closed⟩
  · rw [sent]
    refine h.of_less (fun _ => rfl) (fun _ => List.Sublist.refl _) (fun _ => List.Sublist.refl _) ?_ rfl
    simp only [waiting, Channel.groupSend, List.find?_cons]
    split
    · exact List.nil_sublist _
    · exact List.Sublist.refl _
  · rw [closed]
    exact h.of_less (fun _ => rfl) (fun _ => List.Sublist.refl _) (fun _ => List.Sublist.refl _)
      (waiting_filter rfl) rfl

/-- A consumer with this session is the one that is found. -/
theorem Sessions.find?_eq (sessions : Sessions s) {console : ConsoleConsumer} (mem : console ∈ s.consoles) :
    s.consoles.find? (·.sessionId = console.sessionId) = some console := by
  cases found : s.consoles.find? (·.sessionId = console.sessionId) with
  | none => exact absurd (List.find?_eq_none.mp found console mem) (by simp)
  | some c =>
    have named : c.sessionId = console.sessionId := by simpa using List.find?_some found
    rw [List.inj_on_of_nodup_map sessions.apart (List.mem_of_find?_eq_some found) mem named]

/-- What is displayed next was written next. -/
theorem Relays.display (h : s.Relays sessionId) (sessions : Sessions s) {console : ConsoleConsumer}
    (mem : console ∈ s.consoles) (displayed : s.display console = some s') : s'.Relays sessionId := by
  unfold Channel.display at displayed
  split at displayed
  · cases displayed
  · next data rest mail =>
    split at displayed
    · next bytes decoded =>
      cases displayed
      have ids (c : ConsoleConsumer) :
          (if c.sessionId = console.sessionId then { c with mail := rest } else c).sessionId = c.sessionId := by
        split <;> rfl
      by_cases own : console.sessionId = sessionId
      · subst own
        have before : s.waiting console.sessionId = bytes :: rest.filterMap fun data => (b64decode data).toOption := by
          simp [waiting, sessions.find?_eq mem, mail, decoded, Except.toOption]
        rcases h with silent | ⟨n, id, piped⟩
        · rw [silent.waiting] at before
          cases before
        · refine .inr ⟨n, id, piped.outlet, piped.only, piped.alone, ?_⟩
          have flows := piped.flows
          rw [before] at flows
          have moved := flows.move [] [_]
          simp only [waiting, shownTo, find?_consoles_map ids, sessions.find?_eq mem, Option.map_some, if_true,
            Option.getD_some, List.filter_append, List.map_append, dataOn]
          simpa [shownTo, dataOn] using moved
      · refine h.of_less (fun _ => rfl) (fun _ => List.Sublist.refl _) (fun _ => List.Sublist.refl _)
          (waiting_map rfl ids ?_) ?_
        · intro c named
          rw [if_neg fun same => own (same.symm.trans named)]
        · simp [shownTo, own]
    · cases displayed
      exact h.of_less (fun _ => rfl) (fun _ => List.Sublist.refl _) (fun _ => List.Sublist.refl _)
        (waiting_filter rfl) rfl

/-! ### Agents -/

/-- What one text on a connection brings. -/
def outputIn (sessionId text : String) : Option (List UInt8) := (messageOf text).bind (outputFor sessionId)

/-- Output is read back from the text on the wire. -/
theorem outputIn_dumps {message : Dict} (plain : Json.Plain (.obj message)) :
    outputIn sessionId (Json.dumps (.obj message)) = outputFor sessionId message := by
  rw [outputIn, messageOf_dumps plain, Option.bind_some]

/-- A consumer has joined once. -/
theorem filter_of_apart {consoles : List Console} (apart : (consoles.map Console.sessionId).Nodup) (other : String) :
    (consoles.filter (·.sessionId = other)).length ≤ 1 := by
  have once : ((consoles.filter (·.sessionId = other)).map Console.sessionId).Nodup :=
    List.Sublist.nodup (List.filter_sublist.map _) apart
  have all : (consoles.filter (·.sessionId = other)).map Console.sessionId =
      List.replicate (consoles.filter (·.sessionId = other)).length other := by
    rw [List.eq_replicate_iff]
    refine ⟨List.length_map .., fun id hid => ?_⟩
    obtain ⟨c, hc, rfl⟩ := List.mem_map.mp hid
    simpa using (List.mem_filter.mp hc).2
  rw [all, List.nodup_replicate] at once
  exact once

/-- Console data is handed to the consumers of its session. -/
theorem relayed_consoleData (text : ∀ s, str (.str s) = s) (l : Link) (connection : Connection) (other : String)
    (chunk : List UInt8) : ∃ source : Received,
      (l.receive str connection (.object (consoleData other chunk))).relayed =
        (if other = "" then [] else (l.consoles.filter (·.sessionId = other)).map fun console =>
          (⟨console, .str (b64encode chunk), source⟩ : Relayed)) ++ l.relayed := by
  refine ⟨⟨connection, consoleData other chunk, connection.id ∈ l.revoked⟩, ?_⟩
  have data : Link.isConsoleData (consoleData other chunk) = true := rfl
  have session : (consoleData other chunk).get? "session_id" = some (.str other) := rfl
  have bytes : (consoleData other chunk).get? "data" = some (.str (b64encode chunk)) := rfl
  simp only [Link.receive, data, if_true, Link.relayConsoleData, session, bytes, text, Option.getD_some]
  by_cases empty : other = "" <;> simp [empty, Json.truthy, Link.refresh]

/-- A response is relayed to no console. -/
theorem relayed_response (l : Link) (connection : Connection) (response : Response) :
    (l.receive str connection (.object response.toWire)).relayed = l.relayed := by
  have data : Link.isConsoleData response.toWire = false := rfl
  simp only [Link.receive, data, Bool.false_eq_true, if_false, Link.keepResponse]
  split
  · rfl
  · split <;> rfl

/-- A frame of an agent brings a consumer the chunk for its session, or nothing. -/
theorem relayed_receive (sessionId : String) (text : ∀ s, str (.str s) = s) {p : AgentProcess} {frame : String} {l : Link}
    (connection : Connection) (told : FromProcess p frame)
    (plain : ∀ x ∈ p.transport.sent, Json.Plain (.obj x.2.toWire))
    (apart : (l.consoles.map Console.sessionId).Nodup) : ∃ new,
      (l.receive str connection (frameOf frame)).relayed = new ++ l.relayed ∧
      (((new.filter (·.console.sessionId = sessionId)).map Relayed.data).filterMap fun data =>
        (b64decode data).toOption).Sublist (outputIn sessionId frame).toList := by
  rcases told with ⟨x, hx, rfl⟩ | ⟨other, chunk, rfl⟩
  · rw [frameOf_dumps (plain x hx), relayed_response]
    exact ⟨[], rfl, List.nil_sublist _⟩
  · have data := plain_consoleData other chunk
    obtain ⟨source, added⟩ := relayed_consoleData text l connection other chunk
    rw [frameOf_dumps data, outputIn_dumps data, outputFor_consoleData, added]
    refine ⟨_, rfl, ?_⟩
    split
    · exact List.nil_sublist _
    · have few := filter_of_apart apart other
      by_cases own : other = sessionId
      · subst own
        have here : ((l.consoles.filter (·.sessionId = other)).map fun console =>
            (⟨console, .str (b64encode chunk), source⟩ : Relayed)).filter (·.console.sessionId = other) =
            (l.consoles.filter (·.sessionId = other)).map fun console => ⟨console, .str (b64encode chunk), source⟩ := by
          rw [List.filter_eq_self]
          intro r hr
          obtain ⟨c, hc, rfl⟩ := List.mem_map.mp hr
          exact (List.mem_filter.mp hc).2
        rw [here, if_pos rfl]
        cases joined : l.consoles.filter (·.sessionId = other) with
        | nil => exact List.nil_sublist _
        | cons c rest =>
          rw [joined] at few
          have none : rest = [] := List.eq_nil_of_length_eq_zero (by simpa using few)
          simp [none, b64decode_b64encode, Except.toOption]
      · have gone : ((l.consoles.filter (·.sessionId = other)).map fun console =>
            (⟨console, .str (b64encode chunk), source⟩ : Relayed)).filter (·.console.sessionId = sessionId) = [] := by
          rw [List.filter_eq_nil_iff]
          intro r hr
          obtain ⟨c, hc, rfl⟩ := List.mem_map.mp hr
          have named : c.sessionId = other := by simpa using (List.mem_filter.mp hc).2
          simp [named, own]
        rw [gone]
        exact List.nil_sublist _

/-- What a consumer receives next was written next. -/
theorem Relays.receive (text : ∀ s, str (.str s) = s) (h : s.Relays sessionId) (linked : Linked str same s)
    (sessions : Sessions s) {connection : Connection} (mem : connection ∈ s.link.connections)
    (received : s.receive str connection = some s') : s'.Relays sessionId := by
  unfold Channel.receive at received
  cases next : s.up connection.id with
  | nil => simp [next] at received
  | cons frame rest =>
    simp only [next, Option.some.injEq] at received
    have told := linked.told.up connection mem frame (next ▸ List.mem_cons_self)
    have plain : ∀ x ∈ (s.processes connection.nodeUuid).transport.sent, Json.Plain (.obj x.2.toWire) := by
      intro x hx
      obtain ⟨request, requestId, -, -, answers⟩ := linked.origin hx
      exact plain_of_answers answers
    obtain ⟨new, relayed, brought⟩ := relayed_receive sessionId text connection told plain
      sessions.apartJoined
    have taken : (new ++ s.link.relayed).take ((new ++ s.link.relayed).length - s.link.relayed.length) = new := by
      simp
    rw [relayed, taken] at received
    have waits : (s'.waiting sessionId).Sublist (s.waiting sessionId ++ (outputIn sessionId frame).toList) := by
      subst received
      have fed : ∀ c : ConsoleConsumer, c.sessionId = sessionId →
          c.mail ++ (new.filter (·.console.sessionId = c.sessionId)).map Relayed.data =
            c.mail ++ (new.filter (·.console.sessionId = sessionId)).map Relayed.data := fun c named => by rw [named]
      exact (waiting_feed (f := fun c => { c with
        mail := c.mail ++ (new.filter (·.console.sessionId = c.sessionId)).map Relayed.data }) rfl (fun _ => rfl)
        fed).trans ((List.Sublist.refl _).append brought)
    have here : s.dataOn sessionId connection.id =
        (outputIn sessionId frame).toList ++ s'.dataOn sessionId connection.id := by
      subst received
      simp only [dataOn, next, Function.update_self, List.filterMap_cons]
      show _ = (outputIn sessionId frame).toList ++ _
      rw [outputIn]
      cases (messageOf frame).bind (outputFor sessionId) <;> rfl
    have there (i : Nat) (ne : i ≠ connection.id) : s'.dataOn sessionId i = s.dataOn sessionId i := by
      subst received
      simp only [dataOn, Function.update_of_ne ne]
    have shown : s'.shownTo sessionId = s.shownTo sessionId := by
      subst received
      rfl
    have processes : s'.processes = s.processes := by
      subst received
      rfl
    cases chunk : outputIn sessionId frame with
    | none =>
      rw [chunk, Option.toList_none, List.append_nil] at waits
      rw [chunk, Option.toList_none, List.nil_append] at here
      refine h.of_less (fun n => by rw [processes]) (fun n => by rw [processes]) (fun i => ?_) waits shown
      rcases eq_or_ne i connection.id with rfl | ne
      · rw [here]
      · rw [there i ne]
    | some bytes =>
      rw [chunk, Option.toList_some] at waits here
      rcases h with silent | ⟨n, id, piped⟩
      · rw [silent.data] at here
        cases here
      · obtain rfl : connection.id = id := by
          by_contra other
          rw [piped.alone _ other] at here
          cases here
        refine .inr ⟨n, connection.id, ?_, fun n' i opened => piped.only n' i ?_, fun i ne => ?_, ?_⟩
        · rw [OutletAt, processes]
          exact piped.outlet
        · rw [OutletAt, processes] at opened
          exact opened
        · rw [there i ne]
          exact piped.alone i ne
        · have flows := piped.flows
          rw [here] at flows
          rw [processes, shown]
          exact (flows.move [_] []).lose [_] [_] waits

/-! ### Processes -/

/-- The session that a request opens, if it is a text. -/
def sessionOpened (request : Request) : Option String :=
  match opens request with
  | some (.str sessionId) => some sessionId
  | _ => none

/-- A message opens a session as the request in it does. -/
theorem sessionOf_eq (message : Dict) : sessionOf message = (requestIn message).bind sessionOpened := by
  unfold sessionOf
  cases requestIn message <;> rfl

/-- A console is opened where its request was dispatched. -/
theorem Linked.openedAt (linked : Linked str same s) {n : String} {request : Request}
    (mem : request ∈ (s.processes n).transport.dispatched) (opens : sessionOpened request = some sessionId) :
    s.OpenedAt n sessionId := by
  obtain ⟨message, sent, read⟩ := List.mem_filterMap.mp ((linked.started n).subset mem)
  exact ⟨(n, message), mem_commandsTo.mp sent, rfl, by rw [sessionOf_eq, read, Option.bind_some, opens]⟩

/-- Two outlets of a session are one. -/
theorem Linked.outlet_unique (linked : Linked str same s) (sessions : Sessions s) {n n' : String} {o o' : Outlet}
    (mem : o ∈ (s.processes n).outlets) (mem' : o' ∈ (s.processes n').outlets) (named : o.sessionId = .str sessionId)
    (named' : o'.sessionId = .str sessionId) : n = n' ∧ o = o' := by
  obtain ⟨-, request, here, opened⟩ := (linked.processes n).outlets o mem
  obtain ⟨-, request', here', opened'⟩ := (linked.processes n').outlets o' mem'
  have asks : sessionOpened request = some sessionId := by rw [sessionOpened, opened, named]
  have asks' : sessionOpened request' = some sessionId := by rw [sessionOpened, opened', named']
  obtain rfl := sessions.unique (linked.openedAt (List.mem_of_getElem? here) asks)
    (linked.openedAt (List.mem_of_getElem? here') asks')
  have once : ((s.processes n).transport.dispatched.filterMap sessionOpened).Nodup := by
    have part : ((s.commandsTo n).filterMap sessionOf).Sublist (s.commands.filterMap fun x => sessionOf x.2) := by
      rw [commandsTo, List.filterMap_map]
      exact List.Sublist.filterMap _ List.filter_sublist
    have fewer := List.Sublist.filterMap sessionOpened (linked.started n)
    rw [List.filterMap_filterMap, ← funext sessionOf_eq] at fewer
    exact List.Sublist.nodup (fewer.trans part) sessions.once
  have operation := index_eq_of_nodup_filterMap once here here' asks asks'
  exact ⟨rfl, List.inj_on_of_nodup_map (linked.processes n).apart mem mem' operation⟩

/-- A process goes on with the sessions that it has. -/
theorem Relays.setProcess (h : s.Relays sessionId) {nodeUuid : String} {p : AgentProcess}
    (outlets : p.outlets = (s.processes nodeUuid).outlets) (read : (s.processes nodeUuid).read.Sublist p.read) :
    (s.setProcess nodeUuid p).Relays sessionId := by
  refine h.of_less (fun n => ?_) (fun n => ?_) (fun _ => List.Sublist.refl _) (List.Sublist.refl _) rfl
  · rcases eq_or_ne n nodeUuid with rfl | ne
    · simpa only [Channel.setProcess, Function.update_self] using outlets
    · simp only [Channel.setProcess, Function.update_of_ne ne]
  · rcases eq_or_ne n nodeUuid with rfl | ne
    · simp only [Channel.setProcess, Function.update_self, readFor]
      exact (read.filter _).map _
    · simp only [Channel.setProcess, Function.update_of_ne ne]
      exact List.Sublist.refl _

/-- A process opens some sessions on its connection. -/
theorem Relays.opened (h : s.Relays sessionId) {nodeUuid : String} {p : AgentProcess} {new : List Outlet} {id : Nat}
    (linked : Linked str same (s.setProcess nodeUuid p)) (sessions : Sessions (s.setProcess nodeUuid p))
    (outlets : p.outlets = new ++ (s.processes nodeUuid).outlets) (own : ∀ o ∈ new, o.connection = id)
    (read : p.read = (s.processes nodeUuid).read) : (s.setProcess nodeUuid p).Relays sessionId := by
  have processes (n : String) : ((s.setProcess nodeUuid p).processes n).outlets =
      (if n = nodeUuid then new else []) ++ (s.processes n).outlets := by
    rcases eq_or_ne n nodeUuid with rfl | ne
    · simpa only [Channel.setProcess, Function.update_self, if_true] using outlets
    · simp only [Channel.setProcess, Function.update_of_ne ne, if_neg ne, List.nil_append]
  have readFor (n : String) : ((s.setProcess nodeUuid p).processes n).readFor sessionId =
      (s.processes n).readFor sessionId := by
    rcases eq_or_ne n nodeUuid with rfl | ne
    · simp only [Channel.setProcess, Function.update_self, AgentProcess.readFor, read]
    · simp only [Channel.setProcess, Function.update_of_ne ne]
  have old {n : String} {i : Nat} (there : s.OutletAt sessionId n i) :
      (s.setProcess nodeUuid p).OutletAt sessionId n i := by
    obtain ⟨o, mem, named, connection⟩ := there
    exact ⟨o, by rw [processes]; exact List.mem_append_right _ mem, named, connection⟩
  by_cases opens : ∃ o ∈ new, o.sessionId = .str sessionId
  · obtain ⟨o, mem, named⟩ := opens
    have mem' : o ∈ ((s.setProcess nodeUuid p).processes nodeUuid).outlets := by
      rw [processes, if_pos rfl]
      exact List.mem_append_left _ mem
    rcases h with silent | ⟨n, i, piped⟩
    · refine .inr ⟨nodeUuid, id, ⟨o, mem', named, own o mem⟩, ?_, fun i _ => silent.data i, ?_⟩
      · rintro n' i ⟨o', mem'', named', rfl⟩
        obtain ⟨rfl, rfl⟩ := linked.outlet_unique sessions mem'' mem' named' named
        exact ⟨rfl, own _ mem⟩
      · have nothing : (s.setProcess nodeUuid p).shownTo sessionId = [] := silent.shown
        have idle : (s.setProcess nodeUuid p).waiting sessionId = [] := silent.waiting
        have clear : (s.setProcess nodeUuid p).dataOn sessionId id = [] := silent.data id
        rw [nothing, idle, clear]
        exact List.nil_sublist _
    · -- The session would have two outlets.
      obtain ⟨o', there, named', -⟩ := piped.outlet
      have there' : o' ∈ ((s.setProcess nodeUuid p).processes n).outlets := by
        rw [processes]
        exact List.mem_append_right _ there
      obtain ⟨rfl, rfl⟩ := linked.outlet_unique sessions there' mem' named' named
      have apart := (linked.processes n).apart
      rw [processes, if_pos rfl, List.map_append] at apart
      exact absurd rfl ((List.nodup_append.mp apart).2.2 _ (List.mem_map_of_mem mem) _ (List.mem_map_of_mem there))
  · have same_at {n : String} {i : Nat} (there : (s.setProcess nodeUuid p).OutletAt sessionId n i) :
        s.OutletAt sessionId n i := by
      obtain ⟨o, mem, named, connection⟩ := there
      rw [processes] at mem
      rcases List.mem_append.mp mem with added | kept
      · split at added
        · exact absurd ⟨o, added, named⟩ opens
        · cases added
      · exact ⟨o, kept, named, connection⟩
    rcases h with silent | ⟨n, i, piped⟩
    · exact .inl ⟨fun n i there => silent.outlets n i (same_at there), silent.data, silent.waiting, silent.shown⟩
    · refine .inr ⟨n, i, old piped.outlet, fun n' i' there => piped.only n' i' (same_at there), piped.alone, ?_⟩
      rw [readFor]
      exact piped.flows

/-- Answers are no console data. -/
theorem Relays.transmit (h : s.Relays sessionId) {id : Nat} {messages : List Dict}
    (other : ∀ m ∈ messages, outputIn sessionId (Json.dumps (.obj m)) = none) :
    (s.transmit id messages).Relays sessionId := by
  refine h.of_less (fun _ => rfl) (fun _ => List.Sublist.refl _) (fun i => ?_) (List.Sublist.refl _) rfl
  rcases eq_or_ne i id with rfl | ne
  · have nothing : (messages.map fun m => Json.dumps (.obj m)).filterMap (outputIn sessionId) = [] := by
      rw [List.filterMap_eq_nil_iff]
      intro t ht
      obtain ⟨m, hm, rfl⟩ := List.mem_map.mp ht
      exact other m hm
    have same : (s.transmit i messages).dataOn sessionId i = s.dataOn sessionId i := by
      show (Function.update s.up i _ i).filterMap (outputIn sessionId) = (s.up i).filterMap (outputIn sessionId)
      rw [Function.update_self, List.filterMap_append, nothing, List.append_nil]
    rw [same]
  · simp only [dataOn, Channel.transmit, Function.update_of_ne ne]
    exact List.Sublist.refl _

/-- A process changes no session of the controller. -/
theorem Sessions.setProcess (h : Sessions s) (nodeUuid : String) (p : AgentProcess) :
    Sessions (s.setProcess nodeUuid p) :=
  h.of_fewer rfl (List.Sublist.refl _) (List.Sublist.refl _)

/-- An outlet belongs to the connection on which it was opened. -/
theorem connection_opened {before after : Transport} {operation connection : Nat} {o : Outlet}
    (mem : o ∈ opened before after operation connection) : o.connection = connection := by
  obtain ⟨_, -, rfl⟩ := List.mem_map.mp mem
  rfl

/-- A finished operation shows nothing. -/
theorem Relays.finish {nodeUuid : String} {id operation : Nat} {result : Except String Dict} (h : s.Relays sessionId)
    (linked : Linked str same s) (sessions : Sessions s) (plain : PlainResult result) :
    ((s.setProcess nodeUuid ((s.processes nodeUuid).finish same id operation result).1).transmit id
      (((s.processes nodeUuid).finish same id operation result).2.map Response.toWire)).Relays sessionId := by
  have kept : Linked str same (s.setProcess nodeUuid ((s.processes nodeUuid).finish same id operation result).1) :=
    linked.setProcess ((linked.processes nodeUuid).finish plain) (.inr rfl) rfl fun x hx => sent_handle hx
  refine Relays.transmit ?_ fun m hm => ?_
  · exact h.opened kept (sessions.setProcess ..) rfl (fun _ => connection_opened) rfl
  · obtain ⟨response, hr, rfl⟩ := List.mem_map.mp hm
    obtain ⟨x, hx, rfl⟩ := List.mem_map.mp hr
    have sent : x ∈ ((s.setProcess nodeUuid ((s.processes nodeUuid).finish same id operation result).1).processes
        nodeUuid).transport.sent := by
      simp only [Channel.setProcess, Function.update_self]
      exact List.mem_of_mem_drop hx
    obtain ⟨request, requestId, -, -, answers⟩ := kept.origin sent
    rw [outputIn_dumps (plain_of_answers answers), outputFor_toWire]

/-- Nor does one of a lost connection. -/
theorem Relays.finishOrphan {nodeUuid : String} {connection operation : Nat} {result : Except String Dict}
    (h : s.Relays sessionId) (linked : Linked str same s) (sessions : Sessions s) (plain : PlainResult result)
    (orphan : (connection, operation) ∈ (s.processes nodeUuid).orphans) :
    (s.setProcess nodeUuid ((s.processes nodeUuid).finishOrphan same connection operation result)).Relays
      sessionId := by
  have kept := linked.finishOrphan plain orphan
  unfold AgentProcess.finishOrphan at kept ⊢
  split at kept
  · exact h.setProcess rfl (List.Sublist.refl _)
  · exact h.opened kept (sessions.setProcess ..) rfl (fun _ => connection_opened) rfl

/-- A chunk goes out at the one outlet of its session. -/
theorem Relays.feed (h : s.Relays sessionId) {nodeUuid other : String} {chunk : List UInt8} {p : AgentProcess}
    {outlet : Outlet} (mem : outlet ∈ (s.processes nodeUuid).outlets) (named : outlet.sessionId = .str other)
    (outlets : p.outlets = (s.processes nodeUuid).outlets)
    (read : p.read = (s.processes nodeUuid).read ++ [(other, chunk)]) :
    ((s.setProcess nodeUuid p).transmit outlet.connection [consoleData other chunk]).Relays sessionId := by
  have brings : outputIn sessionId (Json.dumps (.obj (consoleData other chunk))) =
      if other = sessionId then some chunk else none := by
    rw [outputIn_dumps (plain_consoleData other chunk), outputFor_consoleData]
  by_cases own : other = sessionId
  · subst own
    rw [if_pos rfl] at brings
    rcases h with silent | ⟨n, id, piped⟩
    · exact absurd ⟨outlet, mem, named, rfl⟩ (silent.outlets nodeUuid outlet.connection)
    · obtain ⟨rfl, rfl⟩ := piped.only nodeUuid outlet.connection ⟨outlet, mem, named, rfl⟩
      have processes (m : String) : (((s.setProcess nodeUuid p).transmit outlet.connection
          [consoleData other chunk]).processes m).outlets = (s.processes m).outlets := by
        rcases eq_or_ne m nodeUuid with rfl | ne
        · simpa only [Channel.transmit, Channel.setProcess, Function.update_self] using outlets
        · simp only [Channel.transmit, Channel.setProcess, Function.update_of_ne ne]
      refine .inr ⟨nodeUuid, outlet.connection, ?_, fun m i there => piped.only m i ?_, fun i ne => ?_, ?_⟩
      · rw [OutletAt, processes]
        exact piped.outlet
      · rw [OutletAt, processes] at there
        exact there
      · have kept := piped.alone i ne
        simpa only [dataOn, Channel.transmit, Channel.setProcess, Function.update_of_ne ne] using kept
      · have fed := piped.flows.feed [_, _] [chunk]
        have grown : (((s.setProcess nodeUuid p).transmit outlet.connection [consoleData other chunk]).processes
            nodeUuid).readFor other = (s.processes nodeUuid).readFor other ++ [chunk] := by
          simp [Channel.transmit, Channel.setProcess, readFor, read]
        have sent : ((s.setProcess nodeUuid p).transmit outlet.connection [consoleData other chunk]).dataOn other
            outlet.connection = s.dataOn other outlet.connection ++ [chunk] := by
          simp only [dataOn, Channel.transmit, Channel.setProcess, Function.update_self, List.filterMap_append,
            List.map_cons, List.map_nil, List.filterMap_cons, List.filterMap_nil]
          rw [outputIn] at brings
          rw [brings]
        rw [grown, sent]
        exact fed
  · rw [if_neg own] at brings
    refine Relays.transmit (h.setProcess outlets ?_) fun m hm => ?_
    · rw [read]
      exact List.sublist_append_left _ _
    · rw [List.mem_singleton.mp hm, brings]

/-- Every step keeps the order of what is shown. -/
theorem Relays.step {sha256 : String → String} {e : Event} (texts : ComparesTexts same)
    (text : ∀ s, str (.str s) = s) (h : s.Relays sessionId) (linked : Linked str same s) (sessions : Sessions s)
    (proper : Proper e s) (taken : Channel.step sha256 str same e s = some s') : s'.Relays sessionId := by
  cases e with
  | tick milliseconds | credential request | drop id place =>
    cases taken
    exact h.of_same rfl rfl rfl rfl
  | send node request requestId timeout =>
    cases taken
    exact h.send
  | poll requestId =>
    obtain ⟨call, -, rfl⟩ := Option.map_eq_some_iff.mp taken
    exact h.poll call
  | relay id =>
    obtain ⟨c, -, relayed⟩ := Option.bind_eq_some_iff.mp taken
    unfold Channel.relay at relayed
    split at relayed
    · cases relayed
    · cases relayed
      exact h.of_same rfl rfl rfl rfl
  | receive id =>
    obtain ⟨c, found, received⟩ := Option.bind_eq_some_iff.mp taken
    exact h.receive text linked sessions (List.mem_of_find?_eq_some found) received
  | disconnect id =>
    obtain ⟨c, -, rfl⟩ := Option.map_eq_some_iff.mp taken
    exact h.of_same rfl rfl rfl rfl
  | connect nodeUuid token =>
    simp only [Channel.step] at taken
    split at taken
    · cases taken
      rcases connect_cases s sha256 nodeUuid token with refused | ⟨flags, made⟩
      · rw [refused]
        exact h
      · rw [made]
        refine Relays.setProcess ?_ rfl (List.Sublist.refl _)
        exact h.of_same rfl rfl rfl rfl
    · cases taken
  | lose nodeUuid =>
    cases taken
    unfold AgentProcess.lose
    split <;> exact h.setProcess rfl (List.Sublist.refl _)
  | restart nodeUuid | sessionEnds nodeUuid other =>
    cases taken
    exact h.setProcess rfl (List.Sublist.refl _)
  | take nodeUuid =>
    obtain ⟨id, -, taken⟩ := Option.bind_eq_some_iff.mp taken
    split at taken
    · cases taken
    · split at taken
      · cases taken
        refine Relays.setProcess ?_ rfl (List.Sublist.refl _)
        exact h.of_same rfl rfl rfl rfl
      · cases taken
  | finish nodeUuid operation result =>
    obtain ⟨id, -, taken⟩ := Option.bind_eq_some_iff.mp taken
    cases taken
    exact h.finish linked sessions proper
  | finishOrphan nodeUuid connection operation result =>
    simp only [Channel.step] at taken
    split at taken
    · next orphan =>
      cases taken
      exact h.finishOrphan linked sessions proper (List.contains_iff_mem.mp orphan)
    · cases taken
  | pumpInbound nodeUuid other =>
    obtain ⟨p, pumped, rfl⟩ := Option.map_eq_some_iff.mp taken
    unfold AgentProcess.pumpInbound at pumped
    split at pumped
    · cases pumped
      exact h.setProcess rfl (List.Sublist.refl _)
    · cases pumped
  | pumpOutbound nodeUuid other chunk =>
    obtain ⟨⟨p, sent⟩, pumped, taken⟩ := Option.bind_eq_some_iff.mp taken
    unfold AgentProcess.pumpOutbound at pumped
    split at pumped
    · next session outlet open' found =>
      have named : same outlet.sessionId (.str other) = true := by simpa using List.find?_some found
      simp only [] at pumped
      split at pumped
      · cases pumped
        cases taken
        exact h.feed (List.mem_of_find?_eq_some found) ((texts.right _ _).mp named) rfl rfl
      · cases pumped
        cases taken
        exact h.setProcess rfl (List.sublist_append_left _ _)
    · cases pumped
  | openConsole other node vmUuid requestId =>
    cases taken
    exact h.openConsole
  | input other frame =>
    obtain ⟨console, -, taken⟩ := Option.bind_eq_some_iff.mp taken
    cases taken
    exact h.of_same rfl rfl rfl rfl
  | display other =>
    obtain ⟨console, found, displayed⟩ := Option.bind_eq_some_iff.mp taken
    exact h.display sessions (List.mem_of_find?_eq_some found) displayed
  | dropData other place =>
    cases taken
    refine h.of_less (fun _ => rfl) (fun _ => List.Sublist.refl _) (fun _ => List.Sublist.refl _)
      (waiting_map rfl ?_ ?_) rfl
    · intro c
      split <;> rfl
    · intro c _
      split
      · exact List.eraseIdx_sublist ..
      · exact List.Sublist.refl _
  | closeConsole other =>
    obtain ⟨console, -, rfl⟩ := Option.map_eq_some_iff.mp taken
    exact h.closeConsole

end Relays

/-! ## Runs -/

/-- The invariant of the consoles. -/
structure Consoles (str : Json → String) (same : Json → Json → Bool) (s : Channel) : Prop where
  linked : Linked str same s
  sessions : Sessions s
  typed : Typed s
  relays : ∀ sessionId, s.Relays sessionId

section Runs

variable {sha256 : String → String} {str : Json → String} {same : Json → Json → Bool} {s s' : Channel}

/-- The invariant holds before anything happened. -/
theorem Consoles.start : Consoles str same {} where
  linked := .start
  sessions := ⟨List.nodup_nil, nofun, nofun, List.nodup_nil, List.nodup_nil⟩
  typed := ⟨fun _ _ => List.Sublist.refl _, nofun⟩
  relays _ := .inl ⟨fun _ _ ⟨_, mem, _⟩ => List.not_mem_nil mem, fun _ => rfl, rfl, rfl⟩

/-- Every step keeps the invariant. -/
theorem Consoles.step (texts : ComparesTexts same) (text : ∀ s, str (.str s) = s) {e : Event}
    (h : Consoles str same s) (proper : Proper e s) (taken : Channel.step sha256 str same e s = some s') :
    Consoles str same s' where
  linked := h.linked.step texts proper taken
  sessions := h.sessions.step proper taken
  typed := h.typed.of_sends h.sessions (sends_step taken)
  relays sessionId := (h.relays sessionId).step texts text h.linked h.sessions proper taken

/-- The invariant holds along every run. -/
theorem consoles_run (texts : ComparesTexts same) (text : ∀ s, str (.str s) = s) {es : List Event}
    (run : runFrom (Channel.step sha256 str same) es {} = some s)
    (proper : Along (Channel.step sha256 str same) Proper es {}) : Consoles str same s :=
  runFrom_keeps (fun _ _ _ h proper taken => h.step texts text proper taken) .start proper run

/-- **What a VNC server gets from a session was typed by the session's browser**, in its order and each frame once at
most; and the session was opened at the server's node, and at no other. -/
theorem input_relayed (sha256 : String → String) (texts : ComparesTexts same) (text : ∀ s, str (.str s) = s)
    {es : List Event} (run : runFrom (Channel.step sha256 str same) es {} = some s)
    (proper : Along (Channel.step sha256 str same) Proper es {}) (nodeUuid sessionId : String) :
    ((s.processes nodeUuid).writtenFor sessionId).Sublist (s.typedOn sessionId) ∧
      ((s.processes nodeUuid).writtenFor sessionId ≠ [] →
        s.OpenedAt nodeUuid sessionId ∧ ∀ n, s.OpenedAt n sessionId → n = nodeUuid) := by
  have h := consoles_run texts text run proper
  have written : ((s.processes nodeUuid).writtenFor sessionId).Sublist
      ((s.commandsTo nodeUuid).filterMap (inputFor sessionId)) :=
    ((h.linked.processes nodeUuid).inbound sessionId).head.trans
      (List.Sublist.filterMap _ (h.linked.wired.flows nodeUuid).head)
  refine ⟨written.trans (h.typed.flows nodeUuid sessionId), fun some => ?_⟩
  obtain ⟨chunk, mem⟩ := List.exists_mem_of_ne_nil _ some
  obtain ⟨message, sent, input⟩ := List.mem_filterMap.mp (written.subset mem)
  have opened : s.OpenedAt nodeUuid sessionId :=
    h.typed.opened (nodeUuid, message) (mem_commandsTo.mp sent) sessionId (by rw [input]; rfl)
  exact ⟨opened, fun n there => h.sessions.unique there opened⟩

/-- **What a browser is shown was read from the VNC server of its session**, in its order and each chunk once at most;
and that server is on the node at which the session was opened, and no other was. -/
theorem output_relayed (sha256 : String → String) (texts : ComparesTexts same) (text : ∀ s, str (.str s) = s)
    {es : List Event} (run : runFrom (Channel.step sha256 str same) es {} = some s)
    (proper : Along (Channel.step sha256 str same) Proper es {}) (sessionId : String) :
    s.shownTo sessionId = [] ∨ ∃ nodeUuid, s.OpenedAt nodeUuid sessionId ∧
      (∀ n, s.OpenedAt n sessionId → n = nodeUuid) ∧
      (s.shownTo sessionId).Sublist ((s.processes nodeUuid).readFor sessionId) := by
  have h := consoles_run texts text run proper
  rcases h.relays sessionId with silent | ⟨nodeUuid, id, piped⟩
  · exact .inl silent.shown
  · obtain ⟨o, mem, named, -⟩ := piped.outlet
    obtain ⟨-, request, here, opens⟩ := (h.linked.processes nodeUuid).outlets o mem
    have opened : s.OpenedAt nodeUuid sessionId :=
      h.linked.openedAt (List.mem_of_getElem? here) (by rw [sessionOpened, opens, named])
    exact .inr ⟨nodeUuid, opened, fun n there => h.sessions.unique there opened, piped.flows.head⟩

end Runs

/-! ### One console -/

/-- The events of one console: a frame is typed, and a chunk is shown. -/
def oneConsole : List Event :=
  [.credential (.registerAgent ⟨1⟩ ⟨11⟩ "a"), .connect (Uuid.str ⟨1⟩) (some "npa_a"),
    .openConsole "c" ⟨⟨1⟩, "n"⟩ "vm" "r", .relay 0, .take (Uuid.str ⟨1⟩), .finish (Uuid.str ⟨1⟩) 0 (.ok []), .receive 0,
    .poll "r", .input "c" (.bytes [1, 2]), .relay 0, .take (Uuid.str ⟨1⟩), .pumpInbound (Uuid.str ⟨1⟩) "c",
    .pumpOutbound (Uuid.str ⟨1⟩) "c" [3, 4, 5], .receive 0, .display "c"]

theorem ran_oneConsole : ∃ s, runFrom (Channel.step id Link.textOf sameText) oneConsole {} = some s ∧
    (s.processes (Uuid.str ⟨1⟩)).writtenFor "c" = [[1, 2]] ∧ s.shownTo "c" = [[3, 4, 5]] := by
  have ran : (runFrom (Channel.step id Link.textOf sameText) oneConsole {}).any (fun s =>
      (s.processes (Uuid.str ⟨1⟩)).writtenFor "c" = [[1, 2]] ∧ s.shownTo "c" = [[3, 4, 5]]) := by decide +kernel
  obtain ⟨s, run, ends⟩ := (Option.any_eq_true _ _).mp ran
  exact ⟨s, run, of_decide_eq_true ends⟩

theorem proper_oneConsole : Along (Channel.step id Link.textOf sameText) Proper oneConsole {} := by decide +kernel

theorem input_relayed_oneConsole : ∃ s, runFrom (Channel.step id Link.textOf sameText) oneConsole {} = some s ∧
    (s.processes (Uuid.str ⟨1⟩)).writtenFor "c" = [[1, 2]] ∧
    ((s.processes (Uuid.str ⟨1⟩)).writtenFor "c").Sublist (s.typedOn "c") ∧ s.OpenedAt (Uuid.str ⟨1⟩) "c" := by
  obtain ⟨s, run, written, -⟩ := ran_oneConsole
  obtain ⟨typed, opened⟩ :=
    input_relayed id comparesTexts_sameText (fun _ => rfl) run proper_oneConsole (Uuid.str ⟨1⟩) "c"
  exact ⟨s, run, written, typed, (opened (by rw [written]; exact List.cons_ne_nil _ _)).1⟩

theorem output_relayed_oneConsole : ∃ s, runFrom (Channel.step id Link.textOf sameText) oneConsole {} = some s ∧
    s.shownTo "c" = [[3, 4, 5]] ∧ ∃ nodeUuid, s.OpenedAt nodeUuid "c" ∧ (∀ n, s.OpenedAt n "c" → n = nodeUuid) ∧
      (s.shownTo "c").Sublist ((s.processes nodeUuid).readFor "c") := by
  obtain ⟨s, run, -, shown⟩ := ran_oneConsole
  refine ⟨s, run, shown, ?_⟩
  rcases output_relayed id comparesTexts_sameText (fun _ => rfl) run proper_oneConsole "c" with none | relayed
  · rw [none] at shown
    cases shown
  · exact relayed

end Channel

end NodePilot
