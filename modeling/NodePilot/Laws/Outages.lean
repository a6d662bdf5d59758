import NodePilot.Heartbeats
import NodePilot.Lib.Pool

/-!
# One report for each outage

No flag says that an outage has been reported. The sweep looks for a report that is as late as the last
heartbeat, or as the node itself where there was none. So what counts is the number of reports from that
instant on: it is never more than one, a heartbeat puts it back to none, and nothing else lowers it.
-/

namespace NodePilot.Heartbeats

open Lib

/-- The NODE_OFFLINE events about a node. -/
def reports (u : Uuid) (events : List EventRow) : Nat := events.countP (·.isAbout "NODE_OFFLINE" u)

/-- Those from an instant on. -/
def reportsSince (u : Uuid) (since : Nat) (events : List EventRow) : Nat :=
  events.countP fun e => e.isAbout "NODE_OFFLINE" u ∧ since ≤ e.createdAt

/-- The NODE_OFFLINE events about a node so far. -/
def State.outages (s : State) (u : Uuid) : Nat := reports u s.events

/-- When the node was last heard, or else created. -/
def State.since (s : State) (u : Uuid) : Nat := (s.node? u).elim 0 Node.since

/-- The step is a heartbeat of the node, and not refused. -/
def Settings.hears (cfg : Settings) (u : Uuid) (l : Nat × Action) : Prop :=
  ∃ p, l.2 = .heartbeat u p ∧ cfg.compatible p = true

/-- `last_seen` is older than the threshold, or was never set. -/
def Node.silent (cfg : Settings) (now : Nat) (n : Node) : Prop :=
  ∀ seen, n.lastSeen = some seen → cfg.threshold < (now : Int) - seen

variable {cfg : Settings} {u : Uuid} {now since : Nat} {events : List EventRow} {n : Node}
variable {s s' : State}

/-! ## Counting reports -/

/-- Reports since a time are reports. -/
theorem reportsSince_le : reportsSince u since events ≤ reports u events := by
  refine List.countP_mono_left fun e _ he => ?_
  simp only [decide_eq_true_eq] at he
  exact he.1

/-- An event that is no report about the node. -/
theorem reports_cons_other {e : EventRow} (h : e.isAbout "NODE_OFFLINE" u = false) :
    reports u (e :: events) = reports u events ∧
      reportsSince u since (e :: events) = reportsSince u since events := by
  simp [reports, reportsSince, h]

/-- One more report is counted. -/
theorem reports_cons_own {e : EventRow} (h : e.isAbout "NODE_OFFLINE" u = true)
    (recent : since ≤ e.createdAt) :
    reports u (e :: events) = reports u events + 1 ∧
      reportsSince u since (e :: events) = reportsSince u since events + 1 := by
  simp [reports, reportsSince, h, recent]

/-- Nothing was reported since if every event is older. -/
theorem reportsSince_eq_zero (h : ∀ e ∈ events, e.createdAt < since) :
    reportsSince u since events = 0 := by
  refine List.countP_eq_zero.mpr fun e he recent => ?_
  simp only [decide_eq_true_eq] at recent
  have := h e he
  omega

/-- The query asks whether there was a report since. -/
theorem any_iff_reportsSince :
    events.any (fun e => e.isAbout "NODE_OFFLINE" u ∧ since ≤ e.createdAt) = true ↔
      0 < reportsSince u since events := by
  rw [reportsSince, List.countP_pos_iff, List.any_eq_true]

/-- An event about a node is about that node only. -/
theorem isAbout_offlineEvent : (⟨nodeOfflineEvent n, now⟩ : EventRow).isAbout "NODE_OFFLINE" u = true ↔
    n.uuid = u := by
  simp only [EventRow.isAbout, nodeOfflineEvent, true_and, decide_eq_true_eq]
  exact ⟨Uuid.str_injective, congrArg Uuid.str⟩

/-! ## The sweep -/

/-- What the sweep may do to the events as far as a node is concerned: nothing, or the first report
since it was heard. -/
structure Reported (u : Uuid) (since : Nat) (events events' : List EventRow) : Prop where
  together : reports u events' + reportsSince u since events =
    reports u events + reportsSince u since events'
  once : reportsSince u since events ≤ 1 → reportsSince u since events' ≤ 1
  grows : reportsSince u since events ≤ reportsSince u since events'

/-- Nothing was reported. -/
theorem Reported.refl : Reported u since events events := ⟨rfl, id, Nat.le_refl _⟩

/-- Two steps report one after the other. -/
theorem Reported.trans {events' events'' : List EventRow} (h : Reported u since events events')
    (h' : Reported u since events' events'') : Reported u since events events'' := by
  refine ⟨?_, fun once => h'.once (h.once once), Nat.le_trans h.grows h'.grows⟩
  have := h.together
  have := h'.together
  omega

/-- The turn of another node. -/
theorem mark_other (other : n.uuid ≠ u) :
    reports u (markOfflineIfStale cfg now events n) = reports u events ∧
      reportsSince u since (markOfflineIfStale cfg now events n) = reportsSince u since events := by
  unfold markOfflineIfStale
  split
  · exact reports_cons_other (Bool.eq_false_iff.mpr fun about => other (isAbout_offlineEvent.mp about))
  · exact ⟨rfl, rfl⟩

/-- Marking one node reports at most once. -/
theorem reported_mark (own : n.uuid = u → n.since = since) (past : since ≤ now) :
    Reported u since events (markOfflineIfStale cfg now events n) := by
  by_cases same : n.uuid = u
  · unfold markOfflineIfStale
    split
    · next fires =>
      rw [any_iff_reportsSince, same, own same] at fires
      have about : (⟨nodeOfflineEvent n, now⟩ : EventRow).isAbout "NODE_OFFLINE" u = true :=
        isAbout_offlineEvent.mpr same
      obtain ⟨all, recent⟩ : reports u (⟨nodeOfflineEvent n, now⟩ :: events) = reports u events + 1 ∧
          reportsSince u since (⟨nodeOfflineEvent n, now⟩ :: events) = reportsSince u since events + 1 :=
        reports_cons_own about past
      refine ⟨?_, ?_, ?_⟩
      · rw [all, recent]
        omega
      · rw [recent]
        omega
      · rw [recent]
        omega
    · exact .refl
  · obtain ⟨all, recent⟩ : reports u (markOfflineIfStale cfg now events n) = reports u events ∧
        reportsSince u since (markOfflineIfStale cfg now events n) = reportsSince u since events := mark_other same
    refine ⟨?_, ?_, ?_⟩
    · rw [all, recent]
    · rw [recent]
      exact id
    · rw [recent]

/-- After its turn a node that is offline has been reported. -/
theorem mark_covers (offline : n.effectiveStatus cfg now = .offline) (past : n.since ≤ now) :
    0 < reportsSince n.uuid n.since (markOfflineIfStale cfg now events n) := by
  unfold markOfflineIfStale
  split
  · rw [(reports_cons_own (isAbout_offlineEvent.mpr rfl) past).2]
    exact Nat.succ_pos _
  · next quiet =>
    rw [not_and, not_not, any_iff_reportsSince] at quiet
    exact quiet offline

/-- A sweep reports at most once for each outage. -/
theorem reported_sweep {ns : List Node} (own : ∀ n ∈ ns, n.uuid = u → n.since = since)
    (past : since ≤ now) : Reported u since events (ns.foldl (markOfflineIfStale cfg now) events) := by
  induction ns generalizing events with
  | nil => exact .refl
  | cons n ns ih =>
    rw [List.foldl_cons]
    have first : Reported u since events (markOfflineIfStale cfg now events n) :=
      reported_mark (own n List.mem_cons_self) past
    exact first.trans (ih fun m hm => own m (List.mem_cons_of_mem n hm))

/-- A sweep of other nodes does not report this one. -/
theorem sweep_others {ns : List Node} (others : ∀ n ∈ ns, n.uuid ≠ u) :
    reports u (ns.foldl (markOfflineIfStale cfg now) events) = reports u events := by
  induction ns generalizing events with
  | nil => rfl
  | cons n ns ih =>
    rw [List.foldl_cons, ih fun m hm => others m (List.mem_cons_of_mem n hm)]
    have same : reports u (markOfflineIfStale cfg now events n) = reports u events ∧
        reportsSince u 0 (markOfflineIfStale cfg now events n) = reportsSince u 0 events :=
      mark_other (others n List.mem_cons_self)
    exact same.1

/-- A sweep reports every node that is stale. -/
theorem sweep_covers {ns : List Node} (own : ∀ m ∈ ns, m.uuid = n.uuid → m.since = n.since)
    (past : n.since ≤ now) (mem : n ∈ ns) (offline : n.effectiveStatus cfg now = .offline) :
    0 < reportsSince n.uuid n.since (ns.foldl (markOfflineIfStale cfg now) events) := by
  induction ns generalizing events with
  | nil => cases mem
  | cons m ns ih =>
    have later : ∀ m ∈ ns, m.uuid = n.uuid → m.since = n.since :=
      fun m' hm => own m' (List.mem_cons_of_mem m hm)
    rw [List.foldl_cons]
    rcases List.mem_cons.mp mem with rfl | mem
    · exact Nat.lt_of_lt_of_le (mark_covers offline past) (reported_sweep later past).grows
    · exact ih later mem

/-! ## What every step keeps -/

/-- **The invariant**: nothing is later than the clock, and a node has been reported at most once since
it was last heard. -/
structure Sound (s : State) : Prop where
  uuids : (s.nodes.map Node.uuid).Nodup
  nodes : ∀ n ∈ s.nodes, n.since ≤ s.clock
  events : ∀ e ∈ s.events, e.createdAt ≤ s.clock
  strangers : ∀ u, s.node? u = none → s.outages u = 0
  once : ∀ u, reportsSince u (s.since u) s.events ≤ 1

/-- A node is found by its identifier. -/
theorem node?_of_mem (uuids : (s.nodes.map Node.uuid).Nodup) (h : n ∈ s.nodes) :
    s.node? n.uuid = some n := by
  unfold State.node?
  cases found : s.nodes.find? (·.uuid = n.uuid) with
  | none =>
    have := List.find?_eq_none.mp found n h
    simp at this
  | some m =>
    have key : m.uuid = n.uuid := by simpa using List.find?_some found
    rw [List.inj_on_of_nodup_map uuids (List.mem_of_find?_eq_some found) h key]

/-- Whatever is found is a node with the identifier. -/
theorem mem_of_node? (h : s.node? u = some n) : n ∈ s.nodes ∧ n.uuid = u :=
  ⟨List.mem_of_find?_eq_some h, by simpa using List.find?_some h⟩

/-- The state knows since when a node is silent. -/
theorem Sound.since_eq (h : Sound s) (mem : n ∈ s.nodes) : s.since n.uuid = n.since := by
  simp [State.since, node?_of_mem h.uuids mem]

/-- That is not in the future. -/
theorem Sound.since_le (h : Sound s) (u : Uuid) : s.since u ≤ s.clock := by
  unfold State.since
  cases found : s.node? u with
  | none => exact Nat.zero_le _
  | some n => exact h.nodes n (mem_of_node? found).1

/-- What is saved keeps the row's uuid. -/
theorem node?_update {f : Node → Node} (keeps : ∀ n, (f n).uuid = n.uuid) (v : Uuid) :
    (s.update v f).node? u = (s.node? u).map fun n => if n.uuid = v then f n else n := by
  have same : (fun m : Node => decide (m.uuid = u)) ∘ (fun n => if n.uuid = v then f n else n) =
      fun m => decide (m.uuid = u) := by
    funext m
    simp only [Function.comp_apply]
    split
    · rw [keeps]
    · rfl
  unfold State.node? State.update
  rw [List.find?_map, same]

/-- An update keeps the identifiers. -/
theorem uuids_update {f : Node → Node} (keeps : ∀ n, (f n).uuid = n.uuid) (v : Uuid) :
    (s.update v f).nodes.map Node.uuid = s.nodes.map Node.uuid := by
  simp only [State.update, List.map_map, List.map_inj_left, Function.comp_apply]
  intro n _
  split
  · exact keeps n
  · rfl

/-- What becomes of the reports about a node that is not heard. -/
def Kept (u : Uuid) (s s' : State) : Prop :=
  s'.outages u + reportsSince u (s.since u) s.events =
    s.outages u + reportsSince u (s'.since u) s'.events

/-- What is kept by two steps is kept. -/
theorem Kept.trans {s'' : State} (h : Kept u s s') (h' : Kept u s' s'') : Kept u s s'' := by
  unfold Kept at *
  omega

/-- A step without reports keeps what there is. -/
theorem Kept.of_same (since : s'.since u = s.since u) (events : s'.events = s.events) : Kept u s s' := by
  unfold Kept State.outages
  rw [since, events]

/-- The clock goes on. -/
theorem Sound.tick (h : Sound s) (later : s.clock ≤ now) : Sound { s with clock := now } where
  uuids := h.uuids
  nodes n hn := Nat.le_trans (h.nodes n hn) later
  events e he := Nat.le_trans (h.events e he) later
  strangers := h.strangers
  once := h.once

/-- An event that is no report. -/
theorem Sound.emit (h : Sound s) {e : EventRow} (past : e.createdAt ≤ s.clock)
    (other : ∀ u, e.isAbout "NODE_OFFLINE" u = false) :
    Sound { s with events := e :: s.events } ∧ ∀ u, Kept u s { s with events := e :: s.events } := by
  have counted (u : Uuid) (since : Nat) : reports u (e :: s.events) = reports u s.events ∧
      reportsSince u since (e :: s.events) = reportsSince u since s.events := reports_cons_other (other u)
  refine ⟨⟨h.uuids, h.nodes, ?_, ?_, ?_⟩, ?_⟩
  · intro e' he'
    rcases List.mem_cons.mp he' with rfl | old
    · exact past
    · exact h.events e' old
  · intro u none
    exact (counted u 0).1.trans (h.strangers u none)
  · intro u
    rw [(counted u _).2]
    exact h.once u
  · intro u
    unfold Kept State.outages
    rw [(counted u 0).1, (counted u _).2]
    rfl

/-- A save that leaves alone when the node was heard. -/
theorem Sound.update (h : Sound s) {f : Node → Node} (v : Uuid) (uuid : ∀ n, (f n).uuid = n.uuid)
    (since : ∀ n, (f n).since = n.since) :
    Sound (s.update v f) ∧ ∀ u, Kept u s (s.update v f) := by
  have same (u : Uuid) : (s.update v f).since u = s.since u := by
    unfold State.since
    rw [node?_update uuid]
    cases s.node? u with
    | none => rfl
    | some n =>
      simp only [Option.map_some, Option.elim_some]
      split
      · exact since n
      · rfl
  refine ⟨⟨?_, ?_, h.events, ?_, ?_⟩, fun u => Kept.of_same (same u) rfl⟩
  · rw [uuids_update uuid]
    exact h.uuids
  · intro n hn
    obtain ⟨m, hm, rfl⟩ := List.mem_map.mp hn
    have past := h.nodes m hm
    split
    · rw [since]
      exact past
    · exact past
  · intro u none
    rw [node?_update uuid, Option.map_eq_none_iff] at none
    exact h.strangers u none
  · intro u
    rw [same]
    exact h.once u

/-- A heartbeat that is accepted. -/
theorem Sound.heard (h : Sound s) (later : s.clock < now) (p : Payload) (v : Uuid) :
    Sound { s.update v (Node.heard now p) with clock := now } ∧
    ∀ u, u ≠ v → Kept u s { s.update v (Node.heard now p) with clock := now } := by
  have uuid (n : Node) : (n.heard now p).uuid = n.uuid := rfl
  have other (u : Uuid) (ne : u ≠ v) : (s.update v (Node.heard now p)).since u = s.since u := by
    unfold State.since
    rw [node?_update uuid]
    cases found : s.node? u with
    | none => rfl
    | some n =>
      have key := (mem_of_node? found).2
      simp only [Option.map_some, Option.elim_some]
      rw [if_neg (key ▸ ne)]
  have zero (since : Nat) (past : now ≤ since) (u : Uuid) : reportsSince u since s.events = 0 := by
    refine reportsSince_eq_zero fun e he => ?_
    have := h.events e he
    omega
  refine ⟨⟨?_, ?_, ?_, ?_, ?_⟩, fun u ne => Kept.of_same (other u ne) rfl⟩
  · show ((s.update v (Node.heard now p)).nodes.map Node.uuid).Nodup
    rw [uuids_update uuid]
    exact h.uuids
  · intro n hn
    obtain ⟨m, hm, rfl⟩ := List.mem_map.mp hn
    have past := h.nodes m hm
    split
    · exact Nat.le_refl now
    · show m.since ≤ now
      omega
  · intro e he
    have := h.events e he
    show e.createdAt ≤ now
    omega
  · intro u absent
    refine h.strangers u ?_
    have absent : (s.update v (Node.heard now p)).node? u = none := absent
    rw [node?_update uuid, Option.map_eq_none_iff] at absent
    exact absent
  · intro u
    show reportsSince u ((s.update v (Node.heard now p)).since u) s.events ≤ 1
    by_cases ne : u = v
    · subst ne
      unfold State.since
      rw [node?_update uuid]
      cases found : s.node? u with
      | none =>
        have none : reports u s.events = 0 := h.strangers u found
        have : reportsSince u 0 s.events ≤ reports u s.events := reportsSince_le
        simp only [Option.map_none, Option.elim_none]
        omega
      | some n =>
        simp only [Option.map_some, Option.elim_some, if_pos (mem_of_node? found).2]
        rw [show (n.heard now p).since = now from rfl, zero _ (Nat.le_refl now)]
        exact Nat.zero_le 1
    · rw [other u ne]
      exact h.once u

/-- After the heartbeat nothing has been reported since. -/
theorem Sound.heard_fresh (h : Sound s) (later : s.clock < now) (p : Payload) (found : s.node? u = some n) :
    reportsSince u ((s.update u (Node.heard now p)).since u) s.events = 0 := by
  have uuid (n : Node) : (n.heard now p).uuid = n.uuid := rfl
  refine reportsSince_eq_zero fun e he => ?_
  have := h.events e he
  unfold State.since
  rw [node?_update uuid, found]
  simp only [Option.map_some, Option.elim_some, if_pos (mem_of_node? found).2]
  show e.createdAt < now
  omega

/-- A new node. -/
theorem Sound.create (h : Sound s) (later : s.clock < now) (fresh : s.node? n.uuid = none)
    (born : n.since = now) : Sound { s with nodes := s.nodes ++ [n], clock := now } ∧
      ∀ u, Kept u s { s with nodes := s.nodes ++ [n], clock := now } := by
  have found (u : Uuid) : State.node? { s with nodes := s.nodes ++ [n], clock := now } u =
      (s.node? u).or (if n.uuid = u then some n else none) := by
    simp [State.node?, List.find?_append, List.find?_singleton]
  have counted (u : Uuid) : State.since { s with nodes := s.nodes ++ [n], clock := now } u = s.since u ∨
      s.outages u = 0 := by
    unfold State.since
    rw [found]
    cases old : s.node? u with
    | none => exact .inr (h.strangers u old)
    | some m => exact .inl rfl
  have none_le (u : Uuid) (since : Nat) (none : s.outages u = 0) : reportsSince u since s.events = 0 := by
    have : reportsSince u since s.events ≤ reports u s.events := reportsSince_le
    unfold State.outages at none
    omega
  refine ⟨⟨?_, ?_, ?_, ?_, ?_⟩, ?_⟩
  · rw [List.map_append, List.nodup_append]
    refine ⟨h.uuids, List.nodup_singleton _, ?_⟩
    rintro v hv w hw rfl
    obtain ⟨m, hm, rfl⟩ := List.mem_map.mp hv
    have same : m.uuid = n.uuid := by simpa using hw
    rw [← same, node?_of_mem h.uuids hm] at fresh
    cases fresh
  · intro m hm
    rcases List.mem_append.mp hm with old | new
    · have := h.nodes m old
      show m.since ≤ now
      omega
    · rw [List.mem_singleton.mp new, born]
  · intro e he
    have := h.events e he
    show e.createdAt ≤ now
    omega
  · intro u none
    rw [found, Option.or_eq_none_iff] at none
    exact h.strangers u none.1
  · intro u
    rcases counted u with same | none
    · rw [same]
      exact h.once u
    · rw [none_le u _ none]
      exact Nat.zero_le 1
  · intro u
    rcases counted u with same | none
    · exact Kept.of_same same rfl
    · show reports u s.events + reportsSince u (s.since u) s.events =
        reports u s.events + reportsSince u _ s.events
      rw [none_le u _ none, none_le u _ none]

/-- A sweep. -/
theorem Sound.sweep (h : Sound s) (later : s.clock ≤ now) :
    Sound { s.sweepOfflineNodes cfg now with clock := now } ∧
      ∀ u, Kept u s { s.sweepOfflineNodes cfg now with clock := now } := by
  have swept (u : Uuid) : Reported u (s.since u) s.events (s.sweepOfflineNodes cfg now).events := by
    refine reported_sweep (fun n hn same => ?_) (Nat.le_trans (h.since_le u) later)
    rw [← same, h.since_eq (List.mem_of_mem_filter hn)]
  have dated : ∀ ns : List Node, ∀ events : List EventRow, (∀ e ∈ events, e.createdAt ≤ now) →
      ∀ e ∈ ns.foldl (markOfflineIfStale cfg now) events, e.createdAt ≤ now := by
    intro ns
    induction ns with
    | nil => exact fun events past => past
    | cons n ns ih =>
      intro events past
      refine ih _ ?_
      unfold markOfflineIfStale
      split
      · exact List.forall_mem_cons.mpr ⟨Nat.le_refl now, past⟩
      · exact past
  refine ⟨⟨h.uuids, ?_, ?_, ?_, fun u => (swept u).once (h.once u)⟩, fun u => (swept u).together⟩
  · exact fun n hn => Nat.le_trans (h.nodes n hn) later
  · exact dated _ _ fun e he => Nat.le_trans (h.events e he) later
  · intro u absent
    refine (sweep_others fun n hn same => ?_).trans (h.strangers u absent)
    have found := node?_of_mem h.uuids (List.mem_of_mem_filter hn)
    rw [same, show s.node? u = none from absent] at found
    cases found

/-! ## Steps and runs -/

/-- Every step keeps the invariant, and the balance of each node that it does not hear. -/
theorem Sound.step {l : Nat × Action} (h : Sound s) (next : step cfg l s = some s') :
    Sound s' ∧ ∀ u, ¬ cfg.hears u l → Kept u s s' := by
  obtain ⟨now, action⟩ := l
  simp only [Heartbeats.step] at next
  split at next
  · next later =>
    obtain ⟨t, done, rfl⟩ := Option.map_eq_some_iff.mp next
    have ticked := h.tick (Nat.le_of_lt later)
    cases action with
    | createNode uuid organization hostname =>
      simp only [Action.perform] at done
      split at done
      · cases done
      · next fresh =>
        cases done
        rw [Bool.not_eq_true, Option.isSome_eq_false_iff, Option.isNone_iff_eq_none] at fresh
        obtain ⟨sound, kept⟩ := h.create (n := ⟨uuid, organization, hostname, .active, 0, 0, 0, 0, 0, none,
          now, none⟩) later fresh rfl
        exact ⟨sound, fun u _ => kept u⟩
    | heartbeat uuid payload =>
      obtain ⟨n, found, rfl⟩ := Option.map_eq_some_iff.mp done
      obtain ⟨-, rfl⟩ := mem_of_node? found
      unfold State.recordHeartbeat
      split
      · next compatible =>
        obtain ⟨sound, kept⟩ := h.heard later payload n.uuid
        have other (u : Uuid) (unheard : ¬ cfg.hears u (now, .heartbeat n.uuid payload)) : u ≠ n.uuid :=
          fun same => unheard ⟨payload, by rw [same], compatible⟩
        dsimp only
        split
        · exact ⟨sound, fun u unheard => kept u (other u unheard)⟩
        · obtain ⟨sound', kept'⟩ := sound.emit (e := ⟨nodeOnlineEvent n, now⟩) (Nat.le_refl now)
            (fun _ => by simp [EventRow.isAbout, nodeOnlineEvent])
          exact ⟨sound', fun u unheard => (kept u (other u unheard)).trans (kept' u)⟩
      · exact ⟨ticked, fun u _ => Kept.of_same rfl rfl⟩
    | sweep =>
      cases done
      obtain ⟨sound, kept⟩ : Sound { s.sweepOfflineNodes cfg now with clock := now } ∧
          ∀ u, Kept u s { s.sweepOfflineNodes cfg now with clock := now } := h.sweep (Nat.le_of_lt later)
      exact ⟨sound, fun u _ => kept u⟩
    | setAdminState uuid state =>
      cases done
      obtain ⟨sound, kept⟩ := ticked.update (f := fun n => { n with adminState := state }) uuid
        (fun _ => rfl) fun _ => rfl
      exact ⟨sound, fun u _ => kept u⟩
    | setAgent uuid agent =>
      cases done
      obtain ⟨sound, kept⟩ := ticked.update (f := fun n => { n with agent := agent }) uuid
        (fun _ => rfl) fun _ => rfl
      exact ⟨sound, fun u _ => kept u⟩
    | emit event =>
      simp only [Action.perform] at done
      split at done
      · cases done
      · next other =>
        cases done
        obtain ⟨sound, kept⟩ := ticked.emit (e := ⟨event, now⟩) (Nat.le_refl now)
          (fun _ => by simp [EventRow.isAbout, other])
        exact ⟨sound, fun u _ => kept u⟩
  · cases next

/-- The invariant holds at the start. -/
theorem Sound.start : Sound {} where
  uuids := List.nodup_nil
  nodes _ h := absurd h List.not_mem_nil
  events _ h := absurd h List.not_mem_nil
  strangers _ _ := rfl
  once _ := Nat.zero_le 1

/-- After a heartbeat of a node nothing has been reported since. -/
theorem Sound.fresh {l : Nat × Action} (h : Sound s) (next : Heartbeats.step cfg l s = some s')
    (heard : cfg.hears u l) : reportsSince u (s'.since u) s'.events = 0 := by
  obtain ⟨now, action⟩ := l
  obtain ⟨payload, same, compatible⟩ := heard
  cases same
  simp only [Heartbeats.step] at next
  split at next
  · next later =>
    obtain ⟨t, done, rfl⟩ := Option.map_eq_some_iff.mp next
    obtain ⟨n, found, rfl⟩ := Option.map_eq_some_iff.mp done
    have none := h.heard_fresh later payload found
    obtain ⟨-, rfl⟩ := mem_of_node? found
    unfold State.recordHeartbeat
    rw [if_pos compatible]
    dsimp only
    split
    · exact none
    · have other : (⟨nodeOnlineEvent n, now⟩ : EventRow).isAbout "NODE_OFFLINE" n.uuid = false := by
        simp [EventRow.isAbout, nodeOnlineEvent]
      exact (reports_cons_other other).2.trans none
  · cases next

/-- A run without a heartbeat of the node. -/
theorem Sound.run {ls : List (Nat × Action)} (h : Sound s)
    (unheard : ∀ l ∈ ls, ¬ cfg.hears u l) (run : runFrom (Heartbeats.step cfg) ls s = some s') :
    Sound s' ∧ Kept u s s' := by
  induction ls generalizing s with
  | nil =>
    cases run
    exact ⟨h, Kept.of_same rfl rfl⟩
  | cons l ls ih =>
    obtain ⟨t, taken, rest⟩ := Option.bind_eq_some_iff.mp run
    obtain ⟨sound, kept⟩ := h.step taken
    obtain ⟨sound', kept'⟩ := ih sound (fun m hm => unheard m (List.mem_cons_of_mem l hm)) rest
    exact ⟨sound', (kept u (unheard l List.mem_cons_self)).trans kept'⟩

/-- A sweep that finds the node active and silent leaves a report. -/
theorem Sound.covers (h : Sound s) (next : Heartbeats.step cfg (now, .sweep) s = some s')
    (found : s.node? u = some n) (active : n.adminState = .active) (silent : n.silent cfg now) :
    0 < reportsSince u (s'.since u) s'.events := by
  simp only [Heartbeats.step] at next
  split at next
  · next later =>
    obtain ⟨t, done, rfl⟩ := Option.map_eq_some_iff.mp next
    cases done
    obtain ⟨mem, rfl⟩ := mem_of_node? found
    have offline : n.effectiveStatus cfg now = .offline := by
      unfold Node.effectiveStatus
      rw [active]
      cases seen : n.lastSeen with
      | none => rfl
      | some t => exact if_pos (silent t seen)
    have since : State.since { s.sweepOfflineNodes cfg now with clock := now } n.uuid = n.since :=
      h.since_eq mem
    rw [since]
    refine sweep_covers (fun m hm same => ?_) (Nat.le_trans (h.nodes n mem) (Nat.le_of_lt later))
      (List.mem_filter.mpr ⟨mem, by simp [active]⟩) offline
    rw [← h.since_eq mem, ← same, h.since_eq (List.mem_of_mem_filter hm)]
  · cases next

/-- **One report for each outage.** Between two heartbeats of a node, and before the first, at most one
NODE_OFFLINE is emitted; and one has been, after every sweep that finds the node active and silent. -/
theorem one_report_per_outage (cfg : Settings) (u : Uuid) {before between : List (Nat × Action)}
    {s t : State} (run : runFrom (Heartbeats.step cfg) before {} = some s)
    (unheard : ∀ l ∈ between, ¬ cfg.hears u l)
    (goesOn : runFrom (Heartbeats.step cfg) between s = some t) :
    t.outages u ≤ s.outages u + 1 ∧
    ((before = [] ∨ ∃ earlier l, before = earlier ++ [l] ∧ cfg.hears u l) →
      ∀ now n t', t.node? u = some n → n.adminState = .active → n.silent cfg now →
        Heartbeats.step cfg (now, .sweep) t = some t' → t'.outages u = s.outages u + 1) := by
  have sound {ls : List (Nat × Action)} {s : State}
      (run : runFrom (Heartbeats.step cfg) ls {} = some s) : Sound s :=
    runFrom_keeps (C := fun _ _ => True) (fun _ _ _ h _ next => (h.step next).1) .start
      (Along.of_forall (fun _ _ _ => trivial) _) run
  have here := sound run
  obtain ⟨later, kept⟩ := here.run unheard goesOn
  have recent : reportsSince u (s.since u) s.events ≤ reports u s.events := reportsSince_le
  refine ⟨?_, ?_⟩
  · have once := later.once u
    unfold Kept at kept
    unfold State.outages at *
    omega
  · intro start now n t' found active silent next
    have fresh : reportsSince u (s.since u) s.events = 0 := by
      rcases start with rfl | ⟨earlier, l, rfl, heard⟩
      · cases run
        rfl
      · rw [runFrom_append] at run
        obtain ⟨q, first, last⟩ := Option.bind_eq_some_iff.mp run
        obtain ⟨s', step, done⟩ := Option.bind_eq_some_iff.mp last
        cases done
        exact (sound first).fresh step heard
    obtain ⟨swept, balance⟩ := later.step next
    have kept := kept.trans (balance u (fun ⟨_, same, _⟩ => by cases same))
    have covers := later.covers next found active silent
    have once := swept.once u
    unfold Kept at kept
    omega

/-- A node is created and heard, and then is silent for a minute. -/
def silentNode : List (Nat × Action) :=
  [(1, .createNode ⟨7⟩ 1 "hv1"), (2, .heartbeat ⟨7⟩ { agentVersion := some "1.0.0" })]

/-- The sweeps of that minute. -/
def sweeps : List (Nat × Action) := [(15000000, .sweep), (30000000, .sweep), (45000000, .sweep)]

theorem one_report_per_outage_silent : ∃ s t t', runFrom (Heartbeats.step {}) silentNode {} = some s ∧
    runFrom (Heartbeats.step {}) sweeps s = some t ∧
    Heartbeats.step {} (60000000, .sweep) t = some t' ∧
    t.outages ⟨7⟩ ≤ s.outages ⟨7⟩ + 1 ∧ t'.outages ⟨7⟩ = s.outages ⟨7⟩ + 1 := by
  have hears : ∃ earlier l, silentNode = earlier ++ [l] ∧ Settings.hears {} ⟨7⟩ l :=
    ⟨[(1, .createNode ⟨7⟩ 1 "hv1")], _, rfl, _, rfl, by decide +kernel⟩
  have unheard : ∀ l ∈ sweeps, ¬ Settings.hears {} ⟨7⟩ l := by
    simp [sweeps, Settings.hears]
  have report := @one_report_per_outage {} ⟨7⟩ silentNode sweeps _ _ rfl unheard rfl
  exact ⟨_, _, _, rfl, rfl, rfl, report.1, report.2 (.inr hears) 60000000 _ _ rfl rfl
    (fun seen h => by cases h; decide +kernel) rfl⟩

end NodePilot.Heartbeats
