import NodePilot.Laws.Outages
import NodePilot.Lib.Alternation

/-!
# ONLINE after OFFLINE only

A heartbeat announces the node unless it finds it ONLINE, and that takes an administrator's state, an agent and
a heartbeat not older than half the threshold. So a node that was only late, or in maintenance, is announced
again. Whether an announcement is due is a matter of the reports since the last heartbeat: the log is open
between a heartbeat and the report that may follow it.
-/

namespace NodePilot.Heartbeats

open Lib

/-- A NODE_ONLINE event about the node. -/
def Announces (u : Uuid) (e : EventRow) : Prop := e.isAbout "NODE_ONLINE" u

/-- A NODE_OFFLINE event about the node. -/
def Reports (u : Uuid) (e : EventRow) : Prop := e.isAbout "NODE_OFFLINE" u

/-- An accepted heartbeat of the node finds it ONLINE, or never heard, or reported since it was heard. -/
def Settings.Timely (cfg : Settings) (u : Uuid) (l : Nat × Action) (s : State) : Prop :=
  s.clock < l.1 → cfg.hears u l → ∀ n, s.node? u = some n →
    n.effectiveStatus cfg l.1 = .online ∨ n.lastSeen = none ∨
      s.events.any fun e => e.isAbout "NODE_OFFLINE" u ∧ n.since ≤ e.createdAt

/-- When the node was last heard. -/
def State.heardAt (s : State) (u : Uuid) : Option Nat := (s.node? u).bind Node.lastSeen

/-- What the events tell of a node that was last heard at `seen`. -/
structure Told (cfg : Settings) (u : Uuid) (seen : Option Nat) (events : List EventRow) : Prop where
  unheard : seen = none → ∀ e ∈ events, ¬ Announces u e
  isOpen : ∀ t, seen = some t →
    (Open (Announces u) (Reports u) events ↔ reportsSince u t events = 0)
  late : ∀ t, seen = some t → ∀ e ∈ events, Reports u e → t ≤ e.createdAt →
    cfg.threshold < (e.createdAt : Int) - t

variable {cfg : Settings} {u : Uuid} {now : Nat} {seen : Option Nat} {events : List EventRow} {n : Node}
variable {e : EventRow} {s s' : State}

/-! ## Events -/

theorem not_reports_of_announces (h : Announces u e) : ¬ Reports u e := by
  simp only [Announces, Reports, EventRow.isAbout, decide_eq_true_eq] at h ⊢
  rintro ⟨other, -⟩
  rw [h.1] at other
  exact absurd other (by decide)

theorem reports_offlineEvent : Reports u ⟨nodeOfflineEvent n, now⟩ ↔ n.uuid = u := isAbout_offlineEvent

theorem announces_onlineEvent : Announces u ⟨nodeOnlineEvent n, now⟩ ↔ n.uuid = u := by
  simp only [Announces, EventRow.isAbout, nodeOnlineEvent, true_and, decide_eq_true_eq]
  exact ⟨Uuid.str_injective, congrArg Uuid.str⟩

/-- An event that says nothing of the node. -/
theorem Told.other (h : Told cfg u seen events) (noAnnouncement : ¬ Announces u e)
    (noReport : ¬ Reports u e) : Told cfg u seen (e :: events) := by
  refine ⟨fun none => List.forall_mem_cons.mpr ⟨noAnnouncement, h.unheard none⟩, fun t ht => ?_,
    fun t ht => List.forall_mem_cons.mpr ⟨fun report => absurd report noReport, h.late t ht⟩⟩
  rw [(reports_cons_other (by simpa [Reports] using noReport)).2, ← h.isOpen t ht]
  simp [Open, noAnnouncement, noReport]

theorem alternates_other (noAnnouncement : ¬ Announces u e) :
    Alternates (Announces u) (Reports u) (e :: events) ↔ Alternates (Announces u) (Reports u) events := by
  rw [alternates_cons]
  exact and_iff_left fun announced => absurd announced noAnnouncement

/-! ## The sweep -/

theorem effectiveStatus_offline (h : n.effectiveStatus cfg now = .offline) {t : Nat}
    (seen : n.lastSeen = some t) : cfg.threshold < (now : Int) - t := by
  unfold Node.effectiveStatus at h
  rw [seen] at h
  cases admin : n.adminState <;> rw [admin] at h
  · by_contra recent
    simp only [recent, if_false] at h
    split at h
    · cases h
    · split at h <;> cases h
  · cases h
  · cases h

/-- A report closes the log. -/
theorem Told.mark (h : Told cfg u seen events) (own : n.uuid = u → n.lastSeen = seen)
    (past : ∀ t, seen = some t → t ≤ now) :
    Told cfg u seen (markOfflineIfStale cfg now events n) ∧
      (Alternates (Announces u) (Reports u) (markOfflineIfStale cfg now events n) ↔
        Alternates (Announces u) (Reports u) events) := by
  unfold markOfflineIfStale
  split
  · next fires =>
    have noAnnouncement : ¬ Announces u ⟨nodeOfflineEvent n, now⟩ := by
      simp [Announces, EventRow.isAbout, nodeOfflineEvent]
    refine ⟨?_, alternates_other noAnnouncement⟩
    by_cases same : n.uuid = u
    · have report : Reports u ⟨nodeOfflineEvent n, now⟩ := reports_offlineEvent.mpr same
      refine ⟨fun none => List.forall_mem_cons.mpr ⟨noAnnouncement, h.unheard none⟩, fun t ht => ?_,
        fun t ht => List.forall_mem_cons.mpr ⟨fun _ _ => ?_, h.late t ht⟩⟩
      · rw [(reports_cons_own report (past t ht)).2]
        simp [Open, noAnnouncement, report]
      · exact effectiveStatus_offline fires.1 ((own same).trans ht)
    · exact h.other noAnnouncement fun report => same (reports_offlineEvent.mp report)
  · exact ⟨h, Iff.rfl⟩

theorem Told.sweep {ns : List Node} (h : Told cfg u seen events)
    (own : ∀ n ∈ ns, n.uuid = u → n.lastSeen = seen) (past : ∀ t, seen = some t → t ≤ now) :
    Told cfg u seen (ns.foldl (markOfflineIfStale cfg now) events) ∧
      (Alternates (Announces u) (Reports u) (ns.foldl (markOfflineIfStale cfg now) events) ↔
        Alternates (Announces u) (Reports u) events) := by
  induction ns generalizing events with
  | nil => exact ⟨h, Iff.rfl⟩
  | cons n ns ih =>
    obtain ⟨marked, same⟩ := h.mark (own n List.mem_cons_self) past
    obtain ⟨swept, rest⟩ := ih marked fun m hm => own m (List.mem_cons_of_mem n hm)
    exact ⟨swept, rest.trans same⟩

/-! ## Heartbeats -/

theorem effectiveStatus_online (h : n.effectiveStatus cfg now = .online) :
    ∃ t, n.lastSeen = some t ∧ ¬ cfg.threshold < (now : Int) - t := by
  unfold Node.effectiveStatus at h
  cases admin : n.adminState <;> cases found : n.lastSeen <;> rw [admin, found] at h
  · cases h
  · next t =>
    refine ⟨t, rfl, fun old => ?_⟩
    simp only [old, if_true] at h
    cases h
  all_goals cases h

/-- A node that is ONLINE has not been reported since it was heard. -/
theorem Told.open_of_online (h : Told cfg u n.lastSeen events) (online : n.effectiveStatus cfg now = .online)
    (past : ∀ e ∈ events, e.createdAt < now) : Open (Announces u) (Reports u) events := by
  obtain ⟨t, seen, recent⟩ := effectiveStatus_online online
  refine (h.isOpen t seen).mpr (List.countP_eq_zero.mpr fun e he report => ?_)
  simp only [decide_eq_true_eq] at report
  have late := h.late t seen e he report.1 report.2
  have := past e he
  omega

/-- The heartbeat opens the log, or finds it open. -/
theorem Told.heard (fresh : ∀ e ∈ events, e.createdAt < now)
    (isOpen : Open (Announces u) (Reports u) events) : Told cfg u (some now) events := by
  have none : reportsSince u now events = 0 := reportsSince_eq_zero fresh
  refine ⟨(fun absent => by cases absent), fun t ht => ?_, fun t ht e he _ recent => ?_⟩
  · cases ht
    exact iff_of_true isOpen none
  · cases ht
    have := fresh e he
    omega

theorem Told.announced (fresh : ∀ e ∈ events, e.createdAt < now) (same : n.uuid = u) :
    Told cfg u (some now) (⟨nodeOnlineEvent n, now⟩ :: events) := by
  have announcement : Announces u ⟨nodeOnlineEvent n, now⟩ := announces_onlineEvent.mpr same
  have noReport : ¬ Reports u ⟨nodeOnlineEvent n, now⟩ := not_reports_of_announces announcement
  have none : reportsSince u now (⟨nodeOnlineEvent n, now⟩ :: events) = 0 :=
    (reports_cons_other (by simpa [Reports] using noReport)).2.trans (reportsSince_eq_zero fresh)
  refine ⟨(fun absent => by cases absent), fun t ht => ?_, fun t ht => List.forall_mem_cons.mpr
    ⟨fun report => absurd report noReport, fun e he _ recent => ?_⟩⟩
  · cases ht
    exact iff_of_true (.inl announcement) none
  · cases ht
    have := fresh e he
    omega

/-- An announcement is due where the node was never heard, or was reported since. -/
theorem Told.due (h : Told cfg u n.lastSeen events) : ¬ Open (Announces u) (Reports u) events ↔
    n.lastSeen = none ∨ events.any fun e => e.isAbout "NODE_OFFLINE" u ∧ n.since ≤ e.createdAt := by
  rw [any_iff_reportsSince]
  cases seen : n.lastSeen with
  | none =>
    refine iff_of_true (fun isOpen => ?_) (.inl rfl)
    obtain ⟨between, e, before, rfl, announces, -⟩ := open_iff.mp isOpen
    exact h.unheard seen e (by simp) announces
  | some t =>
    rw [h.isOpen t seen, show n.since = t by simp [Node.since, seen]]
    simp [Nat.pos_iff_ne_zero]

/-! ## Steps -/

theorem heardAt_of_node? (found : s.node? u = some n) : s.heardAt u = n.lastSeen := by
  rw [State.heardAt, found, Option.bind_some]

/-- A save that leaves alone when the node was heard. -/
theorem heardAt_update {f : Node → Node} {v : Uuid} (uuid : ∀ n, (f n).uuid = n.uuid)
    (heard : ∀ n, n.uuid = u → n.uuid = v → (f n).lastSeen = n.lastSeen) :
    (s.update v f).heardAt u = s.heardAt u := by
  unfold State.heardAt
  rw [node?_update uuid]
  cases found : s.node? u with
  | none => rfl
  | some n =>
    simp only [Option.map_some, Option.bind_some]
    split
    · next same => exact heard n (mem_of_node? found).2 same
    · rfl

/-- Every step keeps what the events tell, and alternates if it is timely. -/
theorem told_step {l : Nat × Action} (sound : Sound s) (told : Told cfg u (s.heardAt u) s.events)
    (own : ∀ e, l.2 = .emit e → e.type ≠ "NODE_ONLINE") (next : step cfg l s = some s') :
    Told cfg u (s'.heardAt u) s'.events ∧ (Alternates (Announces u) (Reports u) s'.events ↔
      Alternates (Announces u) (Reports u) s.events ∧ cfg.Timely u l s) := by
  obtain ⟨now, action⟩ := l
  simp only [Heartbeats.step] at next
  split at next
  · next later =>
    obtain ⟨t, done, rfl⟩ := Option.map_eq_some_iff.mp next
    have silent (other : ∀ p, action ≠ .heartbeat u p) : cfg.Timely u (now, action) s := by
      rintro - ⟨p, same, -⟩
      exact absurd same (other p)
    have fresh : ∀ e ∈ s.events, e.createdAt < now := fun e he => by
      have := sound.events e he
      omega
    cases action with
    | createNode uuid organization hostname =>
      simp only [Action.perform] at done
      split at done
      · cases done
      · next absent =>
        cases done
        rw [Bool.not_eq_true, Option.isSome_eq_false_iff, Option.isNone_iff_eq_none] at absent
        have heard : ∀ m : Node, m.uuid = uuid → m.lastSeen = none →
            State.heardAt { s with nodes := s.nodes ++ [m], clock := now } u = s.heardAt u := by
          intro m hm unheard
          simp only [State.heardAt, State.node?, List.find?_append, List.find?_singleton]
          cases found : s.nodes.find? (·.uuid = u) with
          | some n => rfl
          | none =>
            by_cases same : m.uuid = u
            · simp [same, unheard]
            · simp [same]
        rw [show State.heardAt _ u = s.heardAt u from heard _ rfl rfl]
        exact ⟨told, (and_iff_left (silent fun p same => by cases same)).symm⟩
    | heartbeat uuid payload =>
      obtain ⟨n, found, rfl⟩ := Option.map_eq_some_iff.mp done
      obtain ⟨mem, rfl⟩ := mem_of_node? found
      unfold State.recordHeartbeat
      by_cases compatible : cfg.compatible payload = true
      · rw [if_pos compatible]
        dsimp only
        by_cases same : n.uuid = u
        · subst same
          have heard : (s.update n.uuid (Node.heard now payload)).heardAt n.uuid = some now := by
            simp [State.heardAt, node?_update (s := s) (f := Node.heard now payload) (fun _ => rfl), found,
              Node.heard]
          rw [heardAt_of_node? found] at told
          have timely : cfg.Timely n.uuid (now, .heartbeat n.uuid payload) s ↔
              n.effectiveStatus cfg now = .online ∨ ¬ Open (Announces n.uuid) (Reports n.uuid) s.events := by
            rw [told.due]
            constructor
            · exact fun h => h later ⟨payload, rfl, compatible⟩ n found
            · intro h _ _ m hm
              rw [found] at hm
              cases hm
              exact h
          rw [timely]
          split
          · next online =>
            refine ⟨?_, (and_iff_left (.inl online)).symm⟩
            show Told cfg n.uuid ((s.update n.uuid (Node.heard now payload)).heardAt n.uuid) s.events
            rw [heard]
            exact .heard fresh (told.open_of_online online fresh)
          · next offline =>
            refine ⟨?_, ?_⟩
            · show Told cfg n.uuid ((s.update n.uuid (Node.heard now payload)).heardAt n.uuid) _
              rw [heard]
              exact .announced fresh rfl
            · rw [alternates_cons, or_iff_right offline]
              exact and_congr_right fun _ => ⟨fun h => h (announces_onlineEvent.mpr rfl), fun h _ => h⟩
        · have heard : (s.update n.uuid (Node.heard now payload)).heardAt u = s.heardAt u :=
            heardAt_update (fun _ => rfl) fun m hu hn => absurd (hn.symm.trans hu) same
          have timely : cfg.Timely u (now, .heartbeat n.uuid payload) s :=
            silent fun p h => by
              cases h
              exact same rfl
          split
          · refine ⟨?_, (and_iff_left timely).symm⟩
            show Told cfg u ((s.update n.uuid (Node.heard now payload)).heardAt u) s.events
            rwa [heard]
          · have noAnnouncement : ¬ Announces u ⟨nodeOnlineEvent n, now⟩ :=
              fun h => same (announces_onlineEvent.mp h)
            have noReport : ¬ Reports u ⟨nodeOnlineEvent n, now⟩ := by
              simp [Reports, EventRow.isAbout, nodeOnlineEvent]
            refine ⟨?_, (alternates_other noAnnouncement).trans (and_iff_left timely).symm⟩
            show Told cfg u ((s.update n.uuid (Node.heard now payload)).heardAt u) _
            rw [heard]
            exact told.other noAnnouncement noReport
      · rw [if_neg compatible]
        have refused : cfg.Timely u (now, .heartbeat n.uuid payload) s := by
          rintro - ⟨p, same, accepted⟩
          cases same
          exact absurd accepted compatible
        exact ⟨told, (and_iff_left refused).symm⟩
    | sweep =>
      cases done
      have dated : ∀ t, s.heardAt u = some t → t ≤ now := by
        intro t ht
        unfold State.heardAt at ht
        obtain ⟨n, found, seen⟩ := Option.bind_eq_some_iff.mp ht
        have := sound.nodes n (mem_of_node? found).1
        simp only [Node.since, seen, Option.getD_some] at this
        omega
      have ours : ∀ n ∈ s.nodes.filter (·.adminState = .active), n.uuid = u → n.lastSeen = s.heardAt u := by
        rintro n hn rfl
        exact (heardAt_of_node? (node?_of_mem sound.uuids (List.mem_of_mem_filter hn))).symm
      obtain ⟨swept, same⟩ := told.sweep ours dated
      exact ⟨swept, same.trans (and_iff_left (silent fun p same => by cases same)).symm⟩
    | setAdminState uuid state =>
      cases done
      refine ⟨?_, (and_iff_left (silent fun p same => by cases same)).symm⟩
      have heard : (s.update uuid fun n => { n with adminState := state }).heardAt u = s.heardAt u :=
        heardAt_update (fun _ => rfl) fun _ _ _ => rfl
      show Told cfg u ((s.update uuid fun n => { n with adminState := state }).heardAt u) s.events
      rwa [heard]
    | setAgent uuid agent =>
      cases done
      refine ⟨?_, (and_iff_left (silent fun p same => by cases same)).symm⟩
      have heard : (s.update uuid fun n => { n with agent := agent }).heardAt u = s.heardAt u :=
        heardAt_update (fun _ => rfl) fun _ _ _ => rfl
      show Told cfg u ((s.update uuid fun n => { n with agent := agent }).heardAt u) s.events
      rwa [heard]
    | emit event =>
      simp only [Action.perform] at done
      split at done
      · cases done
      · next other =>
        cases done
        have noAnnouncement : ¬ Announces u ⟨event, now⟩ := by
          simp [Announces, EventRow.isAbout, own event rfl]
        have noReport : ¬ Reports u ⟨event, now⟩ := by simp [Reports, EventRow.isAbout, other]
        exact ⟨told.other noAnnouncement noReport, (alternates_other noAnnouncement).trans
          (and_iff_left (silent fun p same => by cases same)).symm⟩
  · cases next

/-! ## Runs -/

/-- **NODE_ONLINE alternates with NODE_OFFLINE** in a run exactly when every accepted heartbeat of the node is
timely. No other event of that type is emitted. -/
theorem alternates_iff_timely (cfg : Settings) (u : Uuid) {ls : List (Nat × Action)}
    (own : ∀ l ∈ ls, ∀ e, l.2 = .emit e → e.type ≠ "NODE_ONLINE") :
    (∀ s ∈ visited (step cfg) ls {}, Alternates (Announces u) (Reports u) s.events) ↔
      Along (step cfg) (cfg.Timely u) ls {} := by
  refine visited_iff (I := fun s => Sound s ∧ Told cfg u (s.heardAt u) s.events ∧
      Alternates (Announces u) (Reports u) s.events)
    (F := fun l _ => ∀ e, l.2 = .emit e → e.type ≠ "NODE_ONLINE") (fun s h => h.2.2) ?_ ?_
    ⟨.start, ⟨fun _ _ he => absurd he List.not_mem_nil, (fun t ht => by cases ht), fun t ht => by cases ht⟩,
      alternates_nil⟩ (.of_forall (fun l hl _ => own l hl) _)
  · rintro l s s' ⟨sound, told, alternates⟩ own next
    obtain ⟨told', same⟩ := told_step sound told own next
    exact ⟨fun timely => ⟨(sound.step next).1, told', same.mpr ⟨alternates, timely⟩⟩,
      fun alternates' => (same.mp alternates').2⟩
  · rintro l s refused later ⟨p, same, -⟩ n found
    obtain ⟨now, action⟩ := l
    cases same
    simp [Heartbeats.step, later, Action.perform, found] at refused

/-- A node is created and heard, is late by five seconds more than half the threshold, and is heard again. -/
def lateNode : List (Nat × Action) :=
  [(1, .createNode ⟨7⟩ 1 "hv1"), (2, .heartbeat ⟨7⟩ { agentVersion := some "1.0.0" }),
    (20000002, .heartbeat ⟨7⟩ { agentVersion := some "1.0.0" })]

theorem alternates_iff_timely_late :
    (∀ s ∈ visited (step {}) lateNode {}, Alternates (Announces ⟨7⟩) (Reports ⟨7⟩) s.events) ↔
      Along (step {}) (Settings.Timely {} ⟨7⟩) lateNode {} :=
  alternates_iff_timely {} ⟨7⟩ (by simp [lateNode])

/-- It is announced twice, and was never reported. -/
theorem late_is_announced : ¬ ∀ (cfg : Settings) (u : Uuid) (ls : List (Nat × Action)),
    (∀ l ∈ ls, ∀ e, l.2 = .emit e → e.type ≠ "NODE_ONLINE") →
    ∀ s ∈ visited (step cfg) ls {}, Alternates (Announces u) (Reports u) s.events := by
  intro h
  have run : ∃ s, runFrom (step {}) lateNode {} = some s ∧
      s.events = [⟨nodeOnlineEvent ⟨⟨7⟩, 1, "hv1", .active, 0, 0, 0, 0, 0, some 2, 1, none⟩, 20000002⟩,
        ⟨nodeOnlineEvent ⟨⟨7⟩, 1, "hv1", .active, 0, 0, 0, 0, 0, none, 1, none⟩, 2⟩] :=
    ⟨_, rfl, rfl⟩
  obtain ⟨s, run, events⟩ := run
  have alternates := h {} ⟨7⟩ lateNode (by simp [lateNode]) s (mem_visited run)
  rw [events] at alternates
  obtain ⟨e, none, -⟩ := alternates [] _ [] _ [] rfl (announces_onlineEvent.mpr rfl)
    (announces_onlineEvent.mpr rfl)
  exact absurd none List.not_mem_nil

end NodePilot.Heartbeats
