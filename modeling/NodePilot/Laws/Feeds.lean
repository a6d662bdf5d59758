import NodePilot.Feeds
import NodePilot.Laws.JsonText
import NodePilot.Laws.StaleGrants

/-!
# What a feed shows

Whatever a socket shows is about the very object that it asked for, and its user was let in for the organization that
the object had when it was loaded. Nobody asks again. From the moment a socket joins its group it shows everything that
is sent about its object, if its URL spells the uuid as `str` does; with any other spelling it is let in all the same,
and shows nothing ever.
-/

namespace NodePilot.Feeds

open Lib Rbac

/-! ## Names -/

theorem hex_eq_positions (w n : Nat) : hex w n = (positions 16 w n).map hexDigit := by
  induction w generalizing n with
  | zero => rfl
  | succ w ih => rw [hex, positions, ih, List.map_append, List.map_singleton]

theorem mapM_hexValue {ds : List Nat} (small : ∀ d ∈ ds, d < 16) : (ds.map hexDigit).mapM Json.hexValue = some ds := by
  induction ds with
  | nil => rfl
  | cons d ds ih =>
    obtain ⟨first, rest⟩ := List.forall_mem_cons.mp small
    rw [List.map_cons, List.mapM_cons, Json.hexValue_hexDigit d first, ih rest]
    rfl

/-- A uuid is read back from its text. -/
theorem parseUuid_chars (u : Uuid) : parseUuid u.chars = some u := by
  have digits : (u.chars.filter (· ≠ '-')) = (positions 16 32 u.bits.toNat).map hexDigit :=
    u.chars_digits.trans (hex_eq_positions 32 _)
  have values := mapM_hexValue fun d (mem : d ∈ positions 16 32 u.bits.toNat) => lt_of_mem_positions (by decide) mem
  have whole : u.bits.toNat % 16 ^ 32 = u.bits.toNat := Nat.mod_eq_of_lt (by simpa using u.bits.isLt)
  unfold parseUuid
  simp only [digits, List.length_map, length_positions, ne_eq, not_true_eq_false, if_false, values]
  refine congrArg some ?_
  cases u
  refine congrArg Uuid.mk (BitVec.eq_of_toNat_eq ?_)
  rw [BitVec.toNat_ofNat, horner_positions, whole]
  exact Nat.mod_eq_of_lt (BitVec.isLt _)

theorem groupPrefix_inj {kind kind' : Kind} {text text' : String}
    (same : kind.groupPrefix ++ text = kind'.groupPrefix ++ text') : kind = kind' ∧ text = text' := by
  have chars := congrArg String.toList same
  rw [String.toList_append, String.toList_append] at chars
  cases kind <;> cases kind'
  all_goals
    first
    | exact ⟨rfl, String.toList_injective (List.append_cancel_left chars)⟩
    | exact absurd (congrArg List.head? chars) (by simp [Kind.groupPrefix])

theorem groupPrefix_ne_events (kind : Kind) (text text' : String) : kind.groupPrefix ++ text ≠ "events." ++ text' := by
  intro same
  have chars := congrArg String.toList same
  rw [String.toList_append, String.toList_append] at chars
  cases kind <;> exact absurd (congrArg List.head? chars) (by simp [Kind.groupPrefix])

/-- What is sent to the group of a feed. -/
def Feed.Hears (found : Found) : Feed → Subject → Prop
  | .object kind text, .object kind' uuid => kind' = kind ∧ text = uuid.str
  | .events _, .organization pk => pk = found.organization
  | _, _ => False

instance (found : Found) : (feed : Feed) → (about : Subject) → Decidable (feed.Hears found about)
  | .object kind text, .object kind' uuid => inferInstanceAs (Decidable (kind' = kind ∧ text = uuid.str))
  | .events _, .organization pk => inferInstanceAs (Decidable (pk = found.organization))
  | .object .., .organization _ => inferInstanceAs (Decidable False)
  | .events _, .object .. => inferInstanceAs (Decidable False)

section Find

variable {d : Directory} {feed : Feed} {found : Found} {about : Subject}

theorem find_object {kind : Kind} {text : String} : (Feed.object kind text).find d = some found ↔
    ∃ uuid record, parseUuid text.toList = some uuid ∧ d.objects kind uuid = some record ∧
      found = ⟨kind.groupPrefix ++ text, record.organization, if kind = .job then some record.data else none⟩ := by
  simp [Feed.find, Option.bind_eq_some_iff, @eq_comm _ found]

theorem find_events {organization : Option Uuid} : (Feed.events organization).find d = some found ↔
    ∃ uuid pk, organization = some uuid ∧ d.organizations uuid = some pk ∧ found = ⟨"events." ++ toString pk, pk, none⟩ := by
  simp [Feed.find, Option.bind_eq_some_iff, @eq_comm _ found]

/-- **A feed is in the group of what its URL spells as `str` does**, and of nothing else. -/
theorem group_eq_iff (there : feed.find d = some found) : about.group = found.group ↔ feed.Hears found about := by
  cases feed with
  | object kind text =>
    obtain ⟨uuid, record, -, -, rfl⟩ := find_object.mp there
    cases about with
    | object kind' uuid' =>
      constructor
      · intro same
        obtain ⟨kinds, texts⟩ := groupPrefix_inj same
        exact ⟨kinds, texts.symm⟩
      · rintro ⟨rfl, rfl⟩
        rfl
    | organization pk =>
      constructor
      · intro same
        exact absurd same.symm (groupPrefix_ne_events _ _ _)
      · exact False.elim
  | events organization =>
    obtain ⟨uuid, pk, -, -, rfl⟩ := find_events.mp there
    cases about with
    | object kind' uuid' =>
      constructor
      · intro same
        exact absurd same (groupPrefix_ne_events _ _ _)
      · exact False.elim
    | organization pk' =>
      constructor
      · intro same
        have chars := congrArg String.toList same
        simp only [Subject.group, String.toList_append, List.append_cancel_left_eq] at chars
        exact Nat.repr_injective (String.toList_injective chars)
      · rintro rfl
        rfl

/-- What a feed hears of belongs to the organization that was found. -/
theorem organizationOf_of_hears (there : feed.find d = some found) (hears : feed.Hears found about) :
    d.organizationOf about = some found.organization := by
  cases feed with
  | object kind text =>
    cases about with
    | object kind' uuid' =>
      obtain ⟨uuid, record, read, row, rfl⟩ := find_object.mp there
      obtain ⟨rfl, rfl⟩ := hears
      have same : uuid' = uuid := by
        have whole := parseUuid_chars uuid'
        rw [Uuid.str, String.toList_ofList, whole] at read
        exact Option.some.inj read
      subst same
      simp [Directory.organizationOf, row]
    | organization pk => exact hears.elim
  | events organization =>
    cases about with
    | object kind' uuid' => exact hears.elim
    | organization pk => exact congrArg some hears

end Find

/-! ## Who is let in -/

section Runs

variable {d : Directory} {db : Database} {events : List Event} {e : Event} {id : Nat} {k : Socket} {found : Found}

theorem after_snoc : after d db (events ++ [e]) = (after d db events).step e := List.foldl_concat ..

/-- A socket has loaded what its feed asks for. -/
def Loaded (d : Directory) (db : Database) (events : List Event) (id : Nat) (feed : Feed) (found : Found) : Prop :=
  ∃ before rest, events = before ++ .load id :: rest ∧ feed.find (after d db before).directory = some found

/-- Its user was let in, and this has happened since. -/
def Admitted (d : Directory) (db : Database) (events : List Event) (id : Nat) (k : Socket) (found : Found)
    (since : List Event) : Prop :=
  ∃ before between, events = before ++ .load id :: between ++ .check id :: since ∧
    k.feed.find (after d db before).directory = some found ∧
    ((after d db (before ++ .load id :: between)).policy.hasPermission k.user (some found.organization)
      k.feed.codename none).1 = true

theorem Loaded.snoc {feed : Feed} (h : Loaded d db events id feed found) :
    Loaded d db (events ++ [e]) id feed found := by
  obtain ⟨before, rest, rfl, there⟩ := h
  exact ⟨before, rest ++ [e], by simp, there⟩

/-- Whoever was let in stays so through one more event. -/
theorem Admitted.snoc {since : List Event} (h : Admitted d db events id k found since) :
    Admitted d db (events ++ [e]) id k found (since ++ [e]) := by
  obtain ⟨before, between, rfl, there, yes⟩ := h
  exact ⟨before, between, by simp, there, yes⟩

/-- A message that a socket has, or has shown. -/
def Socket.Has (k : Socket) (m : Message) : Prop := m ∈ k.mailbox ∨ .update m ∈ k.shown

/-- What is so of a socket at every moment. -/
structure Sound (d : Directory) (db : Database) (events : List Event) (id : Nat) (k : Socket) : Prop where
  quiet : k.phase = .connecting ∨ k.phase = .loaded ∨ k.phase = .permitted → k.mailbox = [] ∧ k.shown = []
  loaded : k.phase = .loaded → ∃ found, k.found = some found ∧ Loaded d db events id k.feed found
  admitted : k.phase = .permitted ∨ k.phase = .joined ∨ k.phase = .accepted →
    ∃ found since, k.found = some found ∧ Admitted d db events id k found since
  heard : ∀ m, k.Has m → ∃ found since full, k.found = some found ∧ Admitted d db events id k found since ∧
    .broadcast m full ∈ since ∧ m.about.group = found.group

/-- One more event that does not concern the socket changes nothing. -/
theorem Sound.snoc (h : Sound d db events id k) : Sound d db (events ++ [e]) id k where
  quiet := h.quiet
  loaded there := by
    obtain ⟨found, same, loaded⟩ := h.loaded there
    exact ⟨found, same, loaded.snoc⟩
  admitted there := by
    obtain ⟨found, since, same, admitted⟩ := h.admitted there
    exact ⟨found, since ++ [e], same, admitted.snoc⟩
  heard m has := by
    obtain ⟨found, since, full, same, admitted, sent, group⟩ := h.heard m has
    exact ⟨found, since ++ [e], full, same, admitted.snoc, List.mem_append_left _ sent, group⟩

theorem Sound.quiet_has (h : Sound d db events id k)
    (early : k.phase = .connecting ∨ k.phase = .loaded ∨ k.phase = .permitted) {m : Message} : ¬ k.Has m := by
  obtain ⟨empty, blank⟩ := h.quiet early
  rintro (mem | mem)
  · rw [empty] at mem
    cases mem
  · rw [blank] at mem
    cases mem

/-- A socket that closes keeps what it has shown. -/
theorem Sound.close (h : Sound d db events id k) : Sound d db events id { k with phase := .closed } where
  quiet := by simp
  loaded := nofun
  admitted := by simp
  heard := h.heard

/-- Loading the object is what the socket's user asked for. -/
theorem Sound.load (h : Sound d db events id k) :
    Sound d db (events ++ [.load id]) id ((after d db events).load k) := by
  unfold World.load
  split
  · next early =>
    split
    · next found there =>
      refine ⟨fun _ => h.quiet (.inl early), fun _ => ⟨found, rfl, events, [], rfl, there⟩, by simp, fun m has => ?_⟩
      exact absurd has (h.quiet_has (.inl early))
    · exact h.close.snoc
  · exact h.snoc

/-- The check is answered by the policy service. -/
theorem Sound.answered (h : Sound d db events id k) (loaded : k.phase = .loaded) (there : k.found = some found) :
    Sound d db (events ++ [.check id]) id (World.answered
      ((after d db events).policy.hasPermission k.user (some found.organization) k.feed.codename none).1 k) := by
  have silent : ∀ m, ¬ k.Has m := fun m => h.quiet_has (.inr (.inl loaded))
  cases answer : ((after d db events).policy.hasPermission k.user (some found.organization) k.feed.codename none).1 with
  | false => exact ⟨by simp [World.answered], nofun, by simp [World.answered], fun m has => absurd has (silent m)⟩
  | true =>
    refine ⟨fun _ => h.quiet (.inr (.inl loaded)), nofun, fun _ => ?_, fun m has => absurd has (silent m)⟩
    obtain ⟨found', same, before, rest, rfl, read⟩ := h.loaded loaded
    obtain rfl : found' = found := Option.some.inj (same.symm.trans there)
    exact ⟨found', [], there, before, rest, rfl, read, answer⟩

/-- The socket joins the group of its object. -/
theorem Sound.join (h : Sound d db events id k) : Sound d db events id (World.join k) := by
  unfold World.join
  split
  · next permitted =>
    have silent : ∀ m, ¬ k.Has m := fun m => h.quiet_has (.inr (.inr permitted))
    exact ⟨by simp, nofun, fun _ => h.admitted (.inl permitted), fun m has => absurd has (silent m)⟩
  · exact h

/-- The socket is accepted. -/
theorem Sound.accept (h : Sound d db events id k) : Sound d db events id (World.accept k) := by
  unfold World.accept
  split
  · next joined =>
    refine ⟨by simp, nofun, fun _ => h.admitted (.inr (.inl joined)), fun m has => h.heard m ?_⟩
    refine has.imp_right fun mem => (List.mem_append.mp mem).resolve_right fun snapshot => ?_
    obtain ⟨_, -, same⟩ := Option.map_eq_some_iff.mp (Option.mem_toList.mp snapshot)
    cases same
  · exact h

/-- The socket shows what is first in its queue. -/
theorem Sound.deliver (h : Sound d db events id k) : Sound d db events id (World.deliver k) := by
  unfold World.deliver
  split
  · next accepted =>
    split
    · exact h
    · next message rest mail =>
      refine ⟨by simp [accepted], by simp [accepted], fun _ => h.admitted (.inr (.inr accepted)), fun m has => ?_⟩
      refine h.heard m ?_
      rcases has with mem | mem
      · exact .inl (mail ▸ List.mem_cons_of_mem _ mem)
      · rcases List.mem_append.mp mem with old | new
        · exact .inr old
        · cases List.mem_singleton.mp new
          exact .inl (mail ▸ List.mem_cons_self)
  · exact h

/-- The socket queues a message of its group. -/
theorem Sound.receive (h : Sound d db events id k) (message : Message) (full : List Nat) :
    Sound d db (events ++ [.broadcast message full]) id (World.receive message (full.contains id) k) := by
  have kept := h.snoc (e := .broadcast message full)
  unfold World.receive
  split
  · next inGroup =>
    have live : (k.phase = .joined ∨ k.phase = .accepted) ∧ k.found.map Found.group = some message.about.group := by
      have there := inGroup.1
      unfold Socket.group at there
      split at there
      · next joined => exact ⟨.inl joined, there⟩
      · next accepted => exact ⟨.inr accepted, there⟩
      · cases there
    refine ⟨?_, kept.loaded, kept.admitted, fun m has => ?_⟩
    · rcases live.1 with joined | accepted
      · simp [joined]
      · simp [accepted]
    · rcases has with mem | mem
      · rcases List.mem_append.mp mem with old | new
        · exact kept.heard m (.inl old)
        · obtain rfl := List.mem_singleton.mp new
          obtain ⟨found, since, same, admitted⟩ := h.admitted (.inr live.1)
          rw [same] at live
          exact ⟨found, _, full, same, admitted.snoc, by simp, (Option.some.inj live.2).symm⟩
      · exact kept.heard m (.inr mem)
  · exact kept

theorem question_eq_some {w : World} {user : Asker} {organization : Nat} {codename : String} :
    w.question id = some (user, organization, codename) ↔ ∃ k, w.sockets id = some k ∧ ∃ found, k.found = some found ∧
      k.phase = .loaded ∧ user = k.user ∧ organization = found.organization ∧ codename = k.feed.codename := by
  simp [World.question, Option.bind_eq_some_iff, @eq_comm _ user, @eq_comm _ organization, @eq_comm _ codename]

/-- **Every socket is sound, at every moment of every run.** -/
theorem sound (there : (after d db events).sockets id = some k) : Sound d db events id k := by
  induction events using List.reverseRecOn generalizing k with
  | nil => cases there
  | append_singleton events e ih =>
    rw [after_snoc] at there
    -- A step of one socket leaves the others as they were.
    have stepped : ∀ {other : Nat} {f : Socket → Socket}, ((after d db events).update other f).sockets id = some k →
        (∀ k₀, (after d db events).sockets id = some k₀ → other = id → Sound d db (events ++ [e]) id (f k₀)) →
        Sound d db (events ++ [e]) id k := by
      intro other f there own
      change (if id = other then ((after d db events).sockets other).map f else _) = some k at there
      split at there
      · next same =>
        subst same
        obtain ⟨k₀, old, rfl⟩ := Option.map_eq_some_iff.mp there
        exact own k₀ old rfl
      · exact (ih there).snoc
    cases e with
    | connect other user feed =>
      simp only [World.step] at there
      split at there
      · exact (ih there).snoc
      · next free =>
        change (if id = other then some _ else _) = some k at there
        split at there
        · cases there
          exact ⟨fun _ => ⟨rfl, rfl⟩, nofun, by simp, fun m has => has.elim nofun nofun⟩
        · exact (ih there).snoc
    | load other =>
      refine stepped there fun k₀ old same => ?_
      subst same
      exact (ih old).load
    | check other =>
      simp only [World.step] at there
      split at there
      · next user organization codename asked =>
        obtain ⟨k₀, old, found, same, loaded, rfl, rfl, rfl⟩ := question_eq_some.mp asked
        refine stepped there fun k₁ old' same' => ?_
        subst same'
        obtain rfl : k₁ = k₀ := Option.some.inj (old'.symm.trans old)
        exact (ih old).answered loaded same
      · exact (ih there).snoc
    | join other => exact stepped there fun k₀ old _ => (ih old).join.snoc
    | accept other => exact stepped there fun k₀ old _ => (ih old).accept.snoc
    | deliver other => exact stepped there fun k₀ old _ => (ih old).deliver.snoc
    | disconnect other => exact stepped there fun k₀ old _ => (ih old).close.snoc
    | broadcast message full =>
      obtain ⟨k₀, old, rfl⟩ := Option.map_eq_some_iff.mp there
      exact (ih old).receive message full
    | policy step => exact (ih there).snoc
    | edit directory => exact (ih there).snoc

/-! ## What was asked -/

/-- What an event is for the policy service. -/
def World.asks (w : World) : Event → List Step
  | .check id =>
    match w.question id with
    | some (user, organization, codename) => [.ask user (some organization) codename none]
    | none => []
  | .policy step => [step]
  | _ => []

/-- What the policy service was asked along the events. -/
def World.steps (w : World) : List Event → List Step
  | [] => []
  | e :: events => w.asks e ++ (w.step e).steps events

/-- An event asks the policy service what it asks. -/
theorem step_policy (w : World) (e : Event) : (w.step e).policy = (w.asks e).foldl State.step w.policy := by
  cases e with
  | check id =>
    cases asked : w.question id with
    | none => simp [World.step, World.asks, asked]
    | some question => simp [World.step, World.asks, asked, World.update, State.step]
  | connect id user feed =>
    simp only [World.step]
    split <;> rfl
  | _ => rfl

/-- So do all events. -/
theorem foldl_policy (w : World) (events : List Event) :
    (events.foldl World.step w).policy = (w.steps events).foldl State.step w.policy := by
  induction events generalizing w with
  | nil => rfl
  | cons e events ih => rw [List.foldl_cons, ih, World.steps, List.foldl_append, step_policy]

/-- The steps of the policy service in a run. -/
def steps (d : Directory) (db : Database) (events : List Event) : List Step :=
  World.steps { directory := d, policy := { db := db } } events

/-- The policy service is where its own steps lead. -/
theorem after_policy : (after d db events).policy = Rbac.after db (steps d db events) := foldl_policy _ _

/-- **What a socket shows is about what its URL names, and its user was let in for its organization.** The permission
was there at most `CACHE_TTL_SECONDS` before the question, and the message came after the answer, but both the
permission and the object may have changed in between. -/
theorem shown_confined {m : Message} (there : (after d db events).sockets id = some k)
    (shown : Shown.update m ∈ k.shown) :
    ∃ before between since full found, events = before ++ .load id :: between ++ .check id :: since ∧
      .broadcast m full ∈ since ∧ k.feed.find (after d db before).directory = some found ∧
      k.feed.Hears found m.about ∧
      (after d db before).directory.organizationOf m.about = some found.organization ∧
      (k.user.isSuperuser = true ∨
        ∃ past recent, steps d db (before ++ .load id :: between) = past ++ recent ∧
          (after d db (before ++ .load id :: between)).policy.now ≤
            (Rbac.after db past).now + cacheTtlSeconds * 1000 ∧
          k.feed.codename ∈ (Rbac.after db past).db.held k.user (some found.organization) none) := by
  obtain ⟨found, since, full, -, ⟨before, between, split, read, yes⟩, sent, group⟩ := (sound there).heard m (.inr shown)
  have hears := (group_eq_iff read).mp group
  refine ⟨before, between, since, full, found, split, sent, read, hears, organizationOf_of_hears read hears, ?_⟩
  cases ordinary : k.user.isSuperuser with
  | true => exact .inl rfl
  | false =>
    obtain ⟨past, recent, parts, age, answer, -⟩ := answers_recent db (steps d db (before ++ .load id :: between))
      k.user ordinary (some found.organization) k.feed.codename none
    rw [after_policy] at yes ⊢
    exact .inr ⟨past, recent, parts, age, answer.mp yes⟩

/-! ## What is shown -/

/-- One job, in organization 1. -/
def oneJob : Directory where
  objects kind uuid := if kind = .job ∧ uuid = ⟨10⟩ then some ⟨1, .str "queued"⟩ else none
  organizations _ := none

/-- One user, who may see the jobs of organization 1. -/
def oneViewer : Database := ⟨[⟨1, ["job.view"]⟩], [⟨7, 1, none, 1⟩]⟩

/-- A job has started. -/
def running : Message := ⟨.object .job ⟨10⟩, .str "running"⟩

/-- The job has ended. -/
def succeeded : Message := ⟨.object .job ⟨10⟩, .str "succeeded"⟩

/-- The job is running before the socket has joined. -/
def opening (text : String) : List Event :=
  [.connect 1 (.account 7 false) (.object .job text), .load 1, .broadcast running [], .check 1]

/-- A socket of an ordinary user. -/
def opened (text : String) (phase : Phase) (shown : List Shown) : Socket where
  user := .account 7 false
  feed := .object .job text
  phase := phase
  found := some ⟨"job." ++ text, 1, some (.str "queued")⟩
  shown := shown

/-- The viewer is shown that the job has succeeded. -/
theorem shown_confined_viewer : ∃ before organization past,
    (after oneJob oneViewer before).directory.organizationOf succeeded.about = some organization ∧
      "job.view" ∈ (Rbac.after oneViewer past).db.held (.account 7 false) (some organization) none := by
  have there : (after oneJob oneViewer (opening (Uuid.str ⟨10⟩) ++
      [.join 1, .accept 1, .broadcast succeeded [], .deliver 1])).sockets 1 =
        some (opened (Uuid.str ⟨10⟩) .accepted [.snapshot (.str "queued"), .update succeeded]) := rfl
  have shown : Shown.update succeeded ∈ [.snapshot (.str "queued"), .update succeeded] := by simp
  obtain ⟨before, _, _, _, found, -, -, -, -, organization, superuser | ⟨past, _, -, -, held⟩⟩ :=
    shown_confined there shown
  · cases superuser
  · exact ⟨before, found.organization, past, organization, held⟩

/-- What a socket hears of a run, while its mailbox is not full. -/
def Feed.heard (feed : Feed) (found : Found) (id : Nat) : List Event → List Message
  | [] => []
  | .broadcast m full :: rest =>
    if feed.Hears found m.about ∧ id ∉ full then m :: feed.heard found id rest else feed.heard found id rest
  | _ :: rest => feed.heard found id rest

/-- What is heard of later events follows what was heard before. -/
theorem heard_append {feed : Feed} (first second : List Event) :
    feed.heard found id (first ++ second) = feed.heard found id first ++ feed.heard found id second := by
  induction first with
  | nil => rfl
  | cons e first ih =>
    cases e with
    | broadcast m full =>
      simp only [List.cons_append, Feed.heard]
      split
      · rw [ih, List.cons_append]
      · exact ih
    | _ => exact ih

/-- What a socket is that has joined, and stays, when `rest` has happened since. -/
structure Following (feed : Feed) (found : Found) (id : Nat) (rest : List Event) (k : Socket) : Prop where
  loaded : k.found = some found
  /-- It is accepted once `accept` has run, and has only a mailbox before that. -/
  phase : k.phase = .joined ∧ .accept id ∉ rest ∧ k.shown = [] ∨ k.phase = .accepted ∧ .accept id ∈ rest
  /-- What is shown and what is in the mailbox is the snapshot, and everything that was heard, once and in order. -/
  whole : k.shown ++ k.mailbox.map .update =
    (if k.phase = .accepted then (found.snapshot.map Shown.snapshot).toList else []) ++
      (feed.heard found id rest).map .update

/-- A change of a socket is seen on it. -/
@[simp] theorem update_self (w : World) (f : Socket → Socket) : (w.update id f).sockets id = (w.sockets id).map f :=
  if_pos rfl

/-- It is not seen on any other. -/
theorem update_ne (w : World) {other : Nat} (f : Socket → Socket) (ne : id ≠ other) :
    (w.update other f).sockets id = w.sockets id :=
  if_neg ne

namespace Following

variable {feed : Feed} {rest : List Event}

/-- Something else happens. -/
theorem quiet (h : Following feed found id rest k) (unheard : feed.heard found id [e] = []) (other : e ≠ .accept id) :
    Following feed found id (rest ++ [e]) k where
  loaded := h.loaded
  phase := by
    rcases h.phase with ⟨joined, early, blank⟩ | ⟨accepted, mem⟩
    · exact .inl ⟨joined, by simp [early, other.symm], blank⟩
    · exact .inr ⟨accepted, List.mem_append_left _ mem⟩
  whole := by rw [heard_append, unheard, List.append_nil, h.whole]

/-- An accepted socket has been shown the snapshot, and still has what was heard. -/
theorem accept (h : Following feed found id rest k) :
    Following feed found id (rest ++ [.accept id]) (World.accept k) := by
  have unheard : feed.heard found id (rest ++ [.accept id]) = feed.heard found id rest := by
    simp [heard_append, Feed.heard]
  have whole := h.whole
  rcases h.phase with ⟨joined, early, blank⟩ | ⟨accepted, mem⟩
  · rw [blank, joined] at whole
    refine ⟨by simp [World.accept, joined, h.loaded], .inr (by simp [World.accept, joined]), ?_⟩
    have mail : k.mailbox.map Shown.update = (feed.heard found id rest).map .update := by simpa using whole
    simp [World.accept, joined, unheard, blank, h.loaded, mail]
  · have same : World.accept k = k := by simp [World.accept, accepted]
    rw [same]
    exact ⟨h.loaded, .inr ⟨accepted, List.mem_append_left _ mem⟩, by rw [unheard, whole]⟩

/-- A delivery shows the first message in the mailbox. -/
theorem deliver (h : Following feed found id rest k) : Following feed found id rest (World.deliver k) := by
  unfold World.deliver
  split
  · next accepted =>
    split
    · exact h
    · next message mail there =>
      have whole := h.whole
      rw [there] at whole
      exact ⟨h.loaded, .inr ⟨accepted, h.phase.elim (by simp [accepted]) And.right⟩, by simpa using whole⟩
  · exact h

/-- A message to the group is put into the mailbox, unless the socket's queue is full. -/
theorem receive (h : Following feed found id rest k) {message : Message} (full : List Nat)
    (group : message.about.group = found.group ↔ feed.Hears found message.about) :
    Following feed found id (rest ++ [.broadcast message full]) (World.receive message (full.contains id) k) := by
  have inGroup : k.group = some found.group := by
    rcases h.phase with ⟨joined, -, -⟩ | ⟨accepted, -⟩
    · simp [Socket.group, joined, h.loaded]
    · simp [Socket.group, accepted, h.loaded]
  by_cases heard : feed.Hears found message.about ∧ id ∉ full
  · have taken : World.receive message (full.contains id) k = { k with mailbox := k.mailbox ++ [message] } := by
      simp [World.receive, inGroup, group.mpr heard.1, heard.2]
    have whole := h.whole
    rw [taken]
    refine ⟨h.loaded, ?_, ?_⟩
    · exact h.phase.imp (fun early => ⟨early.1, by simp [early.2.1], early.2.2⟩)
        fun late => ⟨late.1, List.mem_append_left _ late.2⟩
    · rw [heard_append, Feed.heard, if_pos heard, Feed.heard, List.map_append, List.map_append, ← List.append_assoc,
        whole, List.append_assoc]
  · have left : World.receive message (full.contains id) k = k := by
      refine if_neg fun taken => heard ⟨?_, by simpa using taken.2⟩
      exact group.mp (Option.some.inj (taken.1.symm.trans inGroup))
    rw [left]
    exact h.quiet (by simp [Feed.heard, heard]) (by simp)

theorem update {w : World} {other : Nat} {f : Socket → Socket} (there : w.sockets id = some k)
    (own : id = other → Following feed found id (rest ++ [e]) (f k))
    (apart : id ≠ other → Following feed found id (rest ++ [e]) k) :
    ∃ k', (w.update other f).sockets id = some k' ∧ Following feed found id (rest ++ [e]) k' := by
  by_cases same : id = other
  · subst same
    exact ⟨f k, by rw [update_self, there, Option.map_some], own rfl⟩
  · exact ⟨k, by rw [update_ne w f same, there], apart same⟩

/-- **A socket that has joined goes on following, whatever happens**, until it disconnects. -/
theorem step {w : World} (h : Following feed found id rest k) (there : w.sockets id = some k)
    (group : ∀ about : Subject, about.group = found.group ↔ feed.Hears found about) (stays : e ≠ .disconnect id) :
    ∃ k', (w.step e).sockets id = some k' ∧ Following feed found id (rest ++ [e]) k' := by
  have late : k.phase = .joined ∨ k.phase = .accepted := h.phase.imp And.left And.left
  cases e with
  | connect other user feed' =>
    have kept := h.quiet (e := .connect other user feed') rfl (by simp)
    simp only [World.step]
    split
    · exact ⟨k, there, kept⟩
    · next free =>
      have ne : id ≠ other := by
        rintro rfl
        simp [there] at free
      exact ⟨k, (if_neg ne).trans there, kept⟩
  | load other =>
    have kept := h.quiet (e := .load other) rfl (by simp)
    have same : w.load k = k := if_neg (by rcases late with p | p <;> simp [p])
    exact update there (fun _ => by rwa [same]) fun _ => kept
  | check other =>
    have kept := h.quiet (e := .check other) rfl (by simp)
    simp only [World.step]
    split
    · next asked =>
      obtain ⟨k', there', _, _, loaded, -⟩ := question_eq_some.mp asked
      have ne : id ≠ other := by
        rintro rfl
        obtain rfl := Option.some.inj (there.symm.trans there')
        rcases late with p | p <;> simp [p] at loaded
      exact ⟨k, (update_ne _ _ ne).trans there, kept⟩
    · exact ⟨k, there, kept⟩
  | join other =>
    have kept := h.quiet (e := .join other) rfl (by simp)
    have same : World.join k = k := if_neg (by rcases late with p | p <;> simp [p])
    exact update there (fun _ => by rwa [same]) fun _ => kept
  | accept other =>
    refine update there (fun same => same ▸ h.accept) fun apart => h.quiet rfl ?_
    simpa using apart.symm
  | deliver other =>
    exact update there (fun _ => h.deliver.quiet rfl (by simp)) fun _ => h.quiet rfl (by simp)
  | disconnect other =>
    refine ⟨k, (update_ne _ _ ?_).trans there, h.quiet rfl (by simp)⟩
    rintro rfl
    exact stays rfl
  | broadcast message full =>
    refine ⟨_, ?_, h.receive full (group message.about)⟩
    exact (congrArg (Option.map _) there).trans rfl
  | policy step => exact ⟨k, there, h.quiet rfl (by simp)⟩
  | edit directory => exact ⟨k, there, h.quiet rfl (by simp)⟩

end Following

/-- **What a socket has joined, it follows.** As long as it stays, what it has shown and what is in its mailbox is the
snapshot that was loaded, when it is accepted, and then whatever was sent about its object since it joined: everything,
once, and in order. What was sent between the load and the join is in neither. -/
theorem follows {before rest : List Event} (there : (after d db before).sockets id = some k)
    (permitted : k.phase = .permitted) (stays : .disconnect id ∉ rest) :
    ∃ found past between since k', k.found = some found ∧ before = past ++ .load id :: between ++ .check id :: since ∧
      k.feed.find (after d db past).directory = some found ∧
      (after d db (before ++ .join id :: rest)).sockets id = some k' ∧ Following k.feed found id rest k' := by
  obtain ⟨found, since, loaded, past, between, split, read, -⟩ := (sound there).admitted (.inl permitted)
  obtain ⟨blank, silent⟩ := (sound there).quiet (.inr (.inr permitted))
  refine ⟨found, past, between, since, ?_⟩
  suffices joined : ∃ k', (after d db (before ++ .join id :: rest)).sockets id = some k' ∧
      Following k.feed found id rest k' by
    obtain ⟨k', there', follows⟩ := joined
    exact ⟨k', loaded, split, read, there', follows⟩
  induction rest using List.reverseRecOn with
  | nil =>
    refine ⟨World.join k, ?_, ?_, ?_, ?_⟩
    · rw [after_snoc, World.step, update_self, there, Option.map_some]
    · simp [World.join, permitted, loaded]
    · exact .inl (by simp [World.join, permitted, silent])
    · simp [World.join, permitted, blank, silent, Feed.heard]
  | append_singleton rest e ih =>
    obtain ⟨k', there', follows⟩ := ih fun mem => stays (List.mem_append_left _ mem)
    rw [← List.cons_append, ← List.append_assoc, after_snoc]
    refine follows.step there' (fun _ => group_eq_iff read) ?_
    rintro rfl
    exact stays (List.mem_append_right _ (List.mem_singleton_self _))

/-- Any spelling of the uuid is let in. -/
theorem opening_permitted {text : String} (spelled : parseUuid text.toList = some ⟨10⟩) :
    (after oneJob oneViewer (opening text)).sockets 1 = some (opened text .permitted []) := by
  have yes : (State.hasPermission { db := oneViewer } (.account 7 false) (some 1) "job.view" none).1 = true := by
    decide +kernel
  simp [after, opening, World.step, World.update, World.load, Feed.find, spelled, oneJob, World.receive, Socket.group,
    World.question, World.answered, Feed.codename, Kind.codename, Kind.groupPrefix, yes, opened]

/-- Both spellings are let in, and show that the job was queued. One of them shows its end, and neither that it ran. -/
theorem follows_spellings :
    (∃ k, (after oneJob oneViewer (opening "00000000-0000-0000-0000-00000000000a" ++
        Event.join 1 :: [Event.accept 1, Event.broadcast succeeded []])).sockets 1 = some k ∧
      k.shown ++ k.mailbox.map Shown.update = [Shown.snapshot (.str "queued"), Shown.update succeeded]) ∧
    ∃ k, (after oneJob oneViewer (opening "00000000-0000-0000-0000-00000000000A" ++
        Event.join 1 :: [Event.accept 1, Event.broadcast succeeded []])).sockets 1 = some k ∧
      k.shown ++ k.mailbox.map Shown.update = [Shown.snapshot (.str "queued")] := by
  have stays : Event.disconnect 1 ∉ [.accept 1, .broadcast succeeded []] := by simp
  constructor
  · have spelled : parseUuid "00000000-0000-0000-0000-00000000000a".toList = some ⟨10⟩ := by decide +kernel
    obtain ⟨_, _, _, _, k, loaded, -, -, there', follows⟩ := follows (opening_permitted spelled) rfl stays
    cases loaded
    have accepted : k.phase = .accepted := (follows.phase.resolve_left fun early => early.2.1 (by simp)).1
    refine ⟨k, there', follows.whole.trans ?_⟩
    rw [if_pos accepted]
    rfl
  · have spelled : parseUuid "00000000-0000-0000-0000-00000000000A".toList = some ⟨10⟩ := by decide +kernel
    obtain ⟨_, _, _, _, k, loaded, -, -, there', follows⟩ := follows (opening_permitted spelled) rfl stays
    cases loaded
    have accepted : k.phase = .accepted := (follows.phase.resolve_left fun early => early.2.1 (by simp)).1
    refine ⟨k, there', follows.whole.trans ?_⟩
    rw [if_pos accepted]
    rfl

end Runs

end NodePilot.Feeds
