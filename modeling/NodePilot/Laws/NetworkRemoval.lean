import NodePilot.Laws.LinkChanges

/-!
# Tearing a network down again

`teardown_vlan_network` insists on the deletion of the dedicated bridge and does not look at how that of the uplink
ends. Where the bridge is gone already, every further attempt raises before it comes to the uplink; where the uplink
cannot be deleted, the call returns all the same.
-/

namespace NodePilot.Agent

open Lib Lib.Script

/-- Links are looked up by their names. -/
local instance lawfulRemoved : LawfulBEq Text := inferInstance

/-! ## What the teardown is to do -/

section Teardown

variable (parent : Text) (vlanId : Int) (d d' : LinkStates) (ip : Nat → IpChoice)

/-- The links that are none of the two. -/
def others : LinkStates := d.filter fun x => x.name ∉ [uplinkName parent vlanId, dedicatedName parent vlanId]

/-- The two links are gone, and all others are as they were. -/
structure Cleared : Prop where
  bridge : ¬ d'.links.present (dedicatedName parent vlanId)
  uplink : ¬ d'.links.present (uplinkName parent vlanId)
  others : others parent vlanId d' = others parent vlanId d

/-- Nothing disturbs the runs of `ip`. -/
def Normal : Prop := ∀ i, (ip i).timesOut = none ∧ (ip i).fails = false

/-- The teardown returns where `ip` behaves normally, and wherever it returns it has removed the network. -/
structure TearsDown : Prop where
  returns : Normal ip → (LinkHost.execute (teardownVlanNetwork parent vlanId) ⟨d, ip, 0⟩).1.isOk = true
  clears : (LinkHost.execute (teardownVlanNetwork parent vlanId) ⟨d, ip, 0⟩).1.isOk = true →
    Cleared parent vlanId d (LinkHost.execute (teardownVlanNetwork parent vlanId) ⟨d, ip, 0⟩).2.states

/-! ## When it does -/

/-- The two names are accepted, and the dedicated bridge is there. -/
structure Standing : Prop where
  bridgeNamed : vlanBridgeName parent vlanId = .ok (dedicatedName parent vlanId)
  uplinkNamed : vlanInterfaceName parent vlanId = .ok (uplinkName parent vlanId)
  bridge : d.links.hasBridge (dedicatedName parent vlanId)

/-- No command times out, and the one does not fail whose end is looked at. -/
structure Through : Prop where
  down : (ip 0).timesOut = none
  delete : (ip 1).timesOut = none ∧ (ip 1).fails = false
  uplinkDown : (ip 2).timesOut = none
  uplinkDelete : (ip 3).timesOut = none

/-- No other link is stacked on this one, or is a port of what goes with it. -/
def Apart (name : Text) : Prop :=
  ∀ x ∈ others parent vlanId d, x.name ∉ Links.stackedOn [name] d.links ∧
    ∀ m ∈ x.master, m ∉ Links.stackedOn [name] d.links

/-- The uplink that is left without the bridge can be deleted, and is. -/
structure UplinkGoes : Prop where
  apart : Apart parent vlanId d (uplinkName parent vlanId)
  deletes : (ip 3).fails = false
  deletable : ∃ l ∈ d.links, l.name = uplinkName parent vlanId ∧ l.kind ≠ .other

/-- The condition, command by command. -/
structure Removable : Prop where
  standing : Normal ip → Standing parent vlanId d
  apart : Standing parent vlanId d → Through ip → Apart parent vlanId d (dedicatedName parent vlanId)
  uplink : Standing parent vlanId d → Through ip →
    (d.remove (dedicatedName parent vlanId)).links.present (uplinkName parent vlanId) →
    UplinkGoes parent vlanId (d.remove (dedicatedName parent vlanId)) ip

end Teardown

/-! ## The end of a teardown -/

/-- Such is the host before a command. -/
def Before (d : LinkStates) (ip : Nat → IpChoice) (pos : Nat) : Unit → LinkHost → Prop := fun _ s => s = ⟨d, ip, pos⟩

/-- What a command leaves that does not time out. -/
def LinkStates.tried (d : LinkStates) (c : IpChoice) (command : IpCommand) : LinkStates :=
  if c.fails then d else ((d.ip command).map Prod.snd).getD d

section Ends

variable {d : LinkStates} {ip : Nat → IpChoice} {pos : Nat} {command : IpCommand}

/-- The command succeeds if it does not time out. -/
def Succeeds (d : LinkStates) (c : IpChoice) (command : IpCommand) : Prop :=
  c.fails = false ∧ (d.ip command).isSome = true

/-- A command that succeeds makes its change. -/
theorem tried_of_succeeds {c : IpChoice} (h : Succeeds d c command) : d.tried c command = d.change command := by
  obtain ⟨r, done⟩ := Option.isSome_iff_exists.mp h.2
  have states : r.2 = d.change command := (LinkStates.ip_some done).2
  simp [LinkStates.tried, h.1, done, states]

/-- One that fails changes nothing. -/
theorem tried_of_not {c : IpChoice} (h : ¬ Succeeds d c command) : d.tried c command = d := by
  unfold LinkStates.tried
  cases fails : c.fails with
  | true => rfl
  | false =>
    have failed : d.ip command = none := Option.not_isSome_iff_eq_none.mp fun some => h ⟨fails, some⟩
    simp [failed]

/-- How a command ends. -/
theorem handle_before (d : LinkStates) (ip : Nat → IpChoice) (pos : Nat) (command : IpCommand) :
    ((ip pos).timesOut ≠ none ∧ (LinkHost.handle command ⟨d, ip, pos⟩).1 = .timedOut) ∨
    ((ip pos).timesOut = none ∧
      (LinkHost.handle command ⟨d, ip, pos⟩).2 = ⟨d.tried (ip pos) command, ip, pos + 1⟩ ∧
      (Succeeds d (ip pos) command ∧ (∃ shown, (LinkHost.handle command ⟨d, ip, pos⟩).1 = .done shown) ∨
        ¬ Succeeds d (ip pos) command ∧ ∃ stderr, (LinkHost.handle command ⟨d, ip, pos⟩).1 = .failed stderr)) := by
  unfold LinkHost.handle LinkStates.tried Succeeds
  dsimp only
  cases (ip pos).timesOut with
  | some performed => exact .inl ⟨nofun, rfl⟩
  | none =>
    refine .inr ⟨rfl, ?_⟩
    cases (ip pos).fails with
    | true => exact ⟨rfl, .inr ⟨nofun, _, rfl⟩⟩
    | false =>
      cases d.ip command with
      | none => exact ⟨rfl, .inr ⟨nofun, _, rfl⟩⟩
      | some r => exact ⟨rfl, .inl ⟨⟨rfl, rfl⟩, _, rfl⟩⟩

/-- A command whose end nobody looks at. -/
theorem unchecked_decides : Decides LinkHost.handle ((ip pos).timesOut = none) (Before d ip pos) (runIp command false)
    (fun _ => Before (d.tried (ip pos) command) ip (pos + 1)) fun _ _ => True := by
  rintro l s rfl
  rw [runIp, exec_bind, exec_perform]
  rcases handle_before d ip pos command with ⟨late, answer⟩ | ⟨intime, states, ⟨-, shown, answer⟩ | ⟨-, stderr, answer⟩⟩
  · simp only [answer]
    exact ⟨late, trivial⟩
  · simp only [answer]
    exact ⟨intime, states⟩
  · simp only [answer]
    exact ⟨intime, states⟩

/-- A command whose end is looked at. -/
theorem checked_decides : Decides LinkHost.handle ((ip pos).timesOut = none ∧ Succeeds d (ip pos) command)
    (Before d ip pos) (runIp command) (fun _ => Before (d.change command) ip (pos + 1)) fun _ _ => True := by
  rintro l s rfl
  rw [runIp, exec_bind, exec_perform]
  rcases handle_before d ip pos command with
    ⟨late, answer⟩ | ⟨intime, states, ⟨succeeds, shown, answer⟩ | ⟨fails, stderr, answer⟩⟩
  · simp only [answer]
    exact ⟨fun both => late both.1, trivial⟩
  · simp only [answer]
    exact ⟨⟨intime, succeeds⟩, tried_of_succeeds succeeds ▸ states⟩
  · simp only [answer]
    exact ⟨fun both => fails both.2, trivial⟩

/-- Taking a link down leaves it there. -/
theorem links_tried_setDown {c : IpChoice} {name : Text} : (d.tried c (.setDown name)).links = d.links := by
  by_cases succeeds : Succeeds d c (.setDown name)
  · rw [tried_of_succeeds succeeds]
    exact LinkStates.links_edit name fun _ => ⟨rfl, rfl⟩
  · rw [tried_of_not succeeds]

/-- A bridge is deleted where there is one and `ip` works. -/
theorem succeeds_deleteBridge {c : IpChoice} {name : Text} :
    Succeeds d c (.deleteBridge name) ↔ c.fails = false ∧ d.links.hasBridge name = true := by
  simp [Succeeds, LinkStates.ip_eq, Links.ip]

/-- A link is deleted where there is one and `ip` works. -/
theorem succeeds_deleteLink {c : IpChoice} {name : Text} :
    Succeeds d c (.deleteLink name) ↔ c.fails = false ∧ ∃ l ∈ d.links, l.name = name ∧ l.kind ≠ .other := by
  simp [Succeeds, LinkStates.ip_eq, Links.ip]

end Ends

/-- What a teardown leaves that returns. -/
def LinkStates.tornDown (d : LinkStates) (ip : Nat → IpChoice) (parent : Text) (vlanId : Int) : LinkStates :=
  ((((d.tried (ip 0) (.setDown (dedicatedName parent vlanId))).change (.deleteBridge (dedicatedName parent vlanId))).tried
    (ip 2) (.setDown (uplinkName parent vlanId))).tried (ip 3) (.deleteLink (uplinkName parent vlanId)))

section Ends

variable {parent : Text} {vlanId : Int} {d : LinkStates} {ip : Nat → IpChoice}

/-- The teardown returns exactly where it got through. -/
theorem teardown_decides : Decides LinkHost.handle (Standing parent vlanId d ∧ Through ip) (Before d ip 0)
    (teardownVlanNetwork parent vlanId) (fun _ _ s => s.states = d.tornDown ip parent vlanId) fun _ _ => True := by
  have deletes : vlanBridgeName parent vlanId = .ok (dedicatedName parent vlanId) → Decides LinkHost.handle
      ((ip 0).timesOut = none ∧ (ip 1).timesOut = none ∧ (ip 1).fails = false ∧
        d.links.hasBridge (dedicatedName parent vlanId) = true)
      (Before d ip 0) (deleteBridge (dedicatedName parent vlanId))
      (fun _ => Before ((d.tried (ip 0) (.setDown (dedicatedName parent vlanId))).change
        (.deleteBridge (dedicatedName parent vlanId))) ip 2) fun _ _ => True := by
    intro named
    have valid : validateIface (dedicatedName parent vlanId) = .ok (dedicatedName parent vlanId) := named
    rw [deleteBridge, valid]
    refine Decides.congr (unchecked_decides.bind fun _ => checked_decides.bind fun _ => Decides.pure trivial fun _ _ =>
      id) ?_
    rw [succeeds_deleteBridge, links_tried_setDown, and_true]
  unfold teardownVlanNetwork
  cases bridgeNamed : vlanBridgeName parent vlanId with
  | error e => exact Decides.throw (fun all => nomatch bridgeNamed.symm.trans all.1.bridgeNamed) fun _ _ _ => trivial
  | ok given =>
    have same : given = dedicatedName parent vlanId := validateIface_eq bridgeNamed
    subst same
    unfold deleteVlanInterface
    cases uplinkNamed : vlanInterfaceName parent vlanId with
    | error e =>
      refine Decides.congr ((deletes bridgeNamed).bind fun _ => Decides.throw not_false fun _ _ _ => trivial) ?_
      exact ⟨fun never => never.2.elim, fun all => nomatch uplinkNamed.symm.trans all.1.uplinkNamed⟩
    | ok iface =>
      have same : iface = uplinkName parent vlanId := validateIface_eq uplinkNamed
      subst same
      refine Decides.congr ((deletes bridgeNamed).bind fun _ => unchecked_decides.bind fun _ =>
        unchecked_decides.bind fun _ => Decides.pure trivial fun _ s here => ?_) ?_
      · exact congrArg LinkHost.states here
      · constructor
        · rintro ⟨⟨down, delete, works, bridge⟩, uplinkDown, uplinkDelete, -⟩
          exact ⟨⟨bridgeNamed, uplinkNamed, bridge⟩, down, ⟨delete, works⟩, uplinkDown, uplinkDelete⟩
        · rintro ⟨⟨-, -, bridge⟩, ⟨down, ⟨delete, works⟩, uplinkDown, uplinkDelete⟩⟩
          exact ⟨⟨down, delete, works, bridge⟩, uplinkDown, uplinkDelete, trivial⟩

/-- A teardown returns exactly if it gets through, and what it leaves then. -/
theorem teardown_ends : ((LinkHost.execute (teardownVlanNetwork parent vlanId) ⟨d, ip, 0⟩).1.isOk = true ↔
      Standing parent vlanId d ∧ Through ip) ∧
    ((LinkHost.execute (teardownVlanNetwork parent vlanId) ⟨d, ip, 0⟩).1.isOk = true →
      (LinkHost.execute (teardownVlanNetwork parent vlanId) ⟨d, ip, 0⟩).2.states = d.tornDown ip parent vlanId) := by
  have ends := @teardown_decides parent vlanId d ip () ⟨d, ip, 0⟩ rfl
  unfold LinkHost.execute
  generalize Script.exec LinkHost.handle (teardownVlanNetwork parent vlanId) () ⟨d, ip, 0⟩ = r at ends ⊢
  rcases r with ⟨e | u, l, s⟩
  · exact ⟨⟨nofun, fun all => absurd all ends.1⟩, nofun⟩
  · exact ⟨⟨fun _ => ends.1, fun _ => rfl⟩, fun _ => ends.2⟩

end Ends

/-! ## The links that are left -/

section Left

variable {parent : Text} {vlanId : Int} {d : LinkStates} {name : Text} {x : LinkState} {f : LinkState → LinkState}

/-- Nothing of what goes with a link is left, nor a port of it. -/
theorem gone_of_mem_remove (h : x ∈ d.remove name) :
    x.name ∉ Links.stackedOn [name] d.links ∧ ∀ m ∈ x.master, m ∉ Links.stackedOn [name] d.links := by
  obtain ⟨y, hy, rfl⟩ := List.mem_map.mp h
  have stays : y.name ∉ Links.stackedOn [name] d.links := of_decide_eq_true (List.mem_filter.mp hy).2
  by_cases port : y.master.any (· ∈ Links.stackedOn [name] d.links) = true
  · rw [if_pos port]
    exact ⟨stays, nofun⟩
  · rw [if_neg port]
    refine ⟨stays, fun m hm gone => port ?_⟩
    exact (Option.any_eq_true _ _).mpr ⟨m, hm, decide_eq_true gone⟩

/-- What changes no names leaves the others, if it leaves each of them. -/
theorem others_map (same : ∀ x, (f x).name = x.name) (leaves : ∀ x ∈ others parent vlanId d, f x = x) :
    others parent vlanId (d.map f) = others parent vlanId d := by
  have named : (fun x : LinkState => decide (x.name ∉ [uplinkName parent vlanId, dedicatedName parent vlanId])) ∘ f =
      fun x => decide (x.name ∉ [uplinkName parent vlanId, dedicatedName parent vlanId]) :=
    funext fun x => by rw [Function.comp_apply, same]
  unfold others
  rw [List.filter_map, named]
  exact (List.map_congr_left leaves).trans (List.map_id _)

theorem others_edit (own : name ∈ [uplinkName parent vlanId, dedicatedName parent vlanId])
    (same : ∀ x, (f x).name = x.name) : others parent vlanId (d.edit name f) = others parent vlanId d := by
  refine others_map (fun x => ?_) fun x hx => if_neg fun named => ?_
  · split
    · exact same x
    · rfl
  · exact of_decide_eq_true (List.mem_filter.mp hx).2 (named ▸ own)

/-- **The others stand through the deletion of a link exactly if they are apart from it.** -/
theorem others_remove_iff : others parent vlanId (d.remove name) = others parent vlanId d ↔
    Apart parent vlanId d name := by
  constructor
  · intro same x hx
    have left : x ∈ others parent vlanId (d.remove name) := same ▸ hx
    exact gone_of_mem_remove (List.mem_filter.mp left).1
  · intro apart
    have stay : others parent vlanId (d.filter fun x => x.name ∉ Links.stackedOn [name] d.links) =
        others parent vlanId d := by
      unfold others
      rw [List.filter_filter]
      refine List.filter_congr fun x hx => ?_
      by_cases other : x.name ∈ [uplinkName parent vlanId, dedicatedName parent vlanId]
      · simp [other]
      · have left := (apart x (List.mem_filter.mpr ⟨hx, decide_eq_true other⟩)).1
        simp [left]
    unfold LinkStates.remove
    refine (others_map (fun x => ?_) fun x hx => if_neg fun port => ?_).trans stay
    · split <;> rfl
    · obtain ⟨m, hm, gone⟩ := (Option.any_eq_true _ _).mp port
      exact (apart x (stay ▸ hx)).2 m hm (of_decide_eq_true gone)

/-- A link that was removed is gone. -/
theorem not_present_remove : ¬ (d.remove name).links.present name := by
  intro there
  obtain ⟨x, hx, rfl⟩ := LinkStates.present_links.mp there
  exact (gone_of_mem_remove hx).1 (Links.mem_stackedOn List.mem_cons_self)

/-- A removal adds no link. -/
theorem present_of_remove {n : Text} (there : (d.remove name).links.present n) : d.links.present n := by
  rw [LinkStates.links_remove] at there
  exact Links.present_of_remove there

/-- Nor does an attempt at one. -/
theorem present_of_tried {c : IpChoice} {n : Text} (there : (d.tried c (.deleteLink name)).links.present n) :
    d.links.present n := by
  by_cases succeeds : Succeeds d c (.deleteLink name)
  · rw [tried_of_succeeds succeeds] at there
    exact present_of_remove there
  · rwa [tried_of_not succeeds] at there

/-- Taking a link of the VLAN down leaves the others. -/
theorem others_tried_setDown {c : IpChoice} (own : name ∈ [uplinkName parent vlanId, dedicatedName parent vlanId]) :
    others parent vlanId (d.tried c (.setDown name)) = others parent vlanId d := by
  by_cases succeeds : Succeeds d c (.setDown name)
  · rw [tried_of_succeeds succeeds]
    exact others_edit own fun _ => rfl
  · rw [tried_of_not succeeds]

theorem Apart.of_same {d' : LinkStates} (h : Apart parent vlanId d name)
    (same : others parent vlanId d' = others parent vlanId d) (links : d'.links = d.links) :
    Apart parent vlanId d' name := by
  unfold Apart
  rw [same, links]
  exact h

/-- A link that is none of `names`, and no port of them. -/
def Clear (names : List Text) (x : LinkState) : Prop := x.name ∉ names ∧ ∀ m ∈ x.master, m ∉ names

/-- Taking a link down leaves clear what was clear. -/
theorem clear_tried_setDown {c : IpChoice} {names : List Text} (h : ∀ x ∈ d, Clear names x) :
    ∀ x ∈ d.tried c (.setDown name), Clear names x := by
  by_cases succeeds : Succeeds d c (.setDown name)
  · rw [tried_of_succeeds succeeds]
    intro x hx
    obtain ⟨y, hy, rfl⟩ := LinkStates.mem_edit.mp hx
    split
    · exact h y hy
    · exact h y hy
  · rw [tried_of_not succeeds]
    exact h

/-- So does deleting one. -/
theorem clear_tried_deleteLink {c : IpChoice} {names : List Text} (h : ∀ x ∈ d, Clear names x) :
    ∀ x ∈ d.tried c (.deleteLink name), Clear names x := by
  by_cases succeeds : Succeeds d c (.deleteLink name)
  · rw [tried_of_succeeds succeeds]
    intro x hx
    obtain ⟨y, hy, rfl⟩ := List.mem_map.mp hx
    have clear := h y (List.mem_filter.mp hy).1
    split
    · exact ⟨clear.1, nofun⟩
    · exact clear
  · rw [tried_of_not succeeds]
    exact h

theorem UplinkGoes.of_same {ip : Nat → IpChoice} {d' : LinkStates} (h : UplinkGoes parent vlanId d ip)
    (same : others parent vlanId d' = others parent vlanId d) (links : d'.links = d.links) :
    UplinkGoes parent vlanId d' ip :=
  ⟨h.apart.of_same same links, h.deletes, links ▸ h.deletable⟩

/-- The deletion of the uplink, whose end nobody looks at. -/
theorem uplink_cleared_iff {ip : Nat → IpChoice} :
    (¬ (d.tried (ip 3) (.deleteLink (uplinkName parent vlanId))).links.present (uplinkName parent vlanId) ∧
      others parent vlanId (d.tried (ip 3) (.deleteLink (uplinkName parent vlanId))) = others parent vlanId d) ↔
    (d.links.present (uplinkName parent vlanId) → UplinkGoes parent vlanId d ip) := by
  by_cases succeeds : Succeeds d (ip 3) (.deleteLink (uplinkName parent vlanId))
  · obtain ⟨deletes, l, hl, named, kind⟩ := succeeds_deleteLink.mp succeeds
    have there : d.links.present (uplinkName parent vlanId) :=
      List.any_eq_true.mpr ⟨l, hl, decide_eq_true named⟩
    rw [tried_of_succeeds succeeds]
    constructor
    · exact fun cleared _ => ⟨others_remove_iff.mp cleared.2, deletes, l, hl, named, kind⟩
    · exact fun goes => ⟨not_present_remove, others_remove_iff.mpr (goes there).apart⟩
  · rw [tried_of_not succeeds]
    constructor
    · exact fun cleared there => absurd there cleared.1
    · refine fun goes => ⟨fun there => succeeds ?_, rfl⟩
      exact succeeds_deleteLink.mpr ⟨(goes there).deletes, (goes there).deletable⟩

/-- What a teardown leaves that returns is cleared of the network exactly if the two links are apart from the others,
and the uplink goes that is left without the bridge. -/
theorem cleared_iff {ip : Nat → IpChoice} : Cleared parent vlanId d (d.tornDown ip parent vlanId) ↔
    Apart parent vlanId d (dedicatedName parent vlanId) ∧
      ((d.remove (dedicatedName parent vlanId)).links.present (uplinkName parent vlanId) →
        UplinkGoes parent vlanId (d.remove (dedicatedName parent vlanId)) ip) := by
  -- the commands that set a link down change neither the names nor the others
  let d₁ := d.tried (ip 0) (.setDown (dedicatedName parent vlanId))
  let d₂ := d₁.remove (dedicatedName parent vlanId)
  let d₃ := d₂.tried (ip 2) (.setDown (uplinkName parent vlanId))
  have others₁ : others parent vlanId d₁ = others parent vlanId d := others_tried_setDown (by simp)
  have others₃ : others parent vlanId d₃ = others parent vlanId d₂ := others_tried_setDown (by simp)
  have links₁ : d₁.links = d.links := links_tried_setDown
  have links₂ : d₂.links = (d.remove (dedicatedName parent vlanId)).links := by
    rw [LinkStates.links_remove, LinkStates.links_remove, links₁]
  have links₃ : d₃.links = (d.remove (dedicatedName parent vlanId)).links := links_tried_setDown.trans links₂
  have stand (apart : Apart parent vlanId d (dedicatedName parent vlanId)) :
      others parent vlanId d₃ = others parent vlanId d :=
    others₃.trans ((others_remove_iff.mpr (apart.of_same others₁ links₁)).trans others₁)
  have end_eq : d.tornDown ip parent vlanId = d₃.tried (ip 3) (.deleteLink (uplinkName parent vlanId)) := rfl
  rw [end_eq]
  constructor
  · intro cleared
    have clear : ∀ x ∈ d₃.tried (ip 3) (.deleteLink (uplinkName parent vlanId)),
        Clear (Links.stackedOn [dedicatedName parent vlanId] d.links) x :=
      clear_tried_deleteLink (clear_tried_setDown fun x hx => links₁ ▸ gone_of_mem_remove hx)
    have apart : Apart parent vlanId d (dedicatedName parent vlanId) := fun x hx =>
      clear x (List.mem_filter.mp (cleared.others ▸ hx)).1
    have same := (others_remove_iff.mpr apart).trans (stand apart).symm
    have goes := uplink_cleared_iff.mp ⟨cleared.uplink, cleared.others.trans (stand apart).symm⟩
    exact ⟨apart, fun there => (goes (links₃ ▸ there)).of_same same links₃.symm⟩
  · rintro ⟨apart, goes⟩
    have same := (stand apart).trans (others_remove_iff.mpr apart).symm
    have cleared := uplink_cleared_iff.mpr fun there => (goes (links₃ ▸ there)).of_same same links₃
    refine ⟨fun there => ?_, cleared.1, cleared.2.trans (stand apart)⟩
    have before : d₂.links.present (dedicatedName parent vlanId) := links₃.trans links₂.symm ▸ present_of_tried there
    exact not_present_remove before

end Left

/-! ## Runs -/

section Runs

variable {parent : Text} {vlanId : Int} {d : LinkStates} {ip : Nat → IpChoice}

/-- Where `ip` works as usual the teardown gets through. -/
theorem Normal.through (h : Normal ip) : Through ip := ⟨(h 0).1, h 1, (h 2).1, (h 3).1⟩

/-- A teardown that does its work meets the condition. -/
theorem TearsDown.removable (h : TearsDown parent vlanId d ip) : Removable parent vlanId d ip := by
  obtain ⟨ends, leaves⟩ := @teardown_ends parent vlanId d ip
  have cleared (standing : Standing parent vlanId d) (through : Through ip) :
      Cleared parent vlanId d (d.tornDown ip parent vlanId) := by
    have returns := ends.mpr ⟨standing, through⟩
    exact leaves returns ▸ h.clears returns
  refine ⟨fun normal => (ends.mp (h.returns normal)).1, ?_, ?_⟩
  · exact fun standing through => (cleared_iff.mp (cleared standing through)).1
  · exact fun standing through => (cleared_iff.mp (cleared standing through)).2

/-- Under the condition the teardown does its work. -/
theorem Removable.tearsDown (h : Removable parent vlanId d ip) : TearsDown parent vlanId d ip := by
  obtain ⟨ends, leaves⟩ := @teardown_ends parent vlanId d ip
  refine ⟨fun normal => ends.mpr ⟨h.standing normal, normal.through⟩, fun returns => ?_⟩
  obtain ⟨standing, through⟩ := ends.mp returns
  rw [leaves returns]
  exact cleared_iff.mpr ⟨h.apart standing through, h.uplink standing through⟩

/-- **Wherever the attempts before were cut, a teardown does what it is to do exactly if the dedicated bridge is still
there, the uplink goes, and no other link hangs on the two.** -/
theorem tearsDown_iff (parent : Text) (vlanId : Int) (start : LinkStates) (attempts : List Attempt)
    (ip : Nat → IpChoice) :
    TearsDown parent vlanId (leftBy attempts start) ip ↔ Removable parent vlanId (leftBy attempts start) ip :=
  ⟨TearsDown.removable, Removable.tearsDown⟩

/-- The teardown before was cut when it had deleted the dedicated bridge. -/
theorem cut_teardown_stuck : ¬ ∀ (parent : Text) (vlanId : Int) (attempts : List Attempt) (ip : Nat → IpChoice),
    TearsDown parent vlanId (leftBy attempts []) ip := by
  intro completes
  have down := completes "vmbr0".toList 120
    [⟨.ensure "vmbr0".toList 120, fun _ => {}, 10⟩, ⟨.teardown "vmbr0".toList 120, fun _ => {}, 2⟩] fun _ => {}
  have returns := down.returns fun _ => ⟨rfl, rfl⟩
  exact absurd returns (by decide +kernel)

end Runs

end NodePilot.Agent
