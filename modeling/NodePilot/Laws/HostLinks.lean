import NodePilot.Agent.Network
import NodePilot.Lib.Footprint

/-!
# The links that a handler leaves

Which names a run of `ip` can add, and what becomes of the links of a host that nothing disturbs. A
handler's footprint bounds the links it can have made, whatever fails or times out on the way; the
rules of a quiet host say what it does make.
-/

namespace NodePilot.Agent

open Lib Lib.Script

/-! ## What a command adds -/

/-- The name of the link that a command makes. -/
def IpCommand.adds : IpCommand → Option Text
  | .addBridge name | .addVlan _ name _ => some name
  | _ => none

/-- The name of the link that a command removes. -/
def IpCommand.removes : IpCommand → Option Text
  | .deleteBridge name | .deleteLink name => some name
  | _ => none

namespace Links

variable {links links' : Links} {command : IpCommand} {shown : Bool} {name : Text}

theorem present_iff : links.present name ↔ name ∈ links.map Link.name := by
  simp [present]

/-- A new link is there with those that were. -/
theorem present_append {l : Link} :
    (links ++ [l]).present name ↔ links.present name ∨ l.name = name := by
  simp [present]

/-- A bridge is a link. -/
theorem present_of_hasBridge (h : links.hasBridge name) : links.present name := by
  obtain ⟨l, hl, found⟩ := List.any_eq_true.mp h
  exact List.any_eq_true.mpr ⟨l, hl, by simpa using (of_decide_eq_true found).1⟩

/-- What one run of `ip` can do to the links. -/
theorem ip_cases (h : links.ip command = some (shown, links')) :
    (links' = links ∧ command.adds = none ∧ command.removes = none) ∨
    (∃ l : Link, links' = links ++ [l] ∧ command.adds = some l.name ∧ command.removes = none) ∨
    ∃ n, links' = links.remove n ∧ command.adds = none ∧ command.removes = some n := by
  cases command <;> simp only [ip, Option.ite_none_right_eq_some, Option.ite_none_left_eq_some,
    Option.some.injEq, Prod.mk.injEq] at h
  case addBridge name => exact .inr (.inl ⟨_, h.2.2.symm, rfl, rfl⟩)
  case addVlan parent name vlanId => exact .inr (.inl ⟨_, h.2.2.symm, rfl, rfl⟩)
  case deleteBridge name => exact .inr (.inr ⟨name, h.2.2.symm, rfl, rfl⟩)
  case deleteLink name => exact .inr (.inr ⟨name, h.2.2.symm, rfl, rfl⟩)
  all_goals exact .inl ⟨h.2.2.symm, rfl, rfl⟩

/-- A removal adds no link. -/
theorem present_of_remove (h : (links.remove name').present name) : links.present name := by
  obtain ⟨l, hl, found⟩ := List.any_eq_true.mp h
  exact List.any_eq_true.mpr ⟨l, (List.mem_filter.mp hl).1, found⟩

/-- A command adds one link at most. -/
theorem present_ip (h : links.ip command = some (shown, links')) (there : links'.present name) :
    links.present name ∨ command.adds = some name := by
  obtain ⟨rfl, -, -⟩ | ⟨l, rfl, adds, -⟩ | ⟨n, rfl, -, -⟩ := ip_cases h
  · exact .inl there
  · rcases present_append.mp there with there | rfl
    · exact .inl there
    · exact .inr adds
  · exact .inl (present_of_remove there)

end Links

/-- A run of `ip` leaves the links alone or does to them what it does undisturbed. -/
theorem Host.handle_cases (command : IpCommand) (s : Host) :
    (Host.handle command s).2.links = s.links ∨
    ∃ shown, s.links.ip command = some (shown, (Host.handle command s).2.links) := by
  unfold Host.handle
  dsimp only
  cases (s.script s.pos).timesOut with
  | some performed =>
    cases performed with
    | false => exact .inl rfl
    | true =>
      cases h : s.links.ip command with
      | none => exact .inl (by simp)
      | some r => exact .inr ⟨r.1, by simp⟩
  | none =>
    by_cases fails : (s.script s.pos).fails
    · exact .inl (by simp [fails])
    · cases h : s.links.ip command with
      | none => exact .inl (by simp [fails])
      | some r => exact .inr ⟨r.1, by simp [fails]⟩

/-! ## Footprints -/

section Footprint

variable {α : Type} {ok : (c : IpCommand) → IpAnswer → Prop} {φ : IpCommand → Prop} {Q : α → Prop}

/-- What is computed issues no command. -/
theorem obeys_computed {r : Except AgentError α} (h : ∀ a, r = .ok a → Q a) :
    Obeys ok φ Q (computed r) := by
  cases r with
  | ok a => exact Obeys.pure (h a rfl)
  | error e => exact Obeys.throw

/-- `run_ip` issues its one command. -/
theorem obeys_runIp {command : IpCommand} {check : Bool} (h : φ command) :
    Obeys ok φ (fun _ => True) (runIp command check) := by
  refine Obeys.bind (Obeys.perform (Q := fun _ => True) h fun _ _ => trivial) ?_
  intro answer _
  cases answer with
  | done shown => exact Obeys.pure trivial
  | failed stderr => exact Obeys.ite (fun _ => Obeys.throw) fun _ => Obeys.pure trivial
  | timedOut => exact Obeys.throw

/-- A name that passes is returned as it is. -/
theorem validateIface_eq {name name' : Text} (h : validateIface name = .ok name') : name' = name := by
  unfold validateIface at h
  split at h
  · exact (Except.ok.inj h).symm
  · cases h

/-- The runs of `create_bridge`. -/
def bridgeCommands (name : Text) : List IpCommand := [.showBridge name, .addBridge name, .setUp name]

/-- The runs of `create_vlan_interface`. -/
def vlanCommands (parent iface : Text) (vlanId : Int) : List IpCommand :=
  [.showLink iface, .addVlan parent iface vlanId, .setUp iface]

variable {name parent : Text} {vlanId : Int}

/-- `create_bridge` issues its two commands. -/
theorem obeys_createBridge (all : ∀ c ∈ bridgeCommands name, φ c) :
    Obeys ok φ (fun _ => True) (createBridge name) := by
  simp only [bridgeCommands, List.forall_mem_cons, List.not_mem_nil, false_implies, implies_true, and_true] at all
  obtain ⟨shows, add, up⟩ := all
  refine Obeys.bind (obeys_computed (Q := (· = name)) fun a ha => validateIface_eq ha) ?_
  rintro a rfl
  refine Obeys.bind (Q := fun _ => True) ?_ fun found _ => ?_
  · refine Obeys.bind (obeys_computed (Q := (· = a)) fun b hb => validateIface_eq hb) ?_
    rintro b rfl
    exact obeys_runIp shows
  · refine Obeys.ite (fun _ => Obeys.pure trivial) fun _ => ?_
    refine Obeys.bind (obeys_runIp add) fun _ _ => ?_
    exact Obeys.bind (obeys_runIp up) fun _ _ => Obeys.pure trivial

/-- `create_vlan_interface` issues its two commands and returns the name. -/
theorem obeys_createVlanInterface
    (all : ∀ c ∈ vlanCommands parent (parent ++ ".".toList ++ decimal vlanId) vlanId, φ c) :
    Obeys ok φ (· = parent ++ ".".toList ++ decimal vlanId) (createVlanInterface parent vlanId) := by
  simp only [vlanCommands, List.forall_mem_cons, List.not_mem_nil, false_implies, implies_true, and_true] at all
  obtain ⟨shows, add, up⟩ := all
  refine Obeys.bind (obeys_computed (Q := (· = parent)) fun a ha => validateIface_eq ha) ?_
  rintro a rfl
  refine Obeys.ite (fun _ => ?_) fun _ => Obeys.throw
  refine Obeys.bind (obeys_computed (Q := (· = _)) fun a ha => validateIface_eq ha) ?_
  rintro iface rfl
  refine Obeys.bind (obeys_runIp shows) fun found _ => ?_
  refine Obeys.ite (fun _ => Obeys.pure rfl) fun _ => ?_
  exact Obeys.bind (obeys_runIp add) fun _ _ => Obeys.bind (obeys_runIp up) fun _ _ => Obeys.pure rfl

/-- `attach_to_bridge` issues its one command. -/
theorem obeys_attachToBridge {iface bridge : Text} (attach : φ (.setMaster iface bridge)) :
    Obeys ok φ (fun _ => True) (attachToBridge iface bridge) := by
  refine Obeys.bind (obeys_computed (Q := (· = iface)) fun a ha => validateIface_eq ha) ?_
  rintro iface rfl
  refine Obeys.bind (obeys_computed (Q := (· = bridge)) fun a ha => validateIface_eq ha) ?_
  rintro bridge rfl
  exact Obeys.bind (obeys_runIp attach) fun _ _ => Obeys.pure trivial

/-- The runs of `ensure_vlan_network`. -/
def ensureCommands (parent iface bridge : Text) (vlanId : Int) : List IpCommand :=
  bridgeCommands parent ++ vlanCommands parent iface vlanId ++ bridgeCommands bridge ++ [.setMaster iface bridge]

/-- `ensure_vlan_network` issues the commands of its parts. -/
theorem obeys_ensureVlanNetwork
    (all : ∀ c ∈ ensureCommands parent (parent ++ ".".toList ++ decimal vlanId)
      (parent ++ ".".toList ++ decimal vlanId ++ "b".toList) vlanId, φ c) :
    Obeys ok φ (fun _ => True) (ensureVlanNetwork parent vlanId) := by
  simp only [ensureCommands, List.forall_mem_append, List.forall_mem_singleton] at all
  obtain ⟨⟨⟨ofParent, ofUplink⟩, ofBridge⟩, attach⟩ := all
  refine Obeys.bind (obeys_createBridge ofParent) fun _ _ => ?_
  refine Obeys.bind (obeys_createVlanInterface ofUplink) ?_
  rintro uplink rfl
  refine Obeys.bind (obeys_computed (Q := (· = _)) fun a ha => validateIface_eq ha) ?_
  rintro dedicated rfl
  refine Obeys.bind (obeys_createBridge ofBridge) fun _ _ => ?_
  exact Obeys.bind (obeys_attachToBridge attach) fun _ _ => Obeys.pure trivial

/-- The commands that add no other links than those of `names`. -/
def Adds (names : List Text) (command : IpCommand) : Prop := ∀ n ∈ command.adds, n ∈ names

variable {names : List Text}

/-- A bridge adds its own name only. -/
theorem adds_createBridge (h : name ∈ names) :
    Obeys ok (Adds names) (fun _ => True) (createBridge name) :=
  obeys_createBridge (by simp [bridgeCommands, Adds, IpCommand.adds, h])

/-- The uplink and the dedicated bridge are all that a VLAN adds to the bridge under it. -/
theorem adds_ensureVlanNetwork (hp : parent ∈ names)
    (hu : parent ++ ".".toList ++ decimal vlanId ∈ names)
    (hd : parent ++ ".".toList ++ decimal vlanId ++ "b".toList ∈ names) :
    Obeys ok (Adds names) (fun _ => True) (ensureVlanNetwork parent vlanId) := by
  refine obeys_ensureVlanNetwork ?_
  generalize parent ++ ".".toList ++ decimal vlanId = iface at *
  generalize iface ++ "b".toList = bridge at *
  simp [ensureCommands, bridgeCommands, vlanCommands, Adds, IpCommand.adds, hp, hu, hd]

/-- What a handler finds or adds is what stands there at its end. -/
theorem Adds.present {x : IpM α} (h : Obeys (fun _ _ => True) (Adds names) Q x) {s : Host}
    (there : (Host.execute x s).2.links.present name) : s.links.present name ∨ name ∈ names := by
  refine (Obeys.exec (I := fun s' : Host => s'.links.present name → s.links.present name ∨ name ∈ names)
    h ?_ .inl) there
  intro command s' adds kept
  refine ⟨trivial, fun there => ?_⟩
  rcases Host.handle_cases command s' with same | ⟨shown, done⟩
  · exact kept (same ▸ there)
  · rcases Links.present_ip done there with before | added
    · exact kept before
    · exact .inr (adds name added)

end Footprint

/-! ## What a handler removes -/

section Removal

variable {links links' : Links} {names names' : List Text} {name : Text}

namespace Links

/-- Fewer names on fewer links take fewer others along. The induction follows the older links. -/
theorem stackedOn_mono (names_le : names ⊆ names') (links_le : links.Sublist links') :
    stackedOn names links ⊆ stackedOn names' links' := by
  induction links_le generalizing names names' with
  | slnil => exact names_le
  | cons l _ ih =>
    rcases l with ⟨n, _ | ⟨parent, _⟩ | _⟩
    case vlan =>
      refine ih (List.Subset.trans names_le ?_)
      split
      · exact List.subset_cons_self n names'
      · exact List.Subset.refl names'
    all_goals exact ih names_le
  | cons_cons l _ ih =>
    rcases l with ⟨n, _ | ⟨parent, _⟩ | _⟩
    case vlan =>
      refine ih ?_
      by_cases stacked : parent ∈ names
      · rw [if_pos stacked, if_pos (names_le stacked)]
        exact List.cons_subset_cons n names_le
      · rw [if_neg stacked]
        split
        · exact List.Subset.trans names_le (List.subset_cons_self n names')
        · exact names_le
    all_goals exact ih names_le

/-- A name is among what stands on it. -/
theorem mem_stackedOn (h : name ∈ names) : name ∈ stackedOn names links := by
  induction links generalizing names with
  | nil => exact h
  | cons l rest ih =>
    rcases l with ⟨n, _ | ⟨parent, _⟩ | _⟩
    case vlan =>
      refine ih ?_
      split
      · exact List.mem_cons_of_mem n h
      · exact h
    all_goals exact ih h

end Links

variable {α : Type} {ok : (c : IpCommand) → IpAnswer → Prop} {Q : α → Prop}

/-- `delete_bridge` issues its two commands. -/
theorem obeys_deleteBridge {φ : IpCommand → Prop} (down : φ (.setDown name)) (delete : φ (.deleteBridge name)) :
    Obeys ok φ (fun _ => True) (deleteBridge name) := by
  refine Obeys.bind (obeys_computed (Q := (· = name)) fun a ha => validateIface_eq ha) ?_
  rintro a rfl
  exact Obeys.bind (obeys_runIp down) fun _ _ => Obeys.bind (obeys_runIp delete) fun _ _ => Obeys.pure trivial

/-- The runs of `teardown_vlan_network`. -/
def teardownCommands (iface bridge : Text) : List IpCommand :=
  [.setDown bridge, .deleteBridge bridge, .setDown iface, .deleteLink iface]

/-- `teardown_vlan_network` issues the commands of its parts. -/
theorem obeys_teardownVlanNetwork {φ : IpCommand → Prop} {parent : Text} {vlanId : Int}
    (all : ∀ c ∈ teardownCommands (parent ++ ".".toList ++ decimal vlanId)
      (parent ++ ".".toList ++ decimal vlanId ++ "b".toList), φ c) :
    Obeys ok φ (fun _ => True) (teardownVlanNetwork parent vlanId) := by
  simp only [teardownCommands, List.forall_mem_cons, List.not_mem_nil, false_implies, implies_true, and_true] at all
  obtain ⟨down, delete, uplinkDown, uplinkDelete⟩ := all
  refine Obeys.bind (obeys_computed (Q := (· = _)) fun a ha => validateIface_eq ha) ?_
  rintro bridge rfl
  refine Obeys.bind (obeys_deleteBridge down delete) fun _ _ => ?_
  refine Obeys.bind (obeys_computed (Q := (· = _)) fun a ha => validateIface_eq ha) ?_
  rintro iface rfl
  refine Obeys.bind (obeys_runIp uplinkDown) fun _ _ => ?_
  exact Obeys.bind (obeys_runIp uplinkDelete) fun _ _ => Obeys.pure trivial

/-- The commands that make nothing, and remove no other links than those of `names`. -/
def Removes (names : List Text) (command : IpCommand) : Prop :=
  command.adds = none ∧ ∀ n ∈ command.removes, n ∈ names

/-- The removal of a bridge takes its own name only. -/
theorem removes_deleteBridge (h : name ∈ names) :
    Obeys ok (Removes names) (fun _ => True) (deleteBridge name) :=
  obeys_deleteBridge ⟨rfl, nofun⟩ ⟨rfl, by simp [IpCommand.removes, h]⟩

/-- The removal of a VLAN takes its two names only. -/
theorem removes_teardownVlanNetwork {parent : Text} {vlanId : Int}
    (hu : parent ++ ".".toList ++ decimal vlanId ∈ names)
    (hd : parent ++ ".".toList ++ decimal vlanId ++ "b".toList ∈ names) :
    Obeys ok (Removes names) (fun _ => True) (teardownVlanNetwork parent vlanId) := by
  refine obeys_teardownVlanNetwork ?_
  generalize parent ++ ".".toList ++ decimal vlanId = iface at *
  generalize iface ++ "b".toList = bridge at *
  simp [teardownCommands, Removes, IpCommand.adds, IpCommand.removes, hu, hd]

/-- The links are some of those at the start; what is gone went with a link of `names`. -/
structure Shrunk (names : List Text) (start links : Links) : Prop where
  sublist : links.Sublist start
  gone : ∀ l ∈ start, l ∉ links → l.name ∈ Links.stackedOn names start

/-- One more link is gone. -/
theorem Shrunk.remove {start : Links} (h : Shrunk names start links) (mem : name ∈ names) :
    Shrunk names start (links.remove name) := by
  refine ⟨List.filter_sublist.trans h.sublist, fun l hl gone => ?_⟩
  by_cases there : l ∈ links
  · have stacked : l.name ∈ Links.stackedOn [name] links := by
      by_contra other
      exact gone (List.mem_filter.mpr ⟨there, by simpa using other⟩)
    exact Links.stackedOn_mono (by simpa using mem) h.sublist stacked
  · exact h.gone l hl there

/-- What only removes leaves the other links. -/
theorem Removes.shrunk {x : IpM α} (h : Obeys (fun _ _ => True) (Removes names) Q x) (s : Host) :
    Shrunk names s.links (Host.execute x s).2.links := by
  refine Obeys.exec (I := fun s' : Host => Shrunk names s.links s'.links) h ?_
    ⟨List.Sublist.refl _, fun l hl gone => absurd hl gone⟩
  intro command s' removes kept
  refine ⟨trivial, ?_⟩
  rcases Host.handle_cases command s' with same | ⟨shown, done⟩
  · exact same ▸ kept
  · obtain ⟨same, -, -⟩ | ⟨l, -, adds, -⟩ | ⟨n, gone, -, removed⟩ := Links.ip_cases done
    · exact same ▸ kept
    · rw [removes.1] at adds
      cases adds
    · rw [gone]
      exact kept.remove (removes.2 n removed)

/-- No command runs into its timeout, and the links are these. -/
def Timely (links : Links) (_ : Unit) (s : Host) : Prop :=
  (∀ i, (s.script i).timesOut = none) ∧ s.links = links

/-- No command runs into its timeout. -/
def Untimed (_ : Unit) (s : Host) : Prop := ∀ i, (s.script i).timesOut = none

/-- A handler that raises has left the links as they were. -/
abbrev Whole {α : Type} (links : Links) (x : IpM α) : Prop :=
  Triple Host.handle (Timely links) x (fun _ => Untimed) fun _ => Timely links

/-- Where no command is cut short, an exception is one of a refused command. -/
theorem Whole.raises {x : IpM α} (h : Whole links x) {script : Nat → IpChoice} {e : AgentError}
    {host : Host} (timely : ∀ i, (script i).timesOut = none)
    (run : Host.execute x ⟨links, script, 0⟩ = (.error e, host)) : host.links = links := by
  have ends := h () ⟨links, script, 0⟩ ⟨timely, rfl⟩
  unfold Host.execute at run
  generalize Script.exec Host.handle x () ⟨links, script, 0⟩ = r at ends run
  obtain ⟨outcome, l, host'⟩ := r
  cases run
  exact ends.2

/-- A command that is not cut short either took place or was refused. -/
theorem handle_timely (command : IpCommand) {s : Host} (h : Untimed () s) :
    ((∃ shown, (Host.handle command s).1 = .done shown) ∨
      ((∃ e, (Host.handle command s).1 = .failed e) ∧ (Host.handle command s).2.links = s.links)) ∧
    Untimed () (Host.handle command s).2 := by
  unfold Host.handle
  dsimp only
  rw [h s.pos]
  dsimp only
  by_cases fails : (s.script s.pos).fails
  · rw [if_pos fails]
    exact ⟨.inr ⟨⟨_, rfl⟩, rfl⟩, h⟩
  · rw [if_neg fails]
    split
    · exact ⟨.inl ⟨_, rfl⟩, h⟩
    · exact ⟨.inr ⟨⟨_, rfl⟩, rfl⟩, h⟩

/-- One command is whole. -/
theorem whole_runIp {command : IpCommand} {check : Bool} : Whole links (runIp command check) := by
  have ran : Triple Host.handle (Timely links) (Script.perform command : IpM IpAnswer)
      (fun a l s => (∃ shown, a = .done shown) ∧ Untimed l s ∨
        (∃ e, a = .failed e) ∧ Timely links l s) fun _ => Timely links := by
    refine Triple.perform fun l s start => ?_
    obtain ⟨answer, untimed⟩ := handle_timely command start.1
    rcases answer with done | ⟨failed, same⟩
    · exact .inl ⟨done, untimed⟩
    · exact .inr ⟨failed, untimed, same.trans start.2⟩
  refine Triple.bind ran fun answer l s h => ?_
  rcases h with ⟨⟨shown, rfl⟩, h⟩ | ⟨⟨e, rfl⟩, h⟩
  · exact h
  · cases check
    · exact h.1
    · exact h

/-- A command whose exit status nobody looks at does not raise in time. -/
theorem runIp_unchecked {command : IpCommand} {I : Host → Prop}
    (keeps : ∀ s, I s → I (Host.handle command s).2) :
    Triple Host.handle (fun l s => Untimed l s ∧ I s) (runIp command false)
      (fun _ l s => Untimed l s ∧ I s) fun _ _ _ => False := by
  refine Triple.bind (Triple.perform
    (Q := fun a l s => a ≠ .timedOut ∧ Untimed l s ∧ I s) ?_) ?_
  · rintro l s ⟨start, hI⟩
    obtain ⟨⟨shown, done⟩ | ⟨⟨e, failed⟩, -⟩, untimed⟩ := handle_timely command start
    · exact ⟨by rw [done]; exact IpAnswer.noConfusion, untimed, keeps s hI⟩
    · exact ⟨by rw [failed]; exact IpAnswer.noConfusion, untimed, keeps s hI⟩
  · rintro answer l s ⟨intime, h⟩
    cases answer with
    | done shown => exact h
    | failed stderr => exact h
    | timedOut => exact absurd rfl intime

/-- A command that neither makes nor removes a link leaves all of them. -/
theorem handle_links {command : IpCommand} (adds : command.adds = none)
    (removes : command.removes = none) {s : Host} (h : s.links = links) :
    (Host.handle command s).2.links = links := by
  rcases Host.handle_cases command s with same | ⟨shown, done⟩
  · exact same.trans h
  · obtain ⟨same, -, -⟩ | ⟨l, -, added, -⟩ | ⟨n, -, -, removed⟩ := Links.ip_cases done
    · exact same.trans h
    · rw [adds] at added
      cases added
    · rw [removes] at removed
      cases removed

/-- So is the removal of a bridge. -/
theorem whole_deleteBridge : Whole links (deleteBridge name) := by
  unfold deleteBridge
  cases validateIface name with
  | error e => exact fun _ _ h => h
  | ok name =>
    simp only [computed, pure_bind]
    refine Triple.bind (Q := fun _ => Timely links) ((runIp_unchecked (I := fun s => s.links = links)
      fun s h => handle_links rfl rfl h).conseq (fun _ _ => id) (fun _ _ _ => id)
      fun _ _ _ => False.elim) fun _ => ?_
    exact Triple.bind whole_runIp fun _ => Triple.pure fun _ _ h => h

/-- The teardown raises before it has removed something, if at all. -/
theorem whole_teardownVlanNetwork {parent : Text} {vlanId : Int} {iface : Text}
    (valid : vlanInterfaceName parent vlanId = .ok iface) :
    Whole links (teardownVlanNetwork parent vlanId) := by
  unfold teardownVlanNetwork deleteVlanInterface
  cases vlanBridgeName parent vlanId with
  | error e => exact fun _ _ h => h
  | ok bridge =>
    have unchecked {command : IpCommand} : Triple Host.handle Untimed (runIp command false)
        (fun _ => Untimed) fun _ => Timely links :=
      (runIp_unchecked (I := fun _ => True) fun _ h => h).conseq (fun _ _ h => ⟨h, trivial⟩)
        (fun _ _ _ h => h.1) fun _ _ _ => False.elim
    simp only [valid, computed, pure_bind]
    refine Triple.bind whole_deleteBridge fun _ => ?_
    exact Triple.bind unchecked fun _ => Triple.bind unchecked fun _ => Triple.pure fun _ _ h => h

end Removal

/-! ## A quiet host -/

section Quiet

/-- Nothing fails or times out on the host, and its links are these. -/
def Quiet (links : Links) (_ : Unit) (s : Host) : Prop := (∀ i, s.script i = {}) ∧ s.links = links

variable {links links' : Links} {command : IpCommand} {shown check : Bool} {name : Text}

/-- A handler that ends well. -/
abbrev Does {α : Type} (links : Links) (x : IpM α) (a : α) (links' : Links) : Prop :=
  Triple Host.handle (Quiet links) x (fun b l s => b = a ∧ Quiet links' l s) fun _ _ _ => False

/-- On a quiet host a command does what `ip` does. -/
theorem handle_quiet {s : Host} (h : Quiet links () s) :
    Host.handle command s = match links.ip command with
      | some (shown, links') => (.done shown, { s with pos := s.pos + 1, links := links' })
      | none => (.failed [], { s with pos := s.pos + 1 }) := by
  obtain ⟨calm, rfl⟩ := h
  unfold Host.handle
  simp only [calm]
  cases s.links.ip command with
  | none => rfl
  | some r => rfl

/-- What is done is done one after the other. -/
theorem Does.bind {α β : Type} {links'' : Links} {x : IpM α} {f : α → IpM β} {a : α} {b : β}
    (hx : Does links x a links') (hf : Does links' (f a) b links'') :
    Does links (x >>= f) b links'' := by
  refine Triple.bind hx fun c => ?_
  intro l s start
  obtain ⟨rfl, start⟩ := start
  exact hf l s start

theorem Does.pure {α : Type} {a : α} : Does links (pure a) a links :=
  Triple.pure fun _ _ h => ⟨rfl, h⟩

theorem Does.computed {α : Type} {r : Except AgentError α} {a : α} (h : r = .ok a) :
    Does links (computed r) a links := by
  subst h
  exact Does.pure

/-- A command that `ip` accepts is carried out. -/
theorem Does.runIp (h : links.ip command = some (shown, links')) :
    Does links (runIp command check) shown links' := by
  refine Triple.bind (Triple.perform (Q := fun a l s => a = .done shown ∧ Quiet links' l s) ?_) ?_
  · intro l s start
    rw [handle_quiet start, h]
    exact ⟨rfl, start.1, rfl⟩
  · intro answer l s start
    obtain ⟨rfl, start⟩ := start
    exact ⟨rfl, start⟩

/-- One that it refuses changes nothing. -/
theorem Does.runIp_failed (h : links.ip command = none) :
    Does links (Agent.runIp command false) false links := by
  refine Triple.bind (Triple.perform (Q := fun a l s => a = .failed [] ∧ Quiet links l s) ?_) ?_
  · intro l s start
    rw [handle_quiet start, h]
    exact ⟨rfl, start.1, start.2⟩
  · intro answer l s start
    obtain ⟨rfl, start⟩ := start
    exact ⟨rfl, start⟩

/-- A new bridge is added. -/
theorem Does.createBridge (safe : safeIface name) (fresh : ¬ links.present name) :
    Does links (createBridge name) () (links ++ [⟨name, .bridge⟩]) := by
  have valid : validateIface name = .ok name := by simp [validateIface, safe]
  have there : (links ++ [⟨name, .bridge⟩] : Links).present name :=
    Links.present_append.mpr (.inr rfl)
  have add : links.ip (.addBridge name) = some (false, links ++ [⟨name, .bridge⟩]) := by
    simp [Links.ip, fresh]
  have up : Links.ip (links ++ [⟨name, .bridge⟩]) (.setUp name) =
      some (false, links ++ [⟨name, .bridge⟩]) := by
    simp [Links.ip, there]
  refine Does.bind (Does.computed valid) ?_
  refine Does.bind (Does.bind (Does.computed valid) (Does.runIp_failed ?_)) ?_
  · simp [Links.ip, fresh]
  · exact Does.bind (Does.runIp add) (Does.bind (Does.runIp up) Does.pure)

/-- A new VLAN interface is added. -/
theorem Does.createVlanInterface {parent : Text} {vlanId : Int} (range : 1 ≤ vlanId ∧ vlanId ≤ 4094)
    (safeParent : safeIface parent) (safe : safeIface (parent ++ ".".toList ++ decimal vlanId))
    (there : links.present parent) (fresh : ¬ links.present (parent ++ ".".toList ++ decimal vlanId))
    (free : ¬ links.any (·.kind = .vlan parent vlanId)) :
    Does links (createVlanInterface parent vlanId) (parent ++ ".".toList ++ decimal vlanId)
      (links ++ [⟨parent ++ ".".toList ++ decimal vlanId, .vlan parent vlanId⟩]) := by
  have name : vlanInterfaceName parent vlanId = .ok (parent ++ ".".toList ++ decimal vlanId) := by
    rw [vlanInterfaceName, validateIface, if_pos safe]
  generalize parent ++ ".".toList ++ decimal vlanId = iface at *
  have valid : validateIface parent = .ok parent := by simp [validateIface, safeParent]
  have made : (links ++ [⟨iface, .vlan parent vlanId⟩] : Links).present iface :=
    Links.present_append.mpr (.inr rfl)
  have add : links.ip (.addVlan parent iface vlanId) =
      some (false, links ++ [⟨iface, .vlan parent vlanId⟩]) := by
    rw [Links.ip, if_pos ⟨there, fresh, free⟩]
  have up : Links.ip (links ++ [⟨iface, .vlan parent vlanId⟩]) (.setUp iface) =
      some (false, links ++ [⟨iface, .vlan parent vlanId⟩]) := by
    simp [Links.ip, made]
  refine Does.bind (Does.computed valid) ?_
  rw [if_pos range]
  refine Does.bind (Does.computed name) ?_
  refine Does.bind (Does.runIp_failed ?_) ?_
  · simp [Links.ip, fresh]
  · exact Does.bind (Does.runIp add) (Does.bind (Does.runIp up) Does.pure)

/-- On a host without links, a VLAN network makes its three. -/
theorem Does.ensureVlanNetwork {parent : Text} {vlanId : Int} (range : 1 ≤ vlanId ∧ vlanId ≤ 4094)
    (safeParent : safeIface parent) (safe : safeIface (parent ++ ".".toList ++ decimal vlanId))
    (safeBridge : safeIface (parent ++ ".".toList ++ decimal vlanId ++ "b".toList)) :
    Does [] (ensureVlanNetwork parent vlanId)
      (parent ++ ".".toList ++ decimal vlanId ++ "b".toList)
      [⟨parent, .bridge⟩, ⟨parent ++ ".".toList ++ decimal vlanId, .vlan parent vlanId⟩,
        ⟨parent ++ ".".toList ++ decimal vlanId ++ "b".toList, .bridge⟩] := by
  have longer : parent ≠ parent ++ ".".toList ++ decimal vlanId := by
    intro same
    have := congrArg List.length same
    simp at this
  have name : vlanBridgeName parent vlanId =
      .ok (parent ++ ".".toList ++ decimal vlanId ++ "b".toList) := by
    rw [vlanBridgeName, validateIface, if_pos safeBridge]
  refine Does.bind (Does.createBridge safeParent (by simp [Links.present])) ?_
  refine Does.bind (Does.createVlanInterface range safeParent safe (by simp [Links.present]) ?_ ?_) ?_
  · simp [Links.present]
  · simp
  refine Does.bind (Does.computed name) ?_
  have longest : parent ≠ parent ++ ".".toList ++ decimal vlanId ++ "b".toList := by
    intro same
    have := congrArg List.length same
    simp at this
  generalize parent ++ ".".toList ++ decimal vlanId = iface at *
  refine Does.bind (Does.createBridge safeBridge (by simpa [Links.present] using longest)) ?_
  have valid : validateIface iface = .ok iface := by simp [validateIface, safe]
  have validBridge : validateIface (iface ++ "b".toList) = .ok (iface ++ "b".toList) := by
    rw [validateIface, if_pos safeBridge]
  refine Does.bind (Does.bind (Does.computed valid) (Does.bind (Does.computed validBridge)
    (Does.bind (a := false) (Does.runIp ?_) Does.pure))) Does.pure
  simp [Links.ip, Links.present, Links.hasBridge, longer]

/-- What is done is found on the host. -/
theorem Does.present {α : Type} {x : IpM α} {a : α} (h : Does links x a links') :
    (Host.execute x { links := links }).2.links = links' := by
  have ends := h () { links := links } ⟨fun _ => rfl, rfl⟩
  unfold Host.execute
  generalize Script.exec Host.handle x () { links := links } = r at ends ⊢
  rcases r with ⟨e | b, l, s⟩
  · exact ends.elim
  · exact ends.2.2

end Quiet

end NodePilot.Agent
