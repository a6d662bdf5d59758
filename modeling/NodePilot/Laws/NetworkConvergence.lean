import NodePilot.Laws.LinkChanges

/-!
# Provisioning a network again

`ensure_vlan_network` makes a link and then sets it up, and does neither where the link is there. An attempt that is
cut between the two leaves a link that is down, which every later attempt takes for finished.
-/

namespace NodePilot.Agent

open Lib Lib.Script

/-! ## What one call leaves -/

/-- A link has been made where none had its name. -/
inductive Made (d : LinkStates) (x : LinkState) : LinkStates → Prop
  | there (found : d.links.present x.name) : Made d x d
  | new (absent : ¬ d.links.present x.name) : Made d x (d ++ [x])

section Calls

variable {d d' : LinkStates} {x : LinkState} {add : IpCommand} {name parent : Text} {vlanId : Int}

theorem edit_append (absent : ¬ d.links.present x.name) (f : LinkState → LinkState) :
    LinkStates.edit (d ++ [x]) x.name f = d ++ [f x] := by
  have others : d.map (fun y => if y.name = x.name then f y else y) = d := by
    refine (List.map_congr_left fun y hy => if_neg fun same => ?_).trans (List.map_id d)
    exact absent (LinkStates.present_links.mpr ⟨y, hy, same⟩)
  simp [LinkStates.edit, others]

/-- A link that is made is set up next. -/
theorem triple_make (adds : ∀ shown d', d.ip add = some (shown, d') → ¬ d.links.present x.name ∧ d' = d ++ [x])
    {α : Type} {a : α} :
    Triple LinkHost.handle (fun _ s => s.states = d)
      (do
        let _ ← runIp add
        let _ ← runIp (.setUp x.name)
        return a)
      (fun b _ s => b = a ∧ ¬ d.links.present x.name ∧ s.states = d ++ [{ x with up := true }])
      fun _ _ _ => True := by
  refine Triple.bind (Q := fun _ _ s => ¬ d.links.present x.name ∧ s.states = d ++ [x]) ?_ fun _ => ?_
  · refine triple_runIp.conseq (fun _ _ => id) (fun _ _ _ ends => ?_) fun _ _ _ => id
    exact adds _ _ (ends.resolve_right nofun)
  · refine Triple.fact fun absent => ?_
    refine Triple.bind (Q := fun _ _ s => s.states = d ++ [{ x with up := true }]) ?_ fun _ => Triple.pure
      fun _ _ made => ⟨rfl, absent, made⟩
    refine triple_runIp.conseq (fun _ _ => id) (fun shown _ s ends => ?_) fun _ _ _ => id
    obtain ⟨-, states⟩ := LinkStates.ip_some (ends.resolve_right nofun)
    exact states.trans (edit_append absent _)

theorem triple_validated {α : Type} {f : Text → IpM α} {P : Unit → LinkHost → Prop} {Q : α → Unit → LinkHost → Prop}
    (hf : Triple LinkHost.handle P (f name) Q fun _ _ _ => True) :
    Triple LinkHost.handle P (computed (validateIface name) >>= f) Q fun _ _ _ => True := by
  cases valid : validateIface name with
  | ok given =>
    rw [validateIface_eq valid]
    exact hf
  | error e => exact Triple.throw fun _ _ _ => trivial

/-- The answer to whether a link is there, if there is one: `ip` shows what it is asked for. -/
theorem triple_show {command : IpCommand} {p : Prop} (shows : ∀ shown d', d.ip command = some (shown, d') →
    d' = d ∧ (shown = true → p)) :
    Triple LinkHost.handle (fun _ s => s.states = d) (runIp command false)
      (fun shown _ s => (shown = true → p) ∧ s.states = d) fun _ _ _ => True := by
  refine triple_runIp.conseq (fun _ _ => id) (fun shown _ s ends => ?_) fun _ _ _ => id
  rcases ends with done | ⟨-, rfl, same⟩
  · exact (shows _ _ done).symm
  · exact ⟨nofun, same⟩

theorem triple_createBridge :
    Triple LinkHost.handle (fun _ s => s.states = d) (createBridge name)
      (fun _ _ s => Made d { name := name, kind := .bridge, up := true } s.states ∧ s.states.links.hasBridge name)
      fun _ _ _ => True := by
  have asks : Triple LinkHost.handle (fun _ s => s.states = d) (bridgeExists name)
      (fun found _ s => (found = true → d.links.hasBridge name) ∧ s.states = d) fun _ _ _ => True := by
    refine triple_validated (triple_show fun shown d' done => ?_)
    obtain ⟨⟨_, shows⟩, same⟩ := LinkStates.ip_some done
    simp only [Links.ip, Option.ite_none_right_eq_some, Option.some.injEq, Prod.mk.injEq] at shows
    obtain ⟨-, rfl, -⟩ := shows
    exact ⟨same, id⟩
  refine triple_validated (asks.bind fun found => Triple.fact fun there => ?_)
  cases found with
  | true =>
    have bridge : d.links.hasBridge name := there rfl
    refine Triple.pure fun _ s same => ?_
    subst same
    exact ⟨.there (Links.present_of_hasBridge bridge), bridge⟩
  | false =>
    refine (triple_make (d := d) (x := { name := name, kind := .bridge }) ?_).conseq (fun _ _ => id)
      (fun _ _ s made => ?_) fun _ _ _ => id
    · intro shown d' done
      obtain ⟨⟨_, added⟩, same⟩ := LinkStates.ip_some done
      simp only [Links.ip, Option.ite_none_left_eq_some] at added
      exact ⟨added.1, same⟩
    · obtain ⟨-, absent, states⟩ := made
      rw [states]
      exact ⟨.new absent, LinkStates.hasBridge_links.mpr ⟨_, List.mem_append_right d List.mem_cons_self, rfl, rfl⟩⟩

theorem triple_createVlanInterface :
    Triple LinkHost.handle (fun _ s => s.states = d) (createVlanInterface parent vlanId)
      (fun iface _ s => iface = parent ++ ".".toList ++ decimal vlanId ∧
        Made d { name := iface, kind := .vlan parent vlanId, up := true } s.states)
      fun _ _ _ => True := by
  refine triple_validated (Triple.ite (fun _ => triple_validated ?_) fun _ => Triple.throw fun _ _ _ => trivial)
  generalize parent ++ ".".toList ++ decimal vlanId = iface
  have asks : Triple LinkHost.handle (fun _ s => s.states = d) (ifaceExists iface)
      (fun found _ s => (found = true → d.links.present iface) ∧ s.states = d) fun _ _ _ => True := by
    refine triple_show fun shown d' done => ?_
    obtain ⟨⟨_, shows⟩, same⟩ := LinkStates.ip_some done
    simp only [Links.ip, Option.ite_none_right_eq_some] at shows
    exact ⟨same, fun _ => shows.1⟩
  refine asks.bind fun found => Triple.fact fun there => ?_
  cases found with
  | true =>
    refine Triple.pure fun _ s same => ?_
    subst same
    exact ⟨rfl, .there (there rfl)⟩
  | false =>
    refine (triple_make (d := d) (x := { name := iface, kind := .vlan parent vlanId }) ?_).conseq (fun _ _ => id)
      (fun _ _ s made => ?_) fun _ _ _ => id
    · intro shown d' done
      obtain ⟨⟨_, added⟩, same⟩ := LinkStates.ip_some done
      simp only [Links.ip, Option.ite_none_right_eq_some] at added
      exact ⟨added.1.2.1, same⟩
    · obtain ⟨rfl, absent, states⟩ := made
      rw [states]
      exact ⟨rfl, .new absent⟩

theorem triple_attachToBridge {iface bridge : Text} :
    Triple LinkHost.handle (fun _ s => s.states = d) (attachToBridge iface bridge)
      (fun _ _ s => (¬ d.links.hasBridge iface ∧ d.links.present iface ∧ d.links.hasBridge bridge) ∧
        s.states = d.edit iface fun x => { x with master := some bridge })
      fun _ _ _ => True := by
  refine triple_validated (triple_validated ?_)
  refine Triple.bind (triple_runIp.conseq (fun _ _ => id) (fun _ _ s ends => ?_) fun _ _ _ => id)
    fun _ => Triple.pure fun _ _ => id
  obtain ⟨⟨_, mastered⟩, same⟩ := LinkStates.ip_some (ends.resolve_right nofun)
  simp only [Links.ip, Option.ite_none_right_eq_some] at mastered
  obtain ⟨⟨there, plain, bridged⟩, -⟩ := mastered
  exact ⟨⟨plain, there, bridged⟩, same⟩

end Calls

/-! ## Networks that are provisioned -/

section Provisioned

variable (parent : Text) (vlanId : Int)

/-- The three links are there and up, and the uplink carries the VLAN from the one bridge to the other. -/
structure Provisioned (d : LinkStates) : Prop where
  under : d.links.hasBridge parent ∧ ∀ x ∈ d, x.name = parent → x.up
  uplink : d.links.present (uplinkName parent vlanId) ∧ ∀ x ∈ d, x.name = uplinkName parent vlanId →
    x.up ∧ x.kind = .vlan parent vlanId ∧ x.master = some (dedicatedName parent vlanId)
  bridge : d.links.hasBridge (dedicatedName parent vlanId) ∧ ∀ x ∈ d, x.name = dedicatedName parent vlanId → x.up

/-- None of the links of the network is down. -/
def AllUp (d : LinkStates) : Prop :=
  ∀ x ∈ d, x.name ∈ [parent, uplinkName parent vlanId, dedicatedName parent vlanId] → x.up

/-- None of them is down, and what is called like the uplink is the VLAN. -/
structure Sound (d : LinkStates) : Prop where
  up : AllUp parent vlanId d
  tagged : ∀ x ∈ d, x.name = uplinkName parent vlanId → x.kind = .vlan parent vlanId

instance (d : LinkStates) : Decidable (AllUp parent vlanId d) :=
  inferInstanceAs (Decidable (∀ x ∈ d, x.name ∈ [parent, uplinkName parent vlanId, dedicatedName parent vlanId] → x.up))

instance (d : LinkStates) : Decidable (Sound parent vlanId d) :=
  decidable_of_iff (AllUp parent vlanId d ∧ ∀ x ∈ d, x.name = uplinkName parent vlanId → x.kind = .vlan parent vlanId)
    ⟨fun h => ⟨h.1, h.2⟩, fun h => ⟨h.up, h.tagged⟩⟩

/-- What a call leaves that returns. -/
def Ensured (d d' : LinkStates) : Prop :=
  ∃ d₁ d₂ d₃, (Made d { name := parent, kind := .bridge, up := true } d₁ ∧ d₁.links.hasBridge parent) ∧
    Made d₁ { name := uplinkName parent vlanId, kind := .vlan parent vlanId, up := true } d₂ ∧
    Made d₂ { name := dedicatedName parent vlanId, kind := .bridge, up := true } d₃ ∧
    (¬ d₃.links.hasBridge (uplinkName parent vlanId) ∧ d₃.links.present (uplinkName parent vlanId) ∧
      d₃.links.hasBridge (dedicatedName parent vlanId)) ∧
    d' = d₃.edit (uplinkName parent vlanId) fun x => { x with master := some (dedicatedName parent vlanId) }

theorem triple_ensureVlanNetwork {d : LinkStates} :
    Triple LinkHost.handle (fun _ s => s.states = d) (ensureVlanNetwork parent vlanId)
      (fun _ _ s => Ensured parent vlanId d s.states) fun _ _ _ => True := by
  refine Triple.bind triple_createBridge fun _ => ?_
  rintro l₁ s₁ ⟨made₁, bridge⟩
  refine Triple.bind triple_createVlanInterface (fun iface => Triple.fact ?_) l₁ s₁ rfl
  rintro rfl
  refine triple_validated fun l₂ s₂ made₂ => ?_
  refine Triple.bind triple_createBridge (fun _ => ?_) l₂ s₂ rfl
  rintro l₃ s₃ ⟨made₃, -⟩
  refine Triple.bind triple_attachToBridge (fun _ => Triple.pure fun _ s ends => ?_) l₃ s₃ rfl
  exact ⟨s₁.states, s₂.states, s₃.states, ⟨made₁, bridge⟩, made₂, made₃, ends⟩

end Provisioned

section Ensured

variable {d d' : LinkStates} {x : LinkState} {parent : Text} {vlanId : Int}

/-- Where what is made is good, all links are good if they were. -/
theorem Made.forall_iff {p : LinkState → Prop} (made : Made d x d') (good : p x) : (∀ y ∈ d', p y) ↔ ∀ y ∈ d, p y := by
  cases made with
  | there => exact Iff.rfl
  | new =>
    rw [List.forall_mem_append, List.forall_mem_singleton]
    exact and_iff_left good

theorem Made.present (made : Made d x d') : d'.links.present x.name := by
  cases made with
  | there found => exact found
  | new => exact LinkStates.present_links.mpr ⟨x, List.mem_append_right d List.mem_cons_self, rfl⟩

theorem Made.hasBridge {name : Text} (made : Made d x d') (there : d.links.hasBridge name) :
    d'.links.hasBridge name := by
  cases made with
  | there => exact there
  | new =>
    obtain ⟨y, hy, bridge⟩ := LinkStates.hasBridge_links.mp there
    exact LinkStates.hasBridge_links.mpr ⟨y, List.mem_append_left _ hy, bridge⟩

/-- A port of a bridge is up if it was. -/
theorem forall_edit_master {p : LinkState → Prop} {name : Text} {m : Option Text}
    (same : ∀ x, p { x with master := m } ↔ p x) :
    (∀ y ∈ d.edit name fun x => { x with master := m }, p y) ↔ ∀ y ∈ d, p y := by
  unfold LinkStates.edit
  rw [List.forall_mem_map]
  refine forall₂_congr fun y _ => ?_
  split
  · exact same y
  · exact Iff.rfl

/-- A call that returns sets up what it has made, and nothing else. -/
theorem Ensured.allUp_iff (h : Ensured parent vlanId d d') : AllUp parent vlanId d' ↔ AllUp parent vlanId d := by
  obtain ⟨d₁, d₂, d₃, ⟨made₁, -⟩, made₂, made₃, -, rfl⟩ := h
  exact (forall_edit_master fun _ => Iff.rfl).trans <| (made₃.forall_iff fun _ => rfl).trans <|
    (made₂.forall_iff fun _ => rfl).trans (made₁.forall_iff fun _ => rfl)

theorem parent_ne_uplink : parent ≠ uplinkName parent vlanId := by
  intro same
  have lengths := congrArg List.length same
  simp [uplinkName] at lengths

theorem dedicated_ne_uplink : dedicatedName parent vlanId ≠ uplinkName parent vlanId := by
  intro same
  have lengths := congrArg List.length same
  simp [dedicatedName] at lengths

/-- A call that returns changes the kind of no uplink, and makes the right one. -/
theorem Ensured.tagged_iff (h : Ensured parent vlanId d d') :
    (∀ x ∈ d', x.name = uplinkName parent vlanId → x.kind = .vlan parent vlanId) ↔
      ∀ x ∈ d, x.name = uplinkName parent vlanId → x.kind = .vlan parent vlanId := by
  obtain ⟨d₁, d₂, d₃, ⟨made₁, -⟩, made₂, made₃, -, rfl⟩ := h
  exact (forall_edit_master fun _ => Iff.rfl).trans <|
    (made₃.forall_iff fun same => absurd same dedicated_ne_uplink).trans <|
    (made₂.forall_iff fun _ => rfl).trans (made₁.forall_iff fun same => absurd same parent_ne_uplink)

/-- What is up at the end of a call that returns has the rest from it. -/
theorem Ensured.provisioned (h : Ensured parent vlanId d d') (sound : Sound parent vlanId d') :
    Provisioned parent vlanId d' := by
  have up := sound.up
  have tagged := sound.tagged
  obtain ⟨d₁, d₂, d₃, ⟨made₁, bridge⟩, made₂, made₃, ⟨-, there, bridged⟩, rfl⟩ := h
  have same : (d₃.edit (uplinkName parent vlanId) fun x =>
      { x with master := some (dedicatedName parent vlanId) }).links = d₃.links :=
    LinkStates.links_edit _ fun _ => ⟨rfl, rfl⟩
  refine ⟨⟨?_, fun x hx named => up x hx (by simp [named])⟩, ⟨same ▸ there, fun x hx named => ?_⟩,
    ⟨same ▸ bridged, fun x hx named => up x hx (by simp [named])⟩⟩
  · exact same ▸ made₃.hasBridge (made₂.hasBridge bridge)
  · refine ⟨up x hx (by simp [named]), tagged x hx named, ?_⟩
    obtain ⟨y, hy, rfl⟩ := LinkStates.mem_edit.mp hx
    by_cases own : y.name = uplinkName parent vlanId
    · rw [if_pos own]
    · rw [if_neg own] at named
      exact absurd named own

theorem Provisioned.sound (h : Provisioned parent vlanId d) : Sound parent vlanId d := by
  refine ⟨fun x hx named => ?_, fun x hx named => (h.uplink.2 x hx named).2.1⟩
  simp only [List.mem_cons, List.not_mem_nil, or_false] at named
  rcases named with named | named | named
  · exact h.under.2 x hx named
  · exact (h.uplink.2 x hx named).1
  · exact h.bridge.2 x hx named

/-- A network is provisioned exactly if its links were sound. -/
theorem Ensured.provisioned_iff (h : Ensured parent vlanId d d') :
    Provisioned parent vlanId d' ↔ Sound parent vlanId d := by
  have kept : Sound parent vlanId d' ↔ Sound parent vlanId d :=
    ⟨fun sound => ⟨h.allUp_iff.mp sound.up, h.tagged_iff.mp sound.tagged⟩,
      fun sound => ⟨h.allUp_iff.mpr sound.up, h.tagged_iff.mpr sound.tagged⟩⟩
  exact ⟨fun provisioned => kept.mp provisioned.sound, fun sound => h.provisioned (kept.mpr sound)⟩

/-- A bridge is no port of a bridge. -/
theorem Ensured.no_bridge (h : Ensured parent vlanId d d') : ¬ d.links.hasBridge (uplinkName parent vlanId) := by
  obtain ⟨d₁, d₂, d₃, ⟨made₁, -⟩, made₂, made₃, ⟨plain, -⟩, -⟩ := h
  exact fun there => plain (made₃.hasBridge (made₂.hasBridge (made₁.hasBridge there)))

end Ensured

/-! ## Runs -/

section Runs

variable {parent : Text} {vlanId : Int} {d : LinkStates} {ip : Nat → IpChoice}

theorem ensured_of_returns
    (returns : (LinkHost.execute (ensureVlanNetwork parent vlanId) ⟨d, ip, 0⟩).1.isOk = true) :
    Ensured parent vlanId d (LinkHost.execute (ensureVlanNetwork parent vlanId) ⟨d, ip, 0⟩).2.states := by
  have ends := triple_ensureVlanNetwork parent vlanId () ⟨d, ip, 0⟩ rfl
  unfold LinkHost.execute at returns ⊢
  generalize Script.exec LinkHost.handle (ensureVlanNetwork parent vlanId) () ⟨d, ip, 0⟩ = r at ends returns ⊢
  rcases r with ⟨e | bridge, l, s⟩
  · cases returns
  · exact ends

/-- **Wherever the attempts before were cut, a call that returns provisions the network exactly if it found none of
its links down**, and nothing else under the name of the uplink. -/
theorem provisions_iff (parent : Text) (vlanId : Int) (start : LinkStates) (attempts : List Attempt)
    (ip : Nat → IpChoice)
    (returns : (LinkHost.execute (ensureVlanNetwork parent vlanId) ⟨leftBy attempts start, ip, 0⟩).1.isOk = true) :
    Provisioned parent vlanId
        (LinkHost.execute (ensureVlanNetwork parent vlanId) ⟨leftBy attempts start, ip, 0⟩).2.states ↔
      Sound parent vlanId (leftBy attempts start) :=
  (ensured_of_returns returns).provisioned_iff

/-- The attempt before was cut after it had set up the parent bridge. -/
theorem provisions_after_parent : Provisioned "vmbr0".toList 120
    (LinkHost.execute (ensureVlanNetwork "vmbr0".toList 120)
      ⟨leftBy [⟨.ensure "vmbr0".toList 120, fun _ => {}, 3⟩] [], fun _ => {}, 0⟩).2.states :=
  (provisions_iff "vmbr0".toList 120 [] [⟨.ensure "vmbr0".toList 120, fun _ => {}, 3⟩] (fun _ => {})
    (by decide +kernel)).mpr (by decide +kernel)

/-- The attempt before was cut when it had added the dedicated bridge, and not set it up. -/
theorem cut_bridge_stays_down : ¬ ∀ (parent : Text) (vlanId : Int) (attempts : List Attempt) (ip : Nat → IpChoice),
    (LinkHost.execute (ensureVlanNetwork parent vlanId) ⟨leftBy attempts [], ip, 0⟩).1.isOk = true →
    Provisioned parent vlanId
      (LinkHost.execute (ensureVlanNetwork parent vlanId) ⟨leftBy attempts [], ip, 0⟩).2.states := by
  intro converges
  have provisioned := converges "vmbr0".toList 120 [⟨.ensure "vmbr0".toList 120, fun _ => {}, 8⟩] (fun _ => {})
    (by decide +kernel)
  have up := provisioned.bridge.2 ⟨dedicatedName "vmbr0".toList 120, .bridge, false, none⟩ (by decide +kernel) rfl
  cases up

/-- Where nobody else had made a link of that name, it is enough that no link is down. -/
theorem provisioned_of_allUp {start : LinkStates} (proper : Proper parent vlanId start.links) {attempts : List Attempt}
    (returns : (LinkHost.execute (ensureVlanNetwork parent vlanId) ⟨leftBy attempts start, ip, 0⟩).1.isOk = true)
    (up : AllUp parent vlanId (leftBy attempts start)) :
    Provisioned parent vlanId
      (LinkHost.execute (ensureVlanNetwork parent vlanId) ⟨leftBy attempts start, ip, 0⟩).2.states := by
  have ensured := ensured_of_returns returns
  refine ensured.provisioned_iff.mpr ⟨up, fun x hx named => ?_⟩
  refine ((proper.leftBy attempts) ⟨x.name, x.kind⟩ (List.mem_map.mpr ⟨x, hx, rfl⟩) named).resolve_left fun bridge => ?_
  exact ensured.no_bridge (LinkStates.hasBridge_links.mpr ⟨x, hx, named, bridge⟩)

end Runs

end NodePilot.Agent
