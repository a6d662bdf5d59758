import NodePilot.Laws.VlanIsolation

/-!
# Interface names on both sides

The serializer checks the name of a bridge, and with a VLAN its length. The agent builds two more names from the two
and checks all three of them, at every use. Where the serializer accepts, the agent's checks pass: what a handler raises
then comes from a run of `ip`, and the bridge that CREATE_NETWORK answers with is the one that NICs are attached to.
-/

namespace NodePilot.Agent

open Lib Lib.Script

/-! ## What a handler raises -/

/-- What `_run` raises: its command line, and how the command ended. -/
inductive FromIp : AgentError → Prop
  | failed (command : IpCommand) (stderr : Text) :
    FromIp (.networkOperation (List.intercalate " ".toList command.args ++ " failed: ".toList ++ stderr))
  | timedOut (command : IpCommand) :
    FromIp (.networkOperation (List.intercalate " ".toList command.args ++ " timed out".toList))

/-- On every host the handler returns such a result, or raises what a run of `ip` raises. -/
def Settles {α : Type} (x : IpM α) (Q : α → Prop) : Prop :=
  Triple Host.handle (fun _ _ => True) x (fun a _ _ => Q a) fun e _ _ => FromIp e

section Settles

variable {α β : Type} {name parent : Text} {vlanId : Int} {command : IpCommand} {check : Bool}

theorem Settles.pure {a : α} {Q : α → Prop} (h : Q a) : Settles (pure a) Q :=
  Triple.pure fun _ _ _ => h

theorem Settles.bind {x : IpM α} {f : α → IpM β} {Q : α → Prop} {S : β → Prop} (hx : Settles x Q)
    (hf : ∀ a, Q a → Settles (f a) S) : Settles (x >>= f) S :=
  Triple.bind hx fun a l s h => hf a h l s trivial

theorem Settles.mono {x : IpM α} {Q S : α → Prop} (hx : Settles x Q) (h : ∀ a, Q a → S a) : Settles x S :=
  hx.conseq (fun _ _ => id) (fun a _ _ => h a) fun _ _ _ => id

theorem Settles.runIp : Settles (runIp command check) fun _ => True := by
  refine Triple.bind (Triple.perform (Q := fun _ _ _ => True) fun _ _ _ => trivial) fun answer => ?_
  cases answer with
  | done shown => exact Triple.pure fun _ _ _ => trivial
  | failed stderr =>
    exact Triple.ite (fun _ => Triple.throw fun _ _ _ => .failed command stderr)
      fun _ => Triple.pure fun _ _ _ => trivial
  | timedOut => exact Triple.throw fun _ _ _ => .timedOut command

theorem Settles.computed {r : Except AgentError α} {a : α} {f : α → IpM β} {Q : β → Prop} (h : r = .ok a)
    (hf : Settles (f a) Q) : Settles (computed r >>= f) Q := by
  subst h
  exact hf

theorem Settles.createBridge (valid : validateIface name = .ok name) :
    Settles (createBridge name) fun _ => True := by
  have asks : Settles (bridgeExists name) fun _ => True := .computed valid .runIp
  refine .computed valid (asks.bind fun found _ => ?_)
  cases found with
  | true => exact .pure trivial
  | false => exact Settles.runIp.bind fun _ _ => Settles.runIp.bind fun _ _ => .pure trivial

theorem Settles.deleteBridge (valid : validateIface name = .ok name) :
    Settles (deleteBridge name) fun _ => True :=
  .computed valid (Settles.runIp.bind fun _ _ => Settles.runIp.bind fun _ _ => .pure trivial)

theorem Settles.attachToBridge {iface : Text} (valid : validateIface iface = .ok iface)
    (validBridge : validateIface name = .ok name) : Settles (attachToBridge iface name) fun _ => True :=
  .computed valid (.computed validBridge (Settles.runIp.bind fun _ _ => .pure trivial))

theorem Settles.createVlanInterface {iface : Text} (range : 1 ≤ vlanId ∧ vlanId ≤ 4094)
    (validParent : validateIface parent = .ok parent) (named : vlanInterfaceName parent vlanId = .ok iface) :
    Settles (createVlanInterface parent vlanId) fun a => a = iface := by
  refine .computed validParent ?_
  rw [if_pos range]
  refine .computed named (Settles.runIp.bind fun found _ => ?_)
  cases found with
  | true => exact .pure rfl
  | false => exact Settles.runIp.bind fun _ _ => Settles.runIp.bind fun _ _ => .pure rfl

/-- The three links of a network with a VLAN, and the one its NICs attach to. -/
theorem Settles.ensureVlanNetwork {iface bridge : Text} (range : 1 ≤ vlanId ∧ vlanId ≤ 4094)
    (validParent : validateIface parent = .ok parent) (valid : validateIface iface = .ok iface)
    (validBridge : validateIface bridge = .ok bridge) (named : vlanInterfaceName parent vlanId = .ok iface)
    (namedBridge : vlanBridgeName parent vlanId = .ok bridge) :
    Settles (ensureVlanNetwork parent vlanId) fun a => a = bridge := by
  refine (Settles.createBridge validParent).bind fun _ _ => ?_
  refine (Settles.createVlanInterface range validParent named).bind fun made same => ?_
  subst same
  refine .computed namedBridge ((Settles.createBridge validBridge).bind fun _ _ => ?_)
  exact (Settles.attachToBridge valid validBridge).bind fun _ _ => .pure rfl

theorem Settles.teardownVlanNetwork {iface bridge : Text} (validBridge : validateIface bridge = .ok bridge)
    (named : vlanInterfaceName parent vlanId = .ok iface) (namedBridge : vlanBridgeName parent vlanId = .ok bridge) :
    Settles (teardownVlanNetwork parent vlanId) fun _ => True := by
  refine .computed namedBridge ((Settles.deleteBridge validBridge).bind fun _ _ => ?_)
  exact .computed named (Settles.runIp.bind fun _ _ => Settles.runIp.bind fun _ _ => .pure trivial)

theorem Settles.ends {x : IpM α} {Q : α → Prop} (hx : Settles x Q) (s : Host) :
    (∃ a, (Host.execute x s).1 = .ok a ∧ Q a) ∨ ∃ e, (Host.execute x s).1 = .error e ∧ FromIp e := by
  have ends := hx () s trivial
  unfold Host.execute
  generalize Script.exec Host.handle x () s = r at ends ⊢
  rcases r with ⟨e | a, l, s'⟩
  · exact .inr ⟨e, rfl, ends⟩
  · exact .inl ⟨a, rfl, ends⟩

end Settles

end NodePilot.Agent

namespace NodePilot.Networks

open Lib Lib.Script Agent

/-! ## Accepted networks -/

section Accepted

variable {net : NetworkRow}

theorem validateIface_of_plain {name : Text} (h : plainName name) : validateIface name = .ok name := by
  rw [validateIface]
  exact if_pos (plainName_iff.mp h).1

theorem Accepted.valid (h : Accepted net) {name : Text} (mem : name ∈ net.bridge.toList :: vlanLinks net) :
    validateIface name = .ok name := by
  refine validateIface_of_plain ?_
  rcases List.mem_cons.mp mem with rfl | mem
  · exact h.plain
  · unfold vlanLinks at mem
    cases hv : net.vlanId with
    | none => simp [hv] at mem
    | some v =>
      rw [hv] at mem
      rcases List.mem_pair.mp mem with rfl | rfl
      · exact h.uplink hv
      · exact h.dedicated hv

theorem Accepted.names_uplink (h : Accepted net) {v : Nat} (hv : net.vlanId = some v) :
    vlanInterfaceName net.bridge.toList v = .ok (Networks.uplink net.bridge.toList v) :=
  validateIface_of_plain (h.uplink hv)

theorem Accepted.names_dedicated (h : Accepted net) {v : Nat} (hv : net.vlanId = some v) :
    vlanBridgeName net.bridge.toList v = .ok (Networks.dedicated net.bridge.toList v) :=
  validateIface_of_plain (h.dedicated hv)

theorem Accepted.create_settles (h : Accepted net) :
    Settles (Agent.createNetwork (networkRequest .createNetwork net).payload) fun a => a = attachBridge net := by
  cases hv : net.vlanId with
  | none =>
    rw [h.create_plain hv]
    refine (Settles.createBridge (validateIface_of_plain h.plain)).bind fun _ _ => .pure ?_
    simp [attachBridge, hv]
  | some v =>
    have range : (1 : Int) ≤ v ∧ (v : Int) ≤ 4094 := by exact_mod_cast (h.range hv).1
    rw [h.create_vlan hv]
    refine (Settles.ensureVlanNetwork range (validateIface_of_plain h.plain) (validateIface_of_plain (h.uplink hv))
      (validateIface_of_plain (h.dedicated hv)) (h.names_uplink hv) (h.names_dedicated hv)).mono ?_
    rintro a rfl
    simp [attachBridge, hv]

theorem Accepted.delete_settles (h : Accepted net) :
    Settles (Agent.deleteNetwork (networkRequest .deleteNetwork net).payload) fun _ => True := by
  have vlan := h.vlanIdOf .deleteNetwork
  unfold Agent.deleteNetwork
  rw [vlan]
  cases hv : net.vlanId with
  | none => exact Settles.deleteBridge (validateIface_of_plain h.plain)
  | some v =>
    exact Settles.teardownVlanNetwork (validateIface_of_plain (h.dedicated hv)) (h.names_uplink hv)
      (h.names_dedicated hv)

/-- The two computations of a NIC's bridge agree. -/
theorem Accepted.nic_bridges (h : Accepted net) {vm : VmRow} {nic : NicRow}
    (none : nic.vlan = none ∨ nic.vlan = some 0) :
    nicTargetBridge (nicPayload vm nic net) = .ok (attachBridge net) ∧
      ∃ fields, domainNic nic net = .obj fields ∧ resolveNicBridge fields = .ok (attachBridge net) := by
  have own : orNat nic.vlan net.vlanId = net.vlanId := by
    rcases none with none | none <;> rw [none] <;> rfl
  refine ⟨h.attaches own, _, rfl, h.nicBridge _ ?_⟩
  exact congrArg (fun vlan => some (Json.ofNat? vlan)) own

end Accepted

/-! ## Agreement -/

/-- The agent takes the network as the controller has accepted it. -/
structure Agrees (net : NetworkRow) : Prop where
  /-- The bridge, and with a VLAN the uplink and the dedicated bridge, pass `_validate_iface`. -/
  valid : ∀ name ∈ net.bridge.toList :: vlanLinks net, validateIface name = .ok name
  uplink : ∀ v ∈ net.vlanId, vlanInterfaceName net.bridge.toList v = .ok (uplink net.bridge.toList v)
  dedicated : ∀ v ∈ net.vlanId, vlanBridgeName net.bridge.toList v = .ok (dedicated net.bridge.toList v)
  /-- Whatever happens on the host, what CREATE_NETWORK and DELETE_NETWORK raise comes from `ip`. -/
  create : ∀ s e, (Host.execute (Agent.createNetwork (networkRequest .createNetwork net).payload) s).1 = .error e →
    FromIp e
  delete : ∀ s e, (Host.execute (Agent.deleteNetwork (networkRequest .deleteNetwork net).payload) s).1 = .error e →
    FromIp e
  /-- A NIC without a VLAN of its own is attached to the bridge that CREATE_NETWORK answers with. -/
  bridge : ∀ s target,
    (Host.execute (Agent.createNetwork (networkRequest .createNetwork net).payload) s).1 = .ok target →
      ∀ (vm : VmRow) (nic : NicRow), nic.vlan = none ∨ nic.vlan = some 0 →
        nicTargetBridge (nicPayload vm nic net) = .ok target ∧
          ∃ fields, domainNic nic net = .obj fields ∧ resolveNicBridge fields = .ok target

/-- **What the serializer accepts, the agent takes: no check of a name raises, and the network's NICs attach to the
bridge that was made for it.** -/
theorem agrees_of_accepted {net : NetworkRow} (h : Accepted net) : Agrees net where
  valid _ mem := h.valid mem
  uplink _ hv := h.names_uplink hv
  dedicated _ hv := h.names_dedicated hv
  create s e raised := by
    rcases h.create_settles.ends s with ⟨a, returned, -⟩ | ⟨e', raised', fromIp⟩
    · rw [returned] at raised
      cases raised
    · exact Except.error.inj (raised'.symm.trans raised) ▸ fromIp
  delete s e raised := by
    rcases h.delete_settles.ends s with ⟨a, returned, -⟩ | ⟨e', raised', fromIp⟩
    · rw [returned] at raised
      cases raised
    · exact Except.error.inj (raised'.symm.trans raised) ▸ fromIp
  bridge s target returned vm nic none := by
    rcases h.create_settles.ends s with ⟨a, returned', rfl⟩ | ⟨e, raised, -⟩
    · have same : attachBridge net = target := Except.ok.inj (returned'.symm.trans returned)
      exact same ▸ h.nic_bridges none
    · rw [returned] at raised
      cases raised

/-- The longest bridge and the largest VLAN: the name of the dedicated bridge has fifteen characters. -/
theorem agrees_longest : Agrees (row "vmbr-west" (some 4094)) :=
  agrees_of_accepted ⟨[], ⟨1, "lan", " vmbr-west\n".toList, some 4094⟩, rfl, by rfl⟩

end NodePilot.Networks
