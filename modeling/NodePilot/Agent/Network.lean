import NodePilot.Agent.DomainXml
import NodePilot.Lib.Prog

/-!
# Bridges and VLANs on the agent

`nodepilot_agent/network.py` and `operations/network_ops.py`. Every change of a link is one run of
the `ip` command, and between the runs the handler decides from the last answer. A network with a
VLAN has three links: the bridge it is stacked on, a tagged sub-interface of that bridge (the
uplink), and a dedicated bridge, which the NICs of guests are attached to.

The links of a host stand in the order of their age. A VLAN link goes with the link it is stacked on.
-/

namespace NodePilot.Agent

open Lib

/-! ## The `ip` command -/

/-- The runs of `ip` in `network.py`. -/
inductive IpCommand
  | showBridge (name : Text)
  | showLink (name : Text)
  | addBridge (name : Text)
  | addVlan (parent name : Text) (vlanId : Int)
  | setUp (name : Text)
  | setDown (name : Text)
  | setMaster (iface bridge : Text)
  | deleteBridge (name : Text)
  | deleteLink (name : Text)
deriving DecidableEq

/-- The argument list. -/
def IpCommand.args : IpCommand → List Text
  | .showBridge name => ["ip".toList, "-json".toList, "link".toList, "show".toList, "type".toList,
      "bridge".toList, name]
  | .showLink name => ["ip".toList, "-json".toList, "link".toList, "show".toList, name]
  | .addBridge name => ["ip".toList, "link".toList, "add".toList, "name".toList, name,
      "type".toList, "bridge".toList]
  | .addVlan parent name vlanId => ["ip".toList, "link".toList, "add".toList, "link".toList, parent,
      "name".toList, name, "type".toList, "vlan".toList, "id".toList, decimal vlanId]
  | .setUp name => ["ip".toList, "link".toList, "set".toList, name, "up".toList]
  | .setDown name => ["ip".toList, "link".toList, "set".toList, name, "down".toList]
  | .setMaster iface bridge => ["ip".toList, "link".toList, "set".toList, iface, "master".toList,
      bridge]
  | .deleteBridge name => ["ip".toList, "link".toList, "delete".toList, name, "type".toList,
      "bridge".toList]
  | .deleteLink name => ["ip".toList, "link".toList, "delete".toList, name]

/-- How a run ends: with exit status 0 and maybe a link on standard output, with another exit
status, or at the timeout. -/
inductive IpAnswer
  | done (shown : Bool)
  | failed (stderr : Text)
  | timedOut

/-- A handler that runs `ip`. -/
abbrev IpM (α : Type) : Type := Script IpCommand (fun _ => IpAnswer) AgentError Unit α

/-- A result that was computed without a command. -/
def computed {α : Type} : Except AgentError α → IpM α
  | .ok a => pure a
  | .error e => throw e

/-- `_run`: whether a link was shown, where `check` does not raise before. -/
def runIp (command : IpCommand) (check : Bool := true) : IpM Bool := do
  let answer : IpAnswer ← Script.perform command
  let line := List.intercalate " ".toList command.args
  match answer with
  | .done shown => return shown
  | .failed stderr =>
    if check then throw (.networkOperation (line ++ " failed: ".toList ++ stderr)) else return false
  | .timedOut => throw (.networkOperation (line ++ " timed out".toList))

/-! ## `network.py` -/

/-- `bridge_exists` -/
def bridgeExists (name : Text) : IpM Bool := do
  let name ← computed (validateIface name)
  runIp (.showBridge name) false

/-- `_iface_exists` -/
def ifaceExists (name : Text) : IpM Bool := runIp (.showLink name) false

/-- `create_bridge` -/
def createBridge (name : Text) : IpM Unit := do
  let name ← computed (validateIface name)
  if ← bridgeExists name then return
  let _ ← runIp (.addBridge name)
  let _ ← runIp (.setUp name)

/-- `delete_bridge` -/
def deleteBridge (name : Text) : IpM Unit := do
  let name ← computed (validateIface name)
  let _ ← runIp (.setDown name) false
  let _ ← runIp (.deleteBridge name)

/-- `vlan_interface_name` -/
def vlanInterfaceName (parent : Text) (vlanId : Int) : Except AgentError Text :=
  validateIface (parent ++ ".".toList ++ decimal vlanId)

/-- `create_vlan_interface` -/
def createVlanInterface (parent : Text) (vlanId : Int) : IpM Text := do
  let parent ← computed (validateIface parent)
  if 1 ≤ vlanId ∧ vlanId ≤ 4094 then
    let iface ← computed (vlanInterfaceName parent vlanId)
    if ← ifaceExists iface then return iface
    let _ ← runIp (.addVlan parent iface vlanId)
    let _ ← runIp (.setUp iface)
    return iface
  else
    throw (.networkOperation ("VLAN id out of range: ".toList ++ decimal vlanId))

/-- `delete_vlan_interface` -/
def deleteVlanInterface (parent : Text) (vlanId : Int) : IpM Unit := do
  let iface ← computed (vlanInterfaceName parent vlanId)
  let _ ← runIp (.setDown iface) false
  let _ ← runIp (.deleteLink iface) false

/-- `attach_to_bridge` -/
def attachToBridge (iface bridge : Text) : IpM Unit := do
  let iface ← computed (validateIface iface)
  let bridge ← computed (validateIface bridge)
  let _ ← runIp (.setMaster iface bridge)

/-- `ensure_vlan_network` -/
def ensureVlanNetwork (parentBridge : Text) (vlanId : Int) : IpM Text := do
  createBridge parentBridge
  let uplink ← createVlanInterface parentBridge vlanId
  let dedicatedBridge ← computed (vlanBridgeName parentBridge vlanId)
  createBridge dedicatedBridge
  attachToBridge uplink dedicatedBridge
  return dedicatedBridge

/-- `teardown_vlan_network` -/
def teardownVlanNetwork (parentBridge : Text) (vlanId : Int) : IpM Unit := do
  let dedicatedBridge ← computed (vlanBridgeName parentBridge vlanId)
  deleteBridge dedicatedBridge
  deleteVlanInterface parentBridge vlanId

/-! ## `network_ops.py` -/

/-- `payload.get("vlan_id")`, where it counts as set. -/
def vlanIdOf (payload : Dict) : Option Int :=
  match payload.get? "vlan_id" with
  | some (.int vlanId) => if vlanId = 0 then none else some vlanId
  | _ => none

/-- `create_network`: the bridge that NICs attach to. -/
def createNetwork (payload : Dict) : IpM Text := do
  let bridge ← computed (requireStr payload "bridge")
  match vlanIdOf payload with
  | some vlanId => ensureVlanNetwork bridge vlanId
  | none =>
    createBridge bridge
    return bridge

/-- `delete_network` -/
def deleteNetwork (payload : Dict) : IpM Unit := do
  let bridge ← computed (requireStr payload "bridge")
  match vlanIdOf payload with
  | some vlanId => teardownVlanNetwork bridge vlanId
  | none => deleteBridge bridge

/-- `_resolve_nic_bridge`, on a NIC of a domain. -/
def resolveNicBridge (nic : Dict) : Except AgentError Text := do
  nicBridge nic (← optionalStr nic "bridge" "vmbr0".toList)

/-- `_nic_target_bridge`, on the payload of ATTACH_NIC and DETACH_NIC. -/
def nicTargetBridge (payload : Dict) : Except AgentError Text := do
  nicBridge payload (← requireStr payload "bridge")

/-! ## The links of a host -/

inductive LinkKind
  | bridge
  | vlan (parent : Text) (vlanId : Int)
  /-- A physical interface, or one that others made. -/
  | other
deriving DecidableEq

structure Link where
  name : Text
  kind : LinkKind
deriving DecidableEq

/-- The links of a host, oldest first. -/
abbrev Links : Type := List Link

namespace Links

def present (links : Links) (name : Text) : Bool := links.any (·.name = name)

def hasBridge (links : Links) (name : Text) : Bool := links.any fun l => l.name = name ∧ l.kind = .bridge

/-- The names that go when those of `names` go. A link is stacked on an older one, so one pass in
the order of age finds them all. -/
def stackedOn (names : List Text) : Links → List Text
  | [] => names
  | ⟨name, .vlan parent _⟩ :: rest =>
    stackedOn (if parent ∈ names then name :: names else names) rest
  | _ :: rest => stackedOn names rest

/-- The removal of a link and of what is stacked on it. -/
def remove (links : Links) (name : Text) : Links :=
  links.filter fun l => l.name ∉ stackedOn [name] links

/-- One run of `ip` that nothing disturbs: whether it shows a link, and the links then. `none` is an
exit status other than 0. Which links are up is not kept here, so it is no reason to fail. -/
def ip (links : Links) : IpCommand → Option (Bool × Links)
  | .showBridge name => if links.present name then some (links.hasBridge name, links) else none
  | .showLink name => if links.present name then some (true, links) else none
  | .addBridge name =>
    if links.present name then none else some (false, links ++ [⟨name, .bridge⟩])
  | .addVlan parent name vlanId =>
    if links.present parent ∧ ¬ links.present name ∧ ¬ links.any (·.kind = .vlan parent vlanId) then
      some (false, links ++ [⟨name, .vlan parent vlanId⟩])
    else none
  | .setUp name | .setDown name => if links.present name then some (false, links) else none
  | .setMaster iface bridge =>
    if links.present iface ∧ ¬ links.hasBridge iface ∧ links.hasBridge bridge then
      some (false, links)
    else none
  | .deleteBridge name => if links.hasBridge name then some (false, links.remove name) else none
  | .deleteLink name =>
    if links.any fun l => l.name = name ∧ l.kind ≠ .other then some (false, links.remove name)
    else none

end Links

/-- What the surroundings decide at one run of `ip`. -/
structure IpChoice where
  /-- It fails for a reason of its own. -/
  fails : Bool := false
  /-- It runs into the timeout, with or without its effect. -/
  timesOut : Option Bool := none
  stderr : Text := []

/-- A host on which `ip` runs. -/
structure Host where
  links : Links
  script : Nat → IpChoice := fun _ => {}
  /-- How many commands have run. -/
  pos : Nat := 0

namespace Host

def handle : Handler IpCommand (fun _ => IpAnswer) Host := fun command s =>
  let c := s.script s.pos
  let s := { s with pos := s.pos + 1 }
  match c.timesOut with
  | some performed =>
    (.timedOut, if performed then { s with links := ((s.links.ip command).map Prod.snd).getD s.links }
      else s)
  | none =>
    if c.fails then (.failed c.stderr, s)
    else
      match s.links.ip command with
      | some (shown, links) => (.done shown, { s with links := links })
      | none => (.failed c.stderr, s)

/-- The end of a handler on the host. -/
def execute {α : Type} (x : IpM α) (s : Host) : Except AgentError α × Host :=
  let r := Script.exec handle x () s
  (r.1, r.2.2)

end Host

end NodePilot.Agent
