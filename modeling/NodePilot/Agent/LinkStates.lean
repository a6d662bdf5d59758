import NodePilot.Agent.Network
import NodePilot.Lib.Footprint

/-!
# The states of links

The links of a host with what `ip link show` says of them: whether a link is up, and the bridge it is a port of. The
handlers of `network.py` are the same; what `ip` shows depends on the names and the kinds only, and so does when it
fails, but that a VLAN link is set up only where the link under it is up.

An attempt at a network may be cut: the agent is killed between two of its commands, or one of them fails.
-/

namespace NodePilot.Agent

open Lib

/-- Links are looked up by their names. -/
local instance lawfulStates : LawfulBEq Text := inferInstance

/-- The link of that name is the one under a VLAN. -/
def LinkKind.carriedBy (name : Text) : LinkKind → Bool
  | .vlan parent _ => parent = name
  | .bridge | .other => false

structure LinkState where
  name : Text
  kind : LinkKind
  up : Bool := false
  master : Option Text := none
deriving DecidableEq

/-- The links of a host with their states, oldest first. -/
abbrev LinkStates : Type := List LinkState

namespace LinkStates

variable (d : LinkStates)

/-- Their names and kinds. -/
def links : Links := d.map fun x => ⟨x.name, x.kind⟩

/-- The link of this name is changed. -/
def edit (name : Text) (f : LinkState → LinkState) : LinkStates := d.map fun x => if x.name = name then f x else x

/-- A link goes, with what is stacked on it. The ports of a bridge stay, without a master. -/
def remove (name : Text) : LinkStates :=
  let gone := Links.stackedOn [name] d.links
  (d.filter fun x => x.name ∉ gone).map fun x => if x.master.any (· ∈ gone) then { x with master := none } else x

/-- What a command does. -/
def change : IpCommand → LinkStates
  | .showBridge _ | .showLink _ => d
  | .addBridge name => d ++ [{ name := name, kind := .bridge }]
  | .addVlan parent name vlanId => d ++ [{ name := name, kind := .vlan parent vlanId }]
  | .setUp name => d.edit name fun x => { x with up := true }
  | .setDown name => d.edit name fun x => { x with up := false }
  | .setMaster iface bridge => d.edit iface fun x => { x with master := some bridge }
  | .deleteBridge name | .deleteLink name => d.remove name

/-- A VLAN link cannot be set up while the link under it is down. -/
def networkIsDown : IpCommand → Bool
  | .setUp name => d.any fun x => x.name = name ∧ d.any fun under => under.up = false ∧ x.kind.carriedBy under.name
  | _ => false

/-- One run of `ip` that nothing disturbs. -/
def ip (command : IpCommand) : Option (Bool × LinkStates) :=
  if d.networkIsDown command then none else (d.links.ip command).map fun r => (r.1, d.change command)

end LinkStates

/-- A host on which `ip` runs. -/
structure LinkHost where
  states : LinkStates
  script : Nat → IpChoice := fun _ => {}
  /-- How many commands have run. -/
  pos : Nat := 0

namespace LinkHost

def handle : Handler IpCommand (fun _ => IpAnswer) LinkHost := fun command s =>
  let c := s.script s.pos
  let s := { s with pos := s.pos + 1 }
  match c.timesOut with
  | some performed =>
    (.timedOut, if performed then { s with states := ((s.states.ip command).map Prod.snd).getD s.states } else s)
  | none =>
    if c.fails then (.failed c.stderr, s)
    else
      match s.states.ip command with
      | some (shown, states) => (.done shown, { s with states := states })
      | none => (.failed c.stderr, s)

/-- The end of a handler on the host. -/
def execute {α : Type} (x : IpM α) (s : LinkHost) : Except AgentError α × LinkHost :=
  let r := Script.exec handle x () s
  (r.1, r.2.2)

end LinkHost

/-! ## Attempts -/

/-- `vlan_interface_name`, of a name that is accepted. -/
def uplinkName (parent : Text) (vlanId : Int) : Text := parent ++ ".".toList ++ decimal vlanId

/-- `vlan_bridge_name`, of a name that is accepted. -/
def dedicatedName (parent : Text) (vlanId : Int) : Text := uplinkName parent vlanId ++ "b".toList

/-- A call of `network.py`. -/
inductive NetworkCall
  | ensure (parent : Text) (vlanId : Int)
  | teardown (parent : Text) (vlanId : Int)

def NetworkCall.script : NetworkCall → IpM Unit
  | ensure parent vlanId => do
    let _ ← ensureVlanNetwork parent vlanId
  | teardown parent vlanId => teardownVlanNetwork parent vlanId

/-- A call that is cut after so many commands. -/
structure Attempt where
  call : NetworkCall
  ip : Nat → IpChoice := fun _ => {}
  commands : Nat

/-- What an attempt leaves. -/
def Attempt.left (a : Attempt) (d : LinkStates) : LinkStates :=
  ((a.call.script.prog ()).cut LinkHost.handle a.commands ⟨d, a.ip, 0⟩).states

/-- What the attempts leave, one after the other. -/
def leftBy (attempts : List Attempt) (d : LinkStates) : LinkStates := attempts.foldl (fun d a => a.left d) d

end NodePilot.Agent
