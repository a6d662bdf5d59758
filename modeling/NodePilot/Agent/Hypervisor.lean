import NodePilot.Agent.Dispatcher
import Mathlib.Logic.Function.Basic

/-!
# The hypervisor under an agent

What the calls of `libvirt_client.py` do to the domains of a host, as far as whether they run is
concerned. `shutdown()` only asks the guest, which may power off at once, later, or never. `reset()`
and `reboot()` leave a paused domain paused, and `revertToSnapshot` brings back the state that the
snapshot recorded. A call fails where libvirt raises.
-/

namespace NodePilot

open Agent

/-! ## The `<uuid>` of a document -/

/-- The document after the first occurrence of a tag. -/
def afterTag (tag : Text) : Text → Option Text
  | [] => none
  | c :: cs => if tag.isPrefixOf (c :: cs) then some ((c :: cs).drop tag.length) else afterTag tag cs

/-- The text of the `<uuid>` element, up to its closing tag. -/
def uuidElement (xml : Text) : Option Text :=
  (afterTag ('<' :: "uuid>".toList) xml).map fun rest => rest.takeWhile (· ≠ '<')

namespace Agent

/-! ## Domains -/

/-- The states of `_DOMAIN_STATE_NAMES` that the agent's calls lead to. -/
inductive DomainState
  | shutOff | running | paused
deriving DecidableEq

structure Power where
  state : DomainState := .shutOff
  /-- The guest was asked to power off, and still may. -/
  shutdownRequested : Bool := false
deriving DecidableEq

/-- The guest does what `shutdown()` asked of it. One that is paused does nothing. -/
def Power.obeyed (p : Power) : Power :=
  if p.state = .running ∧ p.shutdownRequested then {} else p

/-- What is left after the guest's decision. -/
def Power.after (p : Power) (obey : Bool) : Power := if obey then p.obeyed else p

structure Domain where
  power : Power := {}
  /-- The snapshots by name, each with what it recorded. -/
  snapshots : List (Text × Power) := []

/-- `dom.isActive()` -/
def Domain.isActive (d : Domain) : Bool := d.power.state ≠ .shutOff

/-- `dom.snapshotLookupByName(name, 0)` -/
def Domain.snapshot (d : Domain) (name : Text) : Option Power :=
  (d.snapshots.find? (·.1 = name)).map Prod.snd

/-- The domains of a host by their UUID. -/
abbrev Hypervisor : Type := Text → Option Domain

/-- A method on the domain that `lookupByUUIDString` finds. -/
def Hypervisor.withDomain (h : Hypervisor) (uuid : Text) (f : Domain → Option Domain) :
    Option Hypervisor := do
  let d ← h uuid
  let d' ← f d
  return Function.update h uuid (some d')

/-- A method that only an active domain has. -/
def Domain.whenActive (d : Domain) (f : Power → Power) : Option Domain :=
  if d.isActive then some { d with power := f d.power } else none

/-- What a call of `LibvirtClient` does. -/
def LibvirtCall.perform (h : Hypervisor) : LibvirtCall → Option Hypervisor
  -- a domain that is defined anew stays as it is
  | .defineDomain xml => (uuidElement xml).map fun u => Function.update h u (some ((h u).getD {}))
  -- without its flags, `undefine` refuses a domain that has snapshots
  | .undefineDomain u removeStorage => do
    let d ← h u
    if removeStorage ∨ d.snapshots = [] then return Function.update h u none else none
  | .startDomain u => h.withDomain u fun d =>
    some (if d.isActive then d else { d with power := { state := .running } })
  | .gracefulShutdown u => h.withDomain u fun d =>
    some (if d.isActive then { d with power := { d.power with shutdownRequested := true } } else d)
  | .forceStop u => h.withDomain u fun d => some (if d.isActive then { d with power := {} } else d)
  | .reboot u | .reset u => h.withDomain u fun d => d.whenActive id
  | .suspend u => h.withDomain u fun d => d.whenActive fun p => { p with state := .paused }
  | .resume u => h.withDomain u fun d => d.whenActive fun p => { p with state := .running }
  | .createSnapshot u name => h.withDomain u fun d =>
    if (d.snapshot name).isSome then none
    else some { d with snapshots := d.snapshots ++ [(name, d.power)] }
  | .deleteSnapshot u name => h.withDomain u fun d =>
    (d.snapshot name).map fun _ => { d with snapshots := d.snapshots.filter (·.1 ≠ name) }
  | .rollbackSnapshot u name => h.withDomain u fun d =>
    (d.snapshot name).map fun p => { d with power := p }
  | .domainInfo u | .attachDevice u _ _ | .detachDevice u _ | .xmlDesc u => h.withDomain u some

/-- The host after an operation that the agent confirms. -/
def Hypervisor.serve (workdir : Text) (h : Hypervisor) (r : AgentRequest) : Option Hypervisor :=
  match libvirtCalls workdir r with
  | .ok calls => calls.foldlM LibvirtCall.perform h
  | .error _ => none

/-- Some of the guests that were asked to power off do so. -/
def Hypervisor.guests (h : Hypervisor) (obey : Text → Bool) : Hypervisor :=
  fun u => (h u).map fun d => { d with power := d.power.after (obey u) }

end Agent

end NodePilot
