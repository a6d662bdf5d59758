import NodePilot.AgentVersions
import NodePilot.Credentials

/-!
# Heartbeats and outages

`apps/nodes/services.py`, `apps/nodes/tasks.py` and `Node.effective_status`: a heartbeat writes what an
agent reports of its host and when it was heard, and a periodic sweep reports the nodes that have gone
silent. Whether a node is offline is never stored; it is computed from `last_seen` and the administrator's
state whenever someone asks. Instants are microseconds.

A heartbeat, a sweep and a change by an administrator are one step each, at an instant later than every
step before it.
-/

namespace NodePilot

open Lib

/-! ## Nodes -/

/-- `NodeAdminState` -/
inductive NodeAdminState
  | active | maintenance | disabled
deriving DecidableEq, Repr

/-- `NodeStatus` -/
inductive NodeStatus
  | online | offline | warning | maintenance | disabled
deriving DecidableEq, Repr

namespace Heartbeats

/-- `settings.NODEPILOT`, as far as heartbeats read it. -/
structure Settings where
  offlineThresholdSeconds : Int := 30
  minSupportedAgentVersion : String := "1.0.0"

/-- `Node` -/
structure Node where
  uuid : Uuid
  organization : Nat
  hostname : String
  adminState : NodeAdminState := .active
  cpuThreads : Nat := 0
  memoryTotalMb : Nat := 0
  memoryAvailableMb : Nat := 0
  storageTotalGb : Nat := 0
  storageAvailableGb : Nat := 0
  lastSeen : Option Nat := none
  createdAt : Nat
  /-- The status of `node.agent`, where there is one. -/
  agent : Option AgentStatus := none
deriving DecidableEq

/-- The threshold in the unit of the clock. -/
def Settings.threshold (cfg : Settings) : Int := cfg.offlineThresholdSeconds * 1000000

/-- `Node.effective_status` -/
def Node.effectiveStatus (cfg : Settings) (now : Nat) (n : Node) : NodeStatus :=
  match n.adminState, n.lastSeen with
  | .disabled, _ => .disabled
  | .maintenance, _ => .maintenance
  | .active, none => .offline
  | .active, some seen =>
    let age : Int := now - seen
    if cfg.threshold < age then .offline
    else if cfg.threshold < 2 * age then .warning
    else if n.agent.any (· ≠ .active) then .warning
    else .online

/-- `Node.is_schedulable` -/
def Node.isSchedulable (cfg : Settings) (now : Nat) (n : Node) : Bool :=
  n.effectiveStatus cfg now = .online ∧ n.adminState = .active

/-! ## Heartbeats -/

/-- What a heartbeat reports. A field may be missing. -/
structure Payload where
  agentVersion : Option String := none
  cpuThreads : Option Nat := none
  memoryTotalMb : Option Nat := none
  memoryAvailableMb : Option Nat := none
  storageTotalGb : Option Nat := none
  storageAvailableGb : Option Nat := none

/-- `check_agent_version_compatible` lets the heartbeat pass. -/
def Settings.compatible (cfg : Settings) (p : Payload) : Bool :=
  AgentVersions.checkAgentVersionCompatible cfg.minSupportedAgentVersion (p.agentVersion.getD "") = .ok ()

/-- What `record_heartbeat` saves. -/
def Node.heard (now : Nat) (p : Payload) (n : Node) : Node :=
  { n with
    cpuThreads := p.cpuThreads.getD n.cpuThreads
    memoryTotalMb := p.memoryTotalMb.getD n.memoryTotalMb
    memoryAvailableMb := p.memoryAvailableMb.getD n.memoryAvailableMb
    storageTotalGb := p.storageTotalGb.getD n.storageTotalGb
    storageAvailableGb := p.storageAvailableGb.getD n.storageAvailableGb
    lastSeen := some now }

/-! ## Events -/

/-- An event with its `created_at`. -/
structure EventRow where
  event : Event
  createdAt : Nat

/-- The events of a type that are about a node. -/
def EventRow.isAbout (type : String) (node : Uuid) (e : EventRow) : Bool :=
  e.event.type = type ∧ e.event.resourceType = "Node" ∧ e.event.resourceId = node.str

def nodeOnlineEvent (n : Node) : Event :=
  { type := "NODE_ONLINE", severity := "INFO", resourceType := "Node", resourceId := n.uuid.str
    metadata := [("hostname", .str n.hostname)] }

def nodeOfflineEvent (n : Node) : Event :=
  { type := "NODE_OFFLINE", severity := "CRITICAL", resourceType := "Node", resourceId := n.uuid.str
    metadata := [("hostname", .str n.hostname), ("last_seen", .ofNat? n.lastSeen)] }

/-- `node.last_seen or node.created_at` -/
def Node.since (n : Node) : Nat := n.lastSeen.getD n.createdAt

/-- `mark_offline_if_stale`: the events after it. -/
def markOfflineIfStale (cfg : Settings) (now : Nat) (events : List EventRow) (n : Node) :
    List EventRow :=
  if n.effectiveStatus cfg now = .offline ∧
      ¬ events.any (fun e => e.isAbout "NODE_OFFLINE" n.uuid ∧ n.since ≤ e.createdAt) then
    ⟨nodeOfflineEvent n, now⟩ :: events
  else events

/-! ## Steps -/

structure State where
  nodes : List Node := []
  events : List EventRow := []
  clock : Nat := 0

def State.node? (s : State) (uuid : Uuid) : Option Node := s.nodes.find? (·.uuid = uuid)

/-- A save of one row. -/
def State.update (s : State) (uuid : Uuid) (f : Node → Node) : State :=
  { s with nodes := s.nodes.map fun n => if n.uuid = uuid then f n else n }

/-- `sweep_offline_nodes` -/
def State.sweepOfflineNodes (cfg : Settings) (now : Nat) (s : State) : State :=
  { s with
    events := (s.nodes.filter (·.adminState = .active)).foldl (markOfflineIfStale cfg now) s.events }

/-- `record_heartbeat`. The check of the version raises before anything is written. -/
def State.recordHeartbeat (cfg : Settings) (now : Nat) (n : Node) (p : Payload) (s : State) : State :=
  if cfg.compatible p then
    let s := s.update n.uuid (Node.heard now p)
    if n.effectiveStatus cfg now = .online then s
    else { s with events := ⟨nodeOnlineEvent n, now⟩ :: s.events }
  else s

inductive Action
  | createNode (uuid : Uuid) (organization : Nat) (hostname : String)
  | heartbeat (uuid : Uuid) (payload : Payload)
  | sweep
  | setAdminState (uuid : Uuid) (state : NodeAdminState)
  /-- The credential of the agent is issued, revoked or deleted. -/
  | setAgent (uuid : Uuid) (agent : Option AgentStatus)
  /-- An event from elsewhere: only the sweep reports a node offline. -/
  | emit (event : Event)

/-- What an action does at an instant, `none` where it cannot happen. -/
def Action.perform (cfg : Settings) (now : Nat) (s : State) : Action → Option State
  | .createNode uuid organization hostname =>
    if (s.node? uuid).isSome then none
    else some { s with nodes := s.nodes ++
      [{ uuid := uuid, organization := organization, hostname := hostname, createdAt := now }] }
  | .heartbeat uuid payload => (s.node? uuid).map fun n => s.recordHeartbeat cfg now n payload
  | .sweep => some (s.sweepOfflineNodes cfg now)
  | .setAdminState uuid state => some (s.update uuid fun n => { n with adminState := state })
  | .setAgent uuid agent => some (s.update uuid fun n => { n with agent := agent })
  | .emit event =>
    if event.type = "NODE_OFFLINE" then none
    else some { s with events := ⟨event, now⟩ :: s.events }

/-- One action, at an instant later than all before. -/
def step (cfg : Settings) (l : Nat × Action) (s : State) : Option State :=
  if s.clock < l.1 then (l.2.perform cfg l.1 s).map fun s => { s with clock := l.1 } else none

end Heartbeats

end NodePilot
