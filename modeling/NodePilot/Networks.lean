import NodePilot.Agent.Network
import NodePilot.Lib.Pool
import NodePilot.Tasks

/-!
# Networks

`apps/networks/serializers.py`, the two network requests of `apps/networks/services.py`, and the runs
of `create_network_task` and `delete_network_task` together with the links of the hosts that their
operations reach. A row never changes its bridge or its VLAN: the view set has no PUT and no PATCH.
-/

namespace NodePilot.Networks

open Lib Agent

/-! ## `NetworkSerializer` -/

/-- A message of a 400 answer, under the field it stands at. -/
structure FieldError where
  field : String
  message : String
deriving DecidableEq

/-- `str.isspace` on a character. -/
def isSpace (c : Char) : Bool :=
  c.toNat ∈ [0x20, 0x85, 0xa0, 0x1680, 0x2028, 0x2029, 0x202f, 0x205f, 0x3000] ∨
    (9 ≤ c.toNat ∧ c.toNat ≤ 13) ∨ (0x1c ≤ c.toNat ∧ c.toNat ≤ 0x1f) ∨
    (0x2000 ≤ c.toNat ∧ c.toNat ≤ 0x200a)

/-- `str.strip` -/
def strip (text : Text) : Text :=
  ((text.dropWhile isSpace).reverse.dropWhile isSpace).reverse

/-- What the request says of a network, as far as its links depend on it. -/
structure NetworkData where
  node : Nat
  name : String
  bridge : Text
  vlanId : Option Int := none

/-- `_MAX_IFACE_LEN` -/
def maxIfaceLen : Nat := 15

/-- `_VLAN_BRIDGE_SUFFIX_LEN` -/
def vlanBridgeSuffixLen : Nat := ".4094b".toList.length

/-- The `bridge` field: a `CharField` of 32 characters, then `validate_bridge`. -/
def validateBridge (bridge : Text) : Except FieldError Text :=
  let value := strip bridge
  if value = [] then .error ⟨"bridge", "This field may not be blank."⟩
  else if 32 < value.length then
    .error ⟨"bridge", "Ensure this field has no more than 32 characters."⟩
  else if '\x00' ∈ value then .error ⟨"bridge", "Null characters are not allowed."⟩
  else if safeIface value then .ok value
  else .error ⟨"bridge", "Bridge name must be a valid Linux interface name (alphanumeric, '.', '-', '_', max 15 characters)."⟩

/-- `validate_vlan_id` -/
def validateVlanId : Option Int → Except FieldError (Option Nat)
  | none => .ok none
  | some value =>
    if 1 ≤ value ∧ value ≤ 4094 then .ok (some value.toNat)
    else .error ⟨"vlan_id", "vlan_id must be between 1 and 4094."⟩

/-- `UniqueTogetherValidator` on `("node", "bridge", "vlan_id")`: without a VLAN nothing is asked. -/
def uniqueTogether (rows : List NetworkRow) (node : Nat) (bridge : Text) (vlanId : Option Nat) :
    Bool :=
  vlanId = none ∨
    rows.all fun r => ¬ (r.node = node ∧ r.bridge.toList = bridge ∧ r.vlanId = vlanId)

/-- `NetworkSerializer.validate` -/
def validate (bridge : Text) (vlanId : Option Nat) : Except FieldError Unit :=
  if vlanId.isSome ∧ maxIfaceLen < bridge.length + vlanBridgeSuffixLen then
    .error ⟨"bridge", "Bridge name is too long to combine with a VLAN id -- max 9 characters when vlan_id is set."⟩
  else .ok ()

/-- `NetworkSerializer.is_valid`: the fields, the validators, then `validate`. -/
def isValid (rows : List NetworkRow) (data : NetworkData) :
    Except (List FieldError) (Text × Option Nat) :=
  match validateBridge data.bridge, validateVlanId data.vlanId with
  | .ok bridge, .ok vlanId =>
    if uniqueTogether rows data.node bridge vlanId then
      match validate bridge vlanId with
      | .ok () => .ok (bridge, vlanId)
      | .error e => .error [e]
    else
      .error [⟨"non_field_errors", "The fields node, bridge, vlan_id must make a unique set."⟩]
  | .error e, .ok _ => .error [e]
  | .ok _, .error e => .error [e]
  | .error e, .error e' => .error [e, e']

/-- `NetworkViewSet.create` and `services.create_network`: the new row, INACTIVE until the agent
confirms. -/
def createNetwork (uuid : Uuid) (data : NetworkData) (t : Tables) :
    Except (List FieldError) Tables := do
  let (bridge, vlanId) ← isValid t.networks data
  let row : NetworkRow :=
    { pk := Table.nextPk t.networks, uuid := uuid, node := data.node, name := data.name
      bridge := String.ofList bridge, vlanId := vlanId, status := .inactive }
  return { t with networks := t.networks ++ [row] }

/-! ## Runs -/

/-- One execution of a network task, with what its surroundings decide. -/
structure Execution where
  taskId : String := ""
  jobId : Nat
  network : Nat
  /-- The decisions at the task's operations. -/
  script : Nat → Choice := fun _ => {}
  /-- The decisions at the runs of `ip` on the host. -/
  ip : Nat → IpChoice := fun _ => {}
  /-- Where the agent answers with an error: its handler has run. -/
  handled : Bool := true

inductive Event
  /-- A request to create a network. -/
  | request (uuid : Uuid) (data : NetworkData)
  | create (x : Execution)
  | delete (x : Execution)
  /-- Others write rows that are not networks: jobs, NICs, and the rest. -/
  | elsewhere (db : Tables)

structure State where
  db : Tables
  /-- The links of each node's host. -/
  links : Nat → Links

/-- The end of a task's execution. -/
def Execution.run (x : Execution) (task : Nat → Task) (s : State) : Except Exn Unit × World :=
  let r := Script.exec World.handle ((task x.network).run x.taskId x.jobId) ()
    { db := s.db, script := x.script }
  (r.1, r.2.2)

/-- The agent's handler for the operation. -/
def handler (r : AgentRequest) : IpM Unit :=
  match r.operation with
  | .createNetwork => do let _ ← Agent.createNetwork r.payload
  | .deleteNetwork => Agent.deleteNetwork r.payload
  | _ => pure ()

/-- What one operation does to the links of the host, where the answer agrees with it. -/
def Execution.serve (x : Execution) (links : Links) (r : AgentRequest) : AgentOutcome → Option Links
  | .noAgent | .notConnected | .timedOut false => some links
  | .timedOut true => some (Host.execute (handler r) ⟨links, x.ip, 0⟩).2.links
  | .failed _ =>
    if x.handled then
      match Host.execute (handler r) ⟨links, x.ip, 0⟩ with
      | (.error _, host) => some host.links
      | (.ok _, _) => none
    else some links
  | .ok _ =>
    match Host.execute (handler r) ⟨links, x.ip, 0⟩ with
    | (.ok _, host) => some host.links
    | (.error _, _) => none

/-- The operations of the task, oldest first, one after the other. -/
def Execution.serveAll (x : Execution) : List (AgentRequest × AgentOutcome) → Links → Option Links
  | [], links => some links
  | (r, outcome) :: rest, links => (x.serve links r outcome).bind (x.serveAll rest)

/-- The state after a task, where the answers agree with the host. -/
def Execution.step (x : Execution) (task : Nat → Task) (s : State) : Option State := do
  let w := (x.run task s).2
  match Table.get s.db.networks x.network with
  | none => return { s with db := w.db }
  | some net =>
    let links ← x.serveAll w.exchanges (s.links net.node)
    return { db := w.db, links := Function.update s.links net.node links }

def step : Event → State → Option State
  | .request uuid data, s =>
    match createNetwork uuid data s.db with
    | .ok db => some { s with db := db }
    | .error _ => some s
  | .create x, s => x.step .createNetwork s
  | .delete x, s => x.step .deleteNetwork s
  | .elsewhere db, s => some { s with db := { db with networks := s.db.networks } }

end NodePilot.Networks
