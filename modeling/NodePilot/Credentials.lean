import NodePilot.Effects
import NodePilot.Lib.Pool
import NodePilot.Lib.Table

/-!
# Agent credentials

The credential of a node's agent (`apps/nodes/models.py`): `register_agent` and `revoke_agent` of
`NodeViewSet`, and the two places that take a token, `AgentTokenAuthentication` for heartbeats and
`AgentConsumer._authenticate` for the command connection. A node has at most one agent row, found by
the node's uuid here. `token_hash` is unique in the table, the empty text included. SHA-256 is a
parameter; the identifiers and secrets that a request draws come with it.
-/

namespace NodePilot

open Lib

/-- `AgentStatus` -/
inductive AgentStatus
  | active | disabled | revoked | offline
deriving DecidableEq, Repr

/-- The stored value of an `AgentStatus`. -/
def AgentStatus.value : AgentStatus → String
  | .active => "ACTIVE"
  | .disabled => "DISABLED"
  | .revoked => "REVOKED"
  | .offline => "OFFLINE"

/-- `Agent` -/
structure AgentRow where
  node : Uuid
  agentId : Option Uuid
  status : AgentStatus := .active
  tokenHash : String := ""
  tokenPrefix : String := ""
  revokedAt : Option Nat := none
deriving DecidableEq

/-- `Agent.is_usable` -/
def AgentRow.isUsable (agent : AgentRow) : Bool := agent.status = .active

/-- `AGENT_TOKEN_PREFIX` -/
def agentTokenPrefix : String := "npa_"

/-- The raw token that `generate_token` makes of a secret. -/
def rawToken (secret : String) : String := agentTokenPrefix ++ secret

namespace Agents

variable (sha256 : String → String)

/-- The agent of a node. -/
def ofNode (agents : List AgentRow) (node : Uuid) : Option AgentRow :=
  agents.find? fun a => a.node = node

/-- `save(update_fields=...)` of one agent, under the unique constraint on `token_hash`. -/
def save (agents : List AgentRow) (agent : AgentRow) : Except Exn (List AgentRow) :=
  if agents.any fun a => a.node ≠ agent.node ∧ a.tokenHash = agent.tokenHash then
    .error (.integrityError "agents_token_hash_key")
  else .ok (agents.map fun a => if a.node = agent.node then agent else a)

/-- A new row: active, with the empty hash. -/
def newAgent (node agentId : Uuid) : AgentRow := { node := node, agentId := some agentId }

/-- `Agent.objects.get_or_create(node=node, defaults=...)` -/
def getOrCreate (agents : List AgentRow) (node agentId : Uuid) :
    Except Exn (AgentRow × List AgentRow) :=
  match ofNode agents node with
  | some agent => .ok (agent, agents)
  | none =>
    let agent := newAgent node agentId
    if agents.any fun a => a.tokenHash = agent.tokenHash then
      .error (.integrityError "agents_token_hash_key")
    else .ok (agent, agents ++ [agent])

/-- The row with the columns that `generate_token` fills. -/
def withToken (agent : AgentRow) (secret : String) : AgentRow :=
  { agent with
    tokenHash := sha256 (rawToken secret)
    tokenPrefix := ((rawToken secret).take (agentTokenPrefix.length + 8)).toString }

/-- `Agent.rotate_token`. The token columns are saved, and no other: the rest of the row stays as it
is in the table. -/
def rotateToken (agents : List AgentRow) (agent : AgentRow) (secret : String) :
    Except Exn (List AgentRow) :=
  match ofNode agents agent.node with
  | none => .error .databaseError
  | some row => save agents (withToken sha256 row secret)

/-- The row with the columns that `revoke` sets. -/
def asRevoked (agent : AgentRow) (now : Nat) : AgentRow :=
  { agent with status := .revoked, revokedAt := some now, tokenHash := "" }

/-- `Agent.revoke` -/
def revoke (agents : List AgentRow) (agent : AgentRow) (now : Nat) : Except Exn (List AgentRow) :=
  save agents (asRevoked agent now)

/-! ## Requests -/

/-- What the two views answer. -/
inductive Response
  | registered (node agentId : Uuid) (token : String)
  | revoked
  | notFound (detail : String)
deriving DecidableEq

inductive Request
  | registerAgent (node agentId : Uuid) (secret : String)
  | revokeAgent (node : Uuid) (now : Nat)

/-- The node that a request is about. -/
def Request.node : Request → Uuid
  | registerAgent node _ _ | revokeAgent node _ => node

/-- `NodeViewSet.register_agent`, with the table it leaves. The statements are no transaction: a row
that was created stays when the next statement fails. -/
def registerAgent (agents : List AgentRow) (node agentId : Uuid) (secret : String) :
    Except Exn Response × List AgentRow :=
  match getOrCreate agents node agentId with
  | .error e => (.error e, agents)
  | .ok (agent, created) =>
    -- the status is set to ACTIVE on the object only
    let agent := { agent with agentId := agent.agentId.or (some agentId), status := .active }
    match rotateToken sha256 created agent secret with
    | .error e => (.error e, created)
    | .ok saved => (.ok (.registered node (agent.agentId.getD agentId) (rawToken secret)), saved)

/-- `NodeViewSet.revoke_agent`, with the table it leaves. -/
def revokeAgent (agents : List AgentRow) (node : Uuid) (now : Nat) :
    Except Exn Response × List AgentRow :=
  match ofNode agents node with
  | none => (.ok (.notFound "No agent registered for this node."), agents)
  | some agent =>
    match revoke agents agent now with
    | .error e => (.error e, agents)
    | .ok saved => (.ok .revoked, saved)

/-- One request. -/
def serve (agents : List AgentRow) : Request → Except Exn Response × List AgentRow
  | .registerAgent node agentId secret => registerAgent sha256 agents node agentId secret
  | .revokeAgent node now => revokeAgent agents node now

/-! ## Authentication -/

/-- `AgentTokenAuthentication.authenticate`, of the words of the `Authorization` header: no agent if
the header is not for agents, and the text of `AuthenticationFailed` if it does not pass. -/
def authenticate (agents : List AgentRow) : List String → Except String (Option AgentRow)
  | [] => .ok none
  | keyword :: words =>
    if keyword ≠ "Agent" then .ok none
    else match words with
      | [token] =>
        match agents.find? fun a => a.tokenHash = sha256 token with
        | none => .error "Invalid agent token."
        | some agent =>
          if agent.status = .active then .ok (some agent)
          else .error ("Agent is " ++ agent.status.value ++ " and may not connect.")
      | _ => .error "Invalid agent token header."

/-- `AgentConsumer._authenticate` -/
def consumerAuthenticate (agents : List AgentRow) (nodeUuid : String) (token : Option String) :
    Option AgentRow := do
  let token ← token
  if token = "" then none
  else
    let agent ← agents.find? fun a => a.tokenHash = sha256 token && a.status = .active
    if agent.node.str ≠ nodeUuid then none else some agent

/-! ## Runs -/

/-- The agents, and the requests with their answers, newest first. -/
structure Office where
  agents : List AgentRow := []
  log : List (Request × Except Exn Response) := []

/-- A request is served. -/
def step (request : Request) (s : Office) : Option Office :=
  let answer := serve sha256 s.agents request
  some ⟨answer.2, (request, answer.1) :: s.log⟩

end Agents

end NodePilot
