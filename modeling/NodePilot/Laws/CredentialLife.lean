import NodePilot.Credentials

/-!
# The life of an agent credential

`token_hash` is unique, and both a new agent row and a revoked one hold the empty text there. So one
revoked agent stands in the way of every other node: the next revocation and the next first
registration fail. And a revoked agent that is registered again gets a token, but its status stays
REVOKED, since `rotate_token` saves the token columns only. `Healthy` says of a request that it meets
neither; where every request of a run is healthy, and only there, the credentials behave.
-/

namespace NodePilot.Agents

open Lib

variable (sha256 : String → String)

/-! ## What the requests have returned -/

/-- The tokens returned, each with the node it was returned for. -/
def issued (log : List (Request × Except Exn Response)) : List (Uuid × String) :=
  log.filterMap fun
    | (request, .ok (.registered _ _ token)) => some (request.node, token)
    | _ => none

/-- The token of a node: the last request about the node returned it. -/
def current (node : Uuid) : List (Request × Except Exn Response) → Option String
  | [] => none
  | (request, answer) :: earlier =>
    if request.node = node then
      match answer with
      | .ok (.registered _ _ token) => some token
      | _ => none
    else current node earlier

/-- The token authenticates for the node, both ways. -/
structure Accepts (agents : List AgentRow) (node : Uuid) (token : String) : Prop where
  heartbeat : ∃ agent, agent.node = node ∧
    authenticate sha256 agents ["Agent", token] = .ok (some agent)
  connection : ∃ agent, agent.node = node ∧
    consumerAuthenticate sha256 agents node.str (some token) = some agent

/-- The token authenticates for no node. -/
structure Rejects (agents : List AgentRow) (token : String) : Prop where
  heartbeat : ∀ agent, authenticate sha256 agents ["Agent", token] ≠ .ok (some agent)
  connection : ∀ nodeUuid, consumerAuthenticate sha256 agents nodeUuid (some token) = none

/-- The credentials behave: no request has failed, the token of a node authenticates, and no other
token returned for the node does. -/
structure Behaves (s : Office) : Prop where
  answered : ∀ request e, (request, .error e) ∉ s.log
  current : ∀ node token, current node s.log = some token → Accepts sha256 s.agents node token
  earlier : ∀ node token, (node, token) ∈ issued s.log → Agents.current node s.log ≠ some token →
    Rejects sha256 s.agents token

/-! ## Requests that go well -/

/-- `register_agent` finds the node's agent active, or finds none and no agent with the empty hash;
`revoke_agent` finds no agent, or no agent of another node with the empty hash. -/
def Healthy : Request → Office → Prop
  | .registerAgent node _ _, s =>
    match ofNode s.agents node with
    | some agent => agent.status = .active
    | none => ∀ a ∈ s.agents, a.tokenHash ≠ ""
  | .revokeAgent node _, s =>
    ofNode s.agents node = none ∨ ∀ a ∈ s.agents, a.node ≠ node → a.tokenHash ≠ ""

instance : (request : Request) → (s : Office) → Decidable (Healthy request s)
  | .registerAgent node _ _, s =>
    match hof : ofNode s.agents node with
    | some agent => decidable_of_iff (agent.status = .active) (by simp [Healthy, hof])
    | none => decidable_of_iff (∀ a ∈ s.agents, a.tokenHash ≠ "") (by simp [Healthy, hof])
  | .revokeAgent _ _, _ => inferInstanceAs (Decidable (_ ∨ _))

/-- The token drawn by a request has a hash of its own, and a hash is not the empty text. -/
def Fresh : Request → Office → Prop
  | .registerAgent _ _ secret, s => sha256 (rawToken secret) ≠ "" ∧
      ∀ p ∈ issued s.log, sha256 p.2 ≠ sha256 (rawToken secret)
  | .revokeAgent _ _, _ => True

instance : (request : Request) → (s : Office) → Decidable (Fresh sha256 request s)
  | .registerAgent _ _ _, _ => inferInstanceAs (Decidable (_ ∧ _))
  | .revokeAgent _ _, _ => inferInstanceAs (Decidable True)

variable {sha256}

/-! ## Lookups and saves -/

section Table

variable {agents agents' : List AgentRow} {agent a : AgentRow} {node : Uuid} {token : String}

/-- The agent that is found is the node's. -/
theorem ofNode_some (h : ofNode agents node = some a) : a ∈ agents ∧ a.node = node :=
  ⟨List.mem_of_find?_eq_some h, by simpa using List.find?_some h⟩

/-- None is found where the node has none. -/
theorem ofNode_none : ofNode agents node = none ↔ ∀ a ∈ agents, a.node ≠ node := by
  simp [ofNode]

/-- A save fails where another agent has the same hash. -/
theorem save_error : (∃ e, save agents agent = .error e) ↔
    ∃ a ∈ agents, a.node ≠ agent.node ∧ a.tokenHash = agent.tokenHash := by
  unfold save
  split
  · next h => simpa using h
  · next h => simpa using h

/-- A save replaces the row of its node. -/
theorem mem_save (h : save agents agent = .ok agents') (there : ∃ a ∈ agents, a.node = agent.node)
    (x : AgentRow) : x ∈ agents' ↔ x ∈ agents ∧ x.node ≠ agent.node ∨ x = agent := by
  unfold save at h
  split at h
  · cases h
  · cases h
    rw [List.mem_map]
    constructor
    · rintro ⟨y, hy, rfl⟩
      by_cases same : y.node = agent.node
      · simp [same]
      · simp [same, hy]
    · rintro (⟨hx, other⟩ | rfl)
      · exact ⟨x, hx, if_neg other⟩
      · obtain ⟨y, hy, same⟩ := there
        exact ⟨y, hy, if_pos same⟩

/-- A save moves no agent to another node. -/
theorem nodes_save (h : save agents agent = .ok agents') :
    agents'.map AgentRow.node = agents.map AgentRow.node := by
  unfold save at h
  split at h
  · cases h
  · cases h
    rw [List.map_map]
    refine List.map_congr_left fun y _ => ?_
    by_cases same : y.node = agent.node <;> simp [same]

/-- A node has one agent. -/
theorem eq_of_node (nodes : (agents.map AgentRow.node).Nodup) {a b : AgentRow} (ha : a ∈ agents)
    (hb : b ∈ agents) (h : a.node = b.node) : a = b :=
  List.inj_on_of_nodup_map nodes ha hb h

/-- A token is accepted through the one row that holds its hash. -/
theorem Accepts.of_row (ha : a ∈ agents) (active : a.status = .active)
    (hash : a.tokenHash = sha256 token) (only : ∀ b ∈ agents, b.tokenHash = sha256 token → b = a)
    (nonempty : token ≠ "") : Accepts sha256 agents a.node token where
  heartbeat := by
    have found : agents.find? (fun b => b.tokenHash = sha256 token) = some a :=
      find?_of_only ha (by simpa using hash) (by simpa using only)
    exact ⟨a, rfl, by simp [authenticate, found, active]⟩
  connection := by
    have found : agents.find? (fun b => b.tokenHash = sha256 token && b.status = .active) = some a := by
      refine find?_of_only ha (by simp [hash, active]) fun b hb h => only b hb ?_
      rw [Bool.and_eq_true, decide_eq_true_eq] at h
      exact h.1
    exact ⟨a, rfl, by simp [consumerAuthenticate, nonempty, found]⟩

/-- A token whose hash no active row holds is accepted nowhere. -/
theorem consumer_rejects (h : ∀ b ∈ agents, b.tokenHash = sha256 token → b.status ≠ .active)
    (nodeUuid : String) : consumerAuthenticate sha256 agents nodeUuid (some token) = none := by
  have missing : agents.find? (fun b => b.tokenHash = sha256 token && b.status = .active) = none := by
    simpa using h
  by_cases empty : token = ""
  · simp [consumerAuthenticate, empty]
  · simp [consumerAuthenticate, empty, missing]

/-- A token that no row has is rejected everywhere. -/
theorem Rejects.of_rows (h : ∀ b ∈ agents, b.tokenHash ≠ sha256 token) :
    Rejects sha256 agents token where
  heartbeat agent := by
    have missing : agents.find? (fun b => b.tokenHash = sha256 token) = none := by simpa using h
    simp [authenticate, missing]
  connection := consumer_rejects fun b hb hash => absurd hash (h b hb)

end Table

/-! ## The invariant -/

section Log

variable {log : List (Request × Except Exn Response)} {request : Request} {node agentId : Uuid}
  {token : String} {answer : Except Exn Response}

/-- The token that was just issued is the current one. -/
theorem current_self (h : request.node = node) :
    current node ((request, .ok (.registered node agentId token)) :: log) = some token := by
  simp [current, h]

/-- A request about another node issues nothing for this one. -/
theorem current_ne (h : request.node ≠ node) :
    current node ((request, answer) :: log) = current node log := by
  simp [current, h]

/-- The current token was issued. -/
theorem issued_of_current (h : current node log = some token) : (node, token) ∈ issued log := by
  induction log with
  | nil => cases h
  | cons entry log ih =>
    obtain ⟨request, answer⟩ := entry
    by_cases same : request.node = node
    · unfold current at h
      rw [if_pos same] at h
      split at h
      · cases h
        simp [issued, same]
      · cases h
    · rw [current_ne same] at h
      exact List.mem_filterMap.mpr (by
        obtain ⟨entry, hentry, shown⟩ := List.mem_filterMap.mp (ih h)
        exact ⟨entry, List.mem_cons_of_mem _ hentry, shown⟩)

end Log

/-- **The invariant**: each node has at most one row; it is active and holds the hash of the node's
token, or it is revoked, holds the empty text, and the node has no token. -/
structure Kept (sha256 : String → String) (s : Office) : Prop where
  nodes : (s.agents.map AgentRow.node).Nodup
  rows : ∀ a ∈ s.agents,
    (a.status = .active ∧ ∃ token, Agents.current a.node s.log = some token ∧
      a.tokenHash = sha256 token) ∨
    (a.status = .revoked ∧ a.tokenHash = "" ∧ Agents.current a.node s.log = none)
  holder : ∀ node token, Agents.current node s.log = some token → ∃ a ∈ s.agents, a.node = node
  distinct : ((issued s.log).map fun p => sha256 p.2).Nodup
  proper : ∀ p ∈ issued s.log, sha256 p.2 ≠ "" ∧ p.2 ≠ ""
  answered : ∀ request e, (request, .error e) ∉ s.log

section Invariant

variable {s : Office} {a : AgentRow} {node agentId : Uuid} {token secret : String}

/-- A row that holds the hash of a token is the row of the node that the token is current for. -/
theorem Kept.row_of_hash (h : Kept sha256 s) (ha : a ∈ s.agents) (hp : (node, token) ∈ issued s.log)
    (hash : a.tokenHash = sha256 token) :
    a.node = node ∧ a.status = .active ∧ current node s.log = some token := by
  rcases h.rows a ha with ⟨active, token', hcurrent, hash'⟩ | ⟨-, empty, -⟩
  · have same : (a.node, token') = (node, token) :=
      List.inj_on_of_nodup_map h.distinct (issued_of_current hcurrent) hp (hash'.symm.trans hash)
    cases same
    exact ⟨rfl, active, hcurrent⟩
  · exact absurd (hash.symm.trans empty) (h.proper _ hp).1

/-- The invariant says how the credentials behave. -/
theorem Kept.behaves (h : Kept sha256 s) : Behaves sha256 s where
  answered := h.answered
  current node token hcurrent := by
    have hp := issued_of_current hcurrent
    obtain ⟨a, ha, rfl⟩ := h.holder node token hcurrent
    have shown : a.status = .active ∧ a.tokenHash = sha256 token := by
      rcases h.rows a ha with ⟨active, token', hcurrent', hash⟩ | ⟨-, -, none⟩
      · rw [hcurrent] at hcurrent'
        cases hcurrent'
        exact ⟨active, hash⟩
      · rw [hcurrent] at none
        cases none
    refine .of_row ha shown.1 shown.2 (fun b hb hash => ?_) (h.proper _ hp).2
    exact eq_of_node h.nodes hb ha (h.row_of_hash hb hp hash).1
  earlier node token hp old := by
    refine .of_rows fun b hb hash => ?_
    exact old (h.row_of_hash hb hp hash).2.2

/-- No row holds the hash of a fresh token. -/
theorem Kept.hash_ne (h : Kept sha256 s)
    (fresh : Fresh sha256 (.registerAgent node agentId secret) s) (ha : a ∈ s.agents) :
    a.tokenHash ≠ sha256 (rawToken secret) := by
  intro hash
  rcases h.rows a ha with ⟨-, token, hcurrent, hash'⟩ | ⟨-, empty, -⟩
  · exact fresh.2 _ (issued_of_current hcurrent) (hash'.symm.trans hash)
  · exact fresh.1 (hash.symm.trans empty)

end Invariant

/-! ## One request -/

/-- One row has taken the place of the row of its node, if there was one. -/
structure Replaced (agents agents' : List AgentRow) (row : AgentRow) : Prop where
  nodes : (agents'.map AgentRow.node).Nodup
  mem : ∀ x, x ∈ agents' ↔ x ∈ agents ∧ x.node ≠ row.node ∨ x = row

section Steps

variable {s : Office} {agents agents' : List AgentRow} {row agent : AgentRow}
  {node agentId id : Uuid} {secret : String} {now : Nat}

/-- A save replaces the row of its node. -/
theorem Replaced.of_save (nodes : (agents.map AgentRow.node).Nodup)
    (there : ∃ a ∈ agents, a.node = row.node) (h : save agents row = .ok agents') :
    Replaced agents agents' row :=
  ⟨nodes_save h ▸ nodes, mem_save h there⟩

/-- The save succeeds where no other row holds the hash. -/
theorem save_ok (h : ∀ a ∈ agents, a.node ≠ row.node → a.tokenHash ≠ row.tokenHash) :
    ∃ agents', save agents row = .ok agents' := by
  cases saved : save agents row with
  | ok agents' => exact ⟨agents', rfl⟩
  | error e =>
    obtain ⟨a, ha, other, hash⟩ := save_error.mp ⟨e, saved⟩
    exact absurd hash (h a ha other)

/-- `rotate_token` puts the hash of the new token into the row, and keeps its status. -/
theorem rotateToken_spec (nodes : (agents.map AgentRow.node).Nodup)
    (hof : ofNode agents node = some agent)
    (free : ∀ a ∈ agents, a.node ≠ node → a.tokenHash ≠ sha256 (rawToken secret))
    (object : AgentRow) (hobject : object.node = node) :
    ∃ agents' row, rotateToken sha256 agents object secret = .ok agents' ∧
      Replaced agents agents' row ∧ row.node = node ∧ row.status = agent.status ∧
      row.tokenHash = sha256 (rawToken secret) := by
  obtain ⟨hagent, hnode⟩ := ofNode_some hof
  unfold rotateToken
  rw [hobject, hof]
  have spared : ∀ a ∈ agents, a.node ≠ (withToken sha256 agent secret).node →
      a.tokenHash ≠ (withToken sha256 agent secret).tokenHash :=
    fun a ha other => free a ha fun same => other (same.trans hnode.symm)
  obtain ⟨agents', saved⟩ := save_ok spared
  exact ⟨agents', withToken sha256 agent secret, saved, .of_save nodes ⟨agent, hagent, rfl⟩ saved, hnode, rfl, rfl⟩

/-- `register_agent` on a node that has an agent keeps the agent's status. -/
theorem register_found (h : Kept sha256 s)
    (fresh : Fresh sha256 (.registerAgent node agentId secret) s)
    (hof : ofNode s.agents node = some agent) :
    ∃ agents' id row, registerAgent sha256 s.agents node agentId secret =
        (.ok (.registered node id (rawToken secret)), agents') ∧
      Replaced s.agents agents' row ∧ row.node = node ∧ row.status = agent.status ∧
      row.tokenHash = sha256 (rawToken secret) := by
  have got : getOrCreate s.agents node agentId = .ok (agent, s.agents) := by
    rw [getOrCreate, hof]
  obtain ⟨agents', row, rotated, replaced⟩ := rotateToken_spec h.nodes hof
    (fun a ha _ => h.hash_ne fresh ha) { agent with
      agentId := agent.agentId.or (some agentId), status := .active } (ofNode_some hof).2
  refine ⟨agents', (agent.agentId.or (some agentId)).getD agentId, row, ?_, replaced⟩
  simp only [registerAgent, got, rotated]

/-- `register_agent` on a node that has none makes an active one, where no row has the empty hash. -/
theorem register_new (h : Kept sha256 s)
    (fresh : Fresh sha256 (.registerAgent node agentId secret) s)
    (hof : ofNode s.agents node = none) (proper : ∀ a ∈ s.agents, a.tokenHash ≠ "") :
    ∃ agents' id row, registerAgent sha256 s.agents node agentId secret =
        (.ok (.registered node id (rawToken secret)), agents') ∧
      Replaced s.agents agents' row ∧ row.node = node ∧ row.status = .active ∧
      row.tokenHash = sha256 (rawToken secret) := by
  have absent := ofNode_none.mp hof
  have got : getOrCreate s.agents node agentId =
      .ok (newAgent node agentId, s.agents ++ [newAgent node agentId]) := by
    rw [getOrCreate, hof]
    refine if_neg ?_
    rw [List.any_eq_true]
    rintro ⟨a, ha, empty⟩
    exact proper a ha (of_decide_eq_true empty)
  have nodes : ((s.agents ++ [newAgent node agentId]).map AgentRow.node).Nodup := by
    rw [List.map_append, List.nodup_append]
    refine ⟨h.nodes, List.nodup_singleton _, ?_⟩
    intro n hn m hm
    obtain ⟨a, ha, rfl⟩ := List.mem_map.mp hn
    rw [List.mem_singleton.mp hm]
    exact absent a ha
  have hof' : ofNode (s.agents ++ [newAgent node agentId]) node = some (newAgent node agentId) := by
    rw [ofNode, List.find?_append, ← ofNode, hof]
    simp [newAgent]
  have free : ∀ a ∈ s.agents ++ [newAgent node agentId], a.node ≠ node →
      a.tokenHash ≠ sha256 (rawToken secret) := by
    intro a ha other
    rcases List.mem_append.mp ha with ha | ha
    · exact h.hash_ne fresh ha
    · rw [List.mem_singleton.mp ha] at other
      exact absurd rfl other
  obtain ⟨agents', row, rotated, replaced, hnode, hstatus, hash⟩ :=
    rotateToken_spec nodes hof' free (newAgent node agentId) rfl
  refine ⟨agents', agentId, row, ?_, ⟨replaced.nodes, fun x => ?_⟩, hnode, hstatus, hash⟩
  · rw [newAgent] at got rotated
    simp only [registerAgent, got, Option.some_or, rotated, Option.getD_some]
  · -- the row that was created is the one that is replaced
    rw [replaced.mem x, List.mem_append, List.mem_singleton, hnode]
    constructor
    · rintro (⟨hx | rfl, other⟩ | rfl)
      · exact .inl ⟨hx, other⟩
      · exact absurd rfl other
      · exact .inr rfl
    · rintro (⟨hx, other⟩ | rfl)
      · exact .inl ⟨.inl hx, other⟩
      · exact .inr rfl

/-- A first registration is refused while some agent has no token. -/
theorem register_refused (hof : ofNode s.agents node = none) (ha : agent ∈ s.agents)
    (empty : agent.tokenHash = "") :
    registerAgent sha256 s.agents node agentId secret =
      (.error (.integrityError "agents_token_hash_key"), s.agents) := by
  have got : getOrCreate s.agents node agentId =
      .error (.integrityError "agents_token_hash_key") := by
    rw [getOrCreate, hof]
    exact if_pos (List.any_eq_true.mpr ⟨agent, ha, decide_eq_true empty⟩)
  simp [registerAgent, got]

/-- A revocation that is saved is answered so. -/
theorem revoke_ok (hof : ofNode s.agents node = some agent)
    (h : save s.agents (asRevoked agent now) = .ok agents') :
    revokeAgent s.agents node now = (.ok .revoked, agents') := by
  simp only [revokeAgent, hof, revoke, h]

/-- A revocation that cannot be saved is answered so. -/
theorem revoke_refused {e : Exn} (hof : ofNode s.agents node = some agent)
    (h : save s.agents (asRevoked agent now) = .error e) :
    revokeAgent s.agents node now = (.error e, s.agents) := by
  simp only [revokeAgent, hof, revoke, h]

/-- A request that is answered leaves the rows of other nodes alone; what it owes is its own row. -/
theorem Kept.next {request : Request} {answer : Except Exn Response} (h : Kept sha256 s)
    (nodes : (agents'.map AgentRow.node).Nodup)
    (others : ∀ x, x.node ≠ request.node → (x ∈ agents' ↔ x ∈ s.agents))
    (own : ∀ x ∈ agents', x.node = request.node →
      (x.status = .active ∧ ∃ token, current request.node ((request, answer) :: s.log) = some token ∧
        x.tokenHash = sha256 token) ∨
      (x.status = .revoked ∧ x.tokenHash = "" ∧
        current request.node ((request, answer) :: s.log) = none))
    (holder : ∀ token, current request.node ((request, answer) :: s.log) = some token →
      ∃ a ∈ agents', a.node = request.node)
    (distinct : ((issued ((request, answer) :: s.log)).map fun p => sha256 p.2).Nodup)
    (proper : ∀ p ∈ issued ((request, answer) :: s.log), sha256 p.2 ≠ "" ∧ p.2 ≠ "")
    (answered : ∀ e, answer ≠ .error e) : Kept sha256 ⟨agents', (request, answer) :: s.log⟩ where
  nodes := nodes
  rows x hx := by
    by_cases same : x.node = request.node
    · rw [same]
      exact own x hx same
    · rw [current_ne (Ne.symm same)]
      exact h.rows x ((others x same).mp hx)
  holder n token hcurrent := by
    by_cases same : request.node = n
    · rw [← same] at hcurrent ⊢
      exact holder token hcurrent
    · rw [current_ne same] at hcurrent
      obtain ⟨a, ha, rfl⟩ := h.holder n token hcurrent
      exact ⟨a, (others a (Ne.symm same)).mpr ha, rfl⟩
  distinct := distinct
  proper := proper
  answered r e found := by
    rcases List.mem_cons.mp found with same | old
    · exact answered e (congrArg Prod.snd same).symm
    · exact h.answered r e old

/-- A replacement leaves the other nodes' agents. -/
theorem Replaced.others (replaced : Replaced agents agents' row) (x : AgentRow)
    (h : x.node ≠ row.node) : x ∈ agents' ↔ x ∈ agents := by
  rw [replaced.mem x]
  constructor
  · rintro (⟨hx, -⟩ | rfl)
    · exact hx
    · exact absurd rfl h
  · exact fun hx => .inl ⟨hx, h⟩

/-- A replacement is the node's only agent. -/
theorem Replaced.own (replaced : Replaced agents agents' row) {x : AgentRow} (hx : x ∈ agents')
    (h : x.node = row.node) : x = row := by
  rcases (replaced.mem x).mp hx with ⟨-, other⟩ | same
  · exact absurd h other
  · exact same

/-- Registering keeps the invariant. -/
theorem Kept.registered (h : Kept sha256 s)
    (fresh : Fresh sha256 (.registerAgent node agentId secret) s)
    (replaced : Replaced s.agents agents' row) (hnode : row.node = node)
    (active : row.status = .active) (hash : row.tokenHash = sha256 (rawToken secret)) :
    Kept sha256 ⟨agents', (.registerAgent node agentId secret,
      .ok (.registered node id (rawToken secret))) :: s.log⟩ := by
  subst hnode
  refine h.next replaced.nodes replaced.others ?_ ?_ ?_ ?_ nofun
  · intro x hx same
    rw [replaced.own hx same]
    exact .inl ⟨active, _, current_self rfl, hash⟩
  · intro token _
    exact ⟨row, (replaced.mem row).mpr (.inr rfl), rfl⟩
  · refine List.nodup_cons.mpr ⟨?_, h.distinct⟩
    intro old
    obtain ⟨p, hp, same⟩ := List.mem_map.mp old
    exact fresh.2 p hp same
  · intro p hp
    rcases List.mem_cons.mp hp with rfl | old
    · exact ⟨fresh.1, by simp [rawToken, agentTokenPrefix]⟩
    · exact h.proper p old

/-- Revoking keeps the invariant. -/
theorem Kept.revoked (h : Kept sha256 s) (replaced : Replaced s.agents agents' row)
    (hnode : row.node = node) (status : row.status = .revoked) (hash : row.tokenHash = "") :
    Kept sha256 ⟨agents', (.revokeAgent node now, .ok .revoked) :: s.log⟩ := by
  subst hnode
  refine h.next replaced.nodes replaced.others ?_ ?_ h.distinct h.proper nofun
  · intro x hx same
    rw [replaced.own hx same]
    exact .inr ⟨status, hash, by simp [current]⟩
  · intro token hcurrent
    simp [current] at hcurrent

/-- So does a request about a node without agent. -/
theorem Kept.notFound {detail : String} (h : Kept sha256 s) (hof : ofNode s.agents node = none) :
    Kept sha256 ⟨s.agents, (.revokeAgent node now, .ok (.notFound detail)) :: s.log⟩ := by
  refine h.next h.nodes (fun _ _ => Iff.rfl) ?_ ?_ h.distinct h.proper nofun
  · intro x hx same
    exact absurd same (ofNode_none.mp hof x hx)
  · intro token hcurrent
    simp [current] at hcurrent

/-- `register_agent` on a revoked agent returns a token that does not authenticate. -/
theorem not_accepts_of_revoked (replaced : Replaced s.agents agents' row)
    (status : row.status ≠ .active)
    (others : ∀ a ∈ s.agents, a.tokenHash ≠ sha256 (rawToken secret)) :
    ¬ Accepts sha256 agents' node (rawToken secret) := by
  intro accepts
  obtain ⟨agent, -, connected⟩ := accepts.connection
  rw [consumer_rejects ?_ node.str] at connected
  · cases connected
  · intro b hb hash
    rcases (replaced.mem b).mp hb with ⟨old, -⟩ | rfl
    · exact absurd hash (others b old)
    · exact status

/-- A request keeps the invariant where it is healthy, and the credentials no longer behave where it
is not. -/
theorem Kept.step {request : Request} {s' : Office} (h : Kept sha256 s)
    (fresh : Fresh sha256 request s) (hstep : step sha256 request s = some s') :
    (Healthy request s → Kept sha256 s') ∧ (Behaves sha256 s' → Healthy request s) := by
  cases hstep
  cases request with
  | registerAgent node agentId secret =>
    simp only [Healthy, serve]
    cases hof : ofNode s.agents node with
    | some agent =>
      obtain ⟨agents', id, row, served, replaced, hnode, hstatus, hash⟩ := register_found h fresh hof
      rw [served]
      refine ⟨fun active => h.registered fresh replaced hnode (hstatus.trans active) hash, ?_⟩
      intro behaves
      by_contra inactive
      exact not_accepts_of_revoked replaced (hstatus ▸ inactive) (fun a ha => h.hash_ne fresh ha)
        (behaves.current node _ (current_self rfl))
    | none =>
      by_cases proper : ∀ a ∈ s.agents, a.tokenHash ≠ ""
      · obtain ⟨agents', id, row, served, replaced, hnode, active, hash⟩ :=
          register_new h fresh hof proper
        rw [served]
        exact ⟨fun _ => h.registered fresh replaced hnode active hash, fun _ => proper⟩
      · refine ⟨fun healthy => absurd healthy proper, fun behaves => ?_⟩
        simp only [not_forall, not_not] at proper
        obtain ⟨a, ha, empty⟩ := proper
        rw [register_refused hof ha empty] at behaves
        exact absurd List.mem_cons_self (behaves.answered _ _)
  | revokeAgent node now =>
    simp only [Healthy, serve]
    cases hof : ofNode s.agents node with
    | none =>
      have served : revokeAgent s.agents node now =
          (.ok (.notFound "No agent registered for this node."), s.agents) := by
        simp only [revokeAgent, hof]
      rw [served]
      exact ⟨fun _ => h.notFound hof, fun _ => .inl rfl⟩
    | some agent =>
      obtain ⟨hagent, hnode⟩ := ofNode_some hof
      cases saved : save s.agents (asRevoked agent now) with
      | ok agents' =>
        have apart : ∀ a ∈ s.agents, a.node ≠ node → a.tokenHash ≠ "" := by
          intro a ha other empty
          obtain ⟨e, failed⟩ : ∃ e, save s.agents (asRevoked agent now) = .error e :=
            save_error.mpr ⟨a, ha, fun same => other (same.trans hnode), empty⟩
          rw [failed] at saved
          cases saved
        have replaced : Replaced s.agents agents' (asRevoked agent now) :=
          .of_save h.nodes ⟨agent, hagent, rfl⟩ saved
        rw [revoke_ok hof saved]
        exact ⟨fun _ => h.revoked replaced hnode rfl rfl, fun _ => .inr apart⟩
      | error e =>
        obtain ⟨a, ha, other, empty⟩ := save_error.mp ⟨e, saved⟩
        rw [revoke_refused hof saved]
        refine ⟨fun healthy => ?_, fun behaves => absurd List.mem_cons_self (behaves.answered _ _)⟩
        rcases healthy with none | apart
        · cases none
        · exact absurd empty (apart a ha fun same => other (same.trans hnode.symm))

end Steps

/-! ## All the requests -/

/-- **When agent credentials behave.** Over any nodes and any sequence of `register_agent` and
`revoke_agent` requests that draw tokens with hashes of their own: at every time no request has
failed, the token that a node was given last, if it was not revoked since, authenticates both ways,
and no other token of the node does, if and only if every request was healthy. -/
theorem credentials_behave_iff (sha256 : String → String) (ls : List Request)
    (fresh : Along (step sha256) (Fresh sha256) ls {}) :
    (∀ s ∈ visited (step sha256) ls {}, Behaves sha256 s) ↔
      Along (step sha256) Healthy ls {} := by
  have first : Kept sha256 {} :=
    ⟨List.nodup_nil, nofun, nofun, List.nodup_nil, nofun, fun _ _ => List.not_mem_nil⟩
  exact visited_iff (fun _ h => h.behaves) (fun _ _ _ h fresh hs => h.step fresh hs)
    (fun _ _ none => nomatch none) first fresh

/-- Two nodes are registered, one again, and the other is revoked. -/
def rotated : List Request :=
  [.registerAgent ⟨1⟩ ⟨11⟩ "a", .registerAgent ⟨2⟩ ⟨12⟩ "b", .registerAgent ⟨1⟩ ⟨13⟩ "c",
    .revokeAgent ⟨2⟩ 5]

theorem credentials_behave_rotated :
    Along (step id) (Fresh id) rotated {} ∧ Along (step id) Healthy rotated {} ∧
      ∀ s ∈ visited (step id) rotated {}, Behaves id s := by
  have fresh : Along (step id) (Fresh id) rotated {} := by decide
  have healthy : Along (step id) Healthy rotated {} := by decide
  exact ⟨fresh, healthy, (credentials_behave_iff id rotated fresh).mpr healthy⟩

/-- Both agents of two nodes are revoked. -/
def revokedTwice : List Request :=
  [.registerAgent ⟨1⟩ ⟨11⟩ "a", .registerAgent ⟨2⟩ ⟨12⟩ "b", .revokeAgent ⟨1⟩ 5, .revokeAgent ⟨2⟩ 6]

/-- The agent of a node is revoked and registered again. -/
def registeredAgain : List Request :=
  [.registerAgent ⟨1⟩ ⟨11⟩ "a", .revokeAgent ⟨1⟩ 5, .registerAgent ⟨1⟩ ⟨12⟩ "b"]

/-- The second revocation fails with a database error, and the token of a second registration does
not authenticate. -/
theorem credentials_misbehave :
    (Along (step id) (Fresh id) revokedTwice {} ∧
      ∃ s ∈ visited (step id) revokedTwice {},
        (.revokeAgent ⟨2⟩ 6, .error (.integrityError "agents_token_hash_key")) ∈ s.log ∧
          ¬ Behaves id s) ∧
    Along (step id) (Fresh id) registeredAgain {} ∧
      ∃ s ∈ visited (step id) registeredAgain {}, current ⟨1⟩ s.log = some "npa_b" ∧
        authenticate id s.agents ["Agent", "npa_b"] =
          .error "Agent is REVOKED and may not connect." ∧
        consumerAuthenticate id s.agents (Uuid.str ⟨1⟩) (some "npa_b") = none ∧ ¬ Behaves id s := by
  refine ⟨⟨by decide, _, List.mem_of_getElem? (i := 4) rfl, ?_⟩, by decide, _,
    List.mem_of_getElem? (i := 3) rfl, rfl, rfl, rfl, ?_⟩
  · exact ⟨List.mem_cons_self, fun behaves => absurd List.mem_cons_self (behaves.answered _ _)⟩
  · intro behaves
    obtain ⟨agent, -, h⟩ := (behaves.current ⟨1⟩ "npa_b" rfl).heartbeat
    cases h

end NodePilot.Agents
