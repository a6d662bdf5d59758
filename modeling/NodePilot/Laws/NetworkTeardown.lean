import NodePilot.Laws.Accepted
import NodePilot.Laws.Footprints
import NodePilot.Laws.VlanIsolation

/-!
# Deleting a network

`delete_network_task` sends DELETE_NETWORK without a look at the other rows; that NICs refer to the
network is noticed by the database, after the agent has removed the bridge. `spared_always` says when
a deletion leaves the other networks of the node alone all the same, and when one that fails has left
the network's own bridges in place.
-/

namespace NodePilot.Networks

open Lib Lib.Script Agent

/-! ## What a deletion may do -/

/-- The links that DELETE_NETWORK of the row removes. -/
def tornDown (net : NetworkRow) : List Text :=
  if net.vlanId = none then [net.bridge.toList] else vlanLinks net

/-- The other networks of the node. -/
def others (t : Tables) (net : NetworkRow) : List NetworkRow :=
  t.networks.filter fun other => other.node = net.node ∧ other.pk ≠ net.pk

/-- The bridge or the parent bridge of the network, or its dedicated bridge. -/
def Uses (net : NetworkRow) (name : Text) : Prop := name = net.bridge.toList ∨ name = attachBridge net

instance (net : NetworkRow) (name : Text) : Decidable (Uses net name) :=
  inferInstanceAs (Decidable (_ ∨ _))

/-- What has to hold of one execution of `delete_network_task` for the network `net`, that ends with
`links` on the host. -/
structure Spared (x : Execution) (s : State) (net : NetworkRow) (links : Links) : Prop where
  /-- No NIC refers to a network that DELETE_NETWORK is sent for. -/
  unused : (∃ c ∈ (x.run .deleteNetwork s).2.exchanges, c.1.operation = .deleteNetwork ∧ c.2.sent) →
    ∀ nic ∈ s.db.nics, nic.network ≠ net.pk
  /-- No link that is removed is one of another network. -/
  apart : ∀ l ∈ s.links net.node, ¬ links.present l.name →
    ∀ other ∈ others s.db net, ¬ Uses other l.name
  /-- Where the task raises, the network has its bridges. -/
  kept : (x.run .deleteNetwork s).1.isOk = false →
    links.hasBridge net.bridge.toList ∧ links.hasBridge (attachBridge net)

instance (x : Execution) (s : State) (net : NetworkRow) (links : Links) :
    Decidable (Spared x s net links) :=
  decidable_of_iff
    (((∃ c ∈ (x.run .deleteNetwork s).2.exchanges, c.1.operation = .deleteNetwork ∧ c.2.sent) →
        ∀ nic ∈ s.db.nics, nic.network ≠ net.pk) ∧
      (∀ l ∈ s.links net.node, ¬ links.present l.name →
        ∀ other ∈ others s.db net, ¬ Uses other l.name) ∧
      ((x.run .deleteNetwork s).1.isOk = false →
        links.hasBridge net.bridge.toList ∧ links.hasBridge (attachBridge net)))
    ⟨fun h => ⟨h.1, h.2.1, h.2.2⟩, fun h => ⟨h.unused, h.apart, h.kept⟩⟩

/-- A deletion spares the other networks, and its own where it fails. -/
def spares : Event → State → Prop
  | .delete x, s => ∀ net ∈ Table.get s.db.networks x.network,
      ∀ links ∈ x.serveAll (x.run .deleteNetwork s).2.exchanges (s.links net.node),
        Spared x s net links
  | _, _ => True

instance : (e : Event) → (s : State) → Decidable (spares e s)
  | .delete x, s => inferInstanceAs (Decidable (∀ net ∈ Table.get s.db.networks x.network,
      ∀ links ∈ x.serveAll (x.run .deleteNetwork s).2.exchanges (s.links net.node),
        Spared x s net links))
  | .request _ _, _ | .create _, _ | .elsewhere _, _ => isTrue trivial

/-! ## When it does -/

/-- Nothing disturbs the execution: no statement is rejected, no answer of an agent that has done
its work is lost, and no `ip` command runs into its timeout. -/
structure Undisturbed (x : Execution) : Prop where
  accepted : ∀ i, (x.script i).dbFails = false
  answered : ∀ i, (x.script i).agent.performed → (x.script i).agent.confirmed
  timely : ∀ i, (x.ip i).timesOut = none

/-- The deletions of a run are not disturbed. -/
def undisturbed : Event → Prop
  | .delete x => Undisturbed x
  | _ => True

/-- Links are looked up by their names. -/
local instance lawfulNames : LawfulBEq Text := inferInstance

/-- Nothing stands or falls with the network. -/
structure Unshared (t : Tables) (links : Links) (net : NetworkRow) : Prop where
  /-- No NIC refers to it. -/
  unused : ∀ nic ∈ t.nics, nic.network ≠ net.pk
  /-- No other network of the node has a link of this one for its bridge. -/
  bridge : ∀ other ∈ others t net, other.bridge.toList ∉ tornDown net
  /-- Without a VLAN, no dedicated bridge of another network is called like its bridge. -/
  plain : net.vlanId = none → ∀ other ∈ others t net, ∀ v ∈ other.vlanId,
    net.bridge.toList ≠ dedicated other.bridge.toList v
  /-- No link that is stacked on its links is called like a bridge of another network. -/
  alone : ∀ name ∈ Links.stackedOn (tornDown net) links, name ∉ tornDown net →
    ∀ other ∈ others t net, ¬ Uses other name
  /-- Its bridges are on the host. -/
  present : links.hasBridge net.bridge.toList ∧ links.hasBridge (attachBridge net)

instance (t : Tables) (links : Links) (net : NetworkRow) : Decidable (Unshared t links net) :=
  decidable_of_iff
    ((∀ nic ∈ t.nics, nic.network ≠ net.pk) ∧
      (∀ other ∈ others t net, other.bridge.toList ∉ tornDown net) ∧
      (net.vlanId = none → ∀ other ∈ others t net, ∀ v ∈ other.vlanId,
        net.bridge.toList ≠ dedicated other.bridge.toList v) ∧
      (∀ name ∈ Links.stackedOn (tornDown net) links, name ∉ tornDown net →
        ∀ other ∈ others t net, ¬ Uses other name) ∧
      links.hasBridge net.bridge.toList ∧ links.hasBridge (attachBridge net))
    ⟨fun h => ⟨h.1, h.2.1, h.2.2.1, h.2.2.2.1, h.2.2.2.2⟩,
      fun h => ⟨h.unused, h.bridge, h.plain, h.alone, h.present⟩⟩

/-- The condition on a deletion: its job has not ended, and its network is unshared. -/
def careful : Event → State → Prop
  | .delete x, s => (∃ job ∈ Table.get s.db.jobs x.jobId, job.status.pending) ∧
      ∀ net ∈ Table.get s.db.networks x.network, Unshared s.db (s.links net.node) net
  | _, _ => True

instance : (e : Event) → (s : State) → Decidable (careful e s)
  | .delete x, s => inferInstanceAs (Decidable
      ((∃ job ∈ Table.get s.db.jobs x.jobId, job.status.pending) ∧
        ∀ net ∈ Table.get s.db.networks x.network, Unshared s.db (s.links net.node) net))
  | .request _ _, _ | .create _, _ | .elsewhere _, _ => isTrue trivial

/-! ## The rows -/

/-- The rows that the API leaves: accepted ones, and no two VLAN rows on one bridge with one VLAN. -/
structure Kept (networks : List NetworkRow) : Prop where
  accepted : ∀ net ∈ networks, Accepted net
  unique : ∀ a ∈ networks, ∀ b ∈ networks, a.pk ≠ b.pk → a.node = b.node → a.vlanId ≠ none →
    (a.bridge, a.vlanId) ≠ (b.bridge, b.vlanId)

theorem Kept.nil : Kept [] := ⟨by simp, by simp⟩

/-- A row that is accepted among the others joins them. -/
theorem Kept.append {networks : List NetworkRow} {row : NetworkRow} (h : Kept networks)
    (accepted : Accepted row)
    (unique : uniqueTogether networks row.node row.bridge.toList row.vlanId) :
    Kept (networks ++ [row]) := by
  have differ (a : NetworkRow) (ha : a ∈ networks) (node : a.node = row.node)
      (vlan : row.vlanId ≠ none) : (a.bridge, a.vlanId) ≠ (row.bridge, row.vlanId) := by
    intro same
    obtain ⟨bridge, vlanId⟩ := Prod.mk.inj same
    rcases of_decide_eq_true unique with none | all
    · exact vlan none
    · have := List.all_eq_true.mp all a ha
      simp [node, bridge, vlanId] at this
  refine ⟨fun net hnet => ?_, fun a ha b hb keys node vlan => ?_⟩
  · rcases List.mem_append.mp hnet with old | new
    · exact h.accepted net old
    · rw [List.mem_singleton.mp new]
      exact accepted
  · rcases List.mem_append.mp ha with olda | newa <;> rcases List.mem_append.mp hb with oldb | newb
    · exact h.unique a olda b oldb keys node vlan
    · rw [List.mem_singleton.mp newb] at node ⊢
      by_cases none : row.vlanId = none
      · exact fun same => vlan ((Prod.mk.inj same).2.trans none)
      · exact differ a olda node none
    · rw [List.mem_singleton.mp newa] at node vlan ⊢
      exact (differ b oldb node.symm vlan).symm
    · rw [List.mem_singleton.mp newa, List.mem_singleton.mp newb] at keys
      exact absurd rfl keys

theorem Kept.sublist {networks networks' : List NetworkRow} (h : Kept networks)
    (sub : networks' ⊆ networks) : Kept networks' :=
  ⟨fun net hnet => h.accepted net (sub hnet),
    fun a ha b hb => h.unique a (sub ha) b (sub hb)⟩

theorem Kept.status {networks : List NetworkRow} (h : Kept networks) (pk : Nat)
    (status : NetworkStatus) :
    Kept (Table.modify networks pk fun r => { r with status := status }) := by
  have old {net : NetworkRow}
      (mem : net ∈ Table.modify networks pk fun r => { r with status := status }) :
      ∃ r ∈ networks, net.pk = r.pk ∧ net.node = r.node ∧ net.bridge = r.bridge ∧
        net.vlanId = r.vlanId := by
    obtain ⟨r, hr, rfl | rfl⟩ := Table.mem_modify mem
    · exact ⟨net, hr, rfl, rfl, rfl, rfl⟩
    · exact ⟨r, hr, rfl, rfl, rfl, rfl⟩
  refine ⟨fun net hnet => ?_, fun a ha b hb keys node vlan => ?_⟩
  · obtain ⟨r, hr, -, node, bridge, vlan⟩ := old hnet
    obtain ⟨rows, data, hnode, valid⟩ := h.accepted r hr
    exact ⟨rows, data, hnode.trans node.symm, by rw [valid, bridge, vlan]⟩
  · obtain ⟨r, hr, key, hnode, bridge, hvlan⟩ := old ha
    obtain ⟨r', hr', key', hnode', bridge', hvlan'⟩ := old hb
    rw [bridge, hvlan, bridge', hvlan']
    exact h.unique r hr r' hr' (by rwa [← key, ← key']) (by rw [← hnode, ← hnode', node])
      (hvlan ▸ vlan)

/-- The writes of the network tasks. -/
def onNetworks : Write → Prop
  | .networkStatus _ _ | .networkDelete _ => True
  | _ => False

theorem Kept.write {x : Write} {now : Nat} {uuid : Uuid} {t t' : Tables} (hx : onNetworks x)
    (h : Kept t.networks) (written : t.write now uuid x = .ok t') : Kept t'.networks := by
  cases x with
  | networkStatus network status =>
    obtain ⟨rows, hrows, rfl⟩ := except_bind_ok written
    rw [saveRow_ok hrows]
    exact h.status network status
  | networkDelete network =>
    simp only [Tables.write] at written
    split at written
    · cases written
    · cases written
      exact h.sublist (List.filter_subset_self _)
  | _ => cases hx

/-- The rows after a task. -/
theorem Kept.execute {x : Execution} {s : State} {task : Nat → Task}
    (network : task = .createNetwork ∨ task = .deleteNetwork) (h : Kept s.db.networks) :
    Kept (x.run task s).2.db.networks := by
  have keeps : Obeys (answersIn (fun t => Kept t.networks) fun _ => True)
      (Op.within (fun _ => True) onNetworks False) (fun _ => True) ((task x.network).body x.jobId) := by
    rcases network with rfl | rfl
    · exact routine_within.createNetworkTask (fun _ => trivial) fun _ _ => .inr trivial
    · exact routine_within.deleteNetworkTask (fun _ => trivial) (fun _ _ => .inr trivial)
        fun _ => .inr trivial
  have start : Within (fun t => Kept t.networks) (fun _ => True) x.script
      { db := s.db, script := x.script } :=
    ⟨h, fun _ _ _ mem => (List.not_mem_nil mem).elim, rfl⟩
  exact (execute_within (fun _ _ _ _ _ hx ht written => Kept.write hx ht written)
    (fun _ _ _ _ _ never => never.elim) x.taskId keeps start).tables

theorem step_db {x : Execution} {task : Nat → Task} {s s' : State} (h : x.step task s = some s') :
    s'.db = (x.run task s).2.db := by
  unfold Execution.step at h
  dsimp only [bind, Option.bind] at h
  split at h
  · cases h
    rfl
  · split at h
    · cases h
    · cases h
      rfl

/-- The request leaves the rows as they were or adds the accepted one. -/
theorem Kept.step {e : Event} {s s' : State} (h : Kept s.db.networks) (next : step e s = some s') :
    Kept s'.db.networks := by
  cases e with
  | request uuid data =>
    dsimp only [Networks.step] at next
    split at next
    · next db created =>
      obtain ⟨⟨bridge, vlanId⟩, valid, done⟩ := bind_eq_ok created
      cases done
      cases next
      have text : (String.ofList bridge).toList = bridge := String.toList_ofList
      refine h.append ⟨s.db.networks, data, rfl, ?_⟩ ?_
      · rw [text, valid]
      · rw [text]
        exact (isValid_ok valid).2.1
    · cases next
      exact h
  | create x => exact step_db next ▸ h.execute (.inl rfl)
  | delete x => exact step_db next ▸ h.execute (.inr rfl)
  | elsewhere db =>
    cases next
    exact h

/-! ## One deletion -/

/-- What a deletion has come to: nothing was sent, or DELETE_NETWORK once. -/
def Sent (script : Nat → Choice) (net : NetworkRow) (calls : Exchanges) : Prop :=
  calls = [] ∨ ∃ i, (script i).agent.confirmed = false ∧
    calls = [(networkRequest .deleteNetwork net, (script i).agent)]

section Deletion

variable {script : Nat → Choice} {job : Nat} {rows : Tables} {net : NetworkRow}

/-- **A deletion that nothing disturbs raises only where the agent has not confirmed.** -/
theorem deleteNetworkTask_ends (accepted : ∀ i, (script i).dbFails = false)
    (found : Table.get rows.networks net.pk = some net)
    (unused : ∀ nic ∈ rows.nics, nic.network ≠ net.pk) :
    Triple World.handle (fun _ => At ⟨script, job, []⟩ JobStatus.pending rows [])
      (deleteNetworkTask job net.pk : TaskM Unit Unit)
      (fun _ _ w => ∃ data, w.exchanges = [(networkRequest .deleteNetwork net, .ok data)])
      (fun _ _ => Ends ⟨script, job, []⟩ JobStatus.unsettled fun _ calls => Sent script net calls) := by
  refine Triple.bind (triple_getJob enduring_pending) fun j => ?_
  rintro l w ⟨hj, -, h⟩
  refine (Triple.bind (triple_getRow (fun t => Table.get t.networks net.pk) (a := net)
    enduring_loaded ?_) fun net' => ?_) l w h
  · rintro t rfl
    exact found
  rintro l w ⟨rfl, h⟩
  refine (Triple.tryCatch (P := fun _ => At ⟨script, job, []⟩ (fun s => s.pending ∧ j.status.since s) rows [])
    (R := fun _ _ => Ends ⟨script, job, []⟩ JobStatus.unsettled fun _ calls => Sent script net' calls)
    ?_ fun exc => ?_) l w h
  · refine Triple.bind (triple_jobRun accepted hj (K := fun _ calls => Sent script net' calls)
      (Q := fun _ rows' calls => rows' = rows ∧
        ∃ data, calls = [(networkRequest .deleteNetwork net', .ok data)]) (.inl rfl) ?_) fun _ => ?_
    · refine Triple.bind ((triple_send enduring_underway).conseq (fun _ _ => id) (fun _ _ _ => id) ?_)
        fun data => Triple.pure ?_
      · rintro e l w ⟨he, i, lost, h⟩
        exact ⟨Exn.plain_of_operation he, h.ends (.inr ⟨i, lost, rfl⟩)⟩
      · rintro l w ⟨i, -, h⟩
        exact h.ends ⟨rfl, data, rfl⟩
    · refine triple_ends fun rows' calls hK => ?_
      obtain ⟨rfl, data, rfl⟩ := hK
      refine Triple.bind (triple_saveRows accepted enduring_underway rfl (K := fun _ => True) ?_)
        fun _ => triple_ends fun rows'' calls' hK' => ?_
      · intro now uuid
        refine ⟨_, if_neg ?_, trivial⟩
        simpa using unused
      · obtain ⟨-, rfl⟩ := hK'
        refine Triple.bind (triple_transition accepted hj enduring_underway ?_) fun _ => ?_
        · rintro s (rfl | rfl) <;> exact .inl (by decide)
        · exact (triple_swallow_emit (enduring_terminal rfl)).conseq (fun _ _ => id)
            (fun _ _ _ h => ⟨data, h.calls⟩) fun _ _ _ => id
  · refine Triple.bind (triple_ends fun rows' calls hK => ?_) fun _ =>
      (triple_failAndRaise accepted hj).conseq (fun _ _ => id) (fun _ _ _ => id) fun _ _ _ h =>
        h.mono (fun _ hs => .inr hs) fun _ _ => id
    refine (triple_saveRows_or enduring_unsettled rfl (K := fun _ => True)
      fun _ _ _ _ => trivial).conseq (fun _ _ => id) ?_ ?_
    · rintro - l w h
      exact h.mono (fun _ => id) fun _ _ hK' => hK'.2 ▸ hK
    · exact fun e l w h => h.2.ends hK

end Deletion

/-! ## The host -/

section Host

variable {net : NetworkRow}

theorem Accepted.delete_eq (h : Accepted net) :
    Agent.deleteNetwork (networkRequest .deleteNetwork net).payload =
      match net.vlanId with
      | some v => teardownVlanNetwork net.bridge.toList v
      | none => deleteBridge net.bridge.toList := by
  have vlan := h.vlanIdOf .deleteNetwork
  unfold Agent.deleteNetwork
  rw [vlan]
  cases net.vlanId <;> rfl

theorem Accepted.removes (h : Accepted net) :
    Obeys (fun _ _ => True) (Removes (tornDown net)) (fun _ => True)
      (Agent.deleteNetwork (networkRequest .deleteNetwork net).payload) := by
  rw [h.delete_eq]
  cases hv : net.vlanId with
  | none => exact removes_deleteBridge (by simp [tornDown, hv])
  | some v =>
    refine removes_teardownVlanNetwork ?_ ?_
    · simp [tornDown, vlanLinks, hv, Networks.uplink]
    · simp [tornDown, vlanLinks, hv, Networks.uplink, Networks.dedicated]

theorem Accepted.whole (h : Accepted net) {links : Links} :
    Whole links (Agent.deleteNetwork (networkRequest .deleteNetwork net).payload) := by
  rw [h.delete_eq]
  cases hv : net.vlanId with
  | none => exact whole_deleteBridge
  | some v =>
    have valid : vlanInterfaceName net.bridge.toList v =
        .ok (Networks.uplink net.bridge.toList v) := by
      rw [vlanInterfaceName, validateIface]
      exact if_pos (plainName_iff.mp (h.uplink hv)).1
    exact whole_teardownVlanNetwork valid

variable {x : Execution} {links links' : Links} {o : AgentOutcome}

/-- Whatever becomes of DELETE_NETWORK, no other links go than the network's and what is stacked on
them. -/
theorem Accepted.serve (h : Accepted net)
    (served : x.serve links (networkRequest .deleteNetwork net) o = some links') :
    Shrunk (tornDown net) links links' := by
  have ran := Removes.shrunk h.removes ⟨links, x.ip, 0⟩
  have refl : Shrunk (tornDown net) links links :=
    ⟨List.Sublist.refl _, fun _ hl gone => absurd hl gone⟩
  have ended {r : Except AgentError Unit} {host : Host}
      (run : Host.execute (handler (networkRequest .deleteNetwork net)) ⟨links, x.ip, 0⟩ =
        (r, host)) : Shrunk (tornDown net) links host.links := by
    have : host = _ := (congrArg Prod.snd run).symm
    exact this ▸ ran
  unfold Execution.serve at served
  split at served
  case h_1 | h_2 | h_3 => exact Option.some.inj served ▸ refl
  case h_4 => exact Option.some.inj served ▸ ran
  case h_5 =>
    split at served
    · split at served
      · next run => exact Option.some.inj served ▸ ended run
      · cases served
    · exact Option.some.inj served ▸ refl
  case h_6 =>
    split at served
    · next run => exact Option.some.inj served ▸ ended run
    · cases served

/-- Without a confirmation the links are as they were, where nothing runs into a timeout. -/
theorem Accepted.serve_unconfirmed (h : Accepted net) (timely : ∀ i, (x.ip i).timesOut = none)
    (unconfirmed : o.confirmed = false) (answered : o.performed → o.confirmed)
    (served : x.serve links (networkRequest .deleteNetwork net) o = some links') : links' = links := by
  unfold Execution.serve at served
  split at served
  case h_1 | h_2 | h_3 => exact (Option.some.inj served).symm
  case h_4 => cases answered rfl
  case h_5 =>
    split at served
    · split at served
      · next run => exact Option.some.inj served ▸ h.whole.raises timely run
      · cases served
    · exact (Option.some.inj served).symm
  case h_6 => cases unconfirmed

end Host

/-! ## Runs -/

section Run

variable {x : Execution} {s : State} {net : NetworkRow} {links : Links}

theorem deletion_ends (h : Undisturbed x)
    (live : ∃ job ∈ Table.get s.db.jobs x.jobId, job.status.pending)
    (found : Table.get s.db.networks x.network = some net)
    (unused : ∀ nic ∈ s.db.nics, nic.network ≠ net.pk) :
    ((x.run .deleteNetwork s).1.isOk = true ∧ ∃ data,
      (x.run .deleteNetwork s).2.exchanges = [(networkRequest .deleteNetwork net, .ok data)]) ∨
    Sent x.script net (x.run .deleteNetwork s).2.exchanges := by
  have key : x.network = net.pk := (Table.pk_of_get found).symm
  have start : At ⟨x.script, x.jobId, []⟩ JobStatus.pending s.db.settled []
      { db := s.db, script := x.script } := ⟨rfl, rfl, live, rfl, rfl⟩
  have row : Table.get s.db.settled.networks net.pk = some net := key ▸ found
  have ends := triple_jobBound h.accepted x.taskId enduring_pending
    (deleteNetworkTask_ends h.accepted row unused) () _ start
  unfold Execution.run
  rw [key]
  simp only [Task.run, Task.body]
  generalize exec World.handle (jobBound x.taskId x.jobId (deleteNetworkTask x.jobId net.pk)) ()
    { db := s.db, script := x.script } = r at ends ⊢
  obtain ⟨outcome, l, w⟩ := r
  cases outcome with
  | ok => exact .inl ⟨rfl, ends⟩
  | error e =>
    obtain ⟨rows, calls, sent, stands⟩ := ends
    exact .inr (stands.calls ▸ sent)

/-- The links after the execution, whatever it has come to. -/
theorem deletion_shrunk (accepted : Accepted net)
    (ends : (∃ data, (x.run .deleteNetwork s).2.exchanges =
        [(networkRequest .deleteNetwork net, .ok data)]) ∨
      Sent x.script net (x.run .deleteNetwork s).2.exchanges)
    (served : x.serveAll (x.run .deleteNetwork s).2.exchanges (s.links net.node) = some links) :
    Shrunk (tornDown net) (s.links net.node) links := by
  have one {o : AgentOutcome} (served : x.serveAll [(networkRequest .deleteNetwork net, o)]
      (s.links net.node) = some links) : Shrunk (tornDown net) (s.links net.node) links := by
    obtain ⟨links', first, rest⟩ := Option.bind_eq_some_iff.mp served
    cases rest
    exact accepted.serve first
  rcases ends with ⟨data, calls⟩ | calls | ⟨i, -, calls⟩
  · exact one (calls ▸ served)
  · rw [calls] at served
    cases served
    exact ⟨List.Sublist.refl _, fun _ hl gone => absurd hl gone⟩
  · exact one (calls ▸ served)

/-- Two VLAN rows that are kept share no name. -/
theorem not_uses_tornDown (kept : Kept s.db.networks) (mem : net ∈ s.db.networks)
    (unshared : Unshared s.db (s.links net.node) net) {other : NetworkRow}
    (isOther : other ∈ others s.db net) {name : Text} (hname : name ∈ tornDown net) :
    ¬ Uses other name := by
  have facts := List.mem_filter.mp isOther
  have beside : other.node = net.node ∧ other.pk ≠ net.pk := by simpa using facts.2
  rintro (rfl | rfl)
  · exact unshared.bridge other isOther hname
  · rcases attachBridge_eq_or_mem other with ⟨-, same⟩ | vlan
    · exact unshared.bridge other isOther (same ▸ hname)
    · by_cases plain : net.vlanId = none
      · have bridge : attachBridge other = net.bridge.toList := by simpa [tornDown, plain] using hname
        cases hv : other.vlanId with
        | none => simp [vlanLinks, hv] at vlan
        | some v =>
          refine unshared.plain plain other isOther v hv (bridge.symm.trans ?_)
          simp [attachBridge, hv]
      · have differ := kept.unique net mem other facts.1 (Ne.symm beside.2) beside.1.symm plain
        rw [tornDown, if_neg plain] at hname
        exact vlanLinks_disjoint differ hname vlan

theorem spares_of_careful {e : Event} (kept : Kept s.db.networks) (calm : undisturbed e)
    (h : careful e s) : spares e s := by
  cases e with
  | request | create | elsewhere => trivial
  | delete x =>
    intro net found links served
    obtain ⟨live, unshared⟩ := h
    have unshared := unshared net found
    have mem : net ∈ s.db.networks := Table.mem_of_get found
    have ends := deletion_ends calm live found unshared.unused
    have shrunk := deletion_shrunk (kept.accepted net mem) (ends.imp (fun h => h.2) id) served
    refine ⟨fun _ => unshared.unused, fun l hl gone other isOther => ?_, fun raised => ?_⟩
    · have gone' : l ∉ links := fun there =>
        gone (List.any_eq_true.mpr ⟨l, there, decide_eq_true rfl⟩)
      by_cases own : l.name ∈ tornDown net
      · exact not_uses_tornDown kept mem unshared isOther own
      · exact unshared.alone _ (shrunk.gone l hl gone') own other isOther
    · rcases ends with ⟨returned, -⟩ | calls | ⟨i, unconfirmed, calls⟩
      · rw [returned] at raised
        cases raised
      · rw [calls] at served
        cases served
        exact unshared.present
      · rw [calls] at served
        obtain ⟨links', first, rest⟩ := Option.bind_eq_some_iff.mp served
        cases rest
        have same := (kept.accepted net mem).serve_unconfirmed calm.timely unconfirmed
          (calm.answered i) first
        exact same ▸ unshared.present

end Run

/-- **In every run whose deletions are undisturbed and careful, each of them spares the other
networks, and its own where it fails.** -/
theorem spared_always (s : State) (start : s.db.networks = []) (events : List Event)
    (calm : ∀ e ∈ events, undisturbed e) (h : Along step careful events s) :
    Along step spares events s :=
  (h.and (Along.of_forall (C := fun e _ => undisturbed e) (fun e he _ => calm e he) s)).implies
    (I := fun s => Kept s.db.networks) (fun _ _ _ kept _ next => kept.step next)
    (fun _ _ kept both => spares_of_careful kept both.2 both.1) (start ▸ Kept.nil)

/-! ## Two runs -/

/-- A node without links, and four queued jobs. -/
def node : State where
  db := { nodes := [⟨1, "node-1"⟩]
          jobs := [{ pk := 1, uuid := ⟨1⟩, type := .networkCreate },
            { pk := 2, uuid := ⟨2⟩, type := .networkCreate },
            { pk := 3, uuid := ⟨3⟩, type := .networkDelete }] }
  links := fun _ => []

/-- Two networks are created, and the first one is deleted again. -/
def deleteFirst (first second : NetworkData) : List Event :=
  [.request ⟨11⟩ first, .request ⟨12⟩ second, .create { jobId := 1, network := 1 },
    .create { jobId := 2, network := 2 }, .delete { jobId := 3, network := 1 }]

/-- Of two VLANs on one bridge, the first is deleted. -/
theorem spared_always_vlans :
    Along step spares (deleteFirst ⟨1, "red", "vmbr0".toList, some 120⟩
      ⟨1, "blue", "vmbr0".toList, some 200⟩) node := by
  refine spared_always node rfl _ ?_ (by decide +kernel)
  intro e he
  simp only [deleteFirst, List.mem_cons, List.not_mem_nil, or_false] at he
  rcases he with rfl | rfl | rfl | rfl | rfl
  case inr.inr.inr.inr => exact ⟨fun _ => rfl, fun _ _ => rfl, fun _ => rfl⟩
  all_goals trivial

/-- Of a bridge and a VLAN on it, the bridge is deleted. -/
theorem parent_deleted :
    ¬ ∀ s : State, s.db.networks = [] → ∀ events, Along step spares events s := by
  intro spared
  have run := spared node rfl (deleteFirst ⟨1, "red", "vmbr0".toList, none⟩
    ⟨1, "blue", "vmbr0".toList, some 120⟩)
  exact absurd run (by decide +kernel)

end NodePilot.Networks
