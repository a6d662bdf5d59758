import NodePilot.Effects
import NodePilot.Lib.Pool
import NodePilot.Lib.Transaction

/-!
# Events and webhook deliveries

`emit_event` (`apps/events/services.py`), `dispatch_event` (`apps/webhooks/services.py`) and the start of
`deliver_webhook`. An event goes to every enabled webhook of its organization that subscribes to it: one
`WebhookDelivery` row and one task each. A row that is written in a transaction is seen by others when the
transaction commits; a task is in the queue as soon as it is enqueued, whatever becomes of the
transaction.

A caller of `emit_event` is any nesting of emissions, other statements, `atomic` blocks and handlers that
drop an exception. The broadcast to the event stream touches neither the database nor the queue and is
left out.
-/

namespace NodePilot.Webhooks

open Lib

/-! ## Rows -/

/-- `Webhook` -/
structure Webhook where
  pk : Nat
  organization : Nat
  events : List String := []
  enabled : Bool := true
deriving DecidableEq

/-- `Webhook.subscribes_to` -/
def Webhook.subscribesTo (w : Webhook) (eventType : String) : Bool :=
  w.enabled ∧ ("*" ∈ w.events ∨ eventType ∈ w.events)

/-- `WebhookDelivery`, when it is created. -/
structure Delivery where
  pk : Nat
  webhook : Nat
  eventType : String
  payload : Dict

/-- `_webhook_event_type`: lower case, and a dot for the first underscore. -/
def webhookEventType (rawType : String) : String :=
  let lowered := rawType.toList.map Char.toLower
  if '_' ∈ lowered then
    String.ofList (lowered.takeWhile (· ≠ '_') ++ '.' :: (lowered.dropWhile (· ≠ '_')).drop 1)
  else String.ofList lowered

/-! ## Statements -/

inductive Exn
  | databaseError
  /-- The broker does not take the task. -/
  | operationalError
deriving DecidableEq

inductive HookOp
  /-- The beginning of an `atomic` block. -/
  | enter
  /-- The end of an `atomic` block: the commit, for the outermost. -/
  | leave
  /-- An exception has left an `atomic` block. -/
  | rollback
  /-- `Event.objects.create(...)` -/
  | createEvent (organization : Nat) (event : Event)
  /-- `Webhook.objects.filter(organization=organization, enabled=True)` -/
  | webhooks (organization : Nat)
  /-- `WebhookDelivery.objects.create(...)` -/
  | createDelivery (webhook : Nat) (eventType : String) (payload : Dict)
  /-- `deliver_webhook.delay(delivery.pk)` -/
  | delay (delivery : Nat)
  /-- Any other statement of the caller. -/
  | other

@[reducible]
def HookAns : HookOp → Type
  | .enter | .rollback => Unit
  | .webhooks _ => List Webhook
  | .createDelivery _ _ _ => Except Exn Nat
  | .leave | .createEvent _ _ | .delay _ | .other => Except Exn Unit

abbrev HookM (α : Type) : Type := Script HookOp HookAns Exn Unit α

/-- A statement that may raise. -/
def statement {α : Type} (x : HookM (Except Exn α)) : HookM α := do
  match ← x with
  | .ok a => return a
  | .error e => throw e

/-! ## Services -/

/-- The first loop of `dispatch_event`. -/
def createDeliveries (eventType : String) (payload : Dict) : List Webhook → HookM (List Nat)
  | [] => return []
  | webhook :: rest =>
    if webhook.subscribesTo eventType then do
      let delivery ← statement (Script.perform (HookOp.createDelivery webhook.pk eventType payload))
      let deliveries ← createDeliveries eventType payload rest
      return delivery :: deliveries
    else createDeliveries eventType payload rest

/-- `dispatch_event` -/
def dispatchEvent (organization : Nat) (eventType : String) (payload : Dict) : HookM Unit := do
  let webhooks : List Webhook ← Script.perform (HookOp.webhooks organization)
  let deliveries ← createDeliveries eventType payload webhooks
  deliveries.forM fun delivery => statement (Script.perform (HookOp.delay delivery))

/-- What the webhooks are sent of an event. A key of the metadata wins over one of the event. -/
def payloadOf (event : Event) : Dict :=
  event.metadata ++
    [("resource_type", .str event.resourceType), ("resource_id", .str event.resourceId)]

/-- `emit_event`. What goes wrong with the webhooks is logged. -/
def emitEvent (organization : Nat) (event : Event) : HookM Unit := do
  statement (Script.perform (HookOp.createEvent organization event))
  tryCatch (dispatchEvent organization (webhookEventType event.type) (payloadOf event)) fun _ => pure ()

/-- `transaction.atomic` -/
def atomic (body : HookM Unit) : HookM Unit := do
  Script.perform HookOp.enter
  tryCatch body fun e => do
    Script.perform HookOp.rollback
    throw e
  statement (Script.perform HookOp.leave)

/-- What code that emits events does, as far as transactions and exceptions go. -/
inductive Caller
  | emit (organization : Nat) (event : Event)
  | other
  | seq (first second : Caller)
  | atomic (body : Caller)
  /-- `try: ... except Exception: pass` -/
  | swallow (body : Caller)

def Caller.script : Caller → HookM Unit
  | .emit organization event => emitEvent organization event
  | .other => statement (Script.perform HookOp.other)
  | .seq first second => do first.script; second.script
  | .atomic body => Webhooks.atomic body.script
  | .swallow body => tryCatch body.script fun _ => pure ()

/-- The end of `record_heartbeat`, which is an `atomic` block as a whole. -/
def recordHeartbeat (organization : Nat) (online : Event) : Caller :=
  .atomic (.seq .other (.emit organization online))

/-! ## The database and the queue -/

/-- What the surroundings decide at one statement. -/
structure Choice where
  /-- The statement is rejected. -/
  rejected : Bool := false

/-- The committed rows, the transactions under way, the queue, and what was recorded. -/
structure State where
  webhooks : List Webhook := []
  deliveries : List Delivery := []
  nextPk : Nat := 1
  /-- The deliveries that a transaction has written, newest first. -/
  txs : Transactions (List Delivery) Empty := ⟨fun _ => ⟨⟨[], []⟩, []⟩, fun _ => none⟩
  queue : List Nat := []
  /-- Every task that was ever enqueued, by its delivery. -/
  enqueued : List Nat := []
  /-- The deliveries whose rows were rolled back. -/
  rolledBack : List Nat := []
  /-- The tasks that a worker has started, and whether their rows were committed then. -/
  started : List (Nat × Bool) := []
  /-- The deliveries that were attempted. -/
  attempted : List Nat := []

namespace State

/-- What a transaction has written so far. -/
def pending (s : State) (i : Nat) : List Delivery := (s.txs.of i).current.writes

def inTransaction (s : State) (i : Nat) : Bool := (s.txs.of i).savepoints ≠ []

def committed (s : State) (delivery : Nat) : Bool := s.deliveries.any (·.pk = delivery)

/-- The rows that a transaction has written since its last savepoint. -/
def discarded (s : State) (i : Nat) : List Delivery :=
  match (s.txs.of i).savepoints with
  | [] => []
  | part :: _ => (s.pending i).take ((s.pending i).length - part.writes.length)

/-- The end of the outermost block. -/
def commit (s : State) (c : Choice) (i : Nat) : Except Exn Unit × State :=
  let s' := { s with txs := s.txs.finish i [] }
  if c.rejected then
    (.error .databaseError, { s' with rolledBack := s.rolledBack ++ (s.pending i).map Delivery.pk })
  else (.ok (), { s' with deliveries := s.deliveries ++ s.pending i })

/-- One statement of a caller. -/
def act (c : Choice) (i : Nat) : (o : HookOp) → State → Option (HookAns o × State)
  | .enter, s => some ((), { s with txs := s.txs.enter i })
  | .leave, s =>
    match (s.txs.of i).savepoints with
    | _ :: _ :: _ => some (.ok (), { s with txs := s.txs.release i })
    | _ => some (s.commit c i)
  | .rollback, s => some ((), { s with
      txs := s.txs.rollback i
      rolledBack := s.rolledBack ++ (s.discarded i).map Delivery.pk })
  | .webhooks organization, s =>
    some (s.webhooks.filter fun w => w.organization = organization ∧ w.enabled, s)
  | .createDelivery webhook eventType payload, s =>
    if c.rejected then some (.error .databaseError, s)
    else
      let row : Delivery := ⟨s.nextPk, webhook, eventType, payload⟩
      let s' := { s with nextPk := s.nextPk + 1 }
      -- a statement by itself is committed at once
      some (.ok row.pk, if s.inTransaction i then { s' with txs := s.txs.write i (row :: ·) }
        else { s' with deliveries := s.deliveries ++ [row] })
  | .delay delivery, s =>
    if c.rejected then some (.error .operationalError, s)
    else some (.ok (), { s with
      queue := s.queue ++ [delivery]
      enqueued := s.enqueued ++ [delivery] })
  | .createEvent _ _, s | .other, s =>
    some (if c.rejected then .error .databaseError else .ok (), s)

end State

/-- What happens around the callers. -/
inductive Step
  | call (caller : Caller)
  /-- A worker starts a task of the queue. The attempt may end in a retry. -/
  | start (index : Nat) (retries : Bool)
  /-- The webhooks are edited. Their deliveries stay as they are. -/
  | setWebhooks (webhooks : List Webhook)

/-- Code that emits events, under way. -/
abbrev Running : Type := Thread Caller HookOp HookAns (Except Exn Unit × Unit)

/-- `deliver_webhook`: without a row, `WebhookDelivery.objects.get` raises and the task is over. -/
def State.startTask (s : State) (index : Nat) (retries : Bool) : Option State :=
  s.queue[index]?.map fun delivery =>
    let s' := { s with
      queue := s.queue.eraseIdx index
      started := (delivery, s.committed delivery) :: s.started }
    if s.committed delivery then
      { s' with
        attempted := delivery :: s.attempted
        queue := if retries then s'.queue ++ [delivery] else s'.queue
        enqueued := if retries then s.enqueued ++ [delivery] else s.enqueued }
    else s'

def env : Step → State → Option (List Running × State)
  | .call caller, s => some ([⟨caller, caller.script.prog ()⟩], s)
  | .start index retries, s => (s.startTask index retries).map fun s => ([], s)
  | .setWebhooks webhooks, s => some ([], { s with webhooks := webhooks })

/-- The callers of `emit_event`, side by side. -/
def system : System Caller HookOp HookAns (Except Exn Unit × Unit) State Choice Step :=
  ⟨State.act, env⟩

end NodePilot.Webhooks
