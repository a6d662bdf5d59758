import Mathlib.Algebra.Group.Nat.Defs
import Mathlib.Tactic.Common

/-!
# Deliveries of webhooks

`deliver_webhook` of `apps/webhooks/tasks.py`, from one execution to the next. What the endpoint does in an execution
is given, with the text of the exception where there is one. So is which rows the database takes and what its own
exception says: the answer of an endpoint is saved inside of the `try`, so a row that is refused there is handled as
a failure of the endpoint is. Celery runs a task that is enqueued once, and enqueues it again while its count of
retries is not above `max_retries`.
-/

namespace NodePilot.Deliveries

inductive DeliveryStatus
  | pending | success | failed | retrying
deriving DecidableEq

/-- `WebhookDelivery`, as far as an execution reads and writes it. -/
structure WebhookDelivery where
  status : DeliveryStatus := .pending
  attempt : Nat := 0
  responseStatus : Option Nat := none
  responseBody : String := ""
  /-- `delivered_at` is set. -/
  delivered : Bool := false
deriving DecidableEq

/-- What an execution meets: the host is checked, and a `POST` is made unless it is unsafe. -/
inductive Outcome
  | answered (statusCode : Nat) (text : String)
  | raised (exc : String)
  | unsafeHost (exc : String)

/-- `200 <= response.status_code < 300` -/
def Outcome.isSuccess : Outcome → Bool
  | .answered statusCode _ => 200 ≤ statusCode && statusCode < 300
  | .raised _ | .unsafeHost _ => false

/-- There is a `POST`. -/
def Outcome.posts : Outcome → Bool
  | .answered _ _ | .raised _ => true
  | .unsafeHost _ => false

/-- The columns that hold what the endpoint has sent, and how often. -/
structure Columns where
  attempt : Nat
  responseStatus : Option Nat
  responseBody : String

def WebhookDelivery.columns (d : WebhookDelivery) : Columns := ⟨d.attempt, d.responseStatus, d.responseBody⟩

structure Database where
  accepts : Columns → Bool
  /-- `str(exc)` of what `save` raises of a row it does not accept. -/
  message : Columns → String

/-- `text[:2000]` -/
def cut (text : String) : String := String.ofList (text.toList.take 2000)

/-- What an execution leaves: the row, and the countdown of the next one if it is enqueued. -/
structure Left where
  row : WebhookDelivery
  countdown : Option Nat
deriving DecidableEq

/-- `delivery.save(...)`, and what follows it. A row that is refused is as it was. -/
def save (db : Database) (stored row : WebhookDelivery) (andThen : Left) : Left :=
  if db.accepts row.columns then andThen else ⟨stored, none⟩

/-- `self.retry(countdown=..., max_retries=...)`: beyond `max_retries` the exception is raised instead. -/
def retry (maxRetries retries countdown : Nat) : Option Nat :=
  if retries + 1 ≤ maxRetries then some countdown else none

/-- `except Exception as exc` -/
def handle (db : Database) (maxRetries retries : Nat) (stored delivery : WebhookDelivery) (exc : String) : Left :=
  let delivery := { delivery with responseBody := cut exc }
  if maxRetries ≤ delivery.attempt then
    let delivery := { delivery with status := .failed }
    save db stored delivery ⟨delivery, none⟩
  else
    let delivery := { delivery with status := .retrying }
    save db stored delivery ⟨delivery, retry maxRetries retries (min (2 ^ delivery.attempt) 300)⟩

/-- `deliver_webhook`, with the row it reads, the count of its retries and what it meets. -/
def deliverWebhook (db : Database) (maxRetries retries : Nat) (stored : WebhookDelivery) (outcome : Outcome) : Left :=
  let delivery := { stored with attempt := stored.attempt + 1 }
  match outcome with
  | .answered statusCode text =>
    let delivery := { delivery with responseStatus := some statusCode, responseBody := cut text }
    if outcome.isSuccess then
      let done := { delivery with status := .success, delivered := true }
      if db.accepts done.columns then ⟨done, none⟩
      -- the time of the delivery is not among the fields that are saved from here on
      else handle db maxRetries retries stored delivery (db.message done.columns)
    else handle db maxRetries retries stored delivery s!"Webhook endpoint returned {statusCode}"
  | .unsafeHost exc =>
    let delivery := { delivery with status := .failed, responseBody := cut exc }
    save db stored delivery ⟨delivery, none⟩
  | .raised exc => handle db maxRetries retries stored delivery exc

/-! ## From one execution to the next -/

/-- A delivery, and what has been done for it. -/
structure Chain where
  row : WebhookDelivery := {}
  /-- The count of retries of the execution that is enqueued. -/
  queued : Option Nat := some 0
  executions : Nat := 0
  posts : Nat := 0
  /-- The countdowns so far, the last one first. -/
  delays : List Nat := []

/-- The enqueued execution, if there is one. -/
def Chain.step (db : Database) (maxRetries : Nat) (outcome : Outcome) (c : Chain) : Chain :=
  match c.queued with
  | none => c
  | some retries =>
    let left := deliverWebhook db maxRetries retries c.row outcome
    { row := left.row
      queued := left.countdown.map fun _ => retries + 1
      executions := c.executions + 1
      posts := if outcome.posts then c.posts + 1 else c.posts
      delays := left.countdown.toList ++ c.delays }

/-- A new delivery after so many executions, if there are so many. -/
def run (db : Database) (maxRetries : Nat) (outcomes : Nat → Outcome) : Nat → Chain
  | 0 => {}
  | n + 1 => (run db maxRetries outcomes n).step db maxRetries (outcomes n)

end NodePilot.Deliveries
