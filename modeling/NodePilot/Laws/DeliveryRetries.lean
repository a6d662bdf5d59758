import NodePilot.Deliveries

/-!
# The retries of a delivery

An execution that is to be made leaves the row for the next one, or ends the delivery, as long as the database takes
what it saves. If it does not, the delivery stands still, or goes on after the endpoint has taken it. So the
retries keep to their protocol exactly if the database takes what every execution up to the last one saves.
-/

namespace NodePilot.Deliveries

/-! ## The protocol -/

/-- **The protocol** of a delivery that is tried so many times at most. -/
structure Protocol (maxRetries : Nat) (outcomes : Nat → Outcome) (chain : Nat → Chain) : Prop where
  posts : ∀ n, (chain n).posts ≤ maxRetries
  attempt : ∀ n, (chain n).row.attempt = (chain n).executions
  retrying : ∀ n, (chain n).row.status = .retrying → (chain n).queued ≠ none
  ended : ∃ n, (chain n).queued = none
  success : ∀ n, (chain n).queued = none →
    ((chain n).row.status = .success ↔ ∃ k < (chain n).executions, (outcomes k).isSuccess)
  failure : ∀ n, (chain n).queued = none → (chain n).row.status = .success ∨ (chain n).row.status = .failed
  after : ∀ n k j, k < j → j < (chain n).executions → (outcomes k).isSuccess → (outcomes j).posts = false
  delays : ∀ n, (chain n).delays.Pairwise (· ≥ ·) ∧ ∀ delay ∈ (chain n).delays, delay ≤ 300

/-! ## What the executions save -/

/-- The endpoint has taken the delivery, or is not to be asked. -/
def Outcome.stops (o : Outcome) : Bool := o.isSuccess || !o.posts

/-- The text that is saved of an outcome. -/
def Outcome.body : Outcome → String
  | .answered statusCode text =>
    cut (if 200 ≤ statusCode && statusCode < 300 then text else s!"Webhook endpoint returned {statusCode}")
  | .raised exc | .unsafeHost exc => cut exc

/-- The status of the last answer, after an outcome. -/
def Outcome.statusAfter (before : Option Nat) : Outcome → Option Nat
  | .answered statusCode _ => some statusCode
  | .raised _ | .unsafeHost _ => before

/-- The status of the last answer of the first outcomes. -/
def lastStatus (outcomes : Nat → Outcome) : Nat → Option Nat
  | 0 => none
  | k + 1 => (outcomes k).statusAfter (lastStatus outcomes k)

/-- What the execution of an outcome saves. -/
def saves (outcomes : Nat → Outcome) (k : Nat) : Columns :=
  ⟨k + 1, lastStatus outcomes (k + 1), (outcomes k).body⟩

/-- The execution of an outcome is to be made. -/
def Reached (maxRetries : Nat) (outcomes : Nat → Outcome) (k : Nat) : Prop :=
  k < maxRetries ∧ ∀ j < k, (outcomes j).stops = false

/-- The countdowns of the first executions, the last one first. -/
def countdowns : Nat → List Nat
  | 0 => []
  | k + 1 => min (2 ^ (k + 1)) 300 :: countdowns k

/-- An execution is enqueued after so many that have failed. -/
structure Waiting (outcomes : Nat → Outcome) (k : Nat) (c : Chain) : Prop where
  attempt : c.row.attempt = k
  responseStatus : c.row.responseStatus = lastStatus outcomes k
  status : c.row.status = .pending ∨ c.row.status = .retrying
  queued : c.queued = some k
  executions : c.executions = k
  posts : c.posts = k
  delays : c.delays = countdowns k

/-- The execution of an outcome was the last one. -/
structure Over (outcomes : Nat → Outcome) (k : Nat) (c : Chain) : Prop where
  attempt : c.row.attempt = k + 1
  status : c.row.status = if (outcomes k).isSuccess then .success else .failed
  queued : c.queued = none
  executions : c.executions = k + 1
  posts : c.posts ≤ k + 1
  delays : c.delays = countdowns k

section Executions

variable {db : Database} {maxRetries : Nat} {outcomes : Nat → Outcome} {k n : Nat} {c : Chain}

theorem countdowns_le (k : Nat) : ∀ delay ∈ countdowns k, delay ≤ 300 ∧ delay ≤ 2 ^ k := by
  induction k with
  | zero => simp [countdowns]
  | succ k ih =>
    intro delay there
    rcases List.mem_cons.mp there with rfl | earlier
    · exact ⟨Nat.min_le_right _ _, Nat.min_le_left _ _⟩
    · obtain ⟨capped, below⟩ := ih delay earlier
      rw [Nat.pow_succ]
      omega

theorem countdowns_sorted (k : Nat) : (countdowns k).Pairwise (· ≥ ·) := by
  induction k with
  | zero => exact .nil
  | succ k ih =>
    apply List.pairwise_cons.mpr ⟨fun delay there => ?_, ih⟩
    obtain ⟨capped, below⟩ := countdowns_le k delay there
    rw [Nat.pow_succ]
    omega

/-- What `handle` leaves of a row that is taken. -/
theorem handle_accepted {stored delivery : WebhookDelivery} {exc : String} {retries : Nat}
    (takes : db.accepts ⟨delivery.attempt, delivery.responseStatus, cut exc⟩) :
    handle db maxRetries retries stored delivery exc =
      if maxRetries ≤ delivery.attempt then
        ⟨{ delivery with responseBody := cut exc, status := .failed }, none⟩
      else ⟨{ delivery with responseBody := cut exc, status := .retrying },
        retry maxRetries retries (min (2 ^ delivery.attempt) 300)⟩ := by
  have same : ∀ status, db.accepts { delivery with responseBody := cut exc, status := status }.columns :=
    fun _ => takes
  simp only [handle, save, same, if_true]

/-- A row that is refused is as it was, and nothing is enqueued. -/
theorem handle_refused {stored delivery : WebhookDelivery} {exc : String} {retries : Nat}
    (refuses : db.accepts ⟨delivery.attempt, delivery.responseStatus, cut exc⟩ = false) :
    handle db maxRetries retries stored delivery exc = ⟨stored, none⟩ := by
  have same : ∀ status, db.accepts { delivery with responseBody := cut exc, status := status }.columns = false :=
    fun _ => refuses
  simp only [handle, save, same, Bool.false_eq_true, if_false, ite_self]

/-- An execution in which the endpoint fails is handled as that, with the status and the text it has seen. -/
theorem deliver_failing (db : Database) (maxRetries : Nat) (stored : WebhookDelivery) {outcome : Outcome}
    (retries : Nat) (fails : outcome.stops = false) : ∃ delivery exc,
      deliverWebhook db maxRetries retries stored outcome = handle db maxRetries retries stored delivery exc ∧
      delivery.attempt = stored.attempt + 1 ∧ cut exc = outcome.body ∧
      delivery.responseStatus = outcome.statusAfter stored.responseStatus := by
  cases outcome with
  | answered statusCode text =>
    have bad : (200 ≤ statusCode && statusCode < 300) = false := by
      simpa [Outcome.stops, Outcome.isSuccess, Outcome.posts] using fails
    refine ⟨{ stored with attempt := stored.attempt + 1, responseStatus := some statusCode, responseBody := cut text },
      s!"Webhook endpoint returned {statusCode}", ?_, rfl, ?_, rfl⟩
    · simp only [deliverWebhook, Outcome.isSuccess, bad, Bool.false_eq_true, if_false]
    · simp only [Outcome.body, bad, Bool.false_eq_true, if_false]
  | raised exc => exact ⟨{ stored with attempt := stored.attempt + 1 }, exc, rfl, rfl, rfl, rfl⟩
  | unsafeHost exc => cases fails

theorem posts_of_failing {outcome : Outcome} (fails : outcome.stops = false) : outcome.posts := by
  cases outcome <;> first | rfl | cases fails

theorem not_success_of_failing {outcome : Outcome} (fails : outcome.stops = false) : outcome.isSuccess = false := by
  unfold Outcome.stops at fails
  exact (Bool.or_eq_false_iff.mp fails).1

/-- The columns of a failing execution are those it saves. -/
theorem columns_of_failing (waiting : Waiting outcomes k c) {delivery : WebhookDelivery} {exc : String}
    (attempt : delivery.attempt = c.row.attempt + 1) (text : cut exc = (outcomes k).body)
    (status : delivery.responseStatus = (outcomes k).statusAfter c.row.responseStatus) :
    (⟨delivery.attempt, delivery.responseStatus, cut exc⟩ : Columns) = saves outcomes k := by
  rw [saves, attempt, waiting.attempt, text, status, lastStatus, waiting.responseStatus]

/-- A failing execution that is not the last one, and whose row is taken, leaves the next one. -/
theorem step_failing (waiting : Waiting outcomes k c) (fails : (outcomes k).stops = false)
    (more : k + 1 < maxRetries) (takes : db.accepts (saves outcomes k)) :
    Waiting outcomes (k + 1) (c.step db maxRetries (outcomes k)) := by
  obtain ⟨delivery, exc, same, attempt, text, status⟩ :=
    deliver_failing db maxRetries c.row k fails
  have columns := columns_of_failing waiting attempt text status
  rw [waiting.attempt] at attempt
  rw [← columns] at takes
  rw [handle_accepted takes, attempt, if_neg (by omega), retry, if_pos (by omega)] at same
  unfold Chain.step
  simp only [waiting.queued, same]
  exact {
    attempt := rfl
    responseStatus := congrArg Columns.responseStatus columns
    status := .inr rfl
    queued := rfl
    executions := by rw [waiting.executions]
    posts := by rw [if_pos (posts_of_failing fails), waiting.posts]
    delays := by rw [waiting.delays]; rfl }

/-- The last failing execution ends the delivery. -/
theorem step_last (waiting : Waiting outcomes k c) (fails : (outcomes k).stops = false)
    (last : k + 1 = maxRetries) (takes : db.accepts (saves outcomes k)) :
    Over outcomes k (c.step db maxRetries (outcomes k)) := by
  obtain ⟨delivery, exc, same, attempt, text, status⟩ :=
    deliver_failing db maxRetries c.row k fails
  have columns := columns_of_failing waiting attempt text status
  rw [waiting.attempt] at attempt
  rw [← columns] at takes
  rw [handle_accepted takes, attempt, if_pos (by omega)] at same
  unfold Chain.step
  simp only [waiting.queued, same]
  exact {
    attempt := rfl
    status := by rw [not_success_of_failing fails, if_neg Bool.false_ne_true]
    queued := rfl
    executions := by rw [waiting.executions]
    posts := by simp only [posts_of_failing fails, if_true, waiting.posts, Nat.le_refl]
    delays := waiting.delays }

/-- A delivery that is taken, or whose host is unsafe, is over. -/
theorem step_stops (waiting : Waiting outcomes k c) (stops : (outcomes k).stops)
    (takes : db.accepts (saves outcomes k)) : Over outcomes k (c.step db maxRetries (outcomes k)) := by
  unfold Chain.step
  simp only [waiting.queued]
  cases met : outcomes k with
  | answered statusCode text =>
    have good : (200 ≤ statusCode && statusCode < 300) = true := by
      simpa [met, Outcome.stops, Outcome.isSuccess, Outcome.posts] using stops
    have columns : saves outcomes k = ⟨k + 1, some statusCode, cut text⟩ := by
      simp only [saves, lastStatus, met, Outcome.statusAfter, Outcome.body, good, if_true]
    rw [columns] at takes
    have left : deliverWebhook db maxRetries k c.row (.answered statusCode text) =
        ⟨{ c.row with
            attempt := c.row.attempt + 1
            responseStatus := some statusCode
            responseBody := cut text
            status := .success
            delivered := true }, none⟩ := by
      simp only [deliverWebhook, Outcome.isSuccess, good, if_true, WebhookDelivery.columns, waiting.attempt, takes]
    simp only [left]
    exact {
      attempt := by rw [waiting.attempt]
      status := by simp only [met, Outcome.isSuccess, good, if_true]
      queued := rfl
      executions := by rw [waiting.executions]
      posts := by simp [Outcome.posts, waiting.posts]
      delays := waiting.delays }
  | raised exc =>
    rw [met] at stops
    cases stops
  | unsafeHost exc =>
    have columns : saves outcomes k = ⟨k + 1, lastStatus outcomes k, cut exc⟩ := by
      simp only [saves, lastStatus, met, Outcome.statusAfter, Outcome.body]
    rw [columns] at takes
    have left : deliverWebhook db maxRetries k c.row (.unsafeHost exc) =
        ⟨{ c.row with attempt := c.row.attempt + 1, status := .failed, responseBody := cut exc }, none⟩ := by
      simp only [deliverWebhook, save, WebhookDelivery.columns, waiting.attempt, waiting.responseStatus, takes, if_true]
    simp only [left]
    exact {
      attempt := by rw [waiting.attempt]
      status := by simp [met, Outcome.isSuccess]
      queued := rfl
      executions := by rw [waiting.executions]
      posts := by simp [Outcome.posts, waiting.posts]
      delays := waiting.delays }

/-- A failing execution whose row is refused changes nothing, and nothing comes after it. -/
theorem step_refused (waiting : Waiting outcomes k c) (fails : (outcomes k).isSuccess = false)
    (refuses : db.accepts (saves outcomes k) = false) :
    (c.step db maxRetries (outcomes k)).row = c.row ∧ (c.step db maxRetries (outcomes k)).queued = none := by
  have left : deliverWebhook db maxRetries k c.row (outcomes k) = ⟨c.row, none⟩ := by
    by_cases stops : (outcomes k).stops
    · cases met : outcomes k with
      | unsafeHost exc =>
        have columns : saves outcomes k = ⟨k + 1, lastStatus outcomes k, cut exc⟩ := by
          simp only [saves, lastStatus, met, Outcome.statusAfter, Outcome.body]
        rw [columns] at refuses
        simp only [deliverWebhook, save, WebhookDelivery.columns, waiting.attempt, waiting.responseStatus, refuses,
          Bool.false_eq_true, if_false]
      | answered statusCode text => simp [Outcome.stops, met, Outcome.posts, met ▸ fails] at stops
      | raised exc =>
        rw [met] at stops
        cases stops
    · rw [Bool.not_eq_true] at stops
      obtain ⟨delivery, exc, same, attempt, text, status⟩ :=
        deliver_failing db maxRetries c.row k stops
      rw [← columns_of_failing waiting attempt text status] at refuses
      rw [same, handle_refused refuses]
  unfold Chain.step
  simp [waiting.queued, left]

theorem save_status {stored row : WebhookDelivery} {andThen : Left} (before : stored.status ≠ .success)
    (unsuccessful : andThen.row.status ≠ .success) : (save db stored row andThen).row.status ≠ .success := by
  unfold save
  split_ifs
  · exact unsuccessful
  · exact before

theorem handle_status {stored delivery : WebhookDelivery} {exc : String} {retries : Nat}
    (before : stored.status ≠ .success) :
    (handle db maxRetries retries stored delivery exc).row.status ≠ .success := by
  unfold handle
  dsimp only
  split_ifs
  · exact save_status before (by simp)
  · exact save_status before (by simp)

/-- A row that is refused does not say that the endpoint has taken the delivery. -/
theorem step_success_refused (waiting : Waiting outcomes k c)
    (refuses : db.accepts (saves outcomes k) = false) :
    (c.step db maxRetries (outcomes k)).row.status ≠ .success := by
  have before : c.row.status ≠ .success := by
    rcases waiting.status with pending | retrying
    · simp [pending]
    · simp [retrying]
  by_cases succeeds : (outcomes k).isSuccess
  · cases met : outcomes k with
    | answered statusCode text =>
      rw [met] at succeeds
      have columns : saves outcomes k = ⟨k + 1, some statusCode, cut text⟩ := by
        have good : (200 ≤ statusCode && statusCode < 300) = true := succeeds
        simp only [saves, lastStatus, met, Outcome.statusAfter, Outcome.body, good, if_true]
      rw [columns] at refuses
      unfold Chain.step
      simp only [waiting.queued, deliverWebhook, succeeds, if_true, WebhookDelivery.columns, waiting.attempt, refuses,
        Bool.false_eq_true, if_false]
      exact handle_status before
    | raised exc =>
      rw [met] at succeeds
      cases succeeds
    | unsafeHost exc =>
      rw [met] at succeeds
      cases succeeds
  · rw [Bool.not_eq_true] at succeeds
    rw [(step_refused waiting succeeds refuses).1]
    exact before

end Executions

/-! ## Runs -/

section Runs

variable {db : Database} {maxRetries : Nat} {outcomes : Nat → Outcome} {k n : Nat}

/-- Nothing happens once nothing is enqueued. -/
theorem run_over (ended : (run db maxRetries outcomes n).queued = none) (more : Nat) :
    run db maxRetries outcomes (n + more) = run db maxRetries outcomes n := by
  induction more with
  | zero => rfl
  | succ more ih =>
    have still : run db maxRetries outcomes (n + (more + 1)) =
        (run db maxRetries outcomes (n + more)).step db maxRetries (outcomes (n + more)) := rfl
    rw [still, ih, Chain.step, ended]

theorem run_executions : (run db maxRetries outcomes n).executions ≤ n ∧
    ((run db maxRetries outcomes n).queued ≠ none → (run db maxRetries outcomes n).executions = n) := by
  induction n with
  | zero => exact ⟨Nat.le_refl _, fun _ => rfl⟩
  | succ n ih =>
    obtain ⟨le, counted⟩ := ih
    rw [run, Chain.step]
    cases waiting : (run db maxRetries outcomes n).queued with
    | none => exact ⟨by simpa using Nat.le_succ_of_le le, fun more => absurd waiting more⟩
    | some retries =>
      have same := counted (by rw [waiting]; simp)
      exact ⟨by simp [same], fun _ => by simp [same]⟩

theorem run_executions_mono (more : Nat) :
    (run db maxRetries outcomes n).executions ≤ (run db maxRetries outcomes (n + more)).executions := by
  induction more with
  | zero => exact Nat.le_refl _
  | succ more ih =>
    apply Nat.le_trans ih
    have one : run db maxRetries outcomes (n + (more + 1)) =
        (run db maxRetries outcomes (n + more)).step db maxRetries (outcomes (n + more)) := rfl
    rw [one, Chain.step]
    cases (run db maxRetries outcomes (n + more)).queued with
    | none => exact Nat.le_refl _
    | some retries => exact Nat.le_succ _

/-- A row says that the endpoint has taken the delivery if it said so before, or if the endpoint has. -/
theorem deliver_success {stored : WebhookDelivery} {retries : Nat} {outcome : Outcome}
    (h : (deliverWebhook db maxRetries retries stored outcome).row.status = .success) :
    stored.status = .success ∨ outcome.isSuccess := by
  by_contra neither
  rw [not_or, Bool.not_eq_true] at neither
  obtain ⟨before, fails⟩ := neither
  revert h
  cases outcome with
  | answered statusCode text =>
    simp only [deliverWebhook, fails, Bool.false_eq_true, if_false]
    exact handle_status before
  | raised exc => exact handle_status before
  | unsafeHost exc => exact save_status before (by simp)

/-- Between a row that does not say so and one that does the endpoint has taken the delivery. -/
theorem run_success (before : (run db maxRetries outcomes n).row.status ≠ .success) (more : Nat)
    (h : (run db maxRetries outcomes (n + more)).row.status = .success) :
    ∃ j, n ≤ j ∧ j < n + more ∧ (run db maxRetries outcomes j).queued ≠ none ∧ (outcomes j).isSuccess := by
  induction more with
  | zero => exact absurd h before
  | succ more ih =>
    by_cases already : (run db maxRetries outcomes (n + more)).row.status = .success
    · obtain ⟨j, le, lt, waiting, succeeds⟩ := ih already
      exact ⟨j, le, by omega, waiting, succeeds⟩
    · have one : run db maxRetries outcomes (n + (more + 1)) =
          (run db maxRetries outcomes (n + more)).step db maxRetries (outcomes (n + more)) := rfl
      rw [one, Chain.step] at h
      cases waiting : (run db maxRetries outcomes (n + more)).queued with
      | none =>
        rw [waiting] at h
        exact absurd h already
      | some retries =>
        rw [waiting] at h
        have succeeds := (deliver_success h).resolve_left already
        exact ⟨n + more, by omega, by omega, by rw [waiting]; simp, succeeds⟩

/-- While the rows are taken, an execution is enqueued after so many that have failed. -/
theorem run_waiting (takes : ∀ j < n, db.accepts (saves outcomes j)) (reached : Reached maxRetries outcomes n) :
    Waiting outcomes n (run db maxRetries outcomes n) := by
  induction n with
  | zero => exact ⟨rfl, rfl, .inl rfl, rfl, rfl, rfl, rfl⟩
  | succ n ih =>
    obtain ⟨more, before⟩ := reached
    have waiting := ih (fun j lt => takes j (by omega)) ⟨by omega, fun j lt => before j (by omega)⟩
    exact step_failing waiting (before n (by omega)) more (takes n (by omega))

/-- **What a run comes to** while the rows are taken: an execution is enqueued, or the last one was made. -/
theorem run_waiting_or_over (positive : 1 ≤ maxRetries)
    (takes : ∀ j, Reached maxRetries outcomes j → db.accepts (saves outcomes j)) (n : Nat) :
    (Reached maxRetries outcomes n ∧ Waiting outcomes n (run db maxRetries outcomes n)) ∨
      ∃ last, Reached maxRetries outcomes last ∧ Over outcomes last (run db maxRetries outcomes n) := by
  induction n with
  | zero => exact .inl ⟨⟨positive, by simp⟩, ⟨rfl, rfl, .inl rfl, rfl, rfl, rfl, rfl⟩⟩
  | succ n ih =>
    rcases ih with ⟨reached, waiting⟩ | ⟨last, reached, ended⟩
    · by_cases stops : (outcomes n).stops
      · exact .inr ⟨n, reached, step_stops waiting stops (takes n reached)⟩
      · rw [Bool.not_eq_true] at stops
        by_cases more : n + 1 < maxRetries
        · refine .inl ⟨⟨more, fun j lt => ?_⟩, step_failing waiting stops more (takes n reached)⟩
          rcases Nat.lt_succ_iff_lt_or_eq.mp lt with earlier | rfl
          · exact reached.2 j earlier
          · exact stops
        · have last : n + 1 = maxRetries := by
            have below := reached.1
            omega
          exact .inr ⟨n, reached, step_last waiting stops last (takes n reached)⟩
    · refine .inr ⟨last, reached, ?_⟩
      have still := run_over ended.queued 1
      rw [still]
      exact ended

/-- The rows that are taken keep the delivery to its protocol. -/
theorem protocol_of_takes (positive : 1 ≤ maxRetries)
    (takes : ∀ j, Reached maxRetries outcomes j → db.accepts (saves outcomes j)) :
    Protocol maxRetries outcomes (run db maxRetries outcomes) where
  posts n := by
    rcases run_waiting_or_over positive takes n with ⟨reached, waiting⟩ | ⟨last, reached, ended⟩
    · rw [waiting.posts]
      exact Nat.le_of_lt reached.1
    · exact Nat.le_trans ended.posts reached.1
  attempt n := by
    rcases run_waiting_or_over positive takes n with ⟨-, waiting⟩ | ⟨last, -, ended⟩
    · rw [waiting.attempt, waiting.executions]
    · rw [ended.attempt, ended.executions]
  retrying n status := by
    rcases run_waiting_or_over positive takes n with ⟨-, waiting⟩ | ⟨last, -, ended⟩
    · simp [waiting.queued]
    · rw [ended.status] at status
      split_ifs at status
  ended := by
    refine ⟨maxRetries, ?_⟩
    rcases run_waiting_or_over positive takes maxRetries with ⟨reached, -⟩ | ⟨last, -, ended⟩
    · exact absurd reached.1 (Nat.lt_irrefl _)
    · exact ended.queued
  success n none_queued := by
    rcases run_waiting_or_over positive takes n with ⟨-, waiting⟩ | ⟨last, reached, ended⟩
    · rw [waiting.queued] at none_queued
      cases none_queued
    · rw [ended.status, ended.executions]
      constructor
      · intro success
        exact ⟨last, Nat.lt_succ_self _, by by_contra fails; simp [fails] at success⟩
      · rintro ⟨k, lt, succeeds⟩
        -- nothing before the last one has stopped the delivery
        rcases Nat.lt_succ_iff_lt_or_eq.mp lt with earlier | rfl
        · rw [not_success_of_failing (reached.2 k earlier)] at succeeds
          cases succeeds
        · rw [if_pos succeeds]
  failure n none_queued := by
    rcases run_waiting_or_over positive takes n with ⟨-, waiting⟩ | ⟨last, -, ended⟩
    · rw [waiting.queued] at none_queued
      cases none_queued
    · rw [ended.status]
      split_ifs
      · exact .inl rfl
      · exact .inr rfl
  after n k j lt made succeeds := by
    have earlier : (outcomes k).stops = false := by
      rcases run_waiting_or_over positive takes n with ⟨reached, waiting⟩ | ⟨last, reached, ended⟩
      · rw [waiting.executions] at made
        exact reached.2 k (by omega)
      · rw [ended.executions] at made
        exact reached.2 k (by omega)
    rw [not_success_of_failing earlier] at succeeds
    cases succeeds
  delays n := by
    have capped : ∀ k, (countdowns k).Pairwise (· ≥ ·) ∧ ∀ delay ∈ countdowns k, delay ≤ 300 :=
      fun k => ⟨countdowns_sorted k, fun delay there => (countdowns_le k delay there).1⟩
    rcases run_waiting_or_over positive takes n with ⟨-, waiting⟩ | ⟨last, -, ended⟩
    · rw [waiting.delays]
      exact capped n
    · rw [ended.delays]
      exact capped last

/-- Where a row is refused the delivery leaves its protocol. -/
theorem takes_of_protocol (protocol : Protocol maxRetries outcomes (run db maxRetries outcomes))
    (reached : Reached maxRetries outcomes k) (earlier : ∀ j < k, db.accepts (saves outcomes j)) :
    db.accepts (saves outcomes k) := by
  by_contra refuses
  rw [Bool.not_eq_true] at refuses
  have waiting := run_waiting earlier reached
  have made : run db maxRetries outcomes (k + 1) =
      (run db maxRetries outcomes k).step db maxRetries (outcomes k) := rfl
  by_cases succeeds : (outcomes k).isSuccess
  · -- the delivery ends with success, so some later execution has succeeded too
    have unsaid : ((run db maxRetries outcomes k).step db maxRetries (outcomes k)).row.status ≠ .success :=
      step_success_refused waiting refuses
    rw [← made] at unsaid
    obtain ⟨n, ended⟩ := protocol.ended
    have late : k + 1 ≤ n := by
      by_contra before
      have still := run_over ended (k - n)
      rw [Nat.add_sub_cancel' (by omega)] at still
      rw [← still, waiting.queued] at ended
      cases ended
    obtain ⟨more, rfl⟩ := Nat.exists_eq_add_of_le late
    have counted : k < (run db maxRetries outcomes (k + 1 + more)).executions := by
      have mono : (run db maxRetries outcomes (k + 1)).executions ≤ _ := run_executions_mono more
      have one : (run db maxRetries outcomes (k + 1)).executions = k + 1 := by
        rw [made, Chain.step, waiting.queued]
        simp [waiting.executions]
      omega
    have said := (protocol.success _ ended).mpr ⟨k, counted, succeeds⟩
    obtain ⟨j, le, lt, enqueued, again⟩ := run_success unsaid more said
    have executed : j < (run db maxRetries outcomes (j + 1)).executions := by
      have count : (run db maxRetries outcomes j).executions = j := run_executions.2 enqueued
      obtain ⟨retries, some_retries⟩ := Option.ne_none_iff_exists'.mp enqueued
      rw [run, Chain.step, some_retries]
      simp [count]
    have silent := protocol.after (j + 1) k j (by omega) executed succeeds
    cases met : outcomes j with
    | answered => simp [met, Outcome.posts] at silent
    | raised => simp [met, Outcome.posts] at silent
    | unsafeHost => simp [met, Outcome.isSuccess] at again
  · rw [Bool.not_eq_true] at succeeds
    have left := @step_refused db maxRetries outcomes k _ waiting succeeds refuses
    rw [← made] at left
    obtain ⟨row, queued⟩ := left
    have ended := protocol.failure _ queued
    rw [row] at ended
    rcases waiting.status with pending | retrying
    · simp [pending] at ended
    · simp [retrying] at ended

end Runs

/-- **When the retries keep to their protocol**: exactly if the database takes what every execution saves that is to
be made before the endpoint has taken the delivery, was found unsafe, or was tried so many times. -/
theorem delivery_protocol_iff {db : Database} {maxRetries : Nat} {outcomes : Nat → Outcome}
    (positive : 1 ≤ maxRetries) :
    Protocol maxRetries outcomes (run db maxRetries outcomes) ↔
      ∀ k < maxRetries, (∀ j < k, (outcomes j).stops = false) → db.accepts (saves outcomes k) := by
  constructor
  · intro protocol k
    induction k using Nat.strongRecOn with
    | ind k ih =>
      intro lt before
      apply takes_of_protocol protocol ⟨lt, before⟩
      intro j earlier
      exact ih j earlier (by omega) fun i less => before i (by omega)
  · intro takes
    exact protocol_of_takes positive fun j reached => takes j reached.1 reached.2

/-- A database that takes every row. -/
def everyRow : Database := ⟨fun _ => true, fun _ => ""⟩

theorem delivery_protocol_iff_kept :
    Protocol 6 (fun _ => .answered 200 "ok") (run everyRow 6 fun _ => .answered 200 "ok") :=
  (delivery_protocol_iff (by decide)).mpr fun _ _ _ => rfl

/-- The columns as PostgreSQL has them: two small integers, and a text without NUL. -/
def postgres : Database where
  accepts columns := columns.attempt ≤ 32767 ∧ (columns.responseStatus.all fun status => status ≤ 32767) ∧
    Char.ofNat 0 ∉ columns.responseBody.toList
  message _ := "PostgreSQL text fields cannot contain NUL (0x00) bytes"

/-- An endpoint that answers 200, with a NUL in the body. -/
def nulAnswer : Outcome := .answered 200 (String.singleton (Char.ofNat 0))

/-- An endpoint that has taken the delivery is sent it again. -/
theorem delivered_and_sent_again : ¬ Protocol 6 (fun _ => nulAnswer) (run postgres 6 fun _ => nulAnswer) := by
  intro protocol
  have silent := protocol.after 2 0 1 (by decide) (by decide) (by decide)
  revert silent
  decide

end NodePilot.Deliveries
