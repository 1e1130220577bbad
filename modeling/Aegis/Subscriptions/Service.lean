import Aegis.Subscriptions.Keys

/-!
# The subscription service

`subscription_service.py`: each method as a program whose steps are the commits and
the single reads of the source.  Inside one database session only the commits are
visible to others, so a session that commits once is one `Prog.transact`; the
`session.get` of a payment, which the code does not lock, is a step of its own.
-/

namespace Aegis.Subscriptions

open Aegis.Lib

/-- What one handling of a request draws from `secrets` and `uuid`. -/
structure Draws where
  /-- `secrets.token_urlsafe(24)`, which is never empty, and is taken to be one that no row has:
  the unique constraint on it is left out -/
  portalToken : String
  /-- `secrets.token_urlsafe(32)` -/
  mobileApiKey : String
  /-- the id of the `STOP` job -/
  jobId : String
  portalToken_ne : portalToken ≠ ""

/-- A verified and parsed webhook as one execution of the handler sees it.  The
instants inside one execution are not told apart. -/
structure Delivery where
  event : PaymentEvent
  now : ℤ
  draws : Draws

/-- The dict that `apply_event` returns on a first activation. -/
structure NewlyIssued where
  accountId : String
  portalToken : String
  mobileApiKey : String
  deriving DecidableEq

/-! ## Effects on the tables -/

/-- `session.add(ProcessedPaymentEvent(...))`. -/
def addRecord (now : ℤ) (event : PaymentEvent) (world : World) : World :=
  { world with
    processedPaymentEvents :=
      world.processedPaymentEvents ++ [⟨event.provider, event.providerEventId, now⟩] }

/-- The insert under the table's unique constraint. -/
def recordProcessed (now : ℤ) (event : PaymentEvent) (world : World) : Except Failure World :=
  if world.Processed event.provider event.providerEventId then .error .integrityError
  else .ok (addRecord now event world)

/-- The stored token when there is one, else the drawn one. -/
def portalTokenFor (existing : Option Subscription) (drawn : String) : String :=
  match existing with
  | none => drawn
  | some row =>
      match row.portalToken with
      | none => drawn
      | some token => if token = "" then drawn else token

/-- The row after the upsert; a new row takes the column defaults. -/
def activeRow (now : ℤ) (event : PaymentEvent) (portalToken : String) :
    Option Subscription → Subscription
  | none =>
      { provider := some event.provider
        providerCustomerId := event.providerCustomerId
        providerSubscriptionId := event.providerSubscriptionId
        status := "active"
        currentPeriodEnd := event.currentPeriodEnd
        gracePeriodEndsAt := none
        portalToken := some portalToken
        updatedAt := now }
  | some row =>
      { row with
        provider := some event.provider
        providerCustomerId := event.providerCustomerId
        providerSubscriptionId := event.providerSubscriptionId
        status := "active"
        currentPeriodEnd := event.currentPeriodEnd
        gracePeriodEndsAt := none
        portalToken := some portalToken
        updatedAt := now }

/-- `INSERT ... ON CONFLICT (account_id) DO UPDATE`. -/
def upsertActive (now : ℤ) (event : PaymentEvent) (portalToken : String) (world : World) :
    World :=
  (world.setSubscription event.accountId
    (activeRow now event portalToken (world.subscription event.accountId))).log (.applied event)

/-- Change the account's row, if it has one. -/
def updateRow (accountId : String) (f : Subscription → Subscription) (world : World) : World :=
  match world.subscription accountId with
  | none => world
  | some row => world.setSubscription accountId (f row)

def pastDueRow (settings : Settings) (now : ℤ) (row : Subscription) : Subscription :=
  { row with
    status := "past_due"
    gracePeriodEndsAt := some (now + days settings.subscriptionGracePeriodDays)
    updatedAt := now }

def canceledRow (now : ℤ) (row : Subscription) : Subscription :=
  { row with status := "canceled", updatedAt := now }

def suspendedRow (now : ℤ) (row : Subscription) : Subscription :=
  { row with status := "suspended", updatedAt := now }

/-! ## What the effects leave alone -/

section Frame

variable {now : ℤ} {event : PaymentEvent} {world : World} {accountId portalToken : String}
  {provider providerEventId : String}

@[simp]
theorem subscription_addRecord :
    (addRecord now event world).subscription accountId = world.subscription accountId := rfl

@[simp]
theorem trace_addRecord : (addRecord now event world).trace = world.trace := rfl

theorem processed_addRecord :
    (addRecord now event world).Processed provider providerEventId ↔
      world.Processed provider providerEventId ∨
        event.provider = provider ∧ event.providerEventId = providerEventId := by
  simp only [World.Processed, addRecord, List.mem_append, List.mem_singleton, or_and_right,
    exists_or, exists_eq_left]

@[simp]
theorem subscription_upsertActive :
    (upsertActive now event portalToken world).subscription event.accountId =
      some (activeRow now event portalToken (world.subscription event.accountId)) := by
  rw [upsertActive, World.subscription_log, World.subscription_setSubscription]

theorem subscription_upsertActive_ne (apart : accountId ≠ event.accountId) :
    (upsertActive now event portalToken world).subscription accountId =
      world.subscription accountId := by
  rw [upsertActive, World.subscription_log, World.subscription_setSubscription_ne apart]

@[simp]
theorem trace_upsertActive :
    (upsertActive now event portalToken world).trace = world.trace ++ [.applied event] := rfl

@[simp]
theorem portalToken_activeRow {before : Option Subscription} :
    (activeRow now event portalToken before).portalToken = some portalToken := by
  cases before <;> rfl

theorem updateRow_of_none {f : Subscription → Subscription}
    (absent : world.subscription accountId = none) : updateRow accountId f world = world := by
  rw [updateRow, absent]

theorem updateRow_of_some {f : Subscription → Subscription} {row : Subscription}
    (present : world.subscription accountId = some row) :
    updateRow accountId f world = world.setSubscription accountId (f row) := by
  rw [updateRow, present]

theorem subscription_updateRow {f : Subscription → Subscription} :
    (updateRow accountId f world).subscription accountId =
      (world.subscription accountId).map f := by
  cases present : world.subscription accountId with
  | none => rw [updateRow_of_none present, present]; rfl
  | some row => rw [updateRow_of_some present, World.subscription_setSubscription]; rfl

theorem subscription_updateRow_ne {f : Subscription → Subscription} {other : String}
    (apart : other ≠ accountId) :
    (updateRow accountId f world).subscription other = world.subscription other := by
  cases present : world.subscription accountId with
  | none => rw [updateRow_of_none present]
  | some row => rw [updateRow_of_some present, World.subscription_setSubscription_ne apart]

@[simp]
theorem processed_updateRow {f : Subscription → Subscription} :
    (updateRow accountId f world).Processed provider providerEventId ↔
      world.Processed provider providerEventId := by
  cases present : world.subscription accountId with
  | none => rw [updateRow_of_none present]
  | some row => rw [updateRow_of_some present, World.processed_setSubscription]

end Frame

/-! ## Methods -/

def alreadyProcessed (provider providerEventId : String) : Prog Failure World Bool :=
  Prog.read fun world => decide (world.Processed provider providerEventId)

/-- The arguments of the `issue_api_key` call. -/
def PaymentEvent.keyRequest (event : PaymentEvent) : KeyRequest where
  accountId := some event.accountId
  label := some s!"mobile app - {event.accountId}"

/-- The `PAYMENT_SUCCEEDED` branch of a first activation, after the upsert's commit. -/
def issueCredentials (env : Env) (delivery : Delivery) (portalToken : String) :
    Prog Failure World (Option NewlyIssued) := do
  let event := delivery.event
  let mobileApiKey ←
    issueApiKey env delivery.now delivery.draws.mobileApiKey event.keyRequest
  Prog.commit (recordProcessed delivery.now event)
  return some ⟨event.accountId, portalToken, mobileApiKey⟩

/-- The `PAYMENT_SUCCEEDED` branch after `session.get`. -/
def activate (env : Env) (delivery : Delivery) (existing : Option Subscription) :
    Prog Failure World (Option NewlyIssued) := do
  let event := delivery.event
  let portalToken := portalTokenFor existing delivery.draws.portalToken
  match existing with
  | none =>
      Prog.modify (upsertActive delivery.now event portalToken)
      issueCredentials env delivery portalToken
  | some _ =>
      Prog.commit fun world =>
        recordProcessed delivery.now event (upsertActive delivery.now event portalToken world)
      return none

/-- The row update of the events that are not payments. -/
def applyToRow (env : Env) (delivery : Delivery) (world : World) : World :=
  match delivery.event.eventType with
  | .paymentFailed =>
      updateRow delivery.event.accountId (pastDueRow env.settings delivery.now) world
  | .subscriptionCanceled => updateRow delivery.event.accountId (canceledRow delivery.now) world
  | .paymentSucceeded | .unknown => world

def applyEvent (env : Env) (delivery : Delivery) : Prog Failure World (Option NewlyIssued) := do
  let event := delivery.event
  if event.accountId = "" then
    return none
  match event.eventType with
  | .paymentSucceeded =>
      let existing ← Prog.read (·.subscription event.accountId)
      activate env delivery existing
  | .paymentFailed | .subscriptionCanceled | .unknown =>
      Prog.commit fun world => recordProcessed delivery.now event
        ((applyToRow env delivery world).log (.applied event))
      return none

/-- `is_active`, as a function of the tables and the clock. -/
def World.isActive (world : World) (now : ℤ) (accountId : String) : Bool :=
  match world.subscription accountId with
  | none => false
  | some row =>
      if row.status = "active" then true
      else if row.status = "past_due" then row.gracePeriodEndsAt.any (now < ·)
      else false

def isActive (now : ℤ) (accountId : String) : Prog Failure World Bool :=
  Prog.read (·.isActive now accountId)

/-- The rows that `get_lapsed_accounts` selects; a grace period that is `NULL` is not
before any time. -/
def World.lapsedAccounts (world : World) (now : ℤ) : List String :=
  (world.subscriptions.entries.filter fun entry =>
    entry.2.status = "past_due" && entry.2.gracePeriodEndsAt.any (· < now)).map (·.1)

def getLapsedAccounts (now : ℤ) : Prog Failure World (List String) :=
  Prog.act fun world =>
    (world.lapsedAccounts now, world.log (.lapsed (world.lapsedAccounts now)))

def markSuspended (now : ℤ) (accountId : String) : Prog Failure World Unit :=
  Prog.modify fun world =>
    (updateRow accountId (suspendedRow now) world).log (.suspended accountId)

def markCanceled (now : ℤ) (accountId : String) : Prog Failure World Unit :=
  Prog.modify (updateRow accountId (canceledRow now))

/-! ## Runs of the payment branch -/

section Run

variable {env : Env} {delivery : Delivery} {world : World}

theorem recordProcessed_of_unseen {now : ℤ} {event : PaymentEvent}
    (unseen : ¬ world.Processed event.provider event.providerEventId) :
    recordProcessed now event world = .ok (addRecord now event world) := if_neg unseen

theorem run_issueCredentials {portalToken : String}
    (unseen : ¬ world.Processed delivery.event.provider delivery.event.providerEventId)
    (fresh : world.FreshKey env delivery.draws.mobileApiKey) :
    (issueCredentials env delivery portalToken).run world =
      (.ok (some ⟨delivery.event.accountId, portalToken, delivery.draws.mobileApiKey⟩),
        addRecord delivery.now delivery.event
          (addKey env delivery.now delivery.draws.mobileApiKey delivery.event.keyRequest
            world)) := by
  unfold issueCredentials
  refine (Prog.run_bind_ok (run_issueApiKey fresh)).trans ?_
  exact Prog.run_bind_ok (Prog.run_commit_ok (recordProcessed_of_unseen unseen))

/-- A first activation that nothing interrupts. -/
theorem run_activate_none
    (unseen : ¬ world.Processed delivery.event.provider delivery.event.providerEventId)
    (fresh : world.FreshKey env delivery.draws.mobileApiKey) :
    (activate env delivery none).run world =
      (.ok (some ⟨delivery.event.accountId, delivery.draws.portalToken,
          delivery.draws.mobileApiKey⟩),
        addRecord delivery.now delivery.event
          (addKey env delivery.now delivery.draws.mobileApiKey delivery.event.keyRequest
            (upsertActive delivery.now delivery.event delivery.draws.portalToken world))) :=
  (Prog.run_bind_ok (Prog.run_modify _ _)).trans (run_issueCredentials unseen fresh)

/-- A renewal. -/
theorem run_activate_some {row : Subscription}
    (unseen : ¬ world.Processed delivery.event.provider delivery.event.providerEventId) :
    (activate env delivery (some row)).run world =
      (.ok none, addRecord delivery.now delivery.event
        (upsertActive delivery.now delivery.event
          (portalTokenFor (some row) delivery.draws.portalToken) world)) :=
  Prog.run_bind_ok (Prog.run_commit_ok (recordProcessed_of_unseen unseen))

theorem processed_applyToRow {provider providerEventId : String} :
    (applyToRow env delivery world).Processed provider providerEventId ↔
      world.Processed provider providerEventId := by
  unfold applyToRow
  split
  · exact processed_updateRow
  · exact processed_updateRow
  · exact Iff.rfl
  · exact Iff.rfl

/-- Any other event. -/
theorem run_applyEvent_other (named : delivery.event.accountId ≠ "")
    (other : delivery.event.eventType ≠ .paymentSucceeded)
    (unseen : ¬ world.Processed delivery.event.provider delivery.event.providerEventId) :
    (applyEvent env delivery).run world =
      (.ok none, addRecord delivery.now delivery.event
        ((applyToRow env delivery world).log (.applied delivery.event))) := by
  have unseenRow : ¬ (applyToRow env delivery world).Processed delivery.event.provider
      delivery.event.providerEventId := processed_applyToRow.not.mpr unseen
  simp only [applyEvent, named, if_false]
  split
  next payment => exact (other payment).elim
  all_goals exact Prog.run_bind_ok (Prog.run_commit_ok (recordProcessed_of_unseen unseenRow))

/-- A payment for a named account, from the `session.get` on. -/
theorem run_applyEvent_payment (named : delivery.event.accountId ≠ "")
    (payment : delivery.event.eventType = .paymentSucceeded) :
    (applyEvent env delivery).run world =
      (activate env delivery (world.subscription delivery.event.accountId)).run world := by
  simp only [applyEvent, named, if_false, payment]
  exact Prog.run_bind_ok (Prog.run_read _ _)

end Run

end Aegis.Subscriptions
