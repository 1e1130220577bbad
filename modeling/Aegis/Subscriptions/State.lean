import Mathlib.Data.Finset.Basic
import Mathlib.Data.List.AList
import Aegis.Lib.Atomic
import Aegis.Lib.Expiring
import Aegis.Payments.Json

/-!
# What the subscription code shares

The Postgres tables and the Redis keys behind `SubscriptionService`, the key service,
`CredentialRevealService` and the worker pool, as one record `World` that handlers
change in atomic steps.  Times are microseconds.

Random draws and clock readings are inputs.  `World.trace` is a history variable: the
steps below append to it and none reads it.
-/

namespace Aegis.Subscriptions

open Aegis.Lib

/-- `timedelta(days=n)`. -/
def days (n : ℤ) : ℤ := n * 86400000000

/-- A Redis time to live in seconds. -/
def seconds (n : ℤ) : ℤ := n * 1000000

/-! ## Events -/

inductive PaymentEventType where
  | paymentSucceeded
  | paymentFailed
  | subscriptionCanceled
  | unknown
  deriving DecidableEq

/-- `PaymentEvent` with the fields that are read after parsing. -/
structure PaymentEvent where
  provider : String
  providerEventId : String
  eventType : PaymentEventType
  accountId : String
  providerCustomerId : Option String
  providerSubscriptionId : Option String
  currentPeriodEnd : Option ℤ
  deriving DecidableEq

/-! ## Tables and keys -/

/-- A row of `subscriptions`, without its primary key. -/
structure Subscription where
  provider : Option String
  providerCustomerId : Option String
  providerSubscriptionId : Option String
  status : String
  currentPeriodEnd : Option ℤ
  gracePeriodEndsAt : Option ℤ
  portalToken : Option String
  plan : String := "starter"
  maxDevices : ℤ := 1
  maxTradesPerDay : ℤ := 10
  updatedAt : ℤ
  deriving DecidableEq

/-- A row of `processed_payment_events`. -/
structure ProcessedPaymentEvent where
  provider : String
  providerEventId : String
  processedAt : ℤ
  deriving DecidableEq

/-- A row of `api_keys`. -/
structure ApiKey where
  id : ℕ
  keyHash : String
  accountId : Option String
  isAdmin : Bool
  label : Option String
  revoked : Bool
  createdAt : ℤ
  lastUsedAt : Option ℤ
  expiresAt : Option ℤ
  rotationDueAt : Option ℤ
  forceRotate : Bool
  issuedBy : Option String
  revokedBy : Option String
  revokedAt : Option ℤ
  replacesKeyId : Option ℕ
  deriving DecidableEq

/-- The JSON payload of a `pending_credentials:{account_id}` key. -/
structure PendingCredentials where
  portalToken : String
  mobileApiKey : String
  accountId : String
  deriving DecidableEq

/-- An entry of a `queue:account:{account_id}` list. -/
structure Job where
  jobId : String
  jobType : String
  payload : Payments.Json

/-- What the history variable records. -/
inductive Act where
  /-- a commit of `apply_event` that carries the event's effect on the subscription -/
  | applied (event : PaymentEvent)
  | stashed (now : ℤ) (credentials : PendingCredentials)
  /-- the answer of `get_lapsed_accounts` -/
  | lapsed (accounts : List String)
  | suspended (accountId : String)
  deriving DecidableEq

structure World where
  subscriptions : AList fun _ : String => Subscription
  processedPaymentEvents : List ProcessedPaymentEvent
  apiKeys : List ApiKey
  /-- the sequence behind `api_keys.id` -/
  nextKeyId : ℕ
  pendingCredentials : String → Option (Expiring ℤ PendingCredentials)
  /-- the fields of the `worker_registry` hash -/
  workerRegistry : Finset String
  /-- the accounts whose worker process this instance holds -/
  workers : Finset String
  queues : String → List Job
  trace : List Act

/-- The empty database and the empty Redis. -/
def World.empty : World :=
  ⟨∅, [], [], 1, fun _ => none, ∅, ∅, fun _ => [], []⟩

namespace World

variable (world : World)

def subscription (accountId : String) : Option Subscription :=
  world.subscriptions.lookup accountId

def setSubscription (accountId : String) (row : Subscription) : World :=
  { world with subscriptions := world.subscriptions.insert accountId row }

def log (act : Act) : World := { world with trace := world.trace ++ [act] }

/-- The rows of `api_keys` that belong to the account. -/
def keysOf (accountId : String) : List ApiKey :=
  world.apiKeys.filter (·.accountId = some accountId)

def Processed (provider providerEventId : String) : Prop :=
  ∃ row ∈ world.processedPaymentEvents,
    row.provider = provider ∧ row.providerEventId = providerEventId

instance (provider providerEventId : String) :
    Decidable (world.Processed provider providerEventId) :=
  List.decidableBEx _ _

section Frame

variable {world : World} {accountId other : String} {row : Subscription} {act : Act}

@[simp]
theorem subscription_setSubscription :
    (world.setSubscription accountId row).subscription accountId = some row :=
  AList.lookup_insert _

theorem subscription_setSubscription_ne (apart : other ≠ accountId) :
    (world.setSubscription accountId row).subscription other = world.subscription other :=
  AList.lookup_insert_ne apart

@[simp]
theorem subscription_log : (world.log act).subscription accountId =
    world.subscription accountId := rfl

@[simp]
theorem trace_log : (world.log act).trace = world.trace ++ [act] := rfl

@[simp]
theorem processed_setSubscription {provider providerEventId : String} :
    (world.setSubscription accountId row).Processed provider providerEventId ↔
      world.Processed provider providerEventId := Iff.rfl

end Frame

end World

end Aegis.Subscriptions
