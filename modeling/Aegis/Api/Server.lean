import Aegis.Api.Devices
import Aegis.Api.Keys
import Aegis.Api.RateLimit
import Aegis.Trading.Router
import Aegis.Workers.Floor

/-!
# The server

The tables, keys and process memory behind the routers, as one state.  `Server.keyspace`
is the part of Redis that belongs to accounts, text by text, and `Server.records` is all
that there is of one account.

The state keeps one map for each family of keys.  That Redis keeps them in one namespace
makes no difference: a change of a map at one account is a change of Redis at the
account's key (`keyspace_update`).
-/

namespace Aegis.Api

open Aegis.Lib Aegis.History Aegis.Rulebook Aegis.Subscriptions Aegis.Trading Aegis.Vision
  Aegis.Workers

/-- A row of `audit_events`, without its primary key. -/
structure AuditEvent where
  createdAt : ℤ
  actorType : String
  actorId : Option String
  actorLabel : Option String := none
  action : String
  targetType : Option String := none
  targetId : Option String := none
  accountId : Option String
  detail : Option String := none
  ip : Option String
  success : Bool := true

structure Server (α : Type) [LinearOrder (Record (FrameState α))] where
  desk : Desk
  stores : Stores α
  /-- the `worker_creds:{account_id}` keys -/
  workerCreds : String → Option (Expiring ℚ Credentials)
  windows : Windows
  devices : Devices
  auditEvents : List AuditEvent

/-- A value of Redis. -/
inductive Value (α : Type) [LinearOrder (Record (FrameState α))] where
  | jobs (queue : List Job)
  | credentials (key : Expiring ℚ Credentials)
  | frames (key : Expiring ℚ (SortedSet ℚ (Record (FrameState α))))
  | heartbeat (key : Expiring ℚ Heartbeat)
  | window (key : Expiring ℚ (SortedSet ℚ ℚ))
  | pending (key : Expiring ℤ PendingCredentials)
  /-- the fields of a hash -/
  | fields (accounts : Finset String)
  /-- the members of a set -/
  | members (accounts : List String)

/-- What there is of one account. -/
structure AccountRecords (α : Type) [LinearOrder (Record (FrameState α))] where
  /-- the keys of the account, by the text of the key -/
  redis : Family → Option (Value α)
  /-- its field of `worker_registry` -/
  registered : Prop
  /-- its process handle -/
  worker : Prop
  subscription : Option Subscription
  credential : Option Credential
  tradeCounts : ℤ → Option ℤ
  signalHistory : List SignalHistory
  uploadDiagnostics : List UploadDiagnostic
  devices : Devices.Records
  /-- its deque of request times -/
  requestTimes : List ℚ
  auditEvents : List AuditEvent

section Records

variable {α : Type} [LinearOrder (Record (FrameState α))]

namespace Server

variable (server : Server α)

/-- What Redis holds under the key of this kind with this id.  Results and reveal tokens
belong to jobs and visitors, and are not among the records of accounts. -/
def entry : KeyKind → String → Option (Value α)
  | .account .queue, accountId =>
      if server.desk.world.queues accountId = [] then none
      else some (.jobs (server.desk.world.queues accountId))
  | .account .workerCreds, accountId => (server.workerCreds accountId).map .credentials
  | .account .indicatorHistory, accountId =>
      (server.stores.indicatorHistory accountId).map .frames
  | .account .deviceHealth, accountId => (server.devices.health accountId).map .heartbeat
  | .account .rateLimit, accountId => (server.windows.redis accountId).map .window
  | .account .pendingCredentials, accountId =>
      (server.desk.world.pendingCredentials accountId).map .pending
  | .result, _ => none
  | .revealToken, _ => none
  | .workerRegistry, id =>
      if id ≠ "" ∨ server.desk.world.workerRegistry = ∅ then none
      else some (.fields server.desk.world.workerRegistry)
  | .devicesKnown, id =>
      if id ≠ "" ∨ server.devices.known = [] then none else some (.members server.devices.known)

/-- The keys of the accounts in Redis, with the two that they share. -/
def keyspace : String → Option (Value α) := redisKeys.store server.entry

def records (accountId : String) : AccountRecords α where
  redis := fun family => server.keyspace (accountKey family accountId)
  registered := accountId ∈ server.desk.world.workerRegistry
  worker := accountId ∈ server.desk.world.workers
  subscription := server.desk.world.subscription accountId
  credential := server.desk.vault accountId
  tradeCounts := server.desk.tradeCounts accountId
  signalHistory := server.stores.signalHistory.filter (·.accountId = accountId)
  uploadDiagnostics := server.stores.uploadDiagnostics.filter (·.accountId = accountId)
  devices := server.devices.records accountId
  requestTimes := server.windows.deques accountId
  auditEvents := server.auditEvents.filter (·.accountId = some accountId)

end Server

/-! ## Redis, key by key -/

section Keyspace

variable {before after : Server α} {family : Family} {accountId : String}

theorem keyspace_accountKey (server : Server α) (family : Family) (accountId : String) :
    server.keyspace (accountKey family accountId) = server.entry (.account family) accountId :=
  Heads.store_key _ _ _ _

/-- A change of one map at one account is a change of Redis at one key. -/
theorem keyspace_update {value : Option (Value α)}
    (own : after.entry (.account family) =
      Function.update (before.entry (.account family)) accountId value)
    (others : ∀ kind, kind ≠ .account family → after.entry kind = before.entry kind) :
    after.keyspace = Function.update before.keyspace (accountKey family accountId) value := by
  have stored : after.entry (.account family) accountId = value := by
    rw [own, Function.update_self]
  rw [← stored]
  refine Heads.store_update _ fun kind id elsewhere => ?_
  by_cases same : kind = .account family
  · subst same
    rw [own, Function.update_of_ne fun owner => elsewhere ⟨rfl, owner⟩]
  · rw [others kind same]

end Keyspace

end Records

end Aegis.Api
