import Mathlib.Data.Finset.Card
import Aegis.Subscriptions.Tenants
import Aegis.Workers.Dispatch

/-!
# What the trading router works with

The state behind `trading_router.py`: the subscription tables and worker keys of `World`,
the credential vault and the daily trade counters, with `CredentialVaultService`,
`TradeLimitService.consume`, `ensure_worker` and `submit_and_wait` on it.

What the router cannot decide is input: whether a worker process is alive, and the
result that comes back in time.
-/

namespace Aegis.Trading

open Aegis.Lib Aegis.Payments Aegis.Subscriptions Aegis.Workers

/-- A row of `credentials`.  The passwords are stored encrypted, and reading decrypts
them. -/
structure Credential where
  brokerName : String
  server : String
  accountId : String
  tradingPassword : String
  investorPassword : Option String
  executionEnabled : Bool
  deriving DecidableEq

structure Desk where
  world : World
  /-- `credentials` by `credential_id`, which is the account id -/
  vault : String → Option Credential
  /-- the `trade_count` of `trade_daily_counters`, by account and day -/
  tradeCounts : String → ℤ → Option ℤ

namespace Desk

/-- Empty tables, and no worker. -/
def empty : Desk := ⟨.empty, fun _ => none, fun _ _ => none⟩

/-- A program on the tables and keys of `World`. -/
def onWorld {α : Type} (p : Prog Failure World α) : Prog Failure Desk α :=
  p.zoom Desk.world fun world desk => { desk with world := world }

/-- The accounts with a worker, according to the registry. -/
def Running (desk : Desk) (accountId : String) : Prop := accountId ∈ desk.world.workerRegistry

instance (desk : Desk) (accountId : String) : Decidable (desk.Running accountId) :=
  inferInstanceAs (Decidable (_ ∈ _))

theorem run_onWorld {α : Type} (p : Prog Failure World α) (desk : Desk) :
    (onWorld p).run desk =
      ((p.run desk.world).1, { desk with world := (p.run desk.world).2 }) := by
  unfold onWorld
  apply Prog.run_zoom
  · exact fun _ _ => rfl
  · exact fun _ _ _ => rfl
  · exact fun _ => rfl

theorem run_onWorld_ok {α : Type} {p : Prog Failure World α} {desk : Desk} {after : World} {a : α}
    (ran : p.run desk.world = (.ok a, after)) :
    (onWorld p).run desk = (.ok a, { desk with world := after }) := by
  rw [run_onWorld, ran]

end Desk

/-! ## The vault -/

def saveCredentials (credential : Credential) : Prog Failure Desk Unit :=
  Prog.modify fun desk =>
    { desk with vault := Function.update desk.vault credential.accountId (some credential) }

def getCredentialsByAccount (accountId : String) : Prog Failure Desk (Option Credential) :=
  Prog.read (·.vault accountId)

/-! ## The daily quota -/

/-- `_today()`, as the number of the day. -/
def today (now : ℤ) : ℤ := now / days 1

/-- `_limit_for`: the column is not nullable, so the copy in the row is what counts. -/
def limitFor (accountId : String) : Prog Failure Desk ℤ :=
  Prog.read fun desk =>
    match desk.world.subscription accountId with
    | none => 0
    | some row => row.maxTradesPerDay

/-- What `status` returns. -/
structure QuotaStatus where
  accountId : String
  day : ℤ
  used : ℤ
  limit : ℤ
  remaining : Option ℤ
  unlimited : Bool

/-- `remaining` of `status` and of `consume`. -/
def remaining (limit used : ℤ) : Option ℤ :=
  if limit = 0 then none else some (max 0 (limit - used))

def status (now : ℤ) (accountId : String) : Prog Failure Desk QuotaStatus := do
  let limit ← limitFor accountId
  let row ← Prog.read (·.tradeCounts accountId (today now))
  let used := row.getD 0
  return ⟨accountId, today now, used, limit, remaining limit used, limit = 0⟩

/-- What `consume` returns. -/
structure Quota where
  used : ℤ
  limit : ℤ
  remaining : Option ℤ
  unlimited : Bool

/-- `row.trade_count` after `rollback`: a row from the database is expired, and reading it
would have to load it again; a new one is still as it was made. -/
def tradeCountAfterRollback : Option ℤ → Except Failure ℤ
  | some _ => .error .missingGreenlet
  | none => .ok 0

/-- The session of `consume`, with the text of its `ValueError`; `trade_count` is a 32-bit
integer. -/
def consumeUnits (account : String) (day limit n : ℤ) (desk : Desk) :
    Except Failure (Except String ℤ × Desk) :=
  let row := desk.tradeCounts account day
  let used := row.getD 0 + n
  if limit > 0 ∧ used > limit then
    (tradeCountAfterRollback row).map fun tradeCount =>
      (.error s!"Daily trade limit reached ({tradeCount}/{limit}). Upgrade your plan.", desk)
  else if used < -2147483648 ∨ 2147483648 ≤ used then .error .dataError
  else
    .ok (.ok used,
      { desk with
        tradeCounts := Function.update desk.tradeCounts account
          (Function.update (desk.tradeCounts account) day (some used)) })

def consume (now : ℤ) (accountId : String) (n : ℤ) : Prog Failure Desk (Except String Quota) := do
  let limit ← limitFor accountId
  let outcome ← Prog.transact (consumeUnits accountId (today now) limit n)
  return outcome.map fun used => ⟨used, limit, remaining limit used, limit = 0⟩

/-! ## Workers and jobs -/

/-- `MAX_CONCURRENT_WORKERS`. -/
def maxConcurrentWorkers : ℕ := 100

/-- `ensure_worker`, where `alive` says whether the process that this instance holds for
the account is still running.  The credentials go to the process by a key of their own. -/
def ensureWorker (alive : Bool) (accountId : String) : Prog Failure World Bool := do
  if (← Prog.read fun world => decide (accountId ∈ world.workers)) && alive then
    return true
  Prog.modify fun world => { world with workers := world.workers.erase accountId }
  if (← Prog.read fun world => world.workers.card) ≥ maxConcurrentWorkers then
    return false
  Prog.modify fun world => { world with workers := insert accountId world.workers }
  Prog.modify fun world =>
    { world with workerRegistry := insert accountId world.workerRegistry }
  return true

/-- What one `submit_and_wait` meets: the id that `uuid4` draws, and the result that comes
back in time. -/
structure Link where
  jobId : String
  reply : Option JobResult

/-- `LPUSH queue:account:{account_id}`. -/
def enqueue (accountId : String) (job : Job) (world : World) : World :=
  { world with
    queues := Function.update world.queues accountId (job :: world.queues accountId) }

def submitAndWait (link : Link) (accountId jobType : String) (payload : Json) :
    Prog Failure Desk (Option JobResult) := do
  Desk.onWorld (Prog.modify (enqueue accountId ⟨link.jobId, jobType, payload⟩))
  return link.reply

end Aegis.Trading
