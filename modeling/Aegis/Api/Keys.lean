import Aegis.Lib.Keyspace

/-!
# The keys of Redis

Every key that the services build, by the head that its f-string begins with.
-/

namespace Aegis.Api

open Aegis.Lib

/-- The records that Redis keeps under a key of the account. -/
inductive Family where
  | queue
  | workerCreds
  | indicatorHistory
  | deviceHealth
  | rateLimit
  | pendingCredentials
  deriving DecidableEq

inductive KeyKind where
  | account (family : Family)
  /-- followed by a job id -/
  | result
  /-- followed by a reveal token -/
  | revealToken
  /-- `REGISTRY_KEY` -/
  | workerRegistry
  /-- `DEVICE_SET_KEY` -/
  | devicesKnown
  deriving DecidableEq

def KeyKind.head : KeyKind → String
  | account .queue => "queue:account:"
  | account .workerCreds => "worker_creds:"
  | account .indicatorHistory => "indicator_history:"
  | account .deviceHealth => "device_health:"
  | account .rateLimit => "rl:acct:"
  | account .pendingCredentials => "pending_credentials:"
  | result => "result:"
  | revealToken => "reveal_token:"
  | workerRegistry => "worker_registry"
  | devicesKnown => "devices:known"

def redisKeys : Heads KeyKind where
  families :=
    [.account .queue, .account .workerCreds, .account .indicatorHistory, .account .deviceHealth,
      .account .rateLimit, .account .pendingCredentials, .result, .revealToken, .workerRegistry,
      .devicesKnown]
  complete := by
    intro kind
    rcases kind with family | _ | _ | _ | _
    · cases family <;> decide
    all_goals decide
  head := KeyKind.head
  apart := by decide

/-- `_queue_key`, `_key`, `_pending_key` and the like. -/
def accountKey (family : Family) (accountId : String) : String :=
  redisKeys.key (.account family) accountId

example : accountKey .queue "a:1" = "queue:account:a:1" := rfl

end Aegis.Api
