import Aegis.Api.Router
import Aegis.Lib.Refine

/-!
# The server and its parts

What is proved of the parts holds on the server.  The trading router of the server is that
of `Aegis.Trading`, seen through the desk (`handleTrading_refines`).  The commands that the
endpoints send to Redis act on the key of one account, found by its text, although the
state has a map for each family (`keyspace_enqueue` and what follows it).
-/

namespace Aegis.Api

open Aegis.Lib Aegis.History Aegis.Payments Aegis.Rulebook Aegis.Subscriptions Aegis.Trading
  Aegis.Vision Aegis.Workers

variable {α : Type} [LinearOrder (Record (FrameState α))]

/-! ## Trading -/

section Trading

variable {visit : Visit} {auth : AuthContext} {β : Type}

/-- A program on `World`, which the desk has as a part too. -/
theorem onWorld_bind {γ : Type} (p : Prog Failure World β) (f : β → Prog Failure World γ) :
    Desk.onWorld (p >>= f) = Desk.onWorld p >>= fun a => Desk.onWorld (f a) :=
  Prog.zoom_bind _ _ p f

theorem refines_onDesk (p : Prog Failure Desk β) :
    Refines Server.desk .failure (onDesk (α := α) p) p := by
  apply Refines.embed
  · exact fun _ _ => rfl
  · exact fun _ _ _ => rfl
  · exact fun _ => rfl

/-- `ensure_worker` and the worker pool of the desk, which does not see the credentials. -/
theorem ensureWorker_refines (alive : Bool) (accountId : String) (credentials : Credentials) :
    Refines Server.desk .failure (ensureWorker (α := α) visit alive accountId credentials)
      (Desk.onWorld (Trading.ensureWorker alive accountId)) := by
  unfold ensureWorker Trading.ensureWorker
  rw [onWorld_bind]
  refine .bind (refines_onDesk _) fun held => ?_
  by_cases running : (held && alive) = true
  · rw [if_pos running, if_pos running]
    exact .pure true
  · rw [if_neg running, if_neg running, onWorld_bind]
    refine .bind (refines_onDesk _) fun _ => ?_
    rw [onWorld_bind]
    refine .bind (refines_onDesk _) fun count => ?_
    by_cases full : count ≥ maxConcurrentWorkers
    · rw [if_pos full, if_pos full]
      exact .pure false
    · rw [if_neg full, if_neg full]
      refine .skip (fun _ => rfl) ?_
      rw [onWorld_bind]
      refine .bind (refines_onDesk _) fun _ => ?_
      rw [onWorld_bind]
      exact .bind (refines_onDesk _) fun _ => .pure true

theorem startWorker_refines (alive : Bool) (request : CredentialCreateRequest) :
    Refines Server.desk .failure (startWorker (α := α) visit alive request)
      (Trading.startWorker alive request) := by
  refine .bind (refines_onDesk _) fun _ => .bind (refines_onDesk _) fun stored => ?_
  cases stored with
  | none => exact .raise _
  | some stored =>
      cases enabled : stored.executionEnabled with
      | false =>
          simp only [Option.any_some, enabled]
          exact .raise _
      | true =>
          simp only [Option.any_some, enabled]
          refine .bind (ensureWorker_refines alive _ _) fun started => ?_
          cases started with
          | false => exact .raise _
          | true => exact .pure _

/-- **The trading router of the server is the trading router**, seen through the desk. -/
theorem handleTrading_refines (request : Trading.Request) :
    Refines Server.desk .failure (handleTrading (α := α) visit auth request)
      (request.handle visit.now visit.link auth) := by
  cases request with
  | connect alive request =>
      exact .bind (.ofExcept _) fun _ => .bind (refines_onDesk _) fun plan =>
        .bind (.ofExcept _) fun _ => startWorker_refines alive request
  | getHealth _ | disconnect _ | placeMarketOrder _ | getAccount _ | getPositions _
  | getPendingOrders _ | placePendingOrder _ | modifyPosition _ | closePosition _
  | cancelOrder _ _ | getSymbol _ _ => exact refines_onDesk _

end Trading

/-! ## Redis -/

section Redis

variable (server : Server α)

/-- `LPUSH queue:account:{account_id}`. -/
theorem keyspace_enqueue (accountId : String) (job : Job) :
    { server with
      desk := { server.desk with world := enqueue accountId job server.desk.world } }.keyspace =
      Function.update server.keyspace (accountKey .queue accountId)
        (some (.jobs (job :: server.desk.world.queues accountId))) := by
  apply keyspace_update
  · exact Function.comp_update (fun jobs : List Job =>
      if jobs = [] then none else some (Value.jobs jobs)) server.desk.world.queues accountId _
  · intro kind other
    rcases kind with (_ | _ | _ | _ | _ | _) | _ | _ | _ | _ <;>
      first | rfl | exact absurd rfl other

/-- `SET worker_creds:{account_id} ... EX 60`. -/
theorem keyspace_stashWorkerCredentials (visit : Visit) (accountId : String)
    (credentials : Credentials) :
    ((stashWorkerCredentials visit accountId credentials).run server).2.keyspace =
      Function.update server.keyspace (accountKey .workerCreds accountId)
        (some (.credentials ⟨credentials, some (visit.arrival.now + 60)⟩)) := by
  apply keyspace_update
  · exact Function.comp_update (Option.map Value.credentials) server.workerCreds accountId _
  · intro kind other
    rcases kind with (_ | _ | _ | _ | _ | _) | _ | _ | _ | _ <;>
      first | rfl | exact absurd rfl other

/-- `SET device_health:{account_id} ... EX 180`. -/
theorem keyspace_setHealth (now : ℚ) (heartbeat : HeartbeatRequest) :
    { server with devices := setHealth now heartbeat server.devices }.keyspace =
      Function.update server.keyspace (accountKey .deviceHealth heartbeat.accountId)
        (some (.heartbeat ⟨⟨heartbeat, now⟩, some (now + heartbeatTtlSeconds)⟩)) := by
  apply keyspace_update
  · exact Function.comp_update (Option.map Value.heartbeat) server.devices.health
      heartbeat.accountId _
  · intro kind other
    rcases kind with (_ | _ | _ | _ | _ | _) | _ | _ | _ | _ <;>
      first | rfl | exact absurd rfl other

/-- The pipeline on `rl:acct:{account_id}`. -/
theorem keyspace_pipeline (now : ℚ) (accountId : String) :
    { server with windows := (pipeline now accountId server.windows).2 }.keyspace =
      Function.update server.keyspace (accountKey .rateLimit accountId)
        ((Expiring.expire now (windowSeconds + 5)
          (addRequest now (server.windows.redis accountId))).map .window) := by
  apply keyspace_update
  · exact Function.comp_update (Option.map Value.window) server.windows.redis accountId _
  · intro kind other
    rcases kind with (_ | _ | _ | _ | _ | _) | _ | _ | _ | _ <;>
      first | rfl | exact absurd rfl other

/-- `ZADD`, `ZREMRANGEBYRANK` and `EXPIRE` on `indicator_history:{account_id}`. -/
theorem keyspace_indicatorHistory (accountId : String)
    (key : Option (Expiring ℚ (SortedSet ℚ (Record (FrameState α))))) :
    { server with
      stores := { server.stores with
        indicatorHistory :=
          Function.update server.stores.indicatorHistory accountId key } }.keyspace =
      Function.update server.keyspace (accountKey .indicatorHistory accountId)
        (key.map .frames) := by
  apply keyspace_update
  · exact Function.comp_update (Option.map Value.frames) server.stores.indicatorHistory accountId _
  · intro kind other
    rcases kind with (_ | _ | _ | _ | _ | _) | _ | _ | _ | _ <;>
      first | rfl | exact absurd rfl other

end Redis

end Aegis.Api
