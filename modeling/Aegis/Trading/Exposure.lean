import Aegis.Lib.Run
import Aegis.Trading.Router

/-!
# Jobs that open exposure

`place_market_order` checks the subscription and the daily quota before it queues an
order, `place_pending_order` neither.  `ordersGuarded_iff` says exactly in which sequences
of requests every queued order was checked.
-/

namespace Aegis.Trading

open Aegis.Lib Aegis.Subscriptions Aegis.Workers

def OpensExposure (job : Job) : Prop :=
  job.jobType = "market_order" ∨ job.jobType = "pending_order"

/-- A request as it comes in, or anything that others do between two requests. -/
inductive Arrival where
  | request (now : ℤ) (link : Link) (xApiKey : Option String) (request : Request)
  | elsewhere (change : Desk → Desk)

/-- The desk afterwards, whether the request was answered or refused. -/
def Arrival.take (env : Env) (desk : Desk) : Arrival → Desk
  | request now link xApiKey asked => ((serve env now link xApiKey asked).run desk).2
  | elsewhere change => change desk

/-- An order that the request queues is one of an account that may trade live, and the
request takes one unit of the account's quota for the day. -/
def Arrival.Guarded (env : Env) (desk : Desk) (arrival : Arrival) : Prop :=
  match arrival with
  | request now _ _ _ => ∀ accountId added,
      (arrival.take env desk).world.queues accountId = added ++ desk.world.queues accountId →
        ∀ job ∈ added, OpensExposure job →
          desk.world.allowsLiveTrading now accountId = true ∧
            (arrival.take env desk).tradeCounts accountId (today now) =
              some ((desk.tradeCounts accountId (today now)).getD 0 + 1)
  | elsewhere _ => True

/-- A pending order with a key for its account, which the registry lists. -/
def Arrival.PendingOrderPasses (env : Env) (desk : Desk) : Arrival → Prop
  | request now _ xApiKey (.placePendingOrder order) =>
      desk.Running order.accountId ∧ ∃ auth after,
        verifyApiKey env now xApiKey desk.world = .ok (auth, after) ∧
          requireAccountMatch auth order.accountId = .ok ()
  | request _ _ _ _ | elsewhere _ => False

/-! ## Requests that queue no order -/

/-- Whatever is queued opens no exposure. -/
def QueuesNoOrder (before after : World) : Prop :=
  ∀ accountId, ∃ added, after.queues accountId = added ++ before.queues accountId ∧
    ∀ job ∈ added, ¬ OpensExposure job

theorem QueuesNoOrder.refl (world : World) : QueuesNoOrder world world :=
  fun _ => ⟨[], rfl, nofun⟩

theorem queuesNoOrder_of_queues {before after : World} (same : after.queues = before.queues) :
    QueuesNoOrder before after := by
  intro accountId
  exact ⟨[], by rw [same]; rfl, nofun⟩

theorem QueuesNoOrder.trans {before between after : World} (first : QueuesNoOrder before between)
    (second : QueuesNoOrder between after) : QueuesNoOrder before after := by
  intro accountId
  obtain ⟨early, grown, calm⟩ := first accountId
  obtain ⟨late, grows, still⟩ := second accountId
  refine ⟨late ++ early, by rw [grows, grown, List.append_assoc], fun job member => ?_⟩
  rcases List.mem_append.mp member with new | old
  · exact still job new
  · exact calm job old

theorem queuesNoOrder_push {world after : World} {account : String} {job : Job}
    (calm : ¬ OpensExposure job)
    (push : after.queues = Function.update world.queues account (job :: world.queues account)) :
    QueuesNoOrder world after := by
  intro accountId
  rw [push]
  by_cases own : accountId = account
  · subst own
    refine ⟨[job], Function.update_self _ _ _, fun other member => ?_⟩
    rw [List.mem_singleton.mp member]
    exact calm
  · exact ⟨[], Function.update_of_ne own _ _, nofun⟩

section Requests

variable {env : Env} {now : ℤ} {link : Link} {auth : AuthContext} {accountId jobType : String}
  {payload : Payments.Json}

/-- Queueing no order, on the desk. -/
def Calm (before after : Desk) : Prop := QueuesNoOrder before.world after.world

theorem Calm.refl (desk : Desk) : Calm desk desk := QueuesNoOrder.refl desk.world

theorem calm_onWorld {α : Type} {p : Prog Failure World α} (calm : p.Guarantees QueuesNoOrder) :
    (Desk.onWorld p).Guarantees Calm :=
  calm.zoom fun _ _ added => added

theorem calm_read {α : Type} (f : World → α) : (Desk.onWorld (Prog.read f)).Guarantees Calm :=
  calm_onWorld (Prog.guarantees_read QueuesNoOrder.refl f)

/-- The types of the jobs that open exposure are two. -/
structure Harmless (jobType : String) : Prop where
  market : jobType ≠ "market_order"
  pending : jobType ≠ "pending_order"

theorem Harmless.not_opensExposure {job : Job} (harmless : Harmless job.jobType) :
    ¬ OpensExposure job := by
  intro opens
  rcases opens with market | pending
  · exact harmless.market market
  · exact harmless.pending pending

theorem calm_submitAndWait (harmless : Harmless jobType) :
    (submitAndWait link accountId jobType payload).Guarantees Calm := by
  unfold submitAndWait
  apply Prog.Guarantees.bind
  · exact calm_onWorld (Prog.guarantees_modify fun world =>
      queuesNoOrder_push (Harmless.not_opensExposure harmless) rfl)
  · exact fun _ => Prog.guarantees_pure _

theorem calm_relay (harmless : Harmless jobType) :
    (relay link accountId jobType payload).Guarantees Calm := by
  unfold relay
  apply Prog.Guarantees.bind
  · exact calm_read _
  · intro running
    split
    · trivial
    · refine (calm_submitAndWait harmless).bind fun reply => ?_
      split <;> trivial

theorem calm_command (harmless : Harmless jobType) (default : String) :
    (command link auth accountId jobType payload default).Guarantees Calm := by
  unfold command
  apply Prog.Guarantees.bind
  · exact Prog.guarantees_ofExcept _
  · exact fun _ => (calm_relay harmless).bind fun _ => Prog.guarantees_ofExcept _

theorem calm_getHealth : (getHealth link auth accountId).Guarantees Calm := by
  unfold getHealth
  apply Prog.Guarantees.bind
  · exact Prog.guarantees_ofExcept _
  · intro _
    apply Prog.Guarantees.bind
    · exact calm_read _
    · intro running
      split
      · exact Prog.guarantees_pure _
      · refine (calm_submitAndWait ⟨by decide, by decide⟩).bind fun reply => ?_
        split <;> trivial

theorem calm_ensureWorker (alive : Bool) (accountId : String) :
    (Desk.onWorld (ensureWorker alive accountId)).Guarantees Calm := by
  apply calm_onWorld
  unfold ensureWorker
  apply Prog.Guarantees.bind
  · exact Prog.guarantees_read QueuesNoOrder.refl _
  · intro held
    split
    · exact Prog.guarantees_pure _
    · apply Prog.Guarantees.bind
      · exact Prog.guarantees_modify fun _ => queuesNoOrder_of_queues rfl
      · intro _
        apply Prog.Guarantees.bind
        · exact Prog.guarantees_read QueuesNoOrder.refl _
        · intro full
          split
          · exact Prog.guarantees_pure _
          · apply Prog.Guarantees.bind
            · exact Prog.guarantees_modify fun _ => queuesNoOrder_of_queues rfl
            · exact fun _ => (Prog.guarantees_modify fun _ => queuesNoOrder_of_queues rfl).bind
                fun _ => Prog.guarantees_pure _

theorem calm_connect (alive : Bool) (request : CredentialCreateRequest) :
    (connect alive auth request).Guarantees Calm := by
  unfold connect startWorker
  apply Prog.Guarantees.bind
  · exact Prog.guarantees_ofExcept _
  · intro _
    apply Prog.Guarantees.bind
    · exact calm_read _
    · intro plan
      apply Prog.Guarantees.bind
      · exact Prog.guarantees_ofExcept _
      · intro _
        apply Prog.Guarantees.bind
        · exact Prog.guarantees_modify fun desk => Calm.refl desk
        · intro _
          apply Prog.Guarantees.bind
          · exact Prog.guarantees_read Calm.refl _
          · intro stored
            split
            · trivial
            · refine (calm_ensureWorker alive _).bind fun started => ?_
              split <;> trivial

theorem calm_disconnect : (disconnect link auth accountId).Guarantees Calm := by
  unfold disconnect
  apply Prog.Guarantees.bind
  · exact Prog.guarantees_ofExcept _
  · intro _
    apply Prog.Guarantees.bind
    · apply calm_onWorld
      unfold stopWorker
      apply Prog.Guarantees.bind
      · exact Prog.guarantees_modify fun _ => queuesNoOrder_of_queues rfl
      · intro _
        have stop : Harmless "STOP" := ⟨by decide, by decide⟩
        exact (Prog.guarantees_modify fun _ =>
          queuesNoOrder_push (Harmless.not_opensExposure stop) rfl).bind
            fun _ => Prog.guarantees_pure _
    · intro stopped
      split <;> trivial

/-- A market order raises before it reaches the queue. -/
theorem calm_placeMarketOrder (request : MarketOrderRequest) :
    (placeMarketOrder now link auth request).Guarantees Calm := by
  unfold placeMarketOrder allowsLiveTrading
  apply Prog.Guarantees.bind
  · exact Prog.guarantees_ofExcept _
  · intro _
    apply Prog.Guarantees.bind
    · apply calm_onWorld
      apply Prog.Guarantees.bind
      · exact Prog.guarantees_read QueuesNoOrder.refl _
      · intro plan
        split
        · exact Prog.guarantees_pure _
        · refine (Prog.guarantees_read QueuesNoOrder.refl _).bind fun active => ?_
          split <;> exact Prog.guarantees_pure _
    · intro allowed
      split <;> trivial

/-- Every request but a pending order queues no order. -/
theorem calm_handle (request : Request) (other : ∀ order, request ≠ .placePendingOrder order) :
    (request.handle now link auth).Guarantees Calm := by
  cases request with
  | getHealth accountId => exact calm_getHealth
  | connect alive request => exact calm_connect alive request
  | disconnect accountId => exact calm_disconnect
  | placeMarketOrder request => exact calm_placeMarketOrder request
  | getAccount accountId | getPositions accountId | getPendingOrders accountId =>
      refine Prog.Guarantees.bind (Prog.guarantees_ofExcept _) fun _ => ?_
      exact (calm_relay ⟨by decide, by decide⟩).bind fun _ => Prog.guarantees_pure _
  | placePendingOrder order => exact (other order rfl).elim
  | modifyPosition request => exact calm_command ⟨by decide, by decide⟩ _
  | closePosition request => exact calm_command ⟨by decide, by decide⟩ _
  | cancelOrder accountId ticket => exact calm_command ⟨by decide, by decide⟩ _
  | getSymbol accountId symbol => exact calm_command ⟨by decide, by decide⟩ _

/-- `verify_api_key` writes `last_used_at` only. -/
theorem same_of_verified {world after : World} {xApiKey : Option String}
    (verified : verifyApiKey env now xApiKey world = .ok (auth, after)) :
    after.queues = world.queues ∧ after.workerRegistry = world.workerRegistry := by
  unfold verifyApiKey at verified
  split at verified
  · cases verified
  · obtain ⟨row, _, rest⟩ := bind_eq_ok.mp verified
    cases rest
    exact ⟨rfl, rfl⟩

theorem calm_authenticate (env : Env) (now : ℤ) (xApiKey : Option String) :
    (Desk.onWorld (authenticate env now xApiKey)).Guarantees Calm := by
  apply calm_onWorld
  apply Prog.guarantees_transact QueuesNoOrder.refl
  exact fun world auth after verified => queuesNoOrder_of_queues (same_of_verified verified).1

theorem calm_serve (request : Request) (other : ∀ order, request ≠ .placePendingOrder order)
    (env : Env) (now : ℤ) (link : Link) (xApiKey : Option String) :
    (serve env now link xApiKey request).Guarantees Calm :=
  (calm_authenticate env now xApiKey).bind fun _ => calm_handle request other

end Requests

/-! ## Pending orders -/

section Pending

variable {env : Env} {now : ℤ} {link : Link} {auth : AuthContext} {xApiKey : Option String}
  {order : PendingOrderRequest} {desk : Desk} {world : World}

/-- The job of a pending order. -/
def pendingJob (link : Link) (order : PendingOrderRequest) : Job :=
  ⟨link.jobId, "pending_order", order.modelDump⟩

theorem run_serve (verified : verifyApiKey env now xApiKey desk.world = .ok (auth, world))
    (request : Request) :
    (serve env now link xApiKey request).run desk =
      (request.handle now link auth).run { desk with world := world } :=
  Prog.run_bind_ok (Desk.run_onWorld_ok (Prog.run_transact_ok verified))

theorem run_placePendingOrder (matched : requireAccountMatch auth order.accountId = .ok ()) :
    ((placePendingOrder link auth order).run desk).2 =
      ((relay link order.accountId "pending_order" order.modelDump).run desk).2 := by
  unfold placePendingOrder command
  rw [Prog.ofExcept, matched, Prog.run_bind_ok rfl]
  exact Prog.run_bind_ofExcept _ _ _

/-- A pending order that passes is queued, and the quota is as it was. -/
theorem take_of_passes
    (passes : (Arrival.request now link xApiKey (.placePendingOrder order)).PendingOrderPasses
      env desk) :
    ((Arrival.request now link xApiKey (.placePendingOrder order)).take env
        desk).world.queues order.accountId =
      pendingJob link order :: desk.world.queues order.accountId ∧
    ((Arrival.request now link xApiKey (.placePendingOrder order)).take env desk).tradeCounts =
      desk.tradeCounts := by
  obtain ⟨running, auth, after, verified, matched⟩ := passes
  have same := same_of_verified verified
  have listed : Desk.Running { desk with world := after } order.accountId := by
    rw [Desk.Running, same.2]
    exact running
  have run : (Arrival.request now link xApiKey (.placePendingOrder order)).take env desk =
      { desk with world := enqueue order.accountId (pendingJob link order) after } := by
    unfold Arrival.take
    dsimp only
    rw [run_serve verified]
    exact (run_placePendingOrder matched).trans (run_relay_running listed)
  have queued : (enqueue order.accountId (pendingJob link order) after).queues order.accountId =
      pendingJob link order :: after.queues order.accountId := Function.update_self _ _ _
  rw [run]
  exact ⟨queued.trans (by rw [same.1]), rfl⟩

/-- Any other arrival queues no order. -/
theorem calm_take {now : ℤ} {request : Request}
    (stopped : ¬ (Arrival.request now link xApiKey request).PendingOrderPasses env desk) :
    Calm desk ((Arrival.request now link xApiKey request).take env desk) := by
  by_cases pending : ∃ order, request = .placePendingOrder order
  · obtain ⟨order, rfl⟩ := pending
    unfold Arrival.take
    dsimp only
    cases verified : verifyApiKey env now xApiKey desk.world with
    | error e =>
        have refused : (serve env now link xApiKey (.placePendingOrder order)).run desk =
            (.error e, desk) := by
          apply Prog.run_bind_error
          rw [Desk.run_onWorld, authenticate, Prog.run_transact_error verified]
        rw [refused]
        exact Calm.refl desk
    | ok result =>
        obtain ⟨auth, after⟩ := result
        have same := same_of_verified verified
        rw [run_serve verified]
        change Calm desk ((placePendingOrder link auth order).run _).2
        have kept : Calm desk { desk with world := after } := queuesNoOrder_of_queues same.1
        rcases requireAccountMatch_cases auth order.accountId with matched | ⟨detail, other⟩
        · have idle : ¬ Desk.Running { desk with world := after } order.accountId := by
            intro listed
            rw [Desk.Running, same.2] at listed
            exact stopped ⟨listed, auth, after, verified, matched⟩
          rw [run_placePendingOrder matched, run_relay_idle idle]
          exact kept
        · rw [placePendingOrder, command, Prog.ofExcept, other, Prog.run_bind_error rfl]
          exact kept
  · refine Prog.Guarantees.run Calm.refl (fun first second => first.trans second) ?_ desk
    exact calm_serve request (fun order same => pending ⟨order, same⟩) env now link xApiKey

/-- **Step lemma.** -/
theorem guarded_iff (arrival : Arrival) :
    arrival.Guarded env desk ↔ ¬ arrival.PendingOrderPasses env desk := by
  cases arrival with
  | elsewhere change => exact ⟨fun _ => id, fun _ => trivial⟩
  | request now link xApiKey request =>
      constructor
      · intro guarded passes
        cases request with
        | placePendingOrder order =>
            obtain ⟨queued, counts⟩ := take_of_passes passes
            have used := (guarded order.accountId [pendingJob link order] queued
              (pendingJob link order) List.mem_cons_self (.inr rfl)).2
            rw [counts] at used
            cases before : desk.tradeCounts order.accountId (today now) with
            | none =>
                rw [before] at used
                cases used
            | some n =>
                rw [before, Option.getD_some, Option.some_inj] at used
                omega
        | _ => exact passes
      · intro stopped accountId added queued job member opens
        obtain ⟨calmly, grown, calm⟩ := calm_take stopped accountId
        rw [grown] at queued
        rw [List.append_cancel_right queued] at calm
        exact (calm job member opens).elim

end Pending

/-- **Orders are guarded** in every sequence of requests exactly when no pending order gets
past its key and the registry. -/
theorem ordersGuarded_iff (env : Env) (start : Desk) (arrivals : List Arrival) :
    EachStep (Arrival.take env) (fun desk arrival => arrival.Guarded env desk) start arrivals ↔
      EachStep (Arrival.take env) (fun desk arrival => ¬ arrival.PendingOrderPasses env desk)
        start arrivals :=
  eachStep_congr fun _ arrival => guarded_iff arrival

/-- A demo account connects and places a pending order. -/
def demoOrder : List Arrival :=
  [.elsewhere fun desk =>
      ((Desk.onWorld (activateDemo sampleEnv 0 (sampleDraws 1) "acc")).run desk).2,
    .request 1 ⟨"j1", none⟩ (some "keyi") (.connect true ⟨"acc", "MetaTrader5",
      "ICMarketsSC-Demo", "12345678", "secret", none, true⟩),
    .request 2 ⟨"j2", none⟩ (some "keyi") (.placePendingOrder ⟨"EURUSD", "0.1", "BUY_LIMIT",
      "1.1", none, none, "acc"⟩)]

theorem not_ordersGuarded_demo :
    ¬ EachStep (Arrival.take sampleEnv) (fun desk arrival => arrival.Guarded sampleEnv desk)
      .empty demoOrder := by
  intro guarded
  refine (guarded_iff _).mp guarded.2.2.1 ⟨?_, _, _, rfl, rfl⟩
  decide

end Aegis.Trading
