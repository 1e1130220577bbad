import Aegis.Trading.Limit
import Aegis.Trading.Router

/-!
# Market orders

`place_market_order` has four gates, and between the second and the third it counts the trade.
It never gets that far: `request` is the body of the order here and not the HTTP request, so
that looking the trade limits up raises.  `allOrNothing_iff` says for which calls the endpoint
keeps its promise all the same.
-/

namespace Aegis.Trading

open Aegis.Lib Aegis.Payments Aegis.Subscriptions

/-- The four gates of an order are open. -/
structure Admitted (now : ℤ) (auth : AuthContext) (accountId : String) (desk : Desk) : Prop where
  matched : requireAccountMatch auth accountId = .ok ()
  allowed : desk.world.allowsLiveTrading now accountId = true
  left : (desk.quotaStatus accountId (today now)).Shows
  running : desk.Running accountId

/-- The queues and the counters are as they were. -/
structure Untouched (before after : Desk) : Prop where
  queues : after.world.queues = before.world.queues
  tradeCounts : after.tradeCounts = before.tradeCounts

/-- An order whose gates are open is queued once, and counted once; any other is refused by an
`HTTPException` and leaves no trace. -/
structure AllOrNothing (now : ℤ) (link : Link) (auth : AuthContext) (request : MarketOrderRequest)
    (desk : Desk) : Prop where
  placed : Admitted now auth request.accountId desk →
    let after := ((placeMarketOrder now link auth request).run desk).2
    after.world.queues =
        (enqueue request.accountId ⟨link.jobId, "market_order", request.modelDump⟩
          desk.world).queues ∧
      after.tradeCounts = (desk.addTrades request.accountId (today now) 1).tradeCounts
  refused : ¬ Admitted now auth request.accountId desk →
    Refused ((placeMarketOrder now link auth request).run desk).1 ∧
      Untouched desk ((placeMarketOrder now link auth request).run desk).2

section Order

variable {now : ℤ} {link : Link} {auth : AuthContext} {request : MarketOrderRequest} {desk : Desk}

/-! ## One call, gate by gate -/

theorem run_placeMarketOrder_unmatched {failure : Failure}
    (unmatched : requireAccountMatch auth request.accountId = .error failure) :
    (placeMarketOrder now link auth request).run desk = (.error failure, desk) := by
  unfold placeMarketOrder
  rw [unmatched]
  rfl

/-- A call whose key matches, up to the second gate. -/
theorem run_placeMarketOrder_matched
    (matched : requireAccountMatch auth request.accountId = .ok ()) :
    (placeMarketOrder now link auth request).run desk =
      if desk.world.allowsLiveTrading now request.accountId then
        (.error (.python .attributeError), desk)
      else
        (.error (.httpException 402
          "Live trading requires an active paid subscription. Demo plan is analysis-only / demo-server only."),
          desk) := by
  unfold placeMarketOrder
  rw [matched, Prog.ofExcept_ok_bind,
    Prog.run_bind_ok (Desk.run_onWorld_ok run_allowsLiveTrading)]
  cases desk.world.allowsLiveTrading now request.accountId <;> rfl

/-- Whatever the gates say, the order leaves no trace. -/
theorem run_placeMarketOrder_same :
    ((placeMarketOrder now link auth request).run desk).2 = desk := by
  rcases requireAccountMatch_cases auth request.accountId with matched | ⟨detail, unmatched⟩
  · rw [run_placeMarketOrder_matched matched]
    split <;> rfl
  · rw [run_placeMarketOrder_unmatched unmatched]

/-- An order that gets past the first two gates fails. -/
theorem run_placeMarketOrder_admitted
    (matched : requireAccountMatch auth request.accountId = .ok ())
    (allowed : desk.world.allowsLiveTrading now request.accountId = true) :
    ((placeMarketOrder now link auth request).run desk).1 = .error (.python .attributeError) := by
  rw [run_placeMarketOrder_matched matched, if_pos allowed]

/-! ## All or nothing -/

/-- Queueing a job changes the queue. -/
theorem queues_enqueue_ne (accountId : String) (job : Job) (world : World) :
    (enqueue accountId job world).queues ≠ world.queues := by
  intro same
  have queue : job :: world.queues accountId = world.queues accountId :=
    (Function.update_self accountId _ world.queues).symm.trans (congrFun same accountId)
  exact List.cons_ne_self job _ queue

/-- **A market order is all or nothing** exactly when one of the first two gates refuses it. -/
theorem allOrNothing_iff :
    AllOrNothing now link auth request desk ↔
      requireAccountMatch auth request.accountId ≠ .ok () ∨
        desk.world.allowsLiveTrading now request.accountId = false := by
  constructor
  · intro whole
    by_contra open_
    rw [not_or, not_not, Bool.not_eq_false] at open_
    rcases open_ with ⟨matched, allowed⟩
    by_cases admitted : Admitted now auth request.accountId desk
    · have queued := (whole.placed admitted).1
      rw [run_placeMarketOrder_same] at queued
      exact queues_enqueue_ne _ _ _ queued.symm
    · obtain ⟨statusCode, detail, raised⟩ := (whole.refused admitted).1
      rw [run_placeMarketOrder_admitted matched allowed] at raised
      cases raised
  · intro shut
    have outside : ¬ Admitted now auth request.accountId desk := by
      intro admitted
      rcases shut with unmatched | refused
      · exact unmatched admitted.matched
      · exact Bool.false_ne_true (refused.symm.trans admitted.allowed)
    refine ⟨fun admitted => (outside admitted).elim, fun _ => ⟨?_, ?_⟩⟩
    · rcases requireAccountMatch_cases auth request.accountId with matched | ⟨detail, unmatched⟩
      · rw [run_placeMarketOrder_matched matched, if_neg]
        · exact ⟨_, _, rfl⟩
        · rw [Bool.not_eq_true]
          exact shut.resolve_left (not_not.mpr matched)
      · rw [run_placeMarketOrder_unmatched unmatched]
        exact ⟨_, _, rfl⟩
    · rw [run_placeMarketOrder_same]
      exact ⟨rfl, rfl⟩

/-- A subscriber's order of one lot. -/
def sampleOrder : MarketOrderRequest := ⟨"EURUSD", "1.0", "BUY", "acc", none⟩

/-- The key of the account. -/
def sampleAuth : AuthContext := ⟨some "acc", false, none, some 1, false, none, none⟩

/-- The account has a worker, and a trade left. -/
def connectedDesk : Desk :=
  { tradedDesk 14 with
    world := { (tradedDesk 14).world with workerRegistry := {"acc"}, workers := {"acc"} } }

theorem admitted_connectedDesk : Admitted 1 sampleAuth "acc" connectedDesk where
  matched := rfl
  allowed := by decide +kernel
  left := shows_iff.mpr (.inr (by decide))
  running := by decide

/-- Her order ends in an `AttributeError`. -/
theorem not_allOrNothing_subscriber :
    ¬ AllOrNothing 1 ⟨"job", none⟩ sampleAuth sampleOrder connectedDesk := by
  intro whole
  have queued := (whole.placed admitted_connectedDesk).1
  rw [run_placeMarketOrder_same] at queued
  exact queues_enqueue_ne _ _ _ queued.symm

end Order

end Aegis.Trading
