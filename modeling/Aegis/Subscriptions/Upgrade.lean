import Aegis.Subscriptions.Tenants

/-!
# What a payment buys

The upsert of a payment sets the status and leaves the plan alone, while
`allows_live_trading` reads both.  `paid_trades_iff` says exactly for which accounts a
handled payment buys live trading.
-/

namespace Aegis.Subscriptions

open Aegis.Lib

section Paid

variable {env : Env} {delivery : Delivery} {world after : World} {accountId : String}
  {issued : Option NewlyIssued} {now : ℤ} {row : Subscription}

/-- The row after a payment that was handled. -/
theorem subscription_of_handled (named : delivery.event.accountId ≠ "")
    (payment : delivery.event.eventType = .paymentSucceeded)
    (handled : (applyEvent env delivery).run world = (.ok issued, after)) :
    ∃ token, after.subscription delivery.event.accountId =
      some (activeRow delivery.now delivery.event token
        (world.subscription delivery.event.accountId)) := by
  rw [run_applyEvent_payment named payment] at handled
  cases present : world.subscription delivery.event.accountId with
  | none =>
      rw [present] at handled
      have rows := (run_activate_inserts env delivery world).1
      rw [handled] at rows
      exact ⟨_, (Effect.subscription_paid _ rows).trans (by rw [present])⟩
  | some row =>
      rw [present] at handled
      by_cases seen : world.Processed delivery.event.provider delivery.event.providerEventId
      · have failed : (fun world => recordProcessed delivery.now delivery.event
            (upsertActive delivery.now delivery.event
              (portalTokenFor (some row) delivery.draws.portalToken) world)) world =
            .error .integrityError := if_pos seen
        have raised : (activate env delivery (some row)).run world = _ :=
          Prog.run_bind_error (Prog.run_commit_error failed)
        rw [raised] at handled
        cases handled
      · rw [run_activate_some seen] at handled
        cases handled
        refine ⟨portalTokenFor (some row) delivery.draws.portalToken, ?_⟩
        rw [subscription_addRecord, subscription_upsertActive, present]

theorem isActive_of_active (now : ℤ) (present : world.subscription accountId = some row)
    (active : row.status = "active") : world.isActive now accountId = true := by
  rw [isActive_of_some present, if_pos active]

/-- An active account trades live unless it is on the demo plan. -/
theorem allowsLiveTrading_of_active (now : ℤ) (present : world.subscription accountId = some row)
    (active : row.status = "active") (stored : row.plan ∈ planCodes) :
    world.allowsLiveTrading now accountId = true ↔ row.plan ≠ "demo" := by
  rw [allowsLiveTrading_iff present stored, isActive_of_active now present active]
  exact and_iff_right rfl

/-- **A payment buys live trading** exactly when the account was not on the demo plan. -/
theorem paid_trades_iff (named : delivery.event.accountId ≠ "")
    (payment : delivery.event.eventType = .paymentSucceeded)
    (stored : ∀ row, world.subscription delivery.event.accountId = some row →
      row.plan ∈ planCodes)
    (handled : (applyEvent env delivery).run world = (.ok issued, after)) :
    (after.isActive now delivery.event.accountId = true ∧
        after.allowsLiveTrading now delivery.event.accountId = true) ↔
      ∀ row, world.subscription delivery.event.accountId = some row → row.plan ≠ "demo" := by
  obtain ⟨token, present⟩ := subscription_of_handled named payment handled
  cases before : world.subscription delivery.event.accountId with
  | none =>
      rw [before] at present
      have active := isActive_of_active now present rfl
      have starter : "starter" ∈ planCodes ∧ "starter" ≠ "demo" := by decide
      have trades := (allowsLiveTrading_of_active now present rfl starter.1).mpr starter.2
      constructor
      · intro _ row same
        cases same
      · exact fun _ => ⟨active, trades⟩
  | some row =>
      rw [before] at present
      have active := isActive_of_active now present rfl
      have trades := allowsLiveTrading_of_active now present rfl (stored row before)
      constructor
      · intro both other same
        cases same
        exact trades.mp both.2
      · exact fun upgraded => ⟨active, trades.mpr (upgraded row rfl)⟩

/-- A suspended account on a plan that an administrator chose. -/
def suspendedPro : Subscription where
  provider := some "manual"
  providerCustomerId := none
  providerSubscriptionId := none
  status := "suspended"
  currentPeriodEnd := none
  gracePeriodEndsAt := none
  portalToken := none
  plan := "pro"
  maxTradesPerDay := 50
  updatedAt := 0

/-- The first payment of the sample account. -/
def firstPayment : Delivery := ⟨sampleEvent .paymentSucceeded "e1", 1, sampleDraws 1⟩

theorem paid_trades_iff_suspended :
    ((applyEvent sampleEnv firstPayment).run
        (World.empty.setSubscription "acc" suspendedPro)).2.isActive 2 "acc" = true ∧
      ((applyEvent sampleEnv firstPayment).run
        (World.empty.setSubscription "acc" suspendedPro)).2.allowsLiveTrading 2 "acc" = true := by
  have plan : ∀ row, (World.empty.setSubscription "acc" suspendedPro).subscription
      firstPayment.event.accountId = some row → row.plan = "pro" := by
    intro row present
    cases present
    rfl
  have named : firstPayment.event.accountId ≠ "" := by decide
  have handled : (applyEvent sampleEnv firstPayment).run
      (World.empty.setSubscription "acc" suspendedPro) = (.ok none, _) := rfl
  refine (paid_trades_iff named rfl (fun row present => ?_) handled).mpr fun row present => ?_
  · rw [plan row present]
    decide
  · rw [plan row present]
    decide

/-- An account that signed up for the demo and then paid. -/
theorem paid_demo_untraded :
    ∃ issued after, (applyEvent sampleEnv firstPayment).run
        ((activateDemo sampleEnv 0 (sampleDraws 2) "acc").run .empty).2 = (.ok issued, after) ∧
      ¬ (after.isActive 2 "acc" = true ∧ after.allowsLiveTrading 2 "acc" = true) := by
  refine ⟨_, _, rfl, fun both => ?_⟩
  exact (allowsLiveTrading_of_active 2 rfl rfl (by decide)).mp both.2 rfl

end Paid

end Aegis.Subscriptions
