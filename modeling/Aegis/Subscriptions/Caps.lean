import Aegis.Subscriptions.Writes

/-!
# The caps of a row

`max_devices` and `max_trades_per_day` are copied from the catalog into the row, and the
services that enforce them read the copies.  `capsMatch_iff` says exactly in which runs
of the writers the copies stay those of the row's plan.
-/

namespace Aegis.Subscriptions

open Aegis.Lib

/-- The caps are those of the plan. -/
def Subscription.CapsMatch (row : Subscription) : Prop :=
  row.maxDevices = (resolvePlan row.plan).maxDevices ∧
    row.maxTradesPerDay = (resolvePlan row.plan).maxTradesPerDay

def World.CapsMatch (world : World) : Prop :=
  ∀ accountId row, world.subscription accountId = some row → row.CapsMatch

/-- A payment inserts the row of its account. -/
def Write.InsertsByPayment (world : World) : Write → Prop
  | applyEvent delivery =>
      delivery.event.accountId ≠ "" ∧ delivery.event.eventType = .paymentSucceeded ∧
        world.subscription delivery.event.accountId = none
  | activateDemo _ _ _ | setTenantPlan _ _ _ | markSuspended _ _ | markCanceled _ _ => False

instance (world : World) : DecidablePred (Write.InsertsByPayment world)
  | .applyEvent _ => inferInstanceAs (Decidable (_ ∧ _ ∧ _))
  | .activateDemo _ _ _ | .setTenantPlan _ _ _ | .markSuspended _ _ | .markCanceled _ _ =>
      .isFalse id

/-- The plan and the caps of a row. -/
def Subscription.tier (row : Subscription) : String × ℤ × ℤ :=
  (row.plan, row.maxDevices, row.maxTradesPerDay)

/-- Each row afterwards has a tier in `Q`, or the tier that it had before. -/
def KeepsTiers (Q : String × ℤ × ℤ → Prop) (before after : World) : Prop :=
  ∀ accountId row, after.subscription accountId = some row →
    Q row.tier ∨ ∃ old, before.subscription accountId = some old ∧ row.tier = old.tier

section Step

variable {env : Env} {world after : World} {accountId : String} {write : Write}
  {Q : String × ℤ × ℤ → Prop}

theorem KeepsTiers.all (keeps : KeepsTiers Q world after)
    (good : ∀ accountId row, world.subscription accountId = some row → Q row.tier) :
    ∀ accountId row, after.subscription accountId = some row → Q row.tier := by
  intro accountId row present
  rcases keeps accountId row present with own | ⟨old, before, same⟩
  · exact own
  · rw [same]
    exact good accountId old before

/-- **Step lemma.** -/
theorem keepsTiers_take (demo : Q ("demo", 1, 5))
    (assigned : ∀ planCode, Q ((resolvePlan planCode).code, (resolvePlan planCode).maxDevices,
      (resolvePlan planCode).maxTradesPerDay))
    (inserted : write.InsertsByPayment world → Q ("starter", 1, 10)) :
    KeepsTiers Q world (write.take env world) := by
  intro accountId row present
  have rewrite := rewrite_take env world accountId write
  rw [present] at rewrite
  generalize found : some row = after at rewrite
  cases rewrite with
  | same => exact .inr ⟨row, found.symm, rfl⟩
  | paid delivery own named payment =>
      cases before : world.subscription accountId with
      | none =>
          rw [before] at found
          cases found
          subst own
          exact .inl (inserted ⟨named, payment, before⟩)
      | some old =>
          rw [before] at found
          cases found
          exact .inr ⟨old, rfl, rfl⟩
  | signedUp now draws =>
      cases found
      cases world.subscription accountId <;> exact .inl demo
  | assigned now auth body =>
      cases found
      cases world.subscription accountId <;> exact .inl (assigned body.plan)
  | failed | canceled | suspended | markedCanceled =>
      obtain ⟨old, before, rfl⟩ := Option.map_eq_some_iff.mp found.symm
      exact .inr ⟨old, before, rfl⟩

/-- The plans that the writers store are those of the catalog. -/
theorem plan_mem_of_writes {start : World} (empty : start.subscriptions = ∅)
    (writes : List Write) {row : Subscription}
    (present : (exec (Write.take env) start writes).subscription accountId = some row) :
    row.plan ∈ planCodes := by
  have bare : ∀ accountId row, start.subscription accountId = some row →
      row.tier.1 ∈ planCodes := by
    intro accountId row present
    rw [World.subscription, empty] at present
    cases present
  refine exec_inv (I := fun world : World => ∀ accountId row,
    world.subscription accountId = some row → row.tier.1 ∈ planCodes) bare ?_ writes
    accountId row present
  intro world write stored
  refine KeepsTiers.all (Q := fun tier => tier.1 ∈ planCodes) (keepsTiers_take ?_ ?_ ?_) stored
  · decide
  · exact code_resolvePlan
  · exact fun _ => by decide

/-! ## Caps -/

/-- The caps of the tier are those of its plan. -/
def CapsOf (tier : String × ℤ × ℤ) : Prop :=
  tier.2 = ((resolvePlan tier.1).maxDevices, (resolvePlan tier.1).maxTradesPerDay)

theorem capsMatch_iff_capsOf {row : Subscription} : row.CapsMatch ↔ CapsOf row.tier :=
  Prod.mk_inj.symm

theorem keepsTiers_caps (updates : ¬ write.InsertsByPayment world) :
    KeepsTiers CapsOf world (write.take env world) := by
  apply keepsTiers_take
  · exact (Prod.mk_inj.mpr caps_demo).symm
  · intro planCode
    rw [CapsOf, resolvePlan_code]
  · exact fun inserts => (updates inserts).elim

/-- A row that a payment inserts has the column defaults, which are not the caps of the
plan that it has by default. -/
theorem not_capsMatch_inserted (now : ℤ) (event : PaymentEvent) (portalToken : String) :
    ¬ (activeRow now event portalToken none).CapsMatch := by
  intro matched
  have trades : (10 : ℤ) = (resolvePlan "starter").maxTradesPerDay := matched.2
  rw [caps_starter.2] at trades
  exact absurd trades (by decide)

/-- A first payment inserts a row whose caps are not its plan's. -/
theorem not_capsMatch_take (inserts : write.InsertsByPayment world) :
    ¬ (write.take env world).CapsMatch := by
  cases write with
  | applyEvent delivery =>
      obtain ⟨named, payment, absent⟩ := inserts
      intro matched
      refine not_capsMatch_inserted delivery.now delivery.event delivery.draws.portalToken
        (matched delivery.event.accountId _ ?_)
      unfold Write.take
      dsimp only
      rw [run_applyEvent_payment named payment, absent]
      exact (Effect.subscription_paid _ (run_activate_inserts env delivery world).1).trans
        (by rw [absent])
  | activateDemo _ _ _ | setTenantPlan _ _ _ | markSuspended _ _ | markCanceled _ _ =>
      exact inserts.elim

theorem capsMatch_take_iff (matched : world.CapsMatch) :
    (write.take env world).CapsMatch ↔ ¬ write.InsertsByPayment world := by
  constructor
  · exact fun after inserts => not_capsMatch_take inserts after
  · intro updates accountId row present
    exact capsMatch_iff_capsOf.mpr ((keepsTiers_caps updates).all
      (fun accountId row present => capsMatch_iff_capsOf.mp (matched accountId row present))
      accountId row present)

end Step

/-- **The caps are those of the plan**, in every state of a run from an empty table,
exactly when no payment of the run inserts the row of its account. -/
theorem capsMatch_iff {env : Env} {start : World} (empty : start.subscriptions = ∅)
    (writes : List Write) :
    Throughout (Write.take env) World.CapsMatch start writes ↔
      EachStep (Write.take env) (fun world write => ¬ write.InsertsByPayment world) start
        writes := by
  have bare : start.CapsMatch := by
    intro accountId row present
    rw [World.subscription, empty] at present
    cases present
  exact throughout_iff_eachStep (I := fun _ => True) trivial bare (fun _ _ _ => trivial)
    fun world write _ matched => capsMatch_take_iff matched

/-- A demo account that pays keeps the caps of the demo plan, and the plan. -/
theorem capsMatch_iff_demo :
    Throughout (Write.take sampleEnv) World.CapsMatch .empty
      [.activateDemo 0 (sampleDraws 1) "acc",
        .applyEvent ⟨sampleEvent .paymentSucceeded "e1", 1, sampleDraws 2⟩] :=
  (capsMatch_iff rfl _).mpr (by decide)

/-- An account that starts with a payment. -/
theorem not_capsMatch_firstPayment :
    ¬ Throughout (Write.take sampleEnv) World.CapsMatch .empty
      [.applyEvent ⟨sampleEvent .paymentSucceeded "e1", 0, sampleDraws 1⟩] :=
  fun always => not_capsMatch_take (by decide) always.2

end Aegis.Subscriptions
