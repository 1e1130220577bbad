import Aegis.Lib.Run
import Aegis.Subscriptions.Tenants

/-!
# The methods that write rows

`apply_event`, `activate_demo`, `set_tenant_plan`, `mark_suspended` and `mark_canceled`, as the
steps of a machine.  `Rewrite` says what such a step can do to the row of one account; what runs
of these methods keep is argued by its cases.
-/

namespace Aegis.Subscriptions

open Aegis.Lib

/-- A method that writes subscription rows. -/
inductive Write where
  | applyEvent (delivery : Delivery)
  | activateDemo (now : ℤ) (draws : Draws) (accountId : String)
  | setTenantPlan (now : ℤ) (auth : AuthContext) (body : SetPlanRequest)
  | markSuspended (now : ℤ) (accountId : String)
  | markCanceled (now : ℤ) (accountId : String)

/-- What the method leaves behind, whether it returned or raised. -/
def Write.take (env : Env) (world : World) : Write → World
  | applyEvent delivery => ((Subscriptions.applyEvent env delivery).run world).2
  | activateDemo now draws accountId =>
      ((Subscriptions.activateDemo env now draws accountId).run world).2
  | setTenantPlan now auth body => ((Subscriptions.setTenantPlan now auth body).run world).2
  | markSuspended now accountId => ((Subscriptions.markSuspended now accountId).run world).2
  | markCanceled now accountId => ((Subscriptions.markCanceled now accountId).run world).2

/-- The event is one of the account, and has not been processed before. -/
structure Delivery.Applies (eventType : PaymentEventType) (world : World) (accountId : String)
    (delivery : Delivery) : Prop where
  own : delivery.event.accountId = accountId
  named : accountId ≠ ""
  type : delivery.event.eventType = eventType
  unseen : ¬ world.Processed delivery.event.provider delivery.event.providerEventId

theorem Delivery.applies_iff {eventType : PaymentEventType} {world : World} {accountId : String}
    {delivery : Delivery} :
    delivery.Applies eventType world accountId ↔
      delivery.event.accountId = accountId ∧ accountId ≠ "" ∧
        delivery.event.eventType = eventType ∧
        ¬ world.Processed delivery.event.provider delivery.event.providerEventId :=
  ⟨fun applies => ⟨applies.own, applies.named, applies.type, applies.unseen⟩,
    fun ⟨own, named, type, unseen⟩ => ⟨own, named, type, unseen⟩⟩

instance (eventType : PaymentEventType) (world : World) (accountId : String)
    (delivery : Delivery) : Decidable (delivery.Applies eventType world accountId) :=
  decidable_of_iff' _ Delivery.applies_iff

/-- What a write makes of the row of an account. -/
inductive Rewrite (env : Env) (world : World) (accountId : String) :
    Write → Option Subscription → Prop
  /-- the write is about another account, or changes nothing -/
  | same (write : Write) : Rewrite env world accountId write (world.subscription accountId)
  | paid (delivery : Delivery) :
    delivery.event.accountId = accountId →
    accountId ≠ "" →
    delivery.event.eventType = .paymentSucceeded →
    Rewrite env world accountId (.applyEvent delivery)
      (some (activeRow delivery.now delivery.event
        (portalTokenFor (world.subscription accountId) delivery.draws.portalToken)
        (world.subscription accountId)))
  | failed (delivery : Delivery) :
    delivery.Applies .paymentFailed world accountId →
    Rewrite env world accountId (.applyEvent delivery)
      ((world.subscription accountId).map (pastDueRow env.settings delivery.now))
  | canceled (delivery : Delivery) :
    delivery.Applies .subscriptionCanceled world accountId →
    Rewrite env world accountId (.applyEvent delivery)
      ((world.subscription accountId).map (canceledRow delivery.now))
  | signedUp (now : ℤ) (draws : Draws) :
    Rewrite env world accountId (.activateDemo now draws accountId)
      (some (demoRow now (portalTokenFor (world.subscription accountId) draws.portalToken)
        (world.subscription accountId)))
  | assigned (now : ℤ) (auth : AuthContext) (body : SetPlanRequest) :
    body.accountId = accountId →
    auth.isAdmin = true →
    Rewrite env world accountId (.setTenantPlan now auth body)
      (some (tenantRow now body (world.subscription accountId)))
  | suspended (now : ℤ) :
    Rewrite env world accountId (.markSuspended now accountId)
      ((world.subscription accountId).map (suspendedRow now))
  | markedCanceled (now : ℤ) :
    Rewrite env world accountId (.markCanceled now accountId)
      ((world.subscription accountId).map (canceledRow now))

section Step

variable {env : Env} {world : World} {accountId : String} {delivery : Delivery}

/-- The row after a payment: the upsert keeps the token that is there. -/
theorem subscription_payment (env : Env) (named : delivery.event.accountId ≠ "")
    (payment : delivery.event.eventType = .paymentSucceeded) (world : World) :
    ((applyEvent env delivery).run world).2.subscription delivery.event.accountId =
        world.subscription delivery.event.accountId ∨
      ((applyEvent env delivery).run world).2.subscription delivery.event.accountId =
        some (activeRow delivery.now delivery.event
          (portalTokenFor (world.subscription delivery.event.accountId)
            delivery.draws.portalToken) (world.subscription delivery.event.accountId)) := by
  rw [run_applyEvent_payment named payment]
  cases present : world.subscription delivery.event.accountId with
  | none =>
      rw [Effect.subscription_paid _ (run_activate_inserts env delivery world).1, present]
      exact .inr rfl
  | some row =>
      have run : ((activate env delivery (some row)).run world).2 = _ :=
        Prog.run_commit_pure _ _ _
      rw [run]
      rcases committed_recordProcessed delivery.now delivery.event
        (upsertActive delivery.now delivery.event
          (portalTokenFor (some row) delivery.draws.portalToken)) world with same | ⟨_, done⟩
      · rw [same]
        exact .inl present
      · rw [done, subscription_addRecord, subscription_upsertActive, present]
        exact .inr rfl

/-- The row after a payment that has not been processed before. -/
theorem subscription_paid (env : Env) (pays : delivery.Applies .paymentSucceeded world accountId) :
    ((applyEvent env delivery).run world).2.subscription accountId =
      some (activeRow delivery.now delivery.event
        (portalTokenFor (world.subscription accountId) delivery.draws.portalToken)
        (world.subscription accountId)) := by
  obtain ⟨rfl, named, payment, unseen⟩ := pays
  rw [run_applyEvent_payment named payment]
  cases present : world.subscription delivery.event.accountId with
  | none =>
      rw [Effect.subscription_paid _ (run_activate_inserts env delivery world).1, present]
      rfl
  | some row =>
      rw [run_activate_some unseen, subscription_addRecord, subscription_upsertActive, present]

/-- The update of an event that is no payment. -/
theorem rewrite_applyToRow (named : delivery.event.accountId ≠ "")
    (other : delivery.event.eventType ≠ .paymentSucceeded)
    (unseen : ¬ world.Processed delivery.event.provider delivery.event.providerEventId) :
    Rewrite env world delivery.event.accountId (.applyEvent delivery)
      ((applyToRow env delivery world).subscription delivery.event.accountId) := by
  unfold applyToRow
  split
  next failure =>
    rw [subscription_updateRow]
    exact .failed delivery ⟨rfl, named, failure, unseen⟩
  next cancellation =>
    rw [subscription_updateRow]
    exact .canceled delivery ⟨rfl, named, cancellation, unseen⟩
  next payment => exact (other payment).elim
  next => exact .same _

theorem rewrite_applyEvent :
    Rewrite env world accountId (.applyEvent delivery)
      (((applyEvent env delivery).run world).2.subscription accountId) := by
  by_cases own : delivery.event.accountId = accountId
  · subst own
    by_cases anonymous : delivery.event.accountId = ""
    · have run : ((applyEvent env delivery).run world).2 = world := by
        simp only [applyEvent, anonymous, if_true, Prog.run_pure]
      rw [run]
      exact .same _
    by_cases payment : delivery.event.eventType = .paymentSucceeded
    · rcases subscription_payment env anonymous payment world with row | row
      · rw [row]
        exact .same _
      · rw [row]
        exact .paid delivery rfl anonymous payment
    · have effect := effect_applyEvent env delivery world
      generalize ((applyEvent env delivery).run world).2 = after at effect ⊢
      cases effect with
      | unchanged => exact .same _
      | paid _ paid => exact (payment paid).elim
      | updated _ _ unseen => exact rewrite_applyToRow anonymous payment unseen
  · rw [(effect_applyEvent env delivery world).subscription_ne (Ne.symm own)]
    exact .same _

/-- The row after an event that is no payment. -/
theorem subscription_applies {eventType : PaymentEventType}
    (applies : delivery.Applies eventType world accountId)
    (other : eventType ≠ .paymentSucceeded) :
    ((applyEvent env delivery).run world).2.subscription accountId =
      (applyToRow env delivery world).subscription accountId := by
  obtain ⟨rfl, named, rfl, unseen⟩ := applies
  rw [run_applyEvent_other named other unseen, subscription_addRecord, World.subscription_log]

theorem subscription_failed (env : Env) (fails : delivery.Applies .paymentFailed world accountId) :
    ((applyEvent env delivery).run world).2.subscription accountId =
      (world.subscription accountId).map (pastDueRow env.settings delivery.now) := by
  rw [subscription_applies fails (by decide), applyToRow, fails.type, fails.own]
  exact subscription_updateRow

theorem subscription_canceled (env : Env)
    (cancels : delivery.Applies .subscriptionCanceled world accountId) :
    ((applyEvent env delivery).run world).2.subscription accountId =
      (world.subscription accountId).map (canceledRow delivery.now) := by
  rw [subscription_applies cancels (by decide), applyToRow, cancels.type, cancels.own]
  exact subscription_updateRow

theorem subscription_activateDemo {now : ℤ} {draws : Draws} {other : String} :
    ((activateDemo env now draws other).run world).2.subscription accountId =
      (world.setSubscription other (demoRow now
        (portalTokenFor (world.subscription other) draws.portalToken)
        (world.subscription other))).subscription accountId :=
  congrArg (AList.lookup accountId) subscriptions_activateDemo

/-- **Inversion** of a write, on the row of one account. -/
theorem rewrite_take (env : Env) (world : World) (accountId : String) (write : Write) :
    Rewrite env world accountId write ((write.take env world).subscription accountId) := by
  unfold Write.take
  cases write with
  | applyEvent delivery => exact rewrite_applyEvent
  | activateDemo now draws other =>
      dsimp only
      rw [subscription_activateDemo]
      by_cases own : accountId = other
      · subst own
        rw [World.subscription_setSubscription]
        exact .signedUp now draws
      · rw [World.subscription_setSubscription_ne own]
        exact .same _
  | setTenantPlan now auth body =>
      dsimp only
      by_cases admin : auth.isAdmin = true
      · rw [run_setTenantPlan admin]
        by_cases own : accountId = body.accountId
        · subst own
          rw [World.subscription_setSubscription]
          exact .assigned now auth body rfl admin
        · rw [World.subscription_setSubscription_ne own]
          exact .same _
      · rw [run_setTenantPlan_refused admin]
        exact .same _
  | markSuspended now other =>
      dsimp only [markSuspended, Prog.run_modify]
      rw [World.subscription_log]
      by_cases own : accountId = other
      · subst own
        rw [subscription_updateRow]
        exact .suspended now
      · rw [subscription_updateRow_ne own]
        exact .same _
  | markCanceled now other =>
      dsimp only [markCanceled, Prog.run_modify]
      by_cases own : accountId = other
      · subst own
        rw [subscription_updateRow]
        exact .markedCanceled now
      · rw [subscription_updateRow_ne own]
        exact .same _

/-! ## Writes that give no period -/

/-- The write is none of those that give the account a new period: no payment, no plan assigned
by an admin and no demo. -/
def Write.Quiet (accountId : String) : Write → Prop
  | applyEvent delivery =>
      ¬ (delivery.event.accountId = accountId ∧ delivery.event.eventType = .paymentSucceeded)
  | activateDemo _ _ other => other ≠ accountId
  | setTenantPlan _ auth body => ¬ (body.accountId = accountId ∧ auth.isAdmin = true)
  | markSuspended _ _ | markCanceled _ _ => True

instance (accountId : String) : DecidablePred (Write.Quiet accountId)
  | .applyEvent _ => inferInstanceAs (Decidable (¬ (_ ∧ _)))
  | .activateDemo _ _ _ => inferInstanceAs (Decidable (_ ≠ _))
  | .setTenantPlan _ _ _ => inferInstanceAs (Decidable (¬ (_ ∧ _)))
  | .markSuspended _ _ | .markCanceled _ _ => .isTrue trivial

/-- The write cancels or suspends the account. -/
def Write.Shuts (accountId : String) (world : World) : Write → Prop
  | applyEvent delivery => delivery.Applies .subscriptionCanceled world accountId
  | markSuspended _ other | markCanceled _ other => other = accountId
  | activateDemo _ _ _ | setTenantPlan _ _ _ => False

instance (accountId : String) (world : World) : DecidablePred (Write.Shuts accountId world)
  | .applyEvent _ => inferInstanceAs (Decidable (Delivery.Applies ..))
  | .markSuspended _ _ | .markCanceled _ _ => inferInstanceAs (Decidable (_ = _))
  | .activateDemo _ _ _ | .setTenantPlan _ _ _ => .isFalse id

/-- The write is a failed payment of the account. -/
def Write.FailsPayment (accountId : String) (world : World) : Write → Prop
  | applyEvent delivery => delivery.Applies .paymentFailed world accountId
  | activateDemo _ _ _ | setTenantPlan _ _ _ | markSuspended _ _ | markCanceled _ _ => False

instance (accountId : String) (world : World) : DecidablePred (Write.FailsPayment accountId world)
  | .applyEvent _ => inferInstanceAs (Decidable (Delivery.Applies ..))
  | .activateDemo _ _ _ | .setTenantPlan _ _ _ | .markSuspended _ _ | .markCanceled _ _ =>
      .isFalse id

variable {write : Write}

/-- A quiet write shuts the account, puts it past due, or leaves its row. -/
theorem quiet_take (env : Env) (quiet : write.Quiet accountId) (world : World) :
    (write.take env world).subscription accountId = world.subscription accountId ∨
      write.FailsPayment accountId world ∨ write.Shuts accountId world := by
  have rewrite := rewrite_take env world accountId write
  generalize (write.take env world).subscription accountId = after at rewrite ⊢
  cases rewrite with
  | same => exact .inl rfl
  | paid delivery own named payment => exact (quiet ⟨own, payment⟩).elim
  | failed delivery fails => exact .inr (.inl fails)
  | canceled delivery cancels => exact .inr (.inr cancels)
  | signedUp => exact (quiet rfl).elim
  | assigned now auth body own admin => exact (quiet ⟨own, admin⟩).elim
  | suspended | markedCanceled => exact .inr (.inr rfl)

/-- The row of an account that is shut. -/
theorem subscription_shut (env : Env) (shuts : write.Shuts accountId world) :
    ∃ now, (write.take env world).subscription accountId =
        (world.subscription accountId).map (canceledRow now) ∨
      (write.take env world).subscription accountId =
        (world.subscription accountId).map (suspendedRow now) := by
  cases write with
  | applyEvent delivery => exact ⟨delivery.now, .inl (subscription_canceled env shuts)⟩
  | markSuspended now other =>
      cases shuts
      exact ⟨now, .inr subscription_updateRow⟩
  | markCanceled now other =>
      cases shuts
      exact ⟨now, .inl subscription_updateRow⟩
  | activateDemo | setTenantPlan => exact shuts.elim

end Step

end Aegis.Subscriptions
