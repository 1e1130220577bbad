import Aegis.Subscriptions.Service

/-!
# What events do to the subscriptions

`Effect` says once what an execution of `apply_event` can have done to the rows and the
history, whether it returned or raised; `is_active` reads one row.
-/

namespace Aegis.Subscriptions

open Aegis.Lib

/-- What an execution of `apply_event` has done by its end. -/
inductive Effect (env : Env) (delivery : Delivery) (world : World) : World → Prop
  /-- nothing: the event names no account, or its transaction raised -/
  | unchanged : Effect env delivery world world
  /-- the upsert of a payment, perhaps with the key and the record -/
  | paid {after : World} (portalToken : String) :
    delivery.event.eventType = .paymentSucceeded →
    after.subscriptions =
      (upsertActive delivery.now delivery.event portalToken world).subscriptions →
    after.trace = world.trace ++ [.applied delivery.event] →
    Effect env delivery world after
  /-- the update and the record of another event -/
  | updated :
    delivery.event.accountId ≠ "" →
    delivery.event.eventType ≠ .paymentSucceeded →
    ¬ world.Processed delivery.event.provider delivery.event.providerEventId →
    Effect env delivery world (addRecord delivery.now delivery.event
      ((applyToRow env delivery world).log (.applied delivery.event)))

section Effects

variable {env : Env} {delivery : Delivery} {world after : World} {accountId : String}

/-- The key and the record of a first activation touch neither rows nor history. -/
theorem guarantees_issueCredentials (env : Env) (delivery : Delivery) (portalToken : String) :
    (issueCredentials env delivery portalToken).Guarantees fun before after =>
      after.subscriptions = before.subscriptions ∧ after.trace = before.trace := by
  unfold issueCredentials
  apply Prog.Guarantees.bind
  · exact guarantees_issueApiKey (fun _ => ⟨rfl, rfl⟩) fun _ => ⟨rfl, rfl⟩
  · intro mobileApiKey
    apply Prog.Guarantees.bind
    · apply Prog.guarantees_commit
      · exact fun _ => ⟨rfl, rfl⟩
      · intro before after recorded
        unfold recordProcessed at recorded
        split at recorded
        · cases recorded
        · cases recorded
          exact ⟨rfl, rfl⟩
    · exact fun _ => Prog.guarantees_pure _

/-- A transaction that ends with the record of its event commits or changes nothing. -/
theorem committed_recordProcessed (now : ℤ) (event : PaymentEvent) (f : World → World)
    (world : World) :
    Prog.committed (fun world => recordProcessed now event (f world)) world = world ∨
      ¬ (f world).Processed event.provider event.providerEventId ∧
        Prog.committed (fun world => recordProcessed now event (f world)) world =
          addRecord now event (f world) := by
  unfold Prog.committed recordProcessed
  by_cases seen : (f world).Processed event.provider event.providerEventId
  · exact Or.inl (by simp only [seen, if_true])
  · exact Or.inr ⟨seen, by simp only [seen, if_false]⟩

/-- A first activation keeps its upsert, whatever becomes of the key and the record. -/
theorem run_activate_inserts (env : Env) (delivery : Delivery) (world : World) :
    ((activate env delivery none).run world).2.subscriptions =
        (upsertActive delivery.now delivery.event delivery.draws.portalToken world).subscriptions ∧
      ((activate env delivery none).run world).2.trace =
        world.trace ++ [.applied delivery.event] :=
  Prog.Guarantees.run (R := fun before after : World =>
      after.subscriptions = before.subscriptions ∧ after.trace = before.trace)
    (fun _ => ⟨rfl, rfl⟩)
    (fun first second => ⟨second.1.trans first.1, second.2.trans first.2⟩)
    (guarantees_issueCredentials env delivery delivery.draws.portalToken)
    (upsertActive delivery.now delivery.event delivery.draws.portalToken world)

theorem effect_activate (payment : delivery.event.eventType = .paymentSucceeded)
    (existing : Option Subscription) :
    Effect env delivery world ((activate env delivery existing).run world).2 := by
  cases existing with
  | none =>
      obtain ⟨rows, trace⟩ := run_activate_inserts env delivery world
      exact .paid delivery.draws.portalToken payment rows trace
  | some row =>
      have run : ((activate env delivery (some row)).run world).2 =
          Prog.committed (fun world => recordProcessed delivery.now delivery.event
            (upsertActive delivery.now delivery.event
              (portalTokenFor (some row) delivery.draws.portalToken) world)) world :=
        Prog.run_commit_pure _ _ _
      rcases committed_recordProcessed delivery.now delivery.event
        (upsertActive delivery.now delivery.event
          (portalTokenFor (some row) delivery.draws.portalToken)) world with same | ⟨_, done⟩
      · rw [run, same]
        exact .unchanged
      · rw [run, done]
        exact .paid _ payment rfl rfl

/-- **Inversion** of `apply_event`. -/
theorem effect_applyEvent (env : Env) (delivery : Delivery) (world : World) :
    Effect env delivery world ((applyEvent env delivery).run world).2 := by
  by_cases anonymous : delivery.event.accountId = ""
  · simp only [applyEvent, anonymous, if_true, Prog.run_pure]
    exact .unchanged
  by_cases payment : delivery.event.eventType = .paymentSucceeded
  · rw [run_applyEvent_payment anonymous payment]
    exact effect_activate payment _
  have run : ((applyEvent env delivery).run world).2 =
      Prog.committed (fun world => recordProcessed delivery.now delivery.event
        ((applyToRow env delivery world).log (.applied delivery.event))) world := by
    simp only [applyEvent, anonymous, if_false]
    split
    next paid => exact (payment paid).elim
    all_goals exact Prog.run_commit_pure _ _ _
  rcases committed_recordProcessed delivery.now delivery.event
    (fun world => (applyToRow env delivery world).log (.applied delivery.event)) world
    with same | ⟨unseen, done⟩
  · rw [run, same]
    exact .unchanged
  · rw [run, done]
    exact .updated anonymous payment (processed_applyToRow.not.mp unseen)

@[simp]
theorem trace_updateRow {f : Subscription → Subscription} :
    (updateRow accountId f world).trace = world.trace := by
  unfold updateRow
  split <;> rfl

@[simp]
theorem trace_applyToRow : (applyToRow env delivery world).trace = world.trace := by
  unfold applyToRow
  split
  · exact trace_updateRow
  · exact trace_updateRow
  · rfl
  · rfl

theorem subscription_applyToRow_ne (apart : accountId ≠ delivery.event.accountId) :
    (applyToRow env delivery world).subscription accountId = world.subscription accountId := by
  unfold applyToRow
  split
  · exact subscription_updateRow_ne apart
  · exact subscription_updateRow_ne apart
  · rfl
  · rfl

/-- An event of one account leaves the row of every other alone. -/
theorem Effect.subscription_ne (effect : Effect env delivery world after)
    (apart : accountId ≠ delivery.event.accountId) :
    after.subscription accountId = world.subscription accountId := by
  cases effect with
  | unchanged => rfl
  | paid portalToken _ rows _ =>
      rw [World.subscription, rows]
      exact subscription_upsertActive_ne apart
  | updated => exact subscription_applyToRow_ne apart

theorem Effect.subscription_paid (token : String)
    (rows : after.subscriptions =
      (upsertActive delivery.now delivery.event token world).subscriptions) :
    after.subscription delivery.event.accountId =
      some (activeRow delivery.now delivery.event token
        (world.subscription delivery.event.accountId)) := by
  rw [World.subscription, rows]
  exact subscription_upsertActive

theorem Effect.trace_grows (effect : Effect env delivery world after) :
    world.trace <+: after.trace := by
  cases effect with
  | unchanged => exact List.prefix_refl _
  | paid _ _ _ trace =>
      rw [trace]
      exact List.prefix_append _ _
  | updated =>
      rw [trace_addRecord, World.trace_log, trace_applyToRow]
      exact List.prefix_append _ _

end Effects

/-! ## Access -/

section Access

variable {world other : World} {accountId : String} {now later : ℤ} {row : Subscription}

/-- `is_active` reads the account's row. -/
theorem isActive_congr (same : other.subscription accountId = world.subscription accountId) :
    other.isActive now accountId = world.isActive now accountId := by
  rw [World.isActive, World.isActive, same]

theorem isActive_of_none (absent : world.subscription accountId = none) :
    world.isActive now accountId = false := by
  rw [World.isActive, absent]

theorem isActive_of_status (present : world.subscription accountId = some row)
    (inactive : row.status ≠ "active") (current : row.status ≠ "past_due") :
    world.isActive now accountId = false := by
  simp only [World.isActive, present, inactive, current, if_false]

/-- An account that fails a payment has access until its grace period ends. -/
theorem isActive_pastDueRow {settings : Settings}
    (present : world.subscription accountId = some (pastDueRow settings later row)) :
    world.isActive now accountId =
      decide (now < later + days settings.subscriptionGracePeriodDays) := by
  simp only [World.isActive, present, pastDueRow]
  rfl

/-- Time alone does not give access back. -/
theorem isActive_later (passes : now ≤ later) (inactive : world.isActive now accountId = false) :
    world.isActive later accountId = false := by
  cases present : world.subscription accountId with
  | none => exact isActive_of_none present
  | some row =>
      simp only [World.isActive, present] at inactive ⊢
      split at inactive
      · cases inactive
      next active =>
        rw [if_neg active]
        split at inactive
        next pastDue =>
          rw [if_pos pastDue]
          cases ends : row.gracePeriodEndsAt with
          | none => rfl
          | some grace =>
              rw [ends, Option.any_some, decide_eq_false_iff_not] at inactive
              rw [Option.any_some, decide_eq_false_iff_not]
              omega
        next other => rw [if_neg other]

end Access

end Aegis.Subscriptions
