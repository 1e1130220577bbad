import Aegis.Payments.Webhook
import Aegis.Subscriptions.Redelivery
import Aegis.Subscriptions.Writes

/-!
# The provider's ids over renewals

One purchase comes in several events of one type, and not all of them carry the id of the
subscription or the end of the period.  The upsert of `apply_event` stores what its own event
carries, and nothing where it carries nothing.  `renewalsKeep_iff` says for which sequences of
payments the last id and the last period end are still in the row.
-/

namespace Aegis.Payments

open Aegis.Lib Aegis.Subscriptions

/-- The deliveries that find no record of their event. -/
def newDeliveries (env : Env) : World → List Delivery → List Delivery
  | _, [] => []
  | world, delivery :: rest =>
      if world.Processed delivery.event.provider delivery.event.providerEventId then
        newDeliveries env ((handleEvent env delivery).run world).2 rest
      else delivery :: newDeliveries env ((handleEvent env delivery).run world).2 rest

section Carried

variable {β : Type} {field : PaymentEvent → Option β} {deliveries : List Delivery}
  {last : Delivery} {value : β}

/-- The value in the last event that carries one. -/
def lastCarried (field : PaymentEvent → Option β) (deliveries : List Delivery) : Option β :=
  deliveries.reverse.findSome? fun delivery => field delivery.event

/-- If some event carries a value, the last one does. -/
def EndsCarrying (field : PaymentEvent → Option β) (deliveries : List Delivery) : Prop :=
  (lastCarried field deliveries).isSome → ∃ last ∈ deliveries.getLast?, (field last.event).isSome

instance : Decidable (EndsCarrying field deliveries) :=
  inferInstanceAs (Decidable (_ → _))

theorem lastCarried_of_last (ends : deliveries.getLast? = some last)
    (carries : field last.event = some value) : lastCarried field deliveries = some value := by
  obtain ⟨early, rfl⟩ := List.getLast?_eq_some_iff.mp ends
  rw [lastCarried, List.reverse_append, List.reverse_singleton, List.singleton_append,
    List.findSome?_cons, carries]

theorem ne_nil_of_lastCarried (carried : lastCarried field deliveries = some value) :
    deliveries ≠ [] := by
  intro same
  rcases same with rfl
  cases carried

/-- What was stored last is what was carried last exactly when the last event carries it. -/
theorem keeps_iff_endsCarrying {stored : Option β}
    (overwritten : ∀ last ∈ deliveries.getLast?, stored = field last.event) :
    (∀ value, lastCarried field deliveries = some value → stored = some value) ↔
      EndsCarrying field deliveries := by
  constructor
  · intro keeps carried
    obtain ⟨value, carried⟩ := Option.isSome_iff_exists.mp carried
    obtain ⟨last, ends⟩ := Option.isSome_iff_exists.mp
      (List.getLast?_isSome.mpr (ne_nil_of_lastCarried carried))
    refine ⟨last, ends, ?_⟩
    rw [← overwritten last ends, keeps value carried]
    rfl
  · intro ends value carried
    obtain ⟨last, final, carries⟩ := ends (by rw [carried]; rfl)
    obtain ⟨found, carries⟩ := Option.isSome_iff_exists.mp carries
    rw [overwritten last final, carries, ← lastCarried_of_last final carries, carried]

end Carried

/-- What `cancel_subscription` hands to the adapter of the row's provider: the provider's ids of
the subscription and of the customer. -/
def cancelArguments (world : World) (accountId : String) : Option (Option String × Option String) :=
  match world.subscription accountId with
  | none => none
  | some row =>
      if row.provider.all (· ∉ adapters) then none
      else some (row.providerSubscriptionId, row.providerCustomerId)

/-- After the payments the row holds the subscription id and the period end of the last event
that carried one, and the provider can be asked to cancel that subscription. -/
structure RenewalsKeep (env : Env) (start : World) (accountId : String)
    (deliveries : List Delivery) : Prop where
  subscriptionId : ∀ id,
    lastCarried (·.providerSubscriptionId) (newDeliveries env start deliveries) = some id →
    ((handleAll env start deliveries).subscription accountId).bind (·.providerSubscriptionId) =
      some id
  periodEnd : ∀ ends,
    lastCarried (·.currentPeriodEnd) (newDeliveries env start deliveries) = some ends →
    ((handleAll env start deliveries).subscription accountId).bind (·.currentPeriodEnd) =
      some ends
  cancels : ∀ id,
    lastCarried (·.providerSubscriptionId) (newDeliveries env start deliveries) = some id →
    ∃ customer, cancelArguments (handleAll env start deliveries) accountId =
      some (some id, customer)

section Handled

variable {env : Env} {world start : World} {accountId provider : String} {delivery : Delivery}
  {deliveries : List Delivery}

/-- The handler leaves the rows as `apply_event` does. -/
theorem subscriptions_handleEvent
    (unseen : ¬ world.Processed delivery.event.provider delivery.event.providerEventId) :
    ((handleEvent env delivery).run world).2.subscriptions =
      ((applyEvent env delivery).run world).2.subscriptions := by
  rw [run_handleEvent_of_unseen unseen]
  refine Prog.run_bind_rest (R := fun before after : World =>
      after.subscriptions = before.subscriptions) (fun _ => rfl)
    (fun first second => second.trans first) _ (fun newlyIssued => ?_) world
  exact guarantees_finish (fun _ _ _ _ => rfl) (fun _ _ _ => rfl) delivery newlyIssued

theorem handleAll_cons :
    handleAll env world (delivery :: deliveries) =
      handleAll env ((handleEvent env delivery).run world).2 deliveries := rfl

/-- Deliveries that are all on record change nothing. -/
theorem handleAll_of_no_new (none_new : newDeliveries env world deliveries = []) :
    handleAll env world deliveries = world := by
  induction deliveries with
  | nil => rfl
  | cons delivery rest ih =>
      unfold newDeliveries at none_new
      split at none_new
      next seen =>
        have same : ((handleEvent env delivery).run world).2 = world := by
          rw [run_handleEvent_of_processed seen]
        rw [same] at none_new
        rw [handleAll_cons, same]
        exact ih none_new
      · cases none_new

/-- The row holds what the event carries. -/
structure Holds (event : PaymentEvent) (row : Subscription) : Prop where
  provider : row.provider = some event.provider
  subscriptionId : row.providerSubscriptionId = event.providerSubscriptionId
  periodEnd : row.currentPeriodEnd = event.currentPeriodEnd

/-- **Step lemma.**  A payment overwrites what the row held. -/
theorem holds_handleEvent (env : Env) (pays : delivery.Applies .paymentSucceeded world accountId) :
    ∃ row, ((handleEvent env delivery).run world).2.subscription accountId = some row ∧
      Holds delivery.event row := by
  have stored := subscription_paid env pays
  rw [World.subscription, ← subscriptions_handleEvent pays.unseen] at stored
  refine ⟨_, stored, ?_⟩
  cases world.subscription accountId <;> exact ⟨rfl, rfl, rfl⟩

/-- The deliveries are payments of the account. -/
def PaymentsOf (accountId : String) (deliveries : List Delivery) : Prop :=
  ∀ delivery ∈ deliveries,
    delivery.event.accountId = accountId ∧ delivery.event.eventType = .paymentSucceeded

instance : Decidable (PaymentsOf accountId deliveries) :=
  inferInstanceAs (Decidable (∀ delivery ∈ deliveries, _ ∧ _))

/-- **Run lemma.**  The row holds what the last new event carries. -/
theorem holds_handleAll (env : Env) (named : accountId ≠ "")
    (payments : PaymentsOf accountId deliveries) :
    ∀ last ∈ (newDeliveries env world deliveries).getLast?,
      ∃ row, (handleAll env world deliveries).subscription accountId = some row ∧
        Holds last.event row := by
  induction deliveries generalizing world with
  | nil =>
      intro last final
      rw [newDeliveries, List.getLast?_nil] at final
      cases final
  | cons delivery rest ih =>
      have later : PaymentsOf accountId rest :=
        fun other member => payments other (List.mem_cons_of_mem _ member)
      have own := payments delivery List.mem_cons_self
      unfold newDeliveries
      rw [handleAll_cons]
      split
      next seen =>
        exact ih later
      next unseen =>
        intro last final
        have stored := holds_handleEvent env ⟨own.1, named, own.2, unseen⟩
        by_cases settled :
            newDeliveries env ((handleEvent env delivery).run world).2 rest = []
        · rw [settled] at final
          cases final
          rw [handleAll_of_no_new settled]
          exact stored
        · rw [List.getLast?_cons_of_ne_nil settled] at final
          exact ih later last final

/-- A column that holds a field of the last new event. -/
theorem column_keeps_iff {β : Type} (env : Env) (start : World)
    (column : Subscription → Option β) (field : PaymentEvent → Option β)
    (holds : ∀ event row, Holds event row → column row = field event) (named : accountId ≠ "")
    (payments : PaymentsOf accountId deliveries) :
    (∀ value, lastCarried field (newDeliveries env start deliveries) = some value →
        ((handleAll env start deliveries).subscription accountId).bind column = some value) ↔
      EndsCarrying field (newDeliveries env start deliveries) := by
  apply keeps_iff_endsCarrying
  intro last final
  obtain ⟨row, present, held⟩ := holds_handleAll env named payments last final
  rw [present, Option.bind_some, holds last.event row held]

theorem mem_of_mem_newDeliveries (new : delivery ∈ newDeliveries env world deliveries) :
    delivery ∈ deliveries := by
  induction deliveries generalizing world with
  | nil => cases new
  | cons first rest ih =>
      unfold newDeliveries at new
      split at new
      · exact List.mem_cons_of_mem _ (ih new)
      · rcases List.mem_cons.mp new with rfl | later
        · exact List.mem_cons_self
        · exact List.mem_cons_of_mem _ (ih later)

/-- **Renewals keep the provider's ids** exactly when the last new event carries what any of
them carried. -/
theorem renewalsKeep_iff (named : accountId ≠ "") (payments : PaymentsOf accountId deliveries)
    (known : provider ∈ adapters)
    (own : ∀ delivery ∈ deliveries, delivery.event.provider = provider) :
    RenewalsKeep env start accountId deliveries ↔
      EndsCarrying (·.providerSubscriptionId) (newDeliveries env start deliveries) ∧
        EndsCarrying (·.currentPeriodEnd) (newDeliveries env start deliveries) := by
  have subscriptionId := column_keeps_iff env start (·.providerSubscriptionId)
    (·.providerSubscriptionId) (fun _ _ held => held.subscriptionId) named payments
  have periodEnd := column_keeps_iff env start (·.currentPeriodEnd) (·.currentPeriodEnd)
    (fun _ _ held => held.periodEnd) named payments
  constructor
  · exact fun keeps => ⟨subscriptionId.mp keeps.subscriptionId, periodEnd.mp keeps.periodEnd⟩
  · intro held
    rcases held with ⟨ids, ends⟩
    refine ⟨subscriptionId.mpr ids, periodEnd.mpr ends, fun id carried => ?_⟩
    obtain ⟨last, final⟩ := Option.isSome_iff_exists.mp
      (List.getLast?_isSome.mpr (ne_nil_of_lastCarried carried))
    obtain ⟨row, present, held⟩ := holds_handleAll env named payments last final
    have stored := subscriptionId.mpr ids id carried
    rw [present, Option.bind_some] at stored
    have from_ : row.provider = some provider := by
      rw [held.provider, own last (mem_of_mem_newDeliveries (List.mem_of_getLast? final))]
    have listed : ¬ row.provider.all (· ∉ adapters) = true := by
      rw [from_]
      simpa using known
    refine ⟨row.providerCustomerId, ?_⟩
    rw [cancelArguments, present]
    dsimp only
    rw [if_neg listed, stored]

end Handled

/-! ## One purchase -/

/-- What Paystack announces of a purchase: the subscription, and the charge. -/
def createEvent : PaymentEvent :=
  ⟨"paystack", "42", .paymentSucceeded, "acc", none, some "SUB_1", some (days 31)⟩

def chargeEvent : PaymentEvent :=
  ⟨"paystack", "43", .paymentSucceeded, "acc", none, none, none⟩

/-- The charge is announced first. -/
theorem renewalsKeep_iff_createdLast :
    RenewalsKeep sampleEnv .empty "acc"
      [⟨chargeEvent, 0, sampleDraws 1⟩, ⟨createEvent, 1, sampleDraws 2⟩] := by
  have own : ∀ delivery ∈ ([⟨chargeEvent, 0, sampleDraws 1⟩, ⟨createEvent, 1, sampleDraws 2⟩] :
      List Delivery), delivery.event.provider = "paystack" := by decide
  exact (renewalsKeep_iff (by decide) (by decide) (by decide) own).mpr (by decide)

/-- The charge is announced last, and the id is gone. -/
theorem not_renewalsKeep_chargedLast :
    ¬ RenewalsKeep sampleEnv .empty "acc"
      [⟨createEvent, 0, sampleDraws 1⟩, ⟨chargeEvent, 1, sampleDraws 2⟩] := by
  intro keeps
  have kept := keeps.subscriptionId "SUB_1" (by decide)
  exact absurd kept (by decide)

end Aegis.Payments
