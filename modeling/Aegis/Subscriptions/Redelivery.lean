import Aegis.Subscriptions.Webhook

/-!
# Redelivery

A provider may deliver an event again.  The handler leaves a record of every event
that names an account, and does nothing for one that names none, so handling a
list of deliveries comes to handling the first of each pair
(`handleAll_firstDeliveries`).

The two facts about single executions are `run_handleEvent_records` and
`handleEvent_grows`: the first says that an execution leaves its record, the second
that no execution removes a record or issues any other key than the one it drew.
-/

namespace Aegis.Subscriptions

open Aegis.Lib

/-! ## What every step keeps -/

/-- Records stay, and only the key that `drawn` names can become taken. -/
structure Grows (env : Env) (drawn : String) (before after : World) : Prop where
  processed : ∀ {provider providerEventId}, before.Processed provider providerEventId →
    after.Processed provider providerEventId
  fresh : ∀ {other}, env.hashKey drawn ≠ env.hashKey other → before.FreshKey env other →
    after.FreshKey env other

variable {env : Env} {drawn : String}

theorem Grows.refl (world : World) : Grows env drawn world world := ⟨id, fun _ => id⟩

theorem Grows.trans {a b c : World} (first : Grows env drawn a b) (second : Grows env drawn b c) :
    Grows env drawn a c :=
  ⟨second.processed ∘ first.processed,
    fun apart fresh => second.fresh apart (first.fresh apart fresh)⟩

/-- A step that leaves both tables alone. -/
theorem Grows.of_eq {before after : World}
    (processed : after.processedPaymentEvents = before.processedPaymentEvents)
    (keys : after.apiKeys = before.apiKeys) : Grows env drawn before after := by
  refine ⟨fun record => ?_, fun _ fresh => ?_⟩
  · rwa [World.Processed, processed]
  · rwa [World.FreshKey, keys]

theorem recordProcessed_grows {now : ℤ} {event : PaymentEvent} {world after : World}
    (done : recordProcessed now event world = .ok after) : Grows env drawn world after := by
  unfold recordProcessed at done
  split at done
  · cases done
  · cases done
    exact ⟨fun record => processed_addRecord.mpr (Or.inl record), fun _ fresh => fresh⟩

theorem log_grows (act : Act) (world : World) : Grows env drawn world (world.log act) :=
  .of_eq rfl rfl

theorem upsertActive_grows (now : ℤ) (event : PaymentEvent) (portalToken : String)
    (world : World) : Grows env drawn world (upsertActive now event portalToken world) :=
  .of_eq rfl rfl

theorem updateRow_grows (accountId : String) (f : Subscription → Subscription)
    (world : World) : Grows env drawn world (updateRow accountId f world) := by
  unfold updateRow
  split
  · exact .refl world
  · exact .of_eq rfl rfl

theorem applyToRow_grows (delivery : Delivery) (world : World) :
    Grows env drawn world (applyToRow env delivery world) := by
  unfold applyToRow
  split
  · exact updateRow_grows _ _ world
  · exact updateRow_grows _ _ world
  · exact .refl world
  · exact .refl world

theorem addKey_grows (now : ℤ) (request : KeyRequest) (world : World) :
    Grows env drawn world (addKey env now drawn request world) :=
  ⟨id, fun apart fresh => freshKey_addKey.mpr ⟨fresh, apart⟩⟩

theorem issueApiKey_grows (now : ℤ) (request : KeyRequest) :
    (issueApiKey env now drawn request).Guarantees (Grows env drawn) := by
  have inserts : ∀ world after, insertKey env now drawn request world = .ok after →
      Grows env drawn world after := by
    intro world after done
    unfold insertKey at done
    split at done
    · cases done
      exact addKey_grows now request world
    · cases done
  exact (Prog.guarantees_commit .refl inserts).bind fun _ => Prog.guarantees_pure _

/-- A session that ends with the record of its event. -/
theorem commit_record_grows {f : World → World} (keeps : ∀ world, Grows env drawn world (f world))
    (now : ℤ) (event : PaymentEvent) :
    (Prog.commit fun world => recordProcessed now event (f world)).Guarantees
      (Grows env drawn) :=
  Prog.guarantees_commit .refl fun world _ done =>
    (keeps world).trans (recordProcessed_grows done)

variable (delivery : Delivery)

theorem issueCredentials_grows (portalToken : String) :
    (issueCredentials env delivery portalToken).Guarantees
      (Grows env delivery.draws.mobileApiKey) :=
  (issueApiKey_grows _ _).bind fun _ =>
    (commit_record_grows .refl _ _).bind fun _ => Prog.guarantees_pure _

theorem activate_grows (existing : Option Subscription) :
    (activate env delivery existing).Guarantees (Grows env delivery.draws.mobileApiKey) := by
  cases existing with
  | none =>
      exact (Prog.guarantees_modify (upsertActive_grows _ _ _)).bind fun _ =>
        issueCredentials_grows delivery _
  | some row =>
      exact (commit_record_grows (upsertActive_grows _ _ _) _ _).bind fun _ =>
        Prog.guarantees_pure _

theorem applyEvent_grows :
    (applyEvent env delivery).Guarantees (Grows env delivery.draws.mobileApiKey) := by
  unfold applyEvent
  dsimp only
  split
  · exact Prog.guarantees_pure _
  · split
    · exact (Prog.guarantees_read .refl _).bind fun existing =>
        activate_grows delivery existing
    all_goals
      exact (commit_record_grows
        (fun world => (applyToRow_grows delivery world).trans (log_grows _ _)) _ _).bind
          fun _ => Prog.guarantees_pure _

theorem finish_grows (newlyIssued : Option NewlyIssued) :
    (finish delivery newlyIssued).Guarantees (Grows env drawn) :=
  guarantees_finish (fun _ _ _ _ => .of_eq rfl rfl) (fun _ _ _ => .of_eq rfl rfl) delivery
    newlyIssued

theorem handleEvent_grows :
    (handleEvent env delivery).Guarantees (Grows env delivery.draws.mobileApiKey) := by
  unfold handleEvent
  refine (Prog.guarantees_read .refl _).bind fun seen => ?_
  split
  · exact Prog.guarantees_pure _
  · exact (applyEvent_grows delivery).bind fun issued => finish_grows delivery issued

/-! ## Every execution leaves its record -/

section Record

variable {delivery} {world : World}

theorem run_applyEvent_records (named : delivery.event.accountId ≠ "")
    (unseen : ¬ world.Processed delivery.event.provider delivery.event.providerEventId)
    (fresh : world.FreshKey env delivery.draws.mobileApiKey) :
    ∃ issued before, (applyEvent env delivery).run world =
      (.ok issued, addRecord delivery.now delivery.event before) := by
  by_cases payment : delivery.event.eventType = .paymentSucceeded
  · rw [run_applyEvent_payment named payment]
    cases world.subscription delivery.event.accountId with
    | none => exact ⟨_, _, run_activate_none unseen fresh⟩
    | some row => exact ⟨_, _, run_activate_some unseen⟩
  · exact ⟨_, _, run_applyEvent_other named payment unseen⟩

/-- **Record.**  An execution for an event that names an account leaves the event on
record. -/
theorem run_handleEvent_records (named : delivery.event.accountId ≠ "")
    (fresh : world.FreshKey env delivery.draws.mobileApiKey) :
    ((handleEvent env delivery).run world).2.Processed delivery.event.provider
      delivery.event.providerEventId := by
  by_cases unseen : world.Processed delivery.event.provider delivery.event.providerEventId
  · rw [run_handleEvent_of_processed unseen]
    exact unseen
  · obtain ⟨issued, before, applied⟩ := run_applyEvent_records named unseen fresh
    have finished : Grows env delivery.draws.mobileApiKey _ _ :=
      (finish_grows delivery issued).run .refl .trans (addRecord delivery.now delivery.event before)
    rw [run_handleEvent_of_unseen unseen, Prog.run_bind_ok applied]
    exact finished.processed (processed_addRecord.mpr (Or.inr ⟨rfl, rfl⟩))

end Record

/-! ## Lists of deliveries -/

/-- The idempotency key of a delivery. -/
def Delivery.pair (delivery : Delivery) : String × String :=
  (delivery.event.provider, delivery.event.providerEventId)

/-- The deliveries handled one after another. -/
def handleAll (env : Env) (world : World) (deliveries : List Delivery) : World :=
  deliveries.foldl (fun world delivery => ((handleEvent env delivery).run world).2) world

/-- The deliveries whose pair is not in `seen` and did not occur before. -/
def firstDeliveries (seen : List (String × String)) : List Delivery → List Delivery
  | [] => []
  | delivery :: rest =>
      if delivery.pair ∈ seen then firstDeliveries seen rest
      else delivery :: firstDeliveries (delivery.pair :: seen) rest

/-- An execution for a pair that is settled changes nothing. -/
theorem run_handleEvent_of_settled {delivery : Delivery} {world : World}
    (settled : world.Processed delivery.event.provider delivery.event.providerEventId ∨
      delivery.event.accountId = "") : ((handleEvent env delivery).run world).2 = world := by
  rcases settled with record | anonymous
  · rw [run_handleEvent_of_processed record]
  · exact run_handleEvent_of_anonymous anonymous

/-- The induction behind `handleAll_firstDeliveries`: what is in `seen` is on record,
or names no account. -/
theorem handleAll_firstDeliveries_from :
    ∀ {deliveries : List Delivery} {world : World} {seen : List (String × String)},
      (∀ delivery ∈ deliveries, delivery.pair ∈ seen →
        world.Processed delivery.event.provider delivery.event.providerEventId ∨
          delivery.event.accountId = "") →
      (∀ delivery ∈ deliveries, world.FreshKey env delivery.draws.mobileApiKey) →
      deliveries.Pairwise (fun first second =>
        env.hashKey first.draws.mobileApiKey ≠ env.hashKey second.draws.mobileApiKey) →
      (∀ first ∈ deliveries, ∀ second ∈ deliveries, first.pair = second.pair →
        (first.event.accountId = "" ↔ second.event.accountId = "")) →
      handleAll env world deliveries =
        handleAll env world (firstDeliveries seen deliveries)
  | [], _, _, _, _, _, _ => rfl
  | delivery :: rest, world, seen, settled, fresh, distinct, account => by
      have freshRest : ∀ later ∈ rest, world.FreshKey env later.draws.mobileApiKey :=
        fun later member => fresh later (List.mem_cons_of_mem _ member)
      have accountRest : ∀ first ∈ rest, ∀ second ∈ rest, first.pair = second.pair →
          (first.event.accountId = "" ↔ second.event.accountId = "") :=
        fun first member second other =>
          account first (List.mem_cons_of_mem _ member) second (List.mem_cons_of_mem _ other)
      rw [firstDeliveries, handleAll, List.foldl_cons]
      split
      next again =>
        rw [run_handleEvent_of_settled (settled delivery List.mem_cons_self again)]
        exact handleAll_firstDeliveries_from
          (fun later member => settled later (List.mem_cons_of_mem _ member)) freshRest
          distinct.of_cons accountRest
      next first =>
        have grows : Grows env delivery.draws.mobileApiKey world _ :=
          (handleEvent_grows delivery).run .refl .trans world
        rw [handleAll, List.foldl_cons]
        refine handleAll_firstDeliveries_from (fun later member held => ?_)
          (fun later member => grows.fresh (List.rel_of_pairwise_cons distinct member)
            (freshRest later member)) distinct.of_cons accountRest
        rcases List.mem_cons.mp held with same | earlier
        · -- The pair was handled just now: either it is on record, or it never will be.
          by_cases anonymous : delivery.event.accountId = ""
          · exact Or.inr ((account delivery List.mem_cons_self later
              (List.mem_cons_of_mem _ member) same.symm).mp anonymous)
          · have record := run_handleEvent_records anonymous (fresh delivery List.mem_cons_self)
            obtain ⟨provider, providerEventId⟩ := Prod.mk.inj same
            rw [provider, providerEventId]
            exact Or.inl record
        · exact (settled later (List.mem_cons_of_mem _ member) earlier).imp_left grows.processed

/-- **Redelivery.**  When no two drawn keys have the same hash, and deliveries of one
pair agree on whether they name an account, handling all deliveries leaves the world
that handling the first of each pair leaves. -/
theorem handleAll_firstDeliveries (world : World) (deliveries : List Delivery)
    (fresh : ∀ delivery ∈ deliveries, world.FreshKey env delivery.draws.mobileApiKey)
    (distinct : deliveries.Pairwise fun first second =>
      env.hashKey first.draws.mobileApiKey ≠ env.hashKey second.draws.mobileApiKey)
    (account : ∀ first ∈ deliveries, ∀ second ∈ deliveries, first.pair = second.pair →
      (first.event.accountId = "" ↔ second.event.accountId = "")) :
    handleAll env world deliveries = handleAll env world (firstDeliveries [] deliveries) :=
  handleAll_firstDeliveries_from (fun _ _ held => (List.not_mem_nil held).elim) fresh distinct
    account

/-- A payment, a failure, and both again. -/
def redelivered : List Delivery :=
  [⟨sampleEvent .paymentSucceeded "e1", 10, sampleDraws 1⟩,
    ⟨sampleEvent .paymentFailed "e2", 20, sampleDraws 2⟩,
    ⟨sampleEvent .paymentSucceeded "e1", 30, sampleDraws 3⟩,
    ⟨sampleEvent .paymentFailed "e2", 40, sampleDraws 4⟩]

theorem handleAll_firstDeliveries_redelivered :
    handleAll sampleEnv .empty redelivered =
      handleAll sampleEnv .empty (firstDeliveries [] redelivered) :=
  handleAll_firstDeliveries .empty redelivered (by decide) (by decide) (by decide)

end Aegis.Subscriptions
