import Aegis.Subscriptions.Signup
import Aegis.Subscriptions.Sweep

/-!
# Registered accounts

The sweep looks at past-due rows with a deadline and at no others, so it can disconnect an
account in time only while the account's row is active or of that kind.  Such a row is
`Supervised`; the handlers below keep it so for every account in the worker registry.
-/

namespace Aegis.Subscriptions

open Aegis.Lib

/-- The row gives access, or the sweep will see it lapse. -/
def Subscription.Supervised (row : Subscription) : Prop :=
  row.status = "active" ∨ row.status = "past_due" ∧ row.gracePeriodEndsAt.isSome = true

instance (row : Subscription) : Decidable row.Supervised := inferInstanceAs (Decidable (_ ∨ _))

/-- Every account in the registry has a supervised row. -/
def World.Supervised (world : World) : Prop :=
  ∀ accountId ∈ world.workerRegistry,
    ∃ row, world.subscription accountId = some row ∧ row.Supervised

section Keep

variable {env : Env} {now : ℤ} {world after : World} {accountId jobId : String}

/-- A handler that touches one account keeps the others supervised. -/
theorem World.Supervised.touch (inv : world.Supervised) (accountId : String)
    (rows : ∀ other, other ≠ accountId → after.subscription other = world.subscription other)
    (registry : ∀ other, other ≠ accountId → other ∈ after.workerRegistry →
      other ∈ world.workerRegistry)
    (own : accountId ∈ after.workerRegistry →
      ∃ row, after.subscription accountId = some row ∧ row.Supervised) : after.Supervised := by
  intro other listed
  by_cases same : other = accountId
  · subst same
    exact own listed
  · rw [rows other same]
    exact inv other (registry other same listed)

/-- A row that is set to a supervised one. -/
theorem World.Supervised.set {row : Subscription} (inv : world.Supervised)
    (supervised : accountId ∈ world.workerRegistry → row.Supervised) :
    (world.setSubscription accountId row).Supervised := by
  refine inv.touch accountId ?_ ?_ ?_
  · exact fun other apart => World.subscription_setSubscription_ne apart
  · exact fun _ _ listed => listed
  · exact fun listed => ⟨row, World.subscription_setSubscription, supervised listed⟩

theorem World.Supervised.congr (inv : world.Supervised)
    (rows : after.subscriptions = world.subscriptions)
    (registry : after.workerRegistry = world.workerRegistry) : after.Supervised := by
  unfold World.Supervised World.subscription at *
  rw [rows, registry]
  exact inv

/-! ## Stopping -/

/-- What `stop_worker` leaves behind. -/
def stopped (jobId accountId : String) (world : World) : World :=
  { world with
    workers := world.workers.erase accountId
    workerRegistry := world.workerRegistry.erase accountId
    queues := Function.update world.queues accountId
      (⟨jobId, "STOP", .dict []⟩ :: world.queues accountId) }

theorem run_stopWorker : (stopWorker jobId accountId).run world =
    (.ok true, stopped jobId accountId world) := rfl

/-- Stopping a worker of an account that is in the registry, as the handlers do. -/
def stoppedIfRunning (jobId accountId : String) (world : World) : World :=
  if accountId ∈ world.workerRegistry then stopped jobId accountId world else world

theorem run_stopIfRunning (jobId accountId : String) (world : World) :
    (do if ← isRunning accountId then let _ ← stopWorker jobId accountId :
        Prog Failure World Unit).run world = (.ok (), stoppedIfRunning jobId accountId world) := by
  rw [isRunning, Prog.run_bind_ok (Prog.run_read _ _), stoppedIfRunning]
  by_cases running : accountId ∈ world.workerRegistry
  · simp only [running, decide_true, if_true]
    exact Prog.run_bind_ok run_stopWorker
  · simp only [running, decide_false, if_false, Bool.false_eq_true]
    rfl

theorem not_mem_stoppedIfRunning :
    accountId ∉ (stoppedIfRunning jobId accountId world).workerRegistry := by
  unfold stoppedIfRunning
  split
  · exact Finset.notMem_erase _ _
  next idle => exact idle

theorem mem_of_stoppedIfRunning {other : String}
    (listed : other ∈ (stoppedIfRunning jobId accountId world).workerRegistry) :
    other ∈ world.workerRegistry := by
  unfold stoppedIfRunning at listed
  split at listed
  · exact Finset.mem_of_mem_erase listed
  · exact listed

theorem subscription_stoppedIfRunning (other : String) :
    (stoppedIfRunning jobId accountId world).subscription other = world.subscription other := by
  unfold stoppedIfRunning
  split <;> rfl

/-- Stopping the worker of an account makes its row irrelevant. -/
theorem World.Supervised.stop {row : Subscription → Subscription} (inv : world.Supervised) :
    (stoppedIfRunning jobId accountId (updateRow accountId row world)).Supervised := by
  have registry : (updateRow accountId row world).workerRegistry = world.workerRegistry := by
    unfold updateRow
    split <;> rfl
  refine inv.touch accountId ?_ ?_ ?_
  · intro other apart
    rw [subscription_stoppedIfRunning, subscription_updateRow_ne apart]
  · intro other _ listed
    rw [← registry]
    exact mem_of_stoppedIfRunning listed
  · exact fun listed => (not_mem_stoppedIfRunning listed).elim

end Keep

/-! ## The sweep -/

section Swept

variable {sweep : Sweep} {world : World} {accountId : String}

/-- What the sweep does for one account of its list. -/
def suspendOne (sweep : Sweep) (world : World) (accountId : String) : World :=
  (updateRow accountId (suspendedRow (sweep.suspendedAt accountId))
    (stoppedIfRunning (sweep.jobIds accountId) accountId world)).log (.suspended accountId)

theorem run_suspendAll (sweep : Sweep) (accounts : List String) (world : World) :
    (suspendAll sweep accounts).run world = (.ok (), accounts.foldl (suspendOne sweep) world) := by
  induction accounts generalizing world with
  | nil => rfl
  | cons accountId rest ih =>
      rw [suspendAll, isRunning, Prog.run_bind_ok (Prog.run_read _ _), List.foldl_cons, ← ih,
        suspendOne, stoppedIfRunning]
      by_cases running : accountId ∈ world.workerRegistry
      · simp only [running, decide_true, if_true]
        rw [Prog.run_bind_ok run_stopWorker]
        exact Prog.run_bind_ok (Prog.run_modify _ _)
      · simp only [running, decide_false, if_false, Bool.false_eq_true]
        exact Prog.run_bind_ok (Prog.run_modify _ _)

theorem run_sweepOnce (sweep : Sweep) (world : World) :
    (sweepOnce sweep).run world = (.ok (), (world.lapsedAccounts sweep.now).foldl
      (suspendOne sweep) (world.log (.lapsed (world.lapsedAccounts sweep.now)))) :=
  run_suspendAll sweep _ _

theorem registry_updateRow {f : Subscription → Subscription} :
    (updateRow accountId f world).workerRegistry = world.workerRegistry := by
  unfold updateRow
  split <;> rfl

theorem mem_suspendAll (accounts : List String) :
    accountId ∈ (accounts.foldl (suspendOne sweep) world).workerRegistry ↔
      accountId ∈ world.workerRegistry ∧ accountId ∉ accounts := by
  induction accounts generalizing world with
  | nil => simp
  | cons first rest ih =>
      have one : accountId ∈ (suspendOne sweep world first).workerRegistry ↔
          accountId ∈ world.workerRegistry ∧ accountId ≠ first := by
        change accountId ∈ (updateRow first _ _).workerRegistry ↔ _
        rw [registry_updateRow]
        constructor
        · intro listed
          refine ⟨mem_of_stoppedIfRunning listed, fun same => ?_⟩
          subst same
          exact not_mem_stoppedIfRunning listed
        · intro both
          rcases both with ⟨listed, apart⟩
          unfold stoppedIfRunning
          split
          · exact Finset.mem_erase.mpr ⟨apart, listed⟩
          · exact listed
      rw [List.foldl_cons, ih, one, List.mem_cons, not_or, and_assoc]

theorem subscription_suspendAll {accounts : List String} (absent : accountId ∉ accounts) :
    (accounts.foldl (suspendOne sweep) world).subscription accountId =
      world.subscription accountId := by
  induction accounts generalizing world with
  | nil => rfl
  | cons first rest ih =>
      rw [List.mem_cons, not_or] at absent
      rw [List.foldl_cons, ih absent.2, suspendOne, World.subscription_log,
        subscription_updateRow_ne absent.1, subscription_stoppedIfRunning]

/-- The sweep of a list suspends its accounts; a second time makes no difference. -/
theorem subscription_suspendAll_of_mem {accounts : List String} (listed : accountId ∈ accounts) :
    (accounts.foldl (suspendOne sweep) world).subscription accountId =
      (world.subscription accountId).map (suspendedRow (sweep.suspendedAt accountId)) := by
  induction accounts generalizing world with
  | nil => cases listed
  | cons first rest ih =>
      rw [List.foldl_cons]
      by_cases own : accountId = first
      · subst own
        have once : (suspendOne sweep world accountId).subscription accountId =
            (world.subscription accountId).map (suspendedRow (sweep.suspendedAt accountId)) := by
          rw [suspendOne, World.subscription_log, subscription_updateRow,
            subscription_stoppedIfRunning]
        by_cases again : accountId ∈ rest
        · rw [ih again, once, Option.map_map]
          rfl
        · rw [subscription_suspendAll again, once]
      · rw [ih ((List.mem_cons.mp listed).resolve_left own), suspendOne, World.subscription_log,
          subscription_updateRow_ne own, subscription_stoppedIfRunning]

theorem mem_lapsedAccounts {now : ℤ} :
    accountId ∈ world.lapsedAccounts now ↔ ∃ row, world.subscription accountId = some row ∧
      row.status = "past_due" ∧ row.gracePeriodEndsAt.any (· < now) = true := by
  unfold World.lapsedAccounts World.subscription
  simp only [List.mem_map, List.mem_filter, Bool.and_eq_true, decide_eq_true_eq]
  constructor
  · intro listed
    rcases listed with ⟨⟨key, row⟩, ⟨entry, lapsed⟩, rfl⟩
    exact ⟨row, AList.mem_lookup_iff.mpr entry, lapsed⟩
  · intro present
    rcases present with ⟨row, stored, lapsed⟩
    exact ⟨⟨accountId, row⟩, ⟨AList.mem_lookup_iff.mp stored, lapsed⟩, rfl⟩

/-- The accounts that are in the registry after a sweep, with the rows they had. -/
theorem registry_sweepOnce :
    accountId ∈ ((sweepOnce sweep).run world).2.workerRegistry ↔
      accountId ∈ world.workerRegistry ∧ accountId ∉ world.lapsedAccounts sweep.now := by
  rw [run_sweepOnce]
  exact mem_suspendAll _

theorem subscription_sweepOnce (absent : accountId ∉ world.lapsedAccounts sweep.now) :
    ((sweepOnce sweep).run world).2.subscription accountId = world.subscription accountId := by
  rw [run_sweepOnce, subscription_suspendAll absent, World.subscription_log]

theorem subscription_sweepOnce_of_mem (lapsed : accountId ∈ world.lapsedAccounts sweep.now) :
    ((sweepOnce sweep).run world).2.subscription accountId =
      (world.subscription accountId).map (suspendedRow (sweep.suspendedAt accountId)) := by
  rw [run_sweepOnce, subscription_suspendAll_of_mem lapsed, World.subscription_log]

/-- The grace period of the row does not end while the sweep runs. -/
def Subscription.NotLapsing (sweep : Sweep) (ended : ℤ) (row : Subscription) : Prop :=
  row.status = "past_due" → ∀ deadline, row.gracePeriodEndsAt = some deadline →
    deadline < sweep.now ∨ ended < deadline

/-- An account whose row does not lapse meanwhile is on the sweep's list or has access,
exactly when the row is supervised. -/
theorem lapsed_or_active_iff (ended : ℤ) {row : Subscription}
    (present : world.subscription accountId = some row) :
    (accountId ∈ world.lapsedAccounts sweep.now ∨ world.isActive ended accountId = true) ↔
      row.Supervised ∧ row.NotLapsing sweep ended := by
  rw [mem_lapsedAccounts, World.isActive, present]
  simp only [Option.some.injEq, exists_eq_left', Subscription.Supervised, Subscription.NotLapsing]
  by_cases active : row.status = "active"
  · simp [active]
  · by_cases pastDue : row.status = "past_due"
    · cases deadline : row.gracePeriodEndsAt with
      | none => simp [pastDue]
      | some ends => simp [pastDue]
    · simp [active, pastDue]

/-- No account in the registry has a grace period that ends while the sweep runs. -/
def World.NotLapsing (sweep : Sweep) (ended : ℤ) (world : World) : Prop :=
  ∀ accountId ∈ world.workerRegistry, ∀ row, world.subscription accountId = some row →
    row.NotLapsing sweep ended

/-- **The sweep's step lemma**: every account that is still in the registry has access,
exactly when the registry was supervised and no grace period ended meanwhile. -/
theorem sweepOnce_isActive_iff {ended : ℤ} :
    (∀ accountId ∈ ((sweepOnce sweep).run world).2.workerRegistry,
        ((sweepOnce sweep).run world).2.isActive ended accountId = true) ↔
      world.Supervised ∧ world.NotLapsing sweep ended := by
  have kept : ∀ accountId, accountId ∉ world.lapsedAccounts sweep.now →
      ((sweepOnce sweep).run world).2.isActive ended accountId =
        world.isActive ended accountId :=
    fun accountId absent => isActive_congr (subscription_sweepOnce absent)
  constructor
  · intro clean
    have each : ∀ accountId ∈ world.workerRegistry,
        accountId ∈ world.lapsedAccounts sweep.now ∨ world.isActive ended accountId = true := by
      intro accountId listed
      by_cases lapsed : accountId ∈ world.lapsedAccounts sweep.now
      · exact .inl lapsed
      · rw [← kept accountId lapsed]
        exact .inr (clean accountId (registry_sweepOnce.mpr ⟨listed, lapsed⟩))
    constructor
    · intro accountId listed
      cases present : world.subscription accountId with
      | none =>
          rcases each accountId listed with lapsed | active
          · obtain ⟨row, stored, _⟩ := mem_lapsedAccounts.mp lapsed
            rw [present] at stored
            cases stored
          · rw [isActive_of_none present] at active
            cases active
      | some row =>
          exact ⟨row, rfl, ((lapsed_or_active_iff ended present).mp (each accountId listed)).1⟩
    · intro accountId listed row present
      exact ((lapsed_or_active_iff ended present).mp (each accountId listed)).2
  · intro both accountId still
    rcases both with ⟨supervised, steady⟩
    obtain ⟨listed, absent⟩ := registry_sweepOnce.mp still
    obtain ⟨row, present, kind⟩ := supervised accountId listed
    rw [kept accountId absent]
    have either := (lapsed_or_active_iff ended present).mpr
      ⟨kind, steady accountId listed row present⟩
    exact either.resolve_left absent

/-- A sweep keeps the registry supervised. -/
theorem World.Supervised.sweepOnce (inv : world.Supervised) :
    ((sweepOnce sweep).run world).2.Supervised := by
  intro accountId still
  obtain ⟨listed, absent⟩ := registry_sweepOnce.mp still
  rw [subscription_sweepOnce absent]
  exact inv accountId listed

end Swept

/-! ## The other handlers -/

section Handlers

variable {env : Env} {now : ℤ} {world : World} {accountId : String}

/-- The webhook after `apply_event` stops the worker of an account that lost access. -/
def LosesWorker (delivery : Delivery) (world : World) : Prop :=
  delivery.event.accountId ≠ "" ∧ delivery.event.eventType.disconnects = true ∧
    world.isActive delivery.now delivery.event.accountId = false

instance (delivery : Delivery) (world : World) : Decidable (LosesWorker delivery world) :=
  inferInstanceAs (Decidable (_ ∧ _ ∧ _))

theorem run_disconnect (delivery : Delivery) (world : World) :
    (disconnect delivery).run world = (.ok (),
      if LosesWorker delivery world then
        stoppedIfRunning delivery.draws.jobId delivery.event.accountId world
      else world) := by
  unfold disconnect
  by_cases concerned :
      delivery.event.accountId ≠ "" ∧ delivery.event.eventType.disconnects = true
  · simp only [concerned.1, concerned.2, ne_eq, not_false_eq_true, decide_true, Bool.and_self,
      if_true, LosesWorker, true_and]
    rw [isRunning, Prog.run_bind_ok (Prog.run_read _ _), stoppedIfRunning]
    by_cases running : delivery.event.accountId ∈ world.workerRegistry
    · simp only [running, decide_true, if_true]
      rw [isActive, Prog.run_bind_ok (Prog.run_read _ _)]
      cases world.isActive delivery.now delivery.event.accountId <;> rfl
    · simp only [running, decide_false, Bool.false_eq_true, if_false, ite_self]
      rfl
  · have idle : ¬ LosesWorker delivery world :=
      fun loses => concerned ⟨loses.1, loses.2.1⟩
    have closed : (delivery.event.accountId ≠ "" && delivery.event.eventType.disconnects) =
        false := by simpa using concerned
    rw [if_neg idle]
    simp only [closed, Bool.false_eq_true, if_false]
    rfl

theorem run_finish_none (delivery : Delivery) (world : World) :
    ((finish delivery none).run world).2 =
      if LosesWorker delivery world then
        stoppedIfRunning delivery.draws.jobId delivery.event.accountId world
      else world := by
  have stash : (stashIssued delivery none).run world = (.ok (), world) := rfl
  unfold finish
  rw [Prog.run_bind_ok stash, Prog.run_bind_ok (run_disconnect delivery world)]
  rfl

/-- The handler after `apply_event` keeps the registry supervised. -/
theorem World.Supervised.finish {delivery : Delivery} {newlyIssued : Option NewlyIssued}
    (inv : world.Supervised) : ((finish delivery newlyIssued).run world).2.Supervised := by
  have staged : ∀ issued, ∃ between, (stashIssued delivery issued).run world = (.ok (), between) ∧
      between.subscriptions = world.subscriptions ∧
        between.workerRegistry = world.workerRegistry := by
    intro issued
    cases issued with
    | none => exact ⟨_, rfl, rfl, rfl⟩
    | some issued => exact ⟨_, rfl, rfl, rfl⟩
  obtain ⟨between, stash, rows, registry⟩ := staged newlyIssued
  unfold Subscriptions.finish
  rw [Prog.run_bind_ok stash, Prog.run_bind_ok (run_disconnect delivery between)]
  have kept := inv.congr rows registry
  dsimp only [Prog.run_pure]
  split
  · refine kept.touch delivery.event.accountId ?_ ?_ ?_
    · exact fun other _ => subscription_stoppedIfRunning other
    · exact fun other _ listed => mem_of_stoppedIfRunning listed
    · exact fun listed => (not_mem_stoppedIfRunning listed).elim
  · exact kept

/-- The registry is as it was. -/
def SameRegistry (before after : World) : Prop := after.workerRegistry = before.workerRegistry

theorem SameRegistry.refl (world : World) : SameRegistry world world := rfl

/-- A transaction that ends with the record of its event. -/
theorem sameRegistry_commit {event : PaymentEvent} {f : World → World} {α : Type} (result : α)
    (keeps : ∀ world, SameRegistry world (f world)) :
    (Prog.commit (fun world => recordProcessed now event (f world)) >>= fun _ =>
      (pure result : Prog Failure World α)).Guarantees SameRegistry := by
  apply Prog.Guarantees.bind
  · apply Prog.guarantees_commit SameRegistry.refl
    intro before after recorded
    unfold recordProcessed at recorded
    split at recorded
    · cases recorded
    · cases recorded
      exact keeps before
  · exact fun _ => Prog.guarantees_pure _

theorem sameRegistry_applyToRow (env : Env) (delivery : Delivery) (world : World) :
    SameRegistry world (applyToRow env delivery world) := by
  unfold applyToRow
  split
  · exact registry_updateRow
  · exact registry_updateRow
  · exact .refl world
  · exact .refl world

/-- `apply_event` does not touch the registry. -/
theorem sameRegistry_applyEvent (env : Env) (delivery : Delivery) (world : World) :
    SameRegistry world ((applyEvent env delivery).run world).2 := by
  refine Prog.Guarantees.run SameRegistry.refl (fun first second => second.trans first) ?_ world
  unfold applyEvent
  dsimp only
  split
  · exact Prog.guarantees_pure _
  · split
    · refine (Prog.guarantees_read SameRegistry.refl _).bind fun existing => ?_
      cases existing with
      | none =>
          refine (Prog.guarantees_modify fun world => SameRegistry.refl world).bind fun _ => ?_
          unfold issueCredentials
          refine (guarantees_issueApiKey SameRegistry.refl fun world =>
            SameRegistry.refl world).bind fun _ => ?_
          exact sameRegistry_commit _ SameRegistry.refl
      | some row => exact sameRegistry_commit _ fun world => SameRegistry.refl world
    all_goals exact sameRegistry_commit _ fun world => sameRegistry_applyToRow env delivery world

theorem supervised_pastDueRow (settings : Settings) (now : ℤ) (row : Subscription) :
    (pastDueRow settings now row).Supervised := .inr ⟨rfl, rfl⟩

/-- A payment keeps the registry supervised, whether it is handled or raises. -/
theorem World.Supervised.pay {delivery : Delivery} (inv : world.Supervised)
    (env : Env) (payment : delivery.event.eventType = .paymentSucceeded) :
    ((applyEvent env delivery).run world).2.Supervised := by
  have registry := sameRegistry_applyEvent env delivery world
  have effect := effect_applyEvent env delivery world
  generalize ((applyEvent env delivery).run world).2 = after at registry effect ⊢
  refine inv.touch delivery.event.accountId ?_ ?_ ?_
  · exact fun other apart => effect.subscription_ne apart
  · intro other _ listed
    rwa [registry] at listed
  · intro listed
    rw [registry] at listed
    cases effect with
    | unchanged => exact inv _ listed
    | paid token _ rows _ =>
        refine ⟨_, Effect.subscription_paid token rows, .inl ?_⟩
        cases world.subscription delivery.event.accountId <;> rfl
    | updated _ other _ => exact (other payment).elim

theorem World.Supervised.update {f : Subscription → Subscription} (inv : world.Supervised)
    (supervised : ∀ row, (f row).Supervised) : (updateRow accountId f world).Supervised := by
  cases present : world.subscription accountId with
  | none => rwa [updateRow_of_none present]
  | some row =>
      rw [updateRow_of_some present]
      exact inv.set fun _ => supervised row

theorem isActive_canceled (world : World) (at_ later : ℤ) :
    (updateRow accountId (canceledRow at_) world).isActive later accountId = false := by
  cases present : world.subscription accountId with
  | none =>
      rw [updateRow_of_none present]
      exact isActive_of_none present
  | some row =>
      have stored : (updateRow accountId (canceledRow at_) world).subscription accountId =
          some (canceledRow at_ row) := by rw [subscription_updateRow, present]; rfl
      exact isActive_of_status stored (by simp [canceledRow]) (by simp [canceledRow])

/-- The end of a handler whose event was not a payment: a canceled account loses its
worker. -/
theorem World.Supervised.finishOther {delivery : Delivery} (inv : world.Supervised)
    (other : delivery.event.eventType ≠ .paymentSucceeded)
    (named : delivery.event.accountId ≠ "") :
    ((Subscriptions.finish delivery none).run (addRecord delivery.now delivery.event
      ((applyToRow env delivery world).log (.applied delivery.event)))).2.Supervised := by
  cases kind : delivery.event.eventType with
  | paymentSucceeded => exact (other kind).elim
  | paymentFailed =>
      apply World.Supervised.finish
      simp only [applyToRow, kind]
      exact (inv.update (supervised_pastDueRow env.settings delivery.now)).congr rfl rfl
  | subscriptionCanceled =>
      simp only [applyToRow, kind]
      have loses : LosesWorker delivery (addRecord delivery.now delivery.event
          ((updateRow delivery.event.accountId (canceledRow delivery.now) world).log
            (.applied delivery.event))) :=
        ⟨named, by rw [kind]; rfl, isActive_canceled world delivery.now delivery.now⟩
      rw [run_finish_none, if_pos loses]
      refine inv.touch delivery.event.accountId ?_ ?_ ?_
      · intro other apart
        exact (subscription_stoppedIfRunning other).trans (subscription_updateRow_ne apart)
      · intro other _ listed
        have before := mem_of_stoppedIfRunning listed
        change other ∈ (updateRow _ _ world).workerRegistry at before
        rwa [registry_updateRow] at before
      · exact fun listed => (not_mem_stoppedIfRunning listed).elim
  | unknown =>
      apply World.Supervised.finish
      simp only [applyToRow, kind]
      exact inv

/-- The webhook keeps the registry supervised. -/
theorem World.Supervised.handleEvent (inv : world.Supervised) (delivery : Delivery) :
    ((handleEvent env delivery).run world).2.Supervised := by
  by_cases seen : world.Processed delivery.event.provider delivery.event.providerEventId
  · rw [run_handleEvent_of_processed seen]
    exact inv
  by_cases anonymous : delivery.event.accountId = ""
  · rw [run_handleEvent_of_anonymous anonymous]
    exact inv
  rw [run_handleEvent_of_unseen seen, Prog.run_bind]
  by_cases payment : delivery.event.eventType = .paymentSucceeded
  · have paid := inv.pay env payment
    cases ran : (applyEvent env delivery).run world with
    | mk outcome between =>
        rw [ran] at paid
        cases outcome with
        | error e => exact paid
        | ok issued => exact paid.finish
  · rw [run_applyEvent_other anonymous payment seen]
    exact inv.finishOther payment anonymous

/-- A cancellation that goes through stops the worker. -/
theorem World.Supervised.cancelSubscription (inv : world.Supervised) (auth : AuthContext)
    (jobId accountId : String) (confirmed : Bool) :
    ((cancelSubscription now auth jobId accountId confirmed).run world).2.Supervised := by
  unfold Subscriptions.cancelSubscription requireAdmin Prog.ofExcept
  by_cases admin : auth.isAdmin = true
  · rw [if_pos admin, Prog.run_bind_ok rfl, Prog.run_bind_ok (Prog.run_read _ _)]
    cases world.subscription accountId with
    | none => exact inv
    | some row =>
        dsimp only
        split
        · exact inv
        · split
          · exact inv
          · rw [markCanceled, Prog.run_bind_ok (Prog.run_modify _ _)]
            exact (congrArg (fun ran : Except Failure Unit × World => ran.2.Supervised)
              (run_stopIfRunning jobId accountId _)).mpr inv.stop
  · rw [if_neg admin]
    exact inv

/-- A plan assignment keeps the registry supervised when it leaves a registered account a
supervised row. -/
theorem World.Supervised.setTenantPlan {auth : AuthContext} {body : SetPlanRequest}
    (inv : world.Supervised)
    (kept : auth.isAdmin = true → body.accountId ∈ world.workerRegistry →
      (tenantRow now body (world.subscription body.accountId)).Supervised) :
    ((setTenantPlan now auth body).run world).2.Supervised := by
  by_cases admin : auth.isAdmin = true
  · rw [run_setTenantPlan admin]
    exact inv.set (kept admin)
  · rw [run_setTenantPlan_refused admin]
    exact inv

/-- A demo signup leaves an active row. -/
theorem World.Supervised.demoSignup (inv : world.Supervised) (draws : SignupDraws)
    (body : DemoSignupRequest) : ((demoSignup env now draws body).run world).2.Supervised := by
  rw [after_demoSignup]
  obtain ⟨keys, nextKeyId, same⟩ :=
    sameButKeys_activateDemo env now draws.toDraws (body.account draws) world
  rw [same]
  refine (inv.set fun _ => .inl ?_).congr rfl rfl
  cases world.subscription (body.account draws) <;> rfl

end Handlers

end Aegis.Subscriptions
