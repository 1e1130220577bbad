import Aegis.Subscriptions.Writes

/-!
# The grace period

A failed payment sets `grace_period_ends_at` from the clock of its own handler, and so does every
failure after it.  `graceBounded_iff` says in which runs the period is still the one that the
first failure began.
-/

namespace Aegis.Subscriptions

open Aegis.Lib

/-- The write is a failed payment of the account whose handler reads a clock later than
`first`. -/
def Write.FailsAfter (first : ℤ) (accountId : String) (world : World) : Write → Prop
  | applyEvent delivery => delivery.Applies .paymentFailed world accountId ∧ first < delivery.now
  | activateDemo _ _ _ | setTenantPlan _ _ _ | markSuspended _ _ | markCanceled _ _ => False

instance (first : ℤ) (accountId : String) (world : World) :
    DecidablePred (Write.FailsAfter first accountId world)
  | .applyEvent _ => inferInstanceAs (Decidable (_ ∧ _))
  | .activateDemo _ _ _ | .setTenantPlan _ _ _ | .markSuspended _ _ | .markCanceled _ _ =>
      .isFalse id

theorem Write.FailsAfter.failsPayment {first : ℤ} {accountId : String} {world : World}
    {write : Write} (later : write.FailsAfter first accountId world) :
    write.FailsPayment accountId world := by
  cases write with
  | applyEvent delivery => exact later.1
  | activateDemo | setTenantPlan | markSuspended | markCanceled => exact later

/-- The account's grace period ends at the deadline at the latest, and with it the access. -/
structure GraceBounded (deadline : ℤ) (accountId : String) (world : World) : Prop where
  ends : ∀ row ends, world.subscription accountId = some row →
    row.gracePeriodEndsAt = some ends → ends ≤ deadline
  inactive : ∀ now, deadline ≤ now → world.isActive now accountId = false

section Grace

variable {env : Env} {world : World} {accountId : String} {row : Subscription} {deadline : ℤ}
  {first : Delivery} {write : Write}

/-! ## One write -/

/-- A failure bounds the grace period as it ought to be exactly when it is early enough. -/
theorem graceBounded_pastDueRow {now : ℤ}
    (present : world.subscription accountId = some (pastDueRow env.settings now row)) :
    GraceBounded deadline accountId world ↔
      now + days env.settings.subscriptionGracePeriodDays ≤ deadline := by
  constructor
  · exact fun bounded => bounded.ends _ _ present rfl
  · intro early
    refine ⟨?_, ?_⟩
    · intro found ends same grace
      rw [present] at same
      cases same
      cases grace
      exact early
    · intro time late
      rw [isActive_pastDueRow present, decide_eq_false_iff_not]
      omega

/-- A row that keeps its grace period and gives no access. -/
theorem GraceBounded.of_row {after : World} {later : Subscription}
    (bounded : GraceBounded deadline accountId world)
    (present : world.subscription accountId = some row)
    (now_ : after.subscription accountId = some later)
    (same : later.gracePeriodEndsAt = row.gracePeriodEndsAt)
    (ended : later.status = "canceled" ∨ later.status = "suspended") :
    GraceBounded deadline accountId after := by
  refine ⟨?_, ?_⟩
  · intro found ends there grace
    rw [now_] at there
    cases there
    exact bounded.ends row ends present (same.symm.trans grace)
  · intro time _
    rcases ended with status | status <;>
      exact isActive_of_status now_ (by rw [status]; decide) (by rw [status]; decide)

theorem GraceBounded.congr {after : World} (bounded : GraceBounded deadline accountId world)
    (same : after.subscription accountId = world.subscription accountId) :
    GraceBounded deadline accountId after := by
  refine ⟨?_, ?_⟩
  · intro found ends there grace
    exact bounded.ends found ends (same.symm.trans there) grace
  · intro time late
    rw [isActive_congr same]
    exact bounded.inactive time late

/-- A quiet write keeps the row. -/
theorem isSome_take (quiet : write.Quiet accountId)
    (present : (world.subscription accountId).isSome) :
    ((write.take env world).subscription accountId).isSome := by
  rcases quiet_take env quiet world with same | fails | shuts
  · rwa [same]
  · cases write with
    | applyEvent delivery =>
        have after := subscription_failed env fails
        rw [Write.take, after, Option.isSome_map]
        exact present
    | activateDemo | setTenantPlan | markSuspended | markCanceled => exact fails.elim
  · obtain ⟨now, row | row⟩ := subscription_shut env shuts <;> rwa [row, Option.isSome_map]

/-- **Step lemma.** -/
theorem graceBounded_take_iff (quiet : write.Quiet accountId)
    (present : (world.subscription accountId).isSome)
    (bounded : GraceBounded (first.now + days env.settings.subscriptionGracePeriodDays) accountId
      world) :
    GraceBounded (first.now + days env.settings.subscriptionGracePeriodDays) accountId
        (write.take env world) ↔ ¬ write.FailsAfter first.now accountId world := by
  obtain ⟨row, present⟩ := Option.isSome_iff_exists.mp present
  by_cases fails : write.FailsPayment accountId world
  · cases write with
    | applyEvent delivery =>
        have after := subscription_failed env fails
        rw [present] at after
        refine (graceBounded_pastDueRow after).trans ?_
        unfold Write.FailsAfter
        rw [not_and, not_lt]
        constructor
        · intro early _
          omega
        · intro early
          have := early fails
          omega
    | activateDemo | setTenantPlan | markSuspended | markCanceled => exact fails.elim
  · refine iff_of_true ?_ fun later => fails later.failsPayment
    rcases quiet_take env quiet world with same | failure | shuts
    · exact bounded.congr same
    · exact (fails failure).elim
    · obtain ⟨now, after | after⟩ := subscription_shut env shuts
      · rw [present] at after
        exact bounded.of_row present after rfl (.inl rfl)
      · rw [present] at after
        exact bounded.of_row present after rfl (.inr rfl)

/-! ## Runs -/

/-- **The grace period is counted from the first failure**, in every state of a run without a
new period, exactly when no failure of the run comes later than the first. -/
theorem graceBounded_iff {writes : List Write} (present : world.subscription accountId = some row)
    (fails : first.Applies .paymentFailed world accountId)
    (quiet : ∀ write ∈ writes, write.Quiet accountId) :
    Throughout (Write.take env)
        (GraceBounded (first.now + days env.settings.subscriptionGracePeriodDays) accountId)
        ((applyEvent env first).run world).2 writes ↔
      EachStep (Write.take env)
        (fun world write => ¬ write.FailsAfter first.now accountId world)
        ((applyEvent env first).run world).2 writes := by
  have after := subscription_failed env fails
  rw [present] at after
  apply throughout_iff_eachStep_of_mem (I := fun world => (world.subscription accountId).isSome)
  · rw [after]
    rfl
  · exact (graceBounded_pastDueRow after).mpr le_rfl
  · exact fun write member world found => isSome_take (quiet write member) found
  · exact fun write member world found bounded =>
      graceBounded_take_iff (quiet write member) found bounded

end Grace

/-! ## Two runs -/

/-- An account that has paid. -/
def paidUpWorld : World :=
  Write.take sampleEnv .empty (.applyEvent ⟨sampleEvent .paymentSucceeded "e1", 0, sampleDraws 1⟩)

/-- The first failure of its renewal. -/
def firstFailure : Delivery := ⟨sampleEvent .paymentFailed "e2", 0, sampleDraws 2⟩

/-- The provider delivers the failure again, and a sweep suspends the account. -/
theorem graceBounded_iff_redelivered :
    Throughout (Write.take sampleEnv) (GraceBounded (0 + days 5) "acc")
      ((applyEvent sampleEnv firstFailure).run paidUpWorld).2
      [.applyEvent ⟨sampleEvent .paymentFailed "e2", days 1, sampleDraws 3⟩,
        .markSuspended (days 6) "acc"] := by
  have present : paidUpWorld.subscription "acc" = some
      (activeRow 0 (sampleEvent .paymentSucceeded "e1") (sampleDraws 1).portalToken none) := rfl
  have fails : firstFailure.Applies .paymentFailed paidUpWorld "acc" := by decide
  exact (graceBounded_iff present fails (by decide)).mpr (by decide)

/-- The provider tries the charge again after three days, and the account has access when its
five days are over. -/
theorem not_graceBounded_retried :
    ¬ Throughout (Write.take sampleEnv) (GraceBounded (0 + days 5) "acc")
      ((applyEvent sampleEnv firstFailure).run paidUpWorld).2
      [.applyEvent ⟨sampleEvent .paymentFailed "e3", days 3, sampleDraws 3⟩] := by
  intro always
  have shut := GraceBounded.inactive always.2 (0 + days 5) le_rfl
  exact absurd shut (by decide)

end Aegis.Subscriptions
