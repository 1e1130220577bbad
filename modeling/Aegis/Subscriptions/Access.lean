import Aegis.Subscriptions.Effects
import Aegis.Subscriptions.Webhook

/-!
# Who gives access back

An account without access should get it back by a payment only.  A failed payment sets
its account past due with a new grace period, whatever the status was, so it reopens
an account that was suspended or canceled, or whose grace period had run out.
`onlyPaymentsRestore_iff` says that this is the only way around a payment.
-/

namespace Aegis.Subscriptions

open Aegis.Lib

/-- What happens to the subscriptions. -/
inductive Happening where
  | wait (microseconds : ℕ)
  | applyEvent (event : PaymentEvent) (draws : Draws)
  | markSuspended (accountId : String)
  | markCanceled (accountId : String)

structure Moment where
  now : ℤ
  world : World

def Moment.isActive (moment : Moment) (accountId : String) : Bool :=
  moment.world.isActive moment.now accountId

def Happening.take (env : Env) : Happening → Moment → Moment
  | .wait microseconds, moment => { moment with now := moment.now + microseconds }
  | .applyEvent event draws, moment =>
      { moment with
        world := ((Subscriptions.applyEvent env ⟨event, moment.now, draws⟩).run
          moment.world).2 }
  | .markSuspended accountId, moment =>
      { moment with
        world := ((Subscriptions.markSuspended moment.now accountId).run moment.world).2 }
  | .markCanceled accountId, moment =>
      { moment with
        world := ((Subscriptions.markCanceled moment.now accountId).run moment.world).2 }

def takeAll (env : Env) (happenings : List Happening) (start : Moment) : Moment :=
  happenings.foldl (fun moment happening => happening.take env moment) start

/-- Between `before` and `after` a payment for the account was applied. -/
def Paid (accountId : String) (before after : World) : Prop :=
  ∃ event, .applied event ∈ after.trace.drop before.trace.length ∧
    event.accountId = accountId ∧ event.eventType = .paymentSucceeded

/-- An account that has lost access does not get it back before it pays. -/
def OnlyPaymentsRestore (env : Env) (accountId : String) (start : Moment)
    (happenings : List Happening) : Prop :=
  ∀ early middle, early ++ middle <+: happenings →
    ¬ Paid accountId (takeAll env early start).world (takeAll env (early ++ middle) start).world →
    (takeAll env early start).isActive accountId = false →
    (takeAll env (early ++ middle) start).isActive accountId = false

/-- A failed payment that reaches an account without access: it is not on record, the
account has a row, and the grace period is not empty. -/
def Happening.Revives (env : Env) (accountId : String) (moment : Moment) : Happening → Prop
  | .applyEvent event _ =>
      accountId ≠ "" ∧ event.accountId = accountId ∧ event.eventType = .paymentFailed ∧
      ¬ moment.world.Processed event.provider event.providerEventId ∧
      (∃ row, moment.world.subscription accountId = some row) ∧
      0 < env.settings.subscriptionGracePeriodDays ∧ moment.isActive accountId = false
  | .wait _ | .markSuspended _ | .markCanceled _ => False

/-! ## One step -/

section Step

variable {env : Env} {accountId : String} {moment : Moment} {happening : Happening}

theorem trace_take (env : Env) (happening : Happening) (moment : Moment) :
    moment.world.trace <+: (happening.take env moment).world.trace := by
  cases happening with
  | wait microseconds => exact List.prefix_refl _
  | applyEvent event draws => exact (effect_applyEvent env _ _).trace_grows
  | markSuspended other =>
      have logged : ((Happening.markSuspended other).take env moment).world.trace =
          moment.world.trace ++ [.suspended other] :=
        congrArg (· ++ [Act.suspended other]) trace_updateRow
      rw [logged]
      exact List.prefix_append _ _
  | markCanceled other =>
      have kept : ((Happening.markCanceled other).take env moment).world.trace =
          moment.world.trace := trace_updateRow
      rw [kept]

/-- A row update that leaves the status neither active nor past due gives no access. -/
theorem isActive_updateRow {world : World} {now : ℤ} {other : String}
    {f : Subscription → Subscription} (inactive : ∀ row, (f row).status ≠ "active")
    (current : ∀ row, (f row).status ≠ "past_due")
    (before : world.isActive now accountId = false) :
    (updateRow other f world).isActive now accountId = false := by
  by_cases same : accountId = other
  · subst same
    cases present : world.subscription accountId with
    | none => rwa [updateRow_of_none present]
    | some row =>
        have stored : (updateRow accountId f world).subscription accountId = some (f row) := by
          rw [updateRow_of_some present, World.subscription_setSubscription]
        exact isActive_of_status stored (inactive row) (current row)
  · rw [isActive_congr (subscription_updateRow_ne same)]
    exact before

/-- A failed payment that is not a revival leaves the account without access. -/
theorem inactive_pastDueRow {world : World} {now : ℤ} {settings : Settings}
    (calm : (∃ row, world.subscription accountId = some row) →
      settings.subscriptionGracePeriodDays ≤ 0) (before : world.isActive now accountId = false) :
    (updateRow accountId (pastDueRow settings now) world).isActive now accountId = false := by
  cases present : world.subscription accountId with
  | none => rwa [updateRow_of_none present]
  | some row =>
      have short := calm ⟨row, present⟩
      have failed : (updateRow accountId (pastDueRow settings now) world).subscription accountId =
          some (pastDueRow settings now row) := by
        rw [subscription_updateRow, present]
        rfl
      rw [isActive_pastDueRow failed, decide_eq_false_iff_not]
      unfold days
      omega

/-- An event that is neither a payment nor a revival leaves its account without access. -/
theorem inactive_applyToRow {delivery : Delivery} {world : World}
    (calm : delivery.event.eventType = .paymentFailed →
      (∃ row, world.subscription delivery.event.accountId = some row) →
        env.settings.subscriptionGracePeriodDays ≤ 0)
    (before : world.isActive delivery.now delivery.event.accountId = false) :
    (applyToRow env delivery world).isActive delivery.now delivery.event.accountId = false := by
  unfold applyToRow
  split
  next failed => exact inactive_pastDueRow (calm failed) before
  · exact isActive_updateRow (by simp [canceledRow]) (by simp [canceledRow]) before
  · exact before
  · exact before

/-- **Step lemma.**  Only a payment or a failed payment gives access back. -/
theorem inactive_take (calm : ¬ happening.Revives env accountId moment)
    (unpaid : ¬ Paid accountId moment.world (happening.take env moment).world)
    (inactive : moment.isActive accountId = false) :
    (happening.take env moment).isActive accountId = false := by
  cases happening with
  | wait microseconds =>
      have passes : moment.now ≤ moment.now + microseconds := by omega
      exact isActive_later passes inactive
  | markSuspended other =>
      exact isActive_updateRow (by simp [suspendedRow]) (by simp [suspendedRow]) inactive
  | markCanceled other =>
      exact isActive_updateRow (by simp [canceledRow]) (by simp [canceledRow]) inactive
  | applyEvent event draws =>
      have effect := effect_applyEvent env ⟨event, moment.now, draws⟩ moment.world
      by_cases own : accountId = event.accountId
      · unfold Happening.take at unpaid ⊢
        unfold Moment.isActive at inactive ⊢
        dsimp only at unpaid ⊢
        generalize ((applyEvent env ⟨event, moment.now, draws⟩).run moment.world).2 = after
          at effect unpaid ⊢
        cases effect with
        | unchanged => exact inactive
        | paid token payment rows trace =>
            refine (unpaid ⟨event, ?_, own.symm, payment⟩).elim
            rw [trace, List.drop_left]
            exact List.mem_singleton_self _
        | updated named other unseen =>
            subst own
            have kept : (applyToRow env ⟨event, moment.now, draws⟩ moment.world).isActive
                moment.now event.accountId = false := by
              apply inactive_applyToRow
              · intro failed present
                by_contra lasting
                exact calm ⟨named, rfl, failed, unseen, present, by omega, inactive⟩
              · exact inactive
            exact kept
      · have same := effect.subscription_ne own
        exact (isActive_congr same).trans inactive

/-- A revival does give access back, without a payment. -/
theorem active_take_revives (revives : happening.Revives env accountId moment) :
    ¬ Paid accountId moment.world (happening.take env moment).world ∧
      (happening.take env moment).isActive accountId = true := by
  cases happening with
  | wait microseconds => exact revives.elim
  | markSuspended other => exact revives.elim
  | markCanceled other => exact revives.elim
  | applyEvent event draws =>
      rcases revives with ⟨named, rfl, failed, unseen, ⟨row, present⟩, lasting, inactive⟩
      have other : event.eventType ≠ .paymentSucceeded := by
        rw [failed]
        decide
      have run : (Subscriptions.applyEvent env ⟨event, moment.now, draws⟩).run moment.world = _ :=
        run_applyEvent_other named other unseen
      unfold Happening.take Moment.isActive
      dsimp only
      rw [run]
      constructor
      · intro paid
        rcases paid with ⟨applied, member, _, payment⟩
        rw [trace_addRecord, World.trace_log, trace_applyToRow, List.drop_left] at member
        cases List.mem_singleton.mp member
        exact other payment
      · have stored : (addRecord moment.now event
            ((applyToRow env ⟨event, moment.now, draws⟩ moment.world).log
              (.applied event))).subscription event.accountId =
            some (pastDueRow env.settings moment.now row) := by
          rw [subscription_addRecord, World.subscription_log, applyToRow, failed]
          exact subscription_updateRow.trans (congrArg (Option.map _) present)
        rw [isActive_pastDueRow stored, decide_eq_true_eq]
        unfold days
        omega

end Step

/-! ## Runs -/

section Runs

variable {env : Env} {accountId : String} {start : Moment} {happenings : List Happening}

theorem takeAll_append (early late : List Happening) :
    takeAll env (early ++ late) start = takeAll env late (takeAll env early start) :=
  List.foldl_append

theorem takeAll_concat (early : List Happening) (last : Happening) :
    takeAll env (early ++ [last]) start = last.take env (takeAll env early start) :=
  takeAll_append early [last]

theorem trace_takeAll (middle : List Happening) :
    start.world.trace <+: (takeAll env middle start).world.trace := by
  induction middle using List.reverseRecOn with
  | nil => exact List.prefix_refl _
  | append_singleton early last ih =>
      rw [takeAll_concat]
      exact ih.trans (trace_take env last _)

/-- A payment within a part of a run is a payment within the run. -/
theorem Paid.widen {before between after other : World}
    (first : before.trace <+: between.trace) (second : between.trace <+: after.trace)
    (last : after.trace <+: other.trace) (paid : Paid accountId between after) :
    Paid accountId before other := by
  rcases paid with ⟨event, member, rest⟩
  rcases first with ⟨earlier, trace⟩
  rcases second with ⟨middle, trace'⟩
  rcases last with ⟨later, trace''⟩
  refine ⟨event, ?_, rest⟩
  rw [← trace', List.drop_left] at member
  rw [← trace'', ← trace', ← trace, List.append_assoc, List.append_assoc, List.drop_left]
  exact List.mem_append_right _ (List.mem_append_left _ member)

/-- **Only payments give access back**, in every run, exactly when no failed payment
reaches the account while it has no access. -/
theorem onlyPaymentsRestore_iff :
    OnlyPaymentsRestore env accountId start happenings ↔
      ∀ early happening, early ++ [happening] <+: happenings →
        ¬ happening.Revives env accountId (takeAll env early start) := by
  constructor
  · intro restore early happening within revives
    obtain ⟨unpaid, active⟩ := active_take_revives revives
    have inactive : (takeAll env early start).isActive accountId = false := by
      cases happening with
      | applyEvent event draws => exact revives.2.2.2.2.2.2
      | wait _ | markSuspended _ | markCanceled _ => exact revives.elim
    rw [← takeAll_concat] at unpaid active
    rw [restore early [happening] within unpaid inactive] at active
    cases active
  · intro calm early middle
    induction middle using List.reverseRecOn with
    | nil =>
        intro _ _ inactive
        rwa [List.append_nil]
    | append_singleton middle last ih =>
        intro within unpaid inactive
        rw [← List.append_assoc] at within unpaid ⊢
        rw [takeAll_concat] at unpaid ⊢
        have before := trace_take env last (takeAll env (early ++ middle) start)
        have middleTrace : (takeAll env early start).world.trace <+:
            (takeAll env (early ++ middle) start).world.trace := by
          rw [takeAll_append]
          exact trace_takeAll middle
        refine inactive_take (calm _ _ within) (fun paid => unpaid ?_) (ih ?_ (fun paid =>
          unpaid ?_) inactive)
        · exact paid.widen middleTrace before (List.prefix_refl _)
        · exact (List.prefix_append _ _).trans within
        · exact paid.widen (List.prefix_refl _) middleTrace before

/-- A suspended account that fails one more payment. -/
def reopened : List Happening :=
  [.applyEvent (sampleEvent .paymentSucceeded "e1") (sampleDraws 1), .markSuspended "acc",
    .applyEvent (sampleEvent .paymentFailed "e2") (sampleDraws 2)]

theorem not_onlyPaymentsRestore_reopened :
    ¬ OnlyPaymentsRestore sampleEnv "acc" ⟨0, .empty⟩ reopened := by
  intro restore
  have unpaid : ¬ Paid "acc" (takeAll sampleEnv (reopened.take 2) ⟨0, .empty⟩).world
      (takeAll sampleEnv reopened ⟨0, .empty⟩).world := by
    intro paid
    rcases paid with ⟨event, member, _, payment⟩
    have trace : (takeAll sampleEnv reopened ⟨0, .empty⟩).world.trace.drop
        (takeAll sampleEnv (reopened.take 2) ⟨0, .empty⟩).world.trace.length =
          [.applied (sampleEvent .paymentFailed "e2")] := rfl
    rw [trace] at member
    cases List.mem_singleton.mp member
    cases payment
  have inactive : (takeAll sampleEnv reopened ⟨0, .empty⟩).isActive "acc" = false :=
    restore (reopened.take 2) (reopened.drop 2) (List.prefix_refl _) unpaid rfl
  have active : (takeAll sampleEnv reopened ⟨0, .empty⟩).isActive "acc" = true := rfl
  rw [active] at inactive
  cases inactive

end Runs

end Aegis.Subscriptions
