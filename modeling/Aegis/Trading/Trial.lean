import Aegis.Api.Portal
import Aegis.Subscriptions.Registry
import Aegis.Trading.Gates

/-!
# The end of a demo

`activate_demo` stores when the demo ends, and nothing reads it: `is_active` and `get_plan` look
at the status, which stays `active`, and the sweep looks at past-due rows.  `demoEnds_iff` says
what has to happen for the demo to be over.
-/

namespace Aegis.Trading

open Aegis.Lib Aegis.Api Aegis.Subscriptions

/-- What happens after a signup: a write, or an iteration of the sweep. -/
inductive Later where
  | wrote (write : Write)
  | swept (sweep : Sweep)

namespace Later

def take (env : Env) (world : World) : Later → World
  | wrote write => write.take env world
  | swept sweep => ((sweepOnce sweep).run world).2

/-- It is no payment of the account, no plan assigned by an admin and no new demo. -/
def Quiet (accountId : String) : Later → Prop
  | wrote write => write.Quiet accountId
  | swept _ => True

instance (accountId : String) : DecidablePred (Quiet accountId)
  | .wrote write => inferInstanceAs (Decidable (write.Quiet accountId))
  | .swept _ => .isTrue trivial

/-- It cancels or suspends the account; the sweep does so to a past-due account whose grace
period has ended. -/
def Shuts (accountId : String) (world : World) : Later → Prop
  | wrote write => write.Shuts accountId world
  | swept sweep => accountId ∈ world.lapsedAccounts sweep.now

/-- It is a failed payment of the account. -/
def Reopens (accountId : String) (world : World) : Later → Prop
  | wrote write => write.FailsPayment accountId world
  | swept _ => False

end Later

/-- The account is without access and without a plan at `now`: `connect` and the portal refuse
it. -/
structure DemoOver (env : Env) (now : ℤ) (accountId : String) (world : World) : Prop where
  inactive : world.isActive now accountId = false
  noPlan : world.planOf accountId = "none"
  connect : ∀ desk : Desk, desk.world = world → ∀ alive auth request,
    request.accountId = accountId → Refused ((connect alive auth request).run desk).1
  mobileKey : ∀ token, (verifyPortalToken accountId token).run world = (.ok true, world) →
    ∀ rawKey, Refused ((portalIssueMobileKey env now rawKey accountId token).run world).1
  downloadUrl : ∀ token, (verifyPortalToken accountId token).run world = (.ok true, world) →
    ∀ portal : Portal, portal.world = world → ∀ baseUrl drawn,
      Refused ((portalDownloadUrl now baseUrl drawn accountId token).run portal).1

/-- The account has the row of a demo, in any of the states that it can be in without a new
period. -/
def OnDemo (accountId : String) (world : World) : Prop :=
  ∃ row, world.subscription accountId = some row ∧ row.plan = "demo" ∧
    (row.status = "active" ∨ row.status = "past_due" ∨ row.status = "canceled" ∨
      row.status = "suspended")

/-- The account is canceled or suspended. -/
def Shut (accountId : String) (world : World) : Prop :=
  ∃ row, world.subscription accountId = some row ∧
    (row.status = "canceled" ∨ row.status = "suspended")

section Trial

variable {env : Env} {world after : World} {accountId : String} {now : ℤ} {later : Later}

/-! ## What the refusals come to -/

theorem connect_refused {desk : Desk} {alive : Bool} {auth : AuthContext}
    {request : CredentialCreateRequest} (noPlan : desk.world.planOf request.accountId = "none") :
    Refused ((connect alive auth request).run desk).1 := by
  rcases requireAccountMatch_cases auth request.accountId with matched | ⟨detail, unmatched⟩
  · have stopped : planGate (desk.world.planOf request.accountId) ≠ .ok () := by
      rw [noPlan]
      decide
    obtain ⟨detail, answered⟩ := connect_refuses_iff.mpr ⟨matched, stopped⟩
    exact ⟨402, detail, answered⟩
  · refine ⟨403, detail, ?_⟩
    unfold connect
    rw [unmatched]
    rfl

/-- An account that is shut is refused everywhere, at any time. -/
theorem Shut.demoOver (shut : Shut accountId world) : DemoOver env now accountId world := by
  obtain ⟨row, present, status⟩ := shut
  have others : row.status ≠ "active" ∧ row.status ≠ "past_due" ∧ row.status ≠ "demo" := by
    rcases status with status | status <;> rw [status] <;> decide
  have inactive : world.isActive now accountId = false :=
    isActive_of_status present others.1 others.2.1
  have noPlan : world.planOf accountId = "none" := by
    rw [planOf_of_some present, planCode_of_status others.1 others.2.1 others.2.2]
  refine ⟨inactive, noPlan, ?_, ?_, ?_⟩
  · intro desk same
    rcases same with rfl
    intro alive auth request same
    rcases same with rfl
    exact connect_refused noPlan
  · intro token verified rawKey
    exact ⟨_, _, congrArg Prod.fst (run_portalIssueMobileKey_inactive verified present inactive)⟩
  · intro token verified portal same
    rcases same with rfl
    intro baseUrl drawn
    exact ⟨_, _, congrArg Prod.fst (run_portalDownloadUrl_inactive verified present inactive)⟩

/-- A demo without a plan has been shut. -/
theorem OnDemo.shut (demo : OnDemo accountId world) (noPlan : world.planOf accountId = "none") :
    Shut accountId world := by
  obtain ⟨row, present, plan, status⟩ := demo
  have catalogued : row.plan ∈ planCodes := by
    rw [plan]
    decide
  have current : ¬ (row.status = "active" ∨ row.status = "past_due") := by
    intro current
    rw [planOf_of_some present, planCode_of_current current catalogued, plan] at noPlan
    exact absurd noPlan (by decide)
  rw [not_or] at current
  exact ⟨row, present, (status.resolve_left current.1).resolve_left current.2⟩

/-! ## One step -/

theorem take_cases (env : Env) (quiet : later.Quiet accountId) (world : World) :
    (later.take env world).subscription accountId = world.subscription accountId ∨
      later.Reopens accountId world ∨ later.Shuts accountId world := by
  cases later with
  | wrote write => exact quiet_take env quiet world
  | swept sweep =>
      by_cases lapsed : accountId ∈ world.lapsedAccounts sweep.now
      · exact .inr (.inr lapsed)
      · exact .inl (subscription_sweepOnce lapsed)

theorem subscription_shuts (env : Env) (shuts : later.Shuts accountId world) :
    ∃ now, (later.take env world).subscription accountId =
        (world.subscription accountId).map (canceledRow now) ∨
      (later.take env world).subscription accountId =
        (world.subscription accountId).map (suspendedRow now) := by
  cases later with
  | wrote write => exact subscription_shut env shuts
  | swept sweep => exact ⟨sweep.suspendedAt accountId, .inr (subscription_sweepOnce_of_mem shuts)⟩

theorem subscription_reopens (env : Env) (reopens : later.Reopens accountId world) :
    ∃ now, (later.take env world).subscription accountId =
      (world.subscription accountId).map (pastDueRow env.settings now) := by
  cases later with
  | swept sweep => exact reopens.elim
  | wrote write =>
      cases write with
      | applyEvent delivery => exact ⟨delivery.now, subscription_failed env reopens⟩
      | activateDemo | setTenantPlan | markSuspended | markCanceled => exact reopens.elim

theorem onDemo_take (quiet : later.Quiet accountId) (demo : OnDemo accountId world) :
    OnDemo accountId (later.take env world) := by
  obtain ⟨row, present, plan, status⟩ := demo
  rcases take_cases env quiet world with same | reopens | shuts
  · exact ⟨row, same.trans present, plan, status⟩
  · obtain ⟨now, after⟩ := subscription_reopens env reopens
    rw [present] at after
    exact ⟨_, after, plan, .inr (.inl rfl)⟩
  · obtain ⟨now, after | after⟩ := subscription_shuts env shuts
    · rw [present] at after
      exact ⟨_, after, plan, .inr (.inr (.inl rfl))⟩
    · rw [present] at after
      exact ⟨_, after, plan, .inr (.inr (.inr rfl))⟩

/-- **Step lemma.**  The account is shut by what shuts it, until a payment fails. -/
theorem shut_take_iff (quiet : later.Quiet accountId) (demo : OnDemo accountId world) :
    Shut accountId (later.take env world) ↔
      later.Shuts accountId world ∨ Shut accountId world ∧ ¬ later.Reopens accountId world := by
  obtain ⟨row, present, _⟩ := demo
  by_cases shuts : later.Shuts accountId world
  · refine iff_of_true ?_ (.inl shuts)
    obtain ⟨now, after | after⟩ := subscription_shuts env shuts
    · rw [present] at after
      exact ⟨_, after, .inl rfl⟩
    · rw [present] at after
      exact ⟨_, after, .inr rfl⟩
  by_cases reopens : later.Reopens accountId world
  · obtain ⟨now, after⟩ := subscription_reopens env reopens
    rw [present] at after
    constructor
    · intro held
      rcases held with ⟨found, there, status⟩
      rw [after] at there
      cases there
      change "past_due" = "canceled" ∨ "past_due" = "suspended" at status
      exact absurd status (by decide)
    · intro either
      rcases either with shut | ⟨_, calm⟩
      · exact (shuts shut).elim
      · exact (calm reopens).elim
  · have same := (take_cases env quiet world).resolve_right fun either =>
      either.elim reopens shuts
    unfold Shut
    rw [same]
    constructor
    · exact fun shut => .inr ⟨shut, reopens⟩
    · exact fun either => (either.resolve_left shuts).1

/-! ## Runs -/

variable {draws : Draws} {laters : List Later}

/-- The account after its signup. -/
theorem subscription_signedUp :
    ((activateDemo env now draws accountId).run world).2.subscription accountId =
      some (demoRow now (portalTokenFor (world.subscription accountId) draws.portalToken)
        (world.subscription accountId)) := by
  rw [subscription_activateDemo, World.subscription_setSubscription]

theorem status_demoRow (now : ℤ) (token : String) (row : Option Subscription) :
    (demoRow now token row).status = "active" ∧ (demoRow now token row).plan = "demo" := by
  cases row <;> exact ⟨rfl, rfl⟩

/-- **A demo ends** exactly when something has shut the account, and no payment of the account has
failed since: the end of its period is none of these. -/
theorem demoEnds_iff (quiet : ∀ later ∈ laters, later.Quiet accountId) :
    (∀ time, now + days 14 < time → DemoOver env time accountId
        (exec (Later.take env) ((activateDemo env now draws accountId).run world).2 laters)) ↔
      ∃ early later late, laters = early ++ later :: late ∧
        later.Shuts accountId
          (exec (Later.take env) ((activateDemo env now draws accountId).run world).2 early) ∧
        EachStep (Later.take env) (fun world later => ¬ later.Reopens accountId world)
          (exec (Later.take env) ((activateDemo env now draws accountId).run world).2
            (early ++ [later])) late := by
  have row : ((activateDemo env now draws accountId).run world).2.subscription accountId = _ :=
    subscription_signedUp
  generalize ((activateDemo env now draws accountId).run world).2 = start at row ⊢
  have fresh := status_demoRow now
    (portalTokenFor (world.subscription accountId) draws.portalToken)
    (world.subscription accountId)
  have demo : OnDemo accountId start := ⟨_, row, fresh.2, .inl fresh.1⟩
  have active : ¬ Shut accountId start := by
    intro held
    rcases held with ⟨found, there, status⟩
    rw [row] at there
    cases there
    rw [fresh.1] at status
    exact absurd status (by decide)
  rw [← exec_iff_of_latch demo active (fun later member world => onDemo_take (quiet later member))
    fun later member world => shut_take_iff (quiet later member)]
  constructor
  · intro over_
    have reached : OnDemo accountId (exec (Later.take env) start laters) :=
      exec_inv_of_mem demo fun later member world => onDemo_take (quiet later member)
    exact reached.shut (over_ (now + days 14 + 1) (by omega)).noPlan
  · exact fun shut time _ => shut.demoOver

/-- An iteration of the sweep at `now`. -/
def sweepAt (now : ℤ) : Later := .swept ⟨now, fun _ => now, fun _ => "job"⟩

/-- The account is canceled on the third day. -/
theorem demoEnds_iff_canceled : DemoOver sampleEnv (days 15) "acc"
    (exec (Later.take sampleEnv) ((activateDemo sampleEnv 0 (sampleDraws 1) "acc").run .empty).2
      [.wrote (.markCanceled (days 3) "acc"), sweepAt (days 15)]) :=
  (demoEnds_iff (by decide)).mpr
    ⟨[], .wrote (.markCanceled (days 3) "acc"), [sweepAt (days 15)], rfl, rfl, id, trivial⟩
    (days 15) (by decide)

/-- Nothing happens, and the account is active after its period and a sweep. -/
theorem not_demoEnds_unattended : ¬ ∀ time, 0 + days 14 < time → DemoOver sampleEnv time "acc"
    (exec (Later.take sampleEnv) ((activateDemo sampleEnv 0 (sampleDraws 1) "acc").run .empty).2
      [sweepAt (days 15)]) := by
  intro ends
  exact absurd (ends (days 16) (by decide)).inactive (by decide)

end Trial

end Aegis.Trading
