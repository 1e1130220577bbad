import Aegis.Subscriptions.Plans
import Aegis.Subscriptions.Webhook

/-!
# Demo signup, plan assignment and cancellation

The handlers other than the webhook that write subscription rows: `demo_signup` with
`activate_demo`, `set_tenant_plan` and `cancel_subscription`.
-/

namespace Aegis.Subscriptions

open Aegis.Lib

/-! ## Demo signup -/

/-- The dict that `activate_demo` returns. -/
structure DemoIssued where
  accountId : String
  portalToken : String
  mobileApiKey : String
  plan : String
  deriving DecidableEq

/-- The row after `activate_demo`; a new row takes the column defaults. -/
def demoRow (now : ℤ) (portalToken : String) : Option Subscription → Subscription
  | none =>
      { provider := some "demo"
        providerCustomerId := none
        providerSubscriptionId := none
        status := "active"
        currentPeriodEnd := some (now + days 14)
        gracePeriodEndsAt := none
        portalToken := some portalToken
        plan := "demo"
        maxDevices := 1
        maxTradesPerDay := 5
        updatedAt := now }
  | some row =>
      { row with
        status := "active"
        currentPeriodEnd := some (now + days 14)
        portalToken := some portalToken
        plan := "demo"
        maxDevices := 1
        maxTradesPerDay := 5
        updatedAt := now }

/-- The commit of a session that found `existing`: an update of the row, or an insert,
which raises when there is a row by now. -/
def saveRow (accountId : String) (existing : Option Subscription)
    (row : Option Subscription → Subscription) (world : World) : Except Failure World :=
  match existing, world.subscription accountId with
  | none, none => .ok (world.setSubscription accountId (row none))
  | none, some _ => .error .integrityError
  | some _, _ => .ok (updateRow accountId (fun stored => row (some stored)) world)

def demoKeyRequest (accountId : String) : KeyRequest where
  accountId := some accountId
  label := some s!"demo mobile key for {accountId}"
  issuedBy := some "demo_signup"

def activateDemo (env : Env) (now : ℤ) (draws : Draws) (accountId : String) :
    Prog Failure World DemoIssued := do
  let existing ← Prog.read (·.subscription accountId)
  let portalToken := portalTokenFor existing draws.portalToken
  Prog.commit (saveRow accountId existing (demoRow now portalToken))
  let mobileApiKey ← issueApiKey env now draws.mobileApiKey (demoKeyRequest accountId)
  return ⟨accountId, portalToken, mobileApiKey, "demo"⟩

/-- `DemoSignupRequest`, with the base URL under which it came. -/
structure DemoSignupRequest where
  accountId : Option String
  baseUrl : String

/-- What one demo signup draws. -/
structure SignupDraws extends Draws where
  /-- ten hexadecimal digits in upper case -/
  hexDigits : String
  downloadToken : String

structure DemoLimits where
  brainAnalysis : Bool := true
  liveTrading : Bool := false
  deviceBinding : Bool := true
  demoDays : ℕ := 14
  deriving DecidableEq

structure DemoSignupResponse where
  issued : DemoIssued
  downloadUrl : String
  downloadToken : String
  limits : DemoLimits
  deriving DecidableEq

/-- The account that a signup is for. -/
def DemoSignupRequest.account (body : DemoSignupRequest) (draws : SignupDraws) : String :=
  let named := strip (body.accountId.getD "")
  if named = "" then s!"DEMO-{draws.hexDigits}" else named

/-- `demo_signup`, which checks no key. -/
def demoSignup (env : Env) (now : ℤ) (draws : SignupDraws) (body : DemoSignupRequest) :
    Prog Failure World DemoSignupResponse := do
  let issued ← activateDemo env now draws.toDraws (body.account draws)
  return ⟨issued, s!"{body.baseUrl}/api/download/apk?token={draws.downloadToken}",
    draws.downloadToken, {}⟩

/-! ## Plan assignment -/

structure SetPlanRequest where
  accountId : String
  plan : String
  status : Option String := some "active"

/-- `value or other`. -/
def textOr (value : Option String) (other : String) : String :=
  match value with
  | none => other
  | some text => if text = "" then other else text

/-- The row after `set_tenant_plan`; a new row takes the column defaults. -/
def tenantRow (now : ℤ) (body : SetPlanRequest) : Option Subscription → Subscription
  | none =>
      { provider := some "manual"
        providerCustomerId := none
        providerSubscriptionId := none
        status := textOr body.status "active"
        currentPeriodEnd := none
        gracePeriodEndsAt := none
        portalToken := none
        plan := (resolvePlan body.plan).code
        maxDevices := (resolvePlan body.plan).maxDevices
        maxTradesPerDay := (resolvePlan body.plan).maxTradesPerDay
        updatedAt := now }
  | some row =>
      { row with
        status := textOr body.status row.status
        plan := (resolvePlan body.plan).code
        maxDevices := (resolvePlan body.plan).maxDevices
        maxTradesPerDay := (resolvePlan body.plan).maxTradesPerDay
        updatedAt := now }

def setTenantPlan (now : ℤ) (auth : AuthContext) (body : SetPlanRequest) :
    Prog Failure World Plan := do
  Prog.ofExcept (requireAdmin auth)
  let existing ← Prog.read (·.subscription body.accountId)
  Prog.commit (saveRow body.accountId existing (tenantRow now body))
  return resolvePlan body.plan

/-! ## Cancellation -/

/-- The providers of `ADAPTERS`. -/
def adapters : List String := ["paystack", "flutterwave", "stripe"]

/-- `cancel_subscription`; `confirmed` is the answer of the payment provider. -/
def cancelSubscription (now : ℤ) (auth : AuthContext) (jobId accountId : String)
    (confirmed : Bool) : Prog Failure World Unit := do
  Prog.ofExcept (requireAdmin auth)
  match ← Prog.read (·.subscription accountId) with
  | none => Prog.raise (.httpException 404 "No subscription found for this account.")
  | some row =>
      let provider := row.provider.getD "None"
      if row.provider.all (· ∉ adapters) then
        Prog.raise (.httpException 400
          s!"Unknown or missing provider on this subscription record: {provider}")
      else if !confirmed then
        Prog.raise (.httpException 502
          "Payment provider did not confirm cancellation - check server logs for the specific reason.")
      else
        markCanceled now accountId
        if ← isRunning accountId then
          let _ ← stopWorker jobId accountId

/-! ## What the writers do to the rows -/

section Rows

variable {env : Env} {now : ℤ} {draws : Draws} {world : World} {accountId : String}
  {auth : AuthContext} {body : SetPlanRequest}

/-- A session that nothing interferes with saves its row. -/
theorem saveRow_same (row : Option Subscription → Subscription) :
    saveRow accountId (world.subscription accountId) row world =
      .ok (world.setSubscription accountId (row (world.subscription accountId))) := by
  unfold saveRow
  cases present : world.subscription accountId with
  | none => rfl
  | some stored => rw [updateRow_of_some present]

/-- `activate_demo` after its session. -/
theorem run_activateDemo :
    (activateDemo env now draws accountId).run world =
      (issueApiKey env now draws.mobileApiKey (demoKeyRequest accountId) >>= fun mobileApiKey =>
        (pure ⟨accountId, portalTokenFor (world.subscription accountId) draws.portalToken,
          mobileApiKey, "demo"⟩ : Prog Failure World DemoIssued)).run
        (world.setSubscription accountId (demoRow now
          (portalTokenFor (world.subscription accountId) draws.portalToken)
          (world.subscription accountId))) := by
  unfold activateDemo
  refine (Prog.run_bind_ok (Prog.run_read _ _)).trans ?_
  exact Prog.run_bind_ok (Prog.run_commit_ok (saveRow_same _))

/-- The state apart from the keys. -/
def SameButKeys (before after : World) : Prop :=
  ∃ keys nextKeyId, after = { before with apiKeys := keys, nextKeyId := nextKeyId }

/-- After its session `activate_demo` touches the keys only. -/
theorem sameButKeys_activateDemo (env : Env) (now : ℤ) (draws : Draws) (accountId : String)
    (world : World) :
    SameButKeys (world.setSubscription accountId (demoRow now
        (portalTokenFor (world.subscription accountId) draws.portalToken)
        (world.subscription accountId)))
      ((activateDemo env now draws accountId).run world).2 := by
  rw [run_activateDemo]
  apply Prog.Guarantees.run
  · exact fun before => ⟨before.apiKeys, before.nextKeyId, rfl⟩
  · intro before between after first second
    rcases first with ⟨_, _, rfl⟩
    rcases second with ⟨keys, nextKeyId, rfl⟩
    exact ⟨keys, nextKeyId, rfl⟩
  · apply Prog.Guarantees.bind
    · apply guarantees_issueApiKey
      · exact fun before => ⟨before.apiKeys, before.nextKeyId, rfl⟩
      · exact fun before => ⟨_, _, rfl⟩
    · exact fun _ => Prog.guarantees_pure _

/-- The rows after `activate_demo`, whatever becomes of the key. -/
theorem subscriptions_activateDemo :
    ((activateDemo env now draws accountId).run world).2.subscriptions =
      (world.setSubscription accountId (demoRow now
        (portalTokenFor (world.subscription accountId) draws.portalToken)
        (world.subscription accountId))).subscriptions := by
  obtain ⟨keys, nextKeyId, same⟩ := sameButKeys_activateDemo env now draws accountId world
  rw [same]

theorem run_setTenantPlan (admin : auth.isAdmin = true) :
    (setTenantPlan now auth body).run world =
      (.ok (resolvePlan body.plan), world.setSubscription body.accountId
        (tenantRow now body (world.subscription body.accountId))) := by
  unfold setTenantPlan requireAdmin
  rw [if_pos admin]
  refine (Prog.run_bind_ok (Prog.run_read _ _)).trans ?_
  exact Prog.run_bind_ok (Prog.run_commit_ok (saveRow_same _))

theorem run_setTenantPlan_refused (other : auth.isAdmin ≠ true) :
    ((setTenantPlan now auth body).run world).2 = world := by
  unfold setTenantPlan requireAdmin
  rw [if_neg other]
  rfl

end Rows

end Aegis.Subscriptions
