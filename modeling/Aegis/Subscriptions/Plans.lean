import Aegis.Lib.Text
import Aegis.Subscriptions.Effects

/-!
# Plans

`plan_catalog.py`, and the methods of `SubscriptionService` that read it.
-/

namespace Aegis.Subscriptions

open Aegis.Lib

/-! ## The catalog -/

/-- An entry of `PLAN_CATALOG`. -/
structure Tier where
  label : String
  maxDevices : ℤ
  /-- 0 means unlimited -/
  maxTradesPerDay : ℤ
  liveTrading : Bool
  priceHint : String
  deriving DecidableEq

def starterTier : Tier := ⟨"Starter", 1, 15, true, "1 phone · 15 trades/day"⟩

def planCatalog : List (String × Tier) :=
  [("demo", ⟨"Demo / Trial", 1, 5, false, "Free 14-day trial"⟩),
    ("starter", starterTier),
    ("pro", ⟨"Pro", 1, 50, true, "1 phone · 50 trades/day"⟩),
    ("business", ⟨"Business", 3, 200, true, "3 phones · 200 trades/day"⟩),
    ("enterprise", ⟨"Enterprise", 10, 0, true, "10 phones · unlimited trades"⟩)]

/-- The plan codes of the catalog. -/
def planCodes : List String := planCatalog.map Prod.fst

/-- What `resolve_plan` returns. -/
structure Plan extends Tier where
  code : String
  deriving DecidableEq

/-- The code under which `resolve_plan` looks a plan up. -/
def normalizedCode (planCode : String) : String :=
  let code := strip (lower (if planCode = "" then "starter" else planCode))
  -- the legacy alias
  if code = "live" then "starter" else code

def resolvePlan (planCode : String) : Plan :=
  match planCatalog.lookup (normalizedCode planCode) with
  | some tier => { tier with code := normalizedCode planCode }
  | none => { starterTier with code := "starter" }

/-- A resolved plan is an entry of the catalog. -/
theorem resolvePlan_mem (planCode : String) :
    ((resolvePlan planCode).code, (resolvePlan planCode).toTier) ∈ planCatalog := by
  have fallback : ("starter", starterTier) ∈ planCatalog := by decide
  unfold resolvePlan
  generalize normalizedCode planCode = code
  split
  next tier found =>
    obtain ⟨before, after, catalog, _⟩ := List.lookup_eq_some_iff.mp found
    rw [catalog]
    exact List.mem_append_right _ List.mem_cons_self
  next => exact fallback

theorem code_resolvePlan (planCode : String) : (resolvePlan planCode).code ∈ planCodes := by
  have member := resolvePlan_mem planCode
  generalize resolvePlan planCode = plan at member ⊢
  rw [planCodes, List.mem_map]
  exact ⟨_, member, rfl⟩

/-- A catalog code resolves to its own entry. -/
theorem resolvePlan_entry : ∀ entry ∈ planCatalog,
    resolvePlan entry.1 = { entry.2 with code := entry.1 } := by decide

theorem resolvePlan_code (planCode : String) :
    resolvePlan (resolvePlan planCode).code = resolvePlan planCode := by
  have member := resolvePlan_mem planCode
  generalize resolvePlan planCode = plan at member ⊢
  exact resolvePlan_entry (plan.code, plan.toTier) member

theorem code_of_mem {code : String} (catalogued : code ∈ planCodes) :
    (resolvePlan code).code = code := by
  obtain ⟨entry, member, rfl⟩ := List.mem_map.mp catalogued
  rw [resolvePlan_entry entry member]

@[simp]
theorem caps_demo : (resolvePlan "demo").maxDevices = 1 ∧
    (resolvePlan "demo").maxTradesPerDay = 5 := by decide

@[simp]
theorem caps_starter : (resolvePlan "starter").maxDevices = 1 ∧
    (resolvePlan "starter").maxTradesPerDay = 15 := by decide

/-- Every plan but the demo plan trades live. -/
theorem liveTrading_resolvePlan (planCode : String) :
    (resolvePlan planCode).liveTrading = true ↔ (resolvePlan planCode).code ≠ "demo" := by
  have each : ∀ entry ∈ planCatalog, entry.2.liveTrading = true ↔ entry.1 ≠ "demo" := by decide
  have member := resolvePlan_mem planCode
  generalize resolvePlan planCode = plan at member ⊢
  exact each (plan.code, plan.toTier) member

-- From here on a plan is resolved by the lemmas above.
attribute [irreducible] normalizedCode

/-! ## What an account may do -/

/-- The plan that `get_plan` answers for a row. -/
def Subscription.planCode (row : Subscription) : String :=
  let plan := if row.plan = "" then "live" else row.plan
  if row.status = "active" ∨ row.status = "past_due" ∨ row.status = "demo" then
    if row.status = "demo" then "demo"
    else if plan = "" then "starter" else plan
  else "none"

/-- `get_plan`. -/
def World.planOf (world : World) (accountId : String) : String :=
  match world.subscription accountId with
  | none => "none"
  | some row => row.planCode

def getPlan (accountId : String) : Prog Failure World String := Prog.read (·.planOf accountId)

/-- The answer of `allows_live_trading` when nothing changes while it is worked out. -/
def World.allowsLiveTrading (world : World) (now : ℤ) (accountId : String) : Bool :=
  let planCode := world.planOf accountId
  if planCode = "none" then false
  else if !world.isActive now accountId && planCode ≠ "demo" then false
  else (resolvePlan planCode).liveTrading

def allowsLiveTrading (now : ℤ) (accountId : String) : Prog Failure World Bool := do
  let planCode ← getPlan accountId
  if planCode = "none" then
    return false
  let active ← isActive now accountId
  if !active && planCode ≠ "demo" then
    return false
  return (resolvePlan planCode).liveTrading

section Plan

variable {world : World} {now : ℤ} {accountId : String} {row : Subscription}

theorem run_allowsLiveTrading :
    (allowsLiveTrading now accountId).run world =
      (.ok (world.allowsLiveTrading now accountId), world) := by
  unfold allowsLiveTrading World.allowsLiveTrading
  refine (Prog.run_bind_ok (Prog.run_read _ _)).trans ?_
  dsimp only
  split
  · rfl
  · refine (Prog.run_bind_ok (Prog.run_read _ _)).trans ?_
    split <;> rfl

theorem planOf_of_some (present : world.subscription accountId = some row) :
    world.planOf accountId = row.planCode := by
  rw [World.planOf, present]

theorem isActive_of_some (present : world.subscription accountId = some row) :
    world.isActive now accountId =
      if row.status = "active" then true
      else if row.status = "past_due" then row.gracePeriodEndsAt.any (now < ·)
      else false := by
  rw [World.isActive, present]

/-- A row whose status is none of the three has no plan. -/
theorem planCode_of_status (inactive : row.status ≠ "active") (current : row.status ≠ "past_due")
    (trial : row.status ≠ "demo") : row.planCode = "none" := by
  simp only [Subscription.planCode, inactive, current, trial, or_self, if_false]

/-- An active or past-due row that holds a catalog plan is on that plan. -/
theorem planCode_of_current (current : row.status = "active" ∨ row.status = "past_due")
    (stored : row.plan ∈ planCodes) : row.planCode = row.plan := by
  have named : row.plan ≠ "" := by
    intro empty
    rw [empty] at stored
    exact absurd stored (by decide)
  have paid : row.status ≠ "demo" := by
    intro trial
    rw [trial] at current
    exact absurd current (by decide)
  unfold Subscription.planCode
  simp only [named, if_false, paid, or_false]
  rw [if_pos current]

theorem planCode_of_trial (trial : row.status = "demo") : row.planCode = "demo" := by
  simp only [Subscription.planCode, trial, or_true, if_true]

theorem not_liveTrading_demo : (resolvePlan "demo").liveTrading ≠ true := by
  rw [Ne, liveTrading_resolvePlan, not_not]
  exact code_of_mem (by decide)

/-- The accounts that trade live are the active ones on a paid plan. -/
theorem allowsLiveTrading_iff (present : world.subscription accountId = some row)
    (stored : row.plan ∈ planCodes) :
    world.allowsLiveTrading now accountId = true ↔
      world.isActive now accountId = true ∧ row.plan ≠ "demo" := by
  unfold World.allowsLiveTrading
  rw [planOf_of_some present]
  by_cases current : row.status = "active" ∨ row.status = "past_due"
  · have some_plan : row.plan ≠ "none" := by
      intro none
      rw [none] at stored
      exact absurd stored (by decide)
    rw [planCode_of_current current stored]
    by_cases demo : row.plan = "demo"
    · simp [demo, not_liveTrading_demo]
    · have paid : (resolvePlan row.plan).liveTrading = true := by
        rw [liveTrading_resolvePlan, code_of_mem stored]
        exact demo
      simp [some_plan, demo, paid]
  · rw [not_or] at current
    have inactive : world.isActive now accountId = false :=
      isActive_of_status present current.1 current.2
    by_cases trial : row.status = "demo"
    · simp [planCode_of_trial trial, inactive, not_liveTrading_demo]
    · simp [planCode_of_status current.1 current.2 trial, inactive]

end Plan

end Aegis.Subscriptions
