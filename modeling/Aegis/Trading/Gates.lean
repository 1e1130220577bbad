import Aegis.Trading.Router

/-!
# The subscription gates

`allows_live_trading` and the plan checks of `connect` read the same row by different
rules: the first resolves the plan in the catalog, the second knows two plans, one of
which the catalog does not have.  `gatesAgree_iff` says for which rows they agree.
-/

namespace Aegis.Trading

open Aegis.Lib Aegis.Subscriptions

/-- An account that may trade live is not refused by `connect` for its plan, and one that
passes the plan checks of `connect` is active. -/
structure GatesAgree (desk : Desk) (now : ℤ) (accountId : String) : Prop where
  trades_connects : desk.world.allowsLiveTrading now accountId = true →
    ∀ alive auth request, request.accountId = accountId →
      ∀ detail, ((connect alive auth request).run desk).1 ≠ .error (.httpException 402 detail)
  connects_active : planGate (desk.world.planOf accountId) = .ok () →
    desk.world.isActive now accountId = true

section Connect

variable {desk : Desk} {alive : Bool} {auth : AuthContext} {request : CredentialCreateRequest}

/-- Past its plan checks `connect` answers no 402. -/
theorem raises_startWorker (alive : Bool) (request : CredentialCreateRequest) :
    (startWorker alive request).Raises fun e => ∀ detail, e ≠ .httpException 402 detail := by
  have ensure : (ensureWorker alive request.accountId).Raises fun e : Failure =>
      ∀ detail, e ≠ .httpException 402 detail := by
    unfold ensureWorker
    apply Prog.Raises.bind
    · exact fun _ => trivial
    · intro held
      split
      · trivial
      · apply Prog.Raises.bind
        · exact fun _ => trivial
        · intro _
          apply Prog.Raises.bind
          · exact fun _ => trivial
          · intro full
            split
            · trivial
            · exact fun _ _ => trivial
  unfold startWorker
  apply Prog.Raises.bind
  · exact fun _ => trivial
  · intro _
    apply Prog.Raises.bind
    · exact fun _ => trivial
    · intro stored
      split
      · intro detail same
        cases same
      · apply Prog.Raises.bind
        · exact ensure.zoom _ _
        · intro started
          split
          · intro detail same
            cases same
          · trivial

/-- The 402 answers of `connect` are those of its plan checks. -/
theorem connect_refuses_iff :
    (∃ detail, ((connect alive auth request).run desk).1 =
        .error (.httpException 402 detail)) ↔
      requireAccountMatch auth request.accountId = .ok () ∧
        planGate (desk.world.planOf request.accountId) ≠ .ok () := by
  unfold connect getPlan Prog.ofExcept
  rcases requireAccountMatch_cases auth request.accountId with matched | ⟨detail, other⟩
  · rw [matched, Prog.run_bind_ok rfl, Prog.run_bind_ok (Desk.run_onWorld_ok (Prog.run_read _ _))]
    rcases planGate_cases (desk.world.planOf request.accountId) with passed | ⟨detail, refused⟩
    · rw [passed, Prog.run_bind_ok rfl]
      constructor
      · intro answered
        rcases answered with ⟨detail, outcome⟩
        exact (((raises_startWorker alive request).run (Prod.ext outcome rfl)) detail rfl).elim
      · exact fun both => (both.2 rfl).elim
    · rw [refused, Prog.run_bind_error rfl]
      exact ⟨fun _ => ⟨rfl, nofun⟩, fun _ => ⟨detail, rfl⟩⟩
  · rw [other, Prog.run_bind_error rfl]
    constructor
    · intro answered
      rcases answered with ⟨_, outcome⟩
      cases outcome
    · exact fun both => nomatch both.1

end Connect

/-! ## Rows -/

section Rows

variable {desk : Desk} {now : ℤ} {accountId : String} {row : Subscription}

/-- The plan checks of `connect` pass demo accounts only: no row holds the plan `live`. -/
theorem planGate_iff (stored : row.plan ∈ planCodes) :
    planGate row.planCode = .ok () ↔ row.status = "demo" ∨
      (row.status = "active" ∨ row.status = "past_due") ∧ row.plan = "demo" := by
  have codes : ∀ code ∈ planCodes, planGate code = .ok () ↔ code = "demo" := by decide
  by_cases current : row.status = "active" ∨ row.status = "past_due"
  · have paid : row.status ≠ "demo" := by
      intro trial
      rw [trial] at current
      exact absurd current (by decide)
    rw [planCode_of_current current stored, codes _ stored]
    simp only [paid, current, true_and, false_or]
  · by_cases trial : row.status = "demo"
    · rw [planCode_of_trial trial]
      exact ⟨fun _ => .inl trial, fun _ => rfl⟩
    · rw [not_or] at current
      rw [planCode_of_status current.1 current.2 trial]
      simp only [trial, current, or_self, false_and]
      decide

/-- The rows on which the gates agree: rows without a plan, active rows on the demo plan,
and past-due rows that are on the demo plan exactly while their grace period runs. -/
def Subscription.Agrees (now : ℤ) (row : Subscription) : Prop :=
  row.status ≠ "active" ∧ row.status ≠ "past_due" ∧ row.status ≠ "demo" ∨
    row.status = "active" ∧ row.plan = "demo" ∨
      row.status = "past_due" ∧ (row.plan = "demo" ↔ row.gracePeriodEndsAt.any (now < ·) = true)

/-- The property in terms of the gates alone. -/
theorem gatesAgree_iff_gates :
    GatesAgree desk now accountId ↔
      (desk.world.allowsLiveTrading now accountId = true →
        planGate (desk.world.planOf accountId) = .ok ()) ∧
      (planGate (desk.world.planOf accountId) = .ok () →
        desk.world.isActive now accountId = true) := by
  constructor
  · intro agree
    refine ⟨fun trades => ?_, agree.connects_active⟩
    by_contra refused
    let admin : AuthContext := ⟨none, true, none, none, false, none, none⟩
    let request : CredentialCreateRequest := ⟨accountId, "", "", "", "", none, true⟩
    have answered : ∃ detail, ((connect true admin request).run desk).1 =
        .error (.httpException 402 detail) := connect_refuses_iff.mpr ⟨rfl, refused⟩
    rcases answered with ⟨detail, outcome⟩
    exact agree.trades_connects trades true admin request rfl detail outcome
  · intro both
    rcases both with ⟨connects, active⟩
    refine ⟨fun trades alive auth request own detail outcome => ?_, active⟩
    subst own
    exact (connect_refuses_iff.mp ⟨detail, outcome⟩).2 (connects trades)

/-- **The subscription gates agree** exactly for these rows. -/
theorem gatesAgree_iff (present : desk.world.subscription accountId = some row)
    (stored : row.plan ∈ planCodes) :
    GatesAgree desk now accountId ↔ Subscription.Agrees now row := by
  rw [gatesAgree_iff_gates, allowsLiveTrading_iff present stored, planOf_of_some present,
    planGate_iff stored, isActive_of_some present, Subscription.Agrees]
  by_cases active : row.status = "active"
  · by_cases demo : row.plan = "demo" <;> simp [active, demo]
  · by_cases pastDue : row.status = "past_due"
    · by_cases demo : row.plan = "demo" <;>
        by_cases grace : row.gracePeriodEndsAt.any (now < ·) = true <;>
          simp [pastDue, demo, grace]
    · by_cases trial : row.status = "demo" <;> simp [active, pastDue, trial]

/-- A desk with one account. -/
def oneAccount (row : Subscription) : Desk :=
  ⟨World.empty.setSubscription "acc" row, fun _ => none, fun _ _ => none⟩

/-- The row of a first payment. -/
def starterRow : Subscription := activeRow 0 (sampleEvent .paymentSucceeded "e1") "portal" none

/-- An account on a trial passes the plan checks of `connect`, and is active. -/
theorem gatesAgree_iff_trial :
    GatesAgree (oneAccount (demoRow 0 "portal" none)) 1 "acc" ∧
      planGate ((oneAccount (demoRow 0 "portal" none)).world.planOf "acc") = .ok () ∧
      (oneAccount (demoRow 0 "portal" none)).world.isActive 1 "acc" = true := by
  have agree : GatesAgree (oneAccount (demoRow 0 "portal" none)) 1 "acc" :=
    (gatesAgree_iff rfl (by decide)).mpr (.inr (.inl ⟨rfl, rfl⟩))
  have passes : planGate ((oneAccount (demoRow 0 "portal" none)).world.planOf "acc") = .ok () :=
    rfl
  exact ⟨agree, passes, agree.connects_active passes⟩

/-- An account that has paid trades live, and `connect` refuses it. -/
theorem not_gatesAgree_paid : ¬ GatesAgree (oneAccount starterRow) 1 "acc" := by
  intro agree
  have stored : starterRow.plan ∈ planCodes := by decide
  have trades : (oneAccount starterRow).world.allowsLiveTrading 1 "acc" = true :=
    (allowsLiveTrading_iff rfl stored).mpr ⟨rfl, by decide⟩
  have refused : planGate ((oneAccount starterRow).world.planOf "acc") ≠ .ok () := nofun
  exact refused ((gatesAgree_iff_gates.mp agree).1 trades)

end Rows

end Aegis.Trading
