import Aegis.Trading.Desk

/-!
# The daily quota, as it is shown and as it is enforced

`TradeLimitService.status` and `TradeLimitService.consume` read the limit, the day and the
counter each on its own.  The calls here run one at a time; `Trading/Quota.lean` is about calls
that overlap.

A refusal rolls the session back and then reads the row once more for its message, so that it
ends in `MissingGreenlet` and not in the `ValueError` of the docstring; a negative limit shows
no trade left and is not enforced.  `consumes_as_shown_iff` says when the two agree.
-/

namespace Aegis.Trading

open Aegis.Lib Aegis.Subscriptions

/-! ## What the two methods read -/

/-- The limit that `_limit_for` finds. -/
def Desk.limit (desk : Desk) (accountId : String) : ℤ :=
  match desk.world.subscription accountId with
  | none => 0
  | some row => row.maxTradesPerDay

/-- The trades of the day; an account without a row has none. -/
def Desk.used (desk : Desk) (accountId : String) (day : ℤ) : ℤ :=
  (desk.tradeCounts accountId day).getD 0

/-- The counter of the day after `n` more trades. -/
def Desk.addTrades (desk : Desk) (accountId : String) (day n : ℤ) : Desk :=
  { desk with
    tradeCounts := Function.update desk.tradeCounts accountId
      (Function.update (desk.tradeCounts accountId) day (some (desk.used accountId day + n))) }

/-- The answer of `status`. -/
def Desk.quotaStatus (desk : Desk) (accountId : String) (day : ℤ) : QuotaStatus :=
  ⟨accountId, day, desk.used accountId day, desk.limit accountId,
    remaining (desk.limit accountId) (desk.used accountId day), desk.limit accountId = 0⟩

/-- The status shows that a trade may be placed. -/
def QuotaStatus.Shows (shown : QuotaStatus) : Prop :=
  shown.unlimited = true ∨ ∃ left ∈ shown.remaining, 1 ≤ left

/-- `n` fits the column. -/
def FitsInteger (n : ℤ) : Prop := -2147483648 ≤ n ∧ n < 2147483648

instance (n : ℤ) : Decidable (FitsInteger n) := inferInstanceAs (Decidable (_ ∧ _))

section Methods

variable {desk : Desk} {accountId : String} {now day n : ℤ}

@[simp]
theorem limit_addTrades : (desk.addTrades accountId day n).limit accountId = desk.limit accountId :=
  rfl

@[simp]
theorem used_addTrades :
    (desk.addTrades accountId day n).used accountId day = desk.used accountId day + n := by
  simp only [Desk.used, Desk.addTrades, Function.update_self, Option.getD_some]

theorem run_limitFor : (limitFor accountId).run desk = (.ok (desk.limit accountId), desk) := rfl

theorem shows_iff :
    (desk.quotaStatus accountId day).Shows ↔
      desk.limit accountId = 0 ∨ desk.used accountId day < desk.limit accountId := by
  unfold QuotaStatus.Shows Desk.quotaStatus remaining
  by_cases unlimited : desk.limit accountId = 0
  · simp only [unlimited, decide_true, true_or]
  · simp only [unlimited, decide_false, Bool.false_eq_true, if_false, false_or, Option.mem_def,
      Option.some.injEq, exists_eq_left']
    omega

/-! ## One call of `consume` -/

/-- The quota refuses: there is a limit, and it would be passed. -/
def Desk.Refuses (desk : Desk) (accountId : String) (day n : ℤ) : Prop :=
  desk.limit accountId > 0 ∧ desk.used accountId day + n > desk.limit accountId

instance (desk : Desk) (accountId : String) (day n : ℤ) :
    Decidable (desk.Refuses accountId day n) := inferInstanceAs (Decidable (_ ∧ _))

theorem run_consume :
    (consume now accountId n).run desk =
      ((Prog.transact (consumeUnits accountId (today now) (desk.limit accountId) n) >>=
        fun outcome => (return outcome.map fun used =>
          (⟨used, desk.limit accountId, remaining (desk.limit accountId) used,
            desk.limit accountId = 0⟩ : Quota) : Prog Failure Desk (Except String Quota))).run
        desk) := Prog.run_bind_ok run_limitFor

theorem consumeUnits_refused (refuses : desk.Refuses accountId day n) :
    consumeUnits accountId day (desk.limit accountId) n desk =
      (tradeCountAfterRollback (desk.tradeCounts accountId day)).map fun tradeCount =>
        (.error s!"Daily trade limit reached ({tradeCount}/{desk.limit accountId}). Upgrade your plan.",
          desk) := if_pos refuses

/-- A refusal with a row for the day. -/
theorem run_consume_refused (refuses : desk.Refuses accountId (today now) n)
    (present : desk.tradeCounts accountId (today now) ≠ none) :
    (consume now accountId n).run desk = (.error .missingGreenlet, desk) := by
  obtain ⟨tradeCount, row⟩ := Option.ne_none_iff_exists'.mp present
  have raised := consumeUnits_refused refuses
  rw [row] at raised
  rw [run_consume]
  exact Prog.run_bind_error (Prog.run_transact_error raised)

/-- A refusal without one. -/
theorem run_consume_refused_first (refuses : desk.Refuses accountId (today now) n)
    (absent : desk.tradeCounts accountId (today now) = none) :
    ∃ message, (consume now accountId n).run desk = (.ok (.error message), desk) := by
  have raised := consumeUnits_refused refuses
  rw [absent] at raised
  rw [run_consume]
  exact ⟨_, Prog.run_bind_ok (Prog.run_transact_ok raised)⟩

/-- The counter would leave the column. -/
theorem run_consume_overflows (within : ¬ desk.Refuses accountId (today now) n)
    (outside : ¬ FitsInteger (desk.used accountId (today now) + n)) :
    (consume now accountId n).run desk = (.error .dataError, desk) := by
  have raised : consumeUnits accountId (today now) (desk.limit accountId) n desk =
      .error .dataError := by
    have beyond : desk.used accountId (today now) + n < -2147483648 ∨
        2147483648 ≤ desk.used accountId (today now) + n := by
      unfold FitsInteger at outside
      omega
    exact (if_neg within).trans (if_pos beyond)
  rw [run_consume]
  exact Prog.run_bind_error (Prog.run_transact_error raised)

/-- What `consume` answers and leaves behind when it returns. -/
theorem run_consume_within (within : ¬ desk.Refuses accountId (today now) n)
    (fits : FitsInteger (desk.used accountId (today now) + n)) :
    (consume now accountId n).run desk =
      (let after := desk.addTrades accountId (today now) n
       let shown := after.quotaStatus accountId (today now)
       (.ok (.ok ⟨shown.used, shown.limit, shown.remaining, shown.unlimited⟩), after)) := by
  have done : consumeUnits accountId (today now) (desk.limit accountId) n desk =
      .ok (.ok (desk.used accountId (today now) + n), desk.addTrades accountId (today now) n) := by
    have inside : ¬ (desk.used accountId (today now) + n < -2147483648 ∨
        2147483648 ≤ desk.used accountId (today now) + n) := by
      unfold FitsInteger at fits
      omega
    exact (if_neg within).trans (if_neg inside)
  rw [run_consume]
  refine (Prog.run_bind_ok (Prog.run_transact_ok done)).trans ?_
  simp only [Desk.quotaStatus, used_addTrades, limit_addTrades]
  rfl

/-- The `ValueError` of the docstring comes from a refusal on a day without a row only. -/
theorem consume_valueError_iff :
    (∃ message, ((consume now accountId n).run desk).1 = .ok (.error message)) ↔
      desk.Refuses accountId (today now) n ∧ desk.tradeCounts accountId (today now) = none := by
  constructor
  · intro held
    rcases held with ⟨message, raised⟩
    by_cases refuses : desk.Refuses accountId (today now) n
    · refine ⟨refuses, ?_⟩
      by_contra present
      rw [run_consume_refused refuses present] at raised
      cases raised
    · by_cases fits : FitsInteger (desk.used accountId (today now) + n)
      · rw [run_consume_within refuses fits] at raised
        cases raised
      · rw [run_consume_overflows refuses fits] at raised
        cases raised
  · intro held
    rcases held with ⟨refuses, absent⟩
    obtain ⟨message, raised⟩ := run_consume_refused_first refuses absent
    exact ⟨message, congrArg Prod.fst raised⟩

/-- A refusal of one trade finds a row. -/
theorem Desk.Refuses.present (refuses : desk.Refuses accountId day 1) :
    desk.tradeCounts accountId day ≠ none := by
  intro absent
  unfold Desk.Refuses Desk.used at refuses
  rw [absent, Option.getD_none] at refuses
  omega

/-- So no refusal of one trade is a `ValueError`. -/
theorem consume_one_no_valueError (message : String) :
    ((consume now accountId 1).run desk).1 ≠ .ok (.error message) := by
  intro raised
  obtain ⟨refuses, absent⟩ := consume_valueError_iff.mp ⟨message, raised⟩
  exact refuses.present absent

end Methods

/-! ## The two methods together -/

/-- `consume` has returned. -/
def Returned (outcome : Except Failure (Except String Quota)) : Prop :=
  ∃ quota, outcome = .ok (.ok quota)

/-- `consume` has raised the `ValueError` that the router turns into a 429. -/
def RaisedValueError (outcome : Except Failure (Except String Quota)) : Prop :=
  ∃ message, outcome = .ok (.error message)

/-- A call of `consume` for one trade at `now`, with the status `before` it and `after` it: the
call returns when the status shows a trade left, and is then counted; otherwise it raises
`ValueError` and the status stays as it was. -/
structure ConsumesAsShown (before now after : ℤ) (accountId : String) (desk : Desk) : Prop where
  returns_iff : Returned ((consume now accountId 1).run desk).1 ↔
    (desk.quotaStatus accountId (today before)).Shows
  counts : Returned ((consume now accountId 1).run desk).1 →
    (((consume now accountId 1).run desk).2.quotaStatus accountId (today after)).used =
      (desk.quotaStatus accountId (today before)).used + 1
  refuses : ¬ Returned ((consume now accountId 1).run desk).1 →
    RaisedValueError ((consume now accountId 1).run desk).1 ∧
      ((consume now accountId 1).run desk).2.quotaStatus accountId (today after) =
        desk.quotaStatus accountId (today before)

section Shown

variable {before now after : ℤ} {accountId : String} {desk : Desk}

theorem returned_iff :
    Returned ((consume now accountId 1).run desk).1 ↔
      ¬ desk.Refuses accountId (today now) 1 ∧
        FitsInteger (desk.used accountId (today now) + 1) := by
  constructor
  · intro held
    rcases held with ⟨quota, returned⟩
    by_cases refuses : desk.Refuses accountId (today now) 1
    · rw [run_consume_refused refuses refuses.present] at returned
      cases returned
    · refine ⟨refuses, ?_⟩
      by_contra outside
      rw [run_consume_overflows refuses outside] at returned
      cases returned
  · intro held
    rcases held with ⟨within, fits⟩
    rw [run_consume_within within fits]
    exact ⟨_, rfl⟩

/-- A status that shows a trade left is not refused. -/
theorem not_refuses_of_shows (shows_ : (desk.quotaStatus accountId (today now)).Shows) :
    ¬ desk.Refuses accountId (today now) 1 := by
  intro refuses
  unfold Desk.Refuses at refuses
  rcases shows_iff.mp shows_ with unlimited | left <;> omega

/-- **`consume` does what `status` shows** exactly when a trade is shown left and the counter
has room for it: never when the quota is to refuse. -/
theorem consumes_as_shown_iff (day : today before = today now) (later : today after = today now) :
    ConsumesAsShown before now after accountId desk ↔
      (desk.quotaStatus accountId (today now)).Shows ∧
        FitsInteger (desk.used accountId (today now) + 1) := by
  constructor
  · intro agrees
    have returned : Returned ((consume now accountId 1).run desk).1 := by
      by_contra refused
      obtain ⟨message, raised⟩ := (agrees.refuses refused).1
      exact consume_one_no_valueError message raised
    refine ⟨?_, (returned_iff.mp returned).2⟩
    rw [← day]
    exact agrees.returns_iff.mp returned
  · intro held
    rcases held with ⟨shown, fits⟩
    have within := not_refuses_of_shows shown
    have returned : Returned ((consume now accountId 1).run desk).1 :=
      returned_iff.mpr ⟨within, fits⟩
    refine ⟨?_, ?_, fun refused => (refused returned).elim⟩
    · rw [day]
      exact iff_of_true returned shown
    · intro _
      rw [run_consume_within within fits, day, later]
      exact used_addTrades

/-- An account on the starter plan. -/
def tradedRow : Subscription where
  provider := some "paystack"
  providerCustomerId := none
  providerSubscriptionId := none
  status := "active"
  currentPeriodEnd := none
  gracePeriodEndsAt := none
  portalToken := some "token"
  plan := "starter"
  maxTradesPerDay := 15
  updatedAt := 0

/-- The account has placed `tradeCount` trades on the first day. -/
def tradedDesk (tradeCount : ℤ) : Desk :=
  { Desk.empty with
    world := World.empty.setSubscription "acc" tradedRow
    tradeCounts := fun accountId day =>
      if accountId = "acc" ∧ day = 0 then some tradeCount else none }

theorem consumes_as_shown_iff_spare : ConsumesAsShown 0 1 2 "acc" (tradedDesk 14) :=
  (consumes_as_shown_iff (by decide) (by decide)).mpr
    ⟨shows_iff.mpr (.inr (by decide)), by decide⟩

/-- The sixteenth trade of the day is refused without a `ValueError`. -/
theorem not_consumesAsShown_spent : ¬ ConsumesAsShown 0 1 2 "acc" (tradedDesk 15) := by
  intro agrees
  have refuses : (tradedDesk 15).Refuses "acc" (today 1) 1 := by decide
  have refused : ¬ Returned ((consume 1 "acc" 1).run (tradedDesk 15)).1 :=
    fun returned => (returned_iff.mp returned).1 refuses
  obtain ⟨message, raised⟩ := (agrees.refuses refused).1
  exact consume_one_no_valueError message raised

end Shown

end Aegis.Trading
