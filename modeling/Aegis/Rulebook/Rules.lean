import Aegis.Rulebook.Engine

/-!
# What the rules compute

One inversion lemma for each rule family (`DivergenceRule.fired_inv`,
`PriceFilterRule.fired_inv`) says everything a fired rule has checked; the other
theorems about the rulebook are derived from these two.  On numeric frames a rule
raises nothing (`Rule.Total`), and then `evaluateRules` returns the result of some
rule that fires, if one does.
-/

namespace Aegis.Rulebook

open Aegis.Lib

theorem present_eq_ok {β : Type} {field : Option β} {b : β} :
    present field = .ok b ↔ field = some b := by
  cases field <;> simp

variable {α : Type} [LinearOrder α]

theorem crossed_eq_some {prevValue prevLevel value level : α} {side : Side}
    (cross : crossed prevValue prevLevel value level = some side) :
    sideOf value level = side ∧ sideOf prevValue prevLevel ≠ side := by
  simp only [crossed] at cross
  split at cross
  · cases cross
  next changed =>
    cases cross
    exact ⟨rfl, changed⟩

@[simp]
theorem sideOf_eq_above {value level : α} : sideOf value level = .above ↔ value < level := by
  unfold sideOf
  split <;> simp_all

@[simp]
theorem sideOf_eq_below {value level : α} : sideOf value level = .below ↔ level ≤ value := by
  unfold sideOf
  split <;> simp_all

/-! ## Divergence never raises -/

theorem minOf_total {xs : List α} (nonempty : xs ≠ []) : ∃ m, minOf xs = .ok m := by
  cases xs with
  | nil => exact (nonempty rfl).elim
  | cons x xs => exact ⟨_, rfl⟩

theorem maxOf_total {xs : List α} (nonempty : xs ≠ []) : ∃ m, maxOf xs = .ok m := by
  cases xs with
  | nil => exact (nonempty rfl).elim
  | cons x xs => exact ⟨_, rfl⟩

omit [LinearOrder α] in
/-- Both halves of a window of four or more are nonempty. -/
theorem halves_nonempty (xs : List α) (long : 4 ≤ xs.length) :
    xs.take (xs.length / 2) ≠ [] ∧ xs.drop (xs.length / 2) ≠ [] := by
  constructor <;> intro none <;> have length := congrArg List.length none <;>
    simp only [List.length_take, List.length_drop, List.length_nil] at length <;> omega

/-- So both halves have their extremes. -/
theorem extremes_total (xs : List α) (long : 4 ≤ xs.length) :
    ∃ minLate minEarly maxLate maxEarly, minOf (xs.drop (xs.length / 2)) = .ok minLate ∧
      minOf (xs.take (xs.length / 2)) = .ok minEarly ∧
        maxOf (xs.drop (xs.length / 2)) = .ok maxLate ∧
          maxOf (xs.take (xs.length / 2)) = .ok maxEarly := by
  obtain ⟨early, late⟩ := halves_nonempty xs long
  obtain ⟨minLate, minLateRun⟩ := minOf_total late
  obtain ⟨minEarly, minEarlyRun⟩ := minOf_total early
  obtain ⟨maxLate, maxLateRun⟩ := maxOf_total late
  obtain ⟨maxEarly, maxEarlyRun⟩ := maxOf_total early
  exact ⟨minLate, minEarly, maxLate, maxEarly, minLateRun, minEarlyRun, maxLateRun, maxEarlyRun⟩

theorem divergence_total (indicatorSeries priceSeries : List α) :
    ∃ d, divergence indicatorSeries priceSeries = .ok d := by
  dsimp only [divergence]
  split
  · exact ⟨none, rfl⟩
  next guard =>
    obtain ⟨long, same⟩ := not_or.mp guard
    obtain ⟨_, _, _, _, minPriceLate, minPriceEarly, maxPriceLate, maxPriceEarly⟩ :=
      extremes_total priceSeries (by omega)
    obtain ⟨_, _, _, _, minIndLate, minIndEarly, maxIndLate, maxIndEarly⟩ :=
      extremes_total indicatorSeries (by omega)
    rw [not_not.mp same] at minIndLate minIndEarly maxIndLate maxIndEarly
    simp only [minPriceLate, minPriceEarly, minIndLate, minIndEarly, maxPriceLate,
      maxPriceEarly, maxIndLate, maxIndEarly, bind, Except.bind]
    split
    · exact ⟨_, rfl⟩
    · split <;> exact ⟨_, rfl⟩

theorem SignalRuleEngine.diverges_total (engine : SignalRuleEngine) (kind : Divergence)
    (history : List (FrameState α)) : ∃ b, engine.diverges kind history = .ok b := by
  dsimp only [SignalRuleEngine.diverges]
  split
  · obtain ⟨d, run⟩ := divergence_total
      ((engine.window history).filterMap (·.cci5))
      ((engine.window history).filterMap (·.priceClose))
    exact ⟨d == some kind, by rw [run]; rfl⟩
  · exact ⟨false, rfl⟩

/-! ## What a fired rule has checked -/

/-- **Divergence rules, inverted.**  A fired rule has read every field it needs,
its four conditions hold, and its result is the rule's own. -/
theorem DivergenceRule.fired_inv {engine : SignalRuleEngine} {rule : DivergenceRule}
    {prev cur : FrameState α} {history : List (FrameState α)} {result : RuleResult}
    (run : divergenceRule engine rule prev cur history = .ok (some result))
    (fired : result.fired = true) :
    ∃ pb1 pb2 b1 b2 ma4 prevRsi6 rsi6,
      prev.band1 = some pb1 ∧ prev.band2 = some pb2 ∧ cur.band1 = some b1 ∧
      cur.band2 = some b2 ∧ cur.ma4 = some ma4 ∧ prev.rsi6 = some prevRsi6 ∧
      cur.rsi6 = some rsi6 ∧
      crossed (pb2.get rule.motional) (pb1.get rule.guarding)
        (b2.get rule.motional) (b1.get rule.guarding) = some rule.side ∧
      (isBetween ma4 b1.M (b1.get rule.guarding) = true ∨
        sideOf ma4 (b1.get rule.guarding) = rule.side) ∧
      (crossed prevRsi6 (pb1.get rule.guarding) rsi6 (b1.get rule.guarding) = some rule.side ∨
        rule.rsiMayHold = true ∧ sideOf rsi6 (b1.get rule.guarding) = rule.side) ∧
      engine.diverges rule.kind history = .ok true ∧
      result = ⟨true, some rule.signal, rule.name, rule.reason true true true true⟩ := by
  simp only [divergenceRule, bind_eq_ok, present_eq_ok] at run
  rcases run with ⟨pb2, pb2At, pb1, pb1At, b2, b2At, b1, b1At, run⟩
  split at run
  · cases run
  next first =>
    simp only [bind_eq_ok, present_eq_ok] at run
    rcases run with ⟨ma4, ma4At, prevRsi6, prevRsi6At, rsi6, rsi6At, cond4, fourth, run⟩
    cases run
    simp only [Bool.and_eq_true] at fired
    rcases fired with ⟨⟨⟨cond1, cond2⟩, cond3⟩, rfl⟩
    refine ⟨pb1, pb2, b1, b2, ma4, prevRsi6, rsi6, pb1At, pb2At, b1At, b2At, ma4At,
      prevRsi6At, rsi6At, by simpa using cond1, by simpa using cond2, by simpa using cond3,
      fourth, ?_⟩
    rw [cond1, cond2, cond3]
    rfl

/-- **Price-filter rules, inverted.** -/
theorem PriceFilterRule.fired_inv {rule : PriceFilterRule} {prev cur : FrameState α}
    {history : List (FrameState α)} {result : RuleResult}
    (run : priceFilterRule rule prev cur history = .ok (some result))
    (fired : result.fired = true) :
    ∃ pb1 pb2 b1 b2 ma4 prevRsi6 rsi6,
      prev.band1 = some pb1 ∧ prev.band2 = some pb2 ∧ cur.band1 = some b1 ∧
      cur.band2 = some b2 ∧ cur.ma4 = some ma4 ∧ prev.rsi6 = some prevRsi6 ∧
      cur.rsi6 = some rsi6 ∧
      crossed pb2.M pb1.M b2.M b1.M = some rule.midSide ∧
      (isBetween ma4 b1.M b1.U = true ∨ isBetween ma4 b1.M b1.L = true) ∧
      crossed prevRsi6 (pb1.get rule.guarding) rsi6 (b1.get rule.guarding) =
        some rule.outerSide ∧
      priceOutside rule.outerSide cur = true ∧
      result = ⟨true, some rule.signal, rule.name, rule.reason true true true true⟩ := by
  simp only [priceFilterRule, bind_eq_ok, present_eq_ok] at run
  rcases run with ⟨pb2, pb2At, pb1, pb1At, b2, b2At, b1, b1At, run⟩
  split at run
  · cases run
  next first =>
    simp only [bind_eq_ok, present_eq_ok] at run
    rcases run with ⟨ma4, ma4At, prevRsi6, prevRsi6At, rsi6, rsi6At, run⟩
    cases run
    simp only [Bool.and_eq_true] at fired
    rcases fired with ⟨⟨⟨cond1, cond2⟩, cond3⟩, cond4⟩
    refine ⟨pb1, pb2, b1, b2, ma4, prevRsi6, rsi6, pb1At, pb2At, b1At, b2At, ma4At,
      prevRsi6At, rsi6At, by simpa using cond1, by simpa using cond2, by simpa using cond3,
      cond4, ?_⟩
    rw [cond1, cond2, cond3, cond4]
    rfl

/-! ## Rules on numeric frames -/

/-- The rule raises nothing on frames that have the fields it needs. -/
def Rule.Total (rule : Rule α) : Prop :=
  ∀ {prev cur : FrameState α} (history : List (FrameState α)),
    prev.Numeric → cur.Numeric → ∃ result, rule prev cur history = .ok result

omit [LinearOrder α] in
/-- What the rules read of a numeric frame. -/
theorem FrameState.Numeric.fields {frame : FrameState α} (numeric : frame.Numeric) :
    ∃ b1 b2 ma4 rsi6, frame.band1 = some b1 ∧ frame.band2 = some b2 ∧
      frame.ma4 = some ma4 ∧ frame.rsi6 = some rsi6 := by
  obtain ⟨b1, b1At⟩ := Option.isSome_iff_exists.mp numeric.band1
  obtain ⟨b2, b2At⟩ := Option.isSome_iff_exists.mp numeric.band2
  obtain ⟨ma4, ma4At⟩ := Option.isSome_iff_exists.mp numeric.ma4
  obtain ⟨rsi6, rsi6At⟩ := Option.isSome_iff_exists.mp numeric.rsi6
  exact ⟨b1, b2, ma4, rsi6, b1At, b2At, ma4At, rsi6At⟩

theorem divergenceRule_total (engine : SignalRuleEngine) (rule : DivergenceRule) :
    (divergenceRule engine rule : Rule α).Total := by
  intro prev cur history prevNumeric curNumeric
  rcases prevNumeric.fields with ⟨pb1, pb2, _, prevRsi6, pb1At, pb2At, _, prevRsi6At⟩
  rcases curNumeric.fields with ⟨b1, b2, ma4, rsi6, b1At, b2At, ma4At, rsi6At⟩
  obtain ⟨cond4, fourth⟩ := engine.diverges_total rule.kind history
  simp only [divergenceRule, pb1At, pb2At, prevRsi6At, b1At, b2At, ma4At, rsi6At, fourth,
    present_some, bind, Except.bind]
  split <;> exact ⟨_, rfl⟩

theorem priceFilterRule_total (rule : PriceFilterRule) :
    (priceFilterRule rule : Rule α).Total := by
  intro prev cur history prevNumeric curNumeric
  rcases prevNumeric.fields with ⟨pb1, pb2, _, prevRsi6, pb1At, pb2At, _, prevRsi6At⟩
  rcases curNumeric.fields with ⟨b1, b2, ma4, rsi6, b1At, b2At, ma4At, rsi6At⟩
  simp only [priceFilterRule, pb1At, pb2At, prevRsi6At, b1At, b2At, ma4At, rsi6At,
    present_some, bind, Except.bind]
  split <;> exact ⟨_, rfl⟩

/-- **Rulebook.**  What the members of the two families have in common the rulebook
has. -/
theorem SignalRuleEngine.forall_rules (engine : SignalRuleEngine) {P : Rule α → Prop}
    (divergence : ∀ rule ∈ [baseSell, baseBuy, uptrend2uSell, downtrend2lBuy],
      P (divergenceRule engine rule))
    (priceFilter : ∀ rule ∈ [priceFilterSell, priceFilterBuy], P (priceFilterRule rule)) :
    ∀ rule ∈ engine.rules, P rule := by
  intro rule member
  simp only [rules, List.mem_cons, List.not_mem_nil, or_false] at member
  rcases member with rfl | rfl | rfl | rfl | rfl | rfl
  · exact divergence baseSell (by simp)
  · exact divergence baseBuy (by simp)
  · exact divergence uptrend2uSell (by simp)
  · exact divergence downtrend2lBuy (by simp)
  · exact priceFilter priceFilterSell (by simp)
  · exact priceFilter priceFilterBuy (by simp)

theorem SignalRuleEngine.rules_total (engine : SignalRuleEngine) :
    ∀ rule ∈ (engine.rules : List (Rule α)), rule.Total := by
  apply engine.forall_rules (P := Rule.Total)
  · exact fun rule _ => divergenceRule_total engine rule
  · exact fun rule _ => priceFilterRule_total rule

/-! ## The evaluation loop -/

/-- `rule` fires on the last two frames with `result`. -/
def Rule.FiresWith (rule : Rule α) (prev cur : FrameState α)
    (history : List (FrameState α)) (result : RuleResult) : Prop :=
  rule prev cur history = .ok (some result) ∧ result.fired = true

omit [LinearOrder α] in
/-- When no rule raises, the loop returns the result of a rule that fires, or says
that none does. -/
theorem firstFired_spec {prev cur : FrameState α} {history : List (FrameState α)}
    {rules : List (Rule α)}
    (total : ∀ rule ∈ rules, ∃ result, rule prev cur history = .ok result) :
    ∃ result, firstFired prev cur history rules = .ok result ∧
      ((∃ rule ∈ rules, rule.FiresWith prev cur history result) ∨
        result.signal = none ∧ ∀ rule ∈ rules, ∀ other,
          ¬ rule.FiresWith prev cur history other) := by
  induction rules with
  | nil => exact ⟨_, rfl, Or.inr ⟨rfl, by simp⟩⟩
  | cons rule rest ih =>
      obtain ⟨outcome, run⟩ := total rule (by simp)
      obtain ⟨result, restRun, found⟩ := ih fun r member => total r (by simp [member])
      -- A rule that does not fire leaves the decision to the rest of the list.
      have skip : (∀ other, ¬ rule.FiresWith prev cur history other) →
          (∃ rule' ∈ rule :: rest, rule'.FiresWith prev cur history result) ∨
            result.signal = none ∧ ∀ rule' ∈ rule :: rest, ∀ other,
              ¬ rule'.FiresWith prev cur history other := by
        intro quiet
        rcases found with ⟨later, member, fires⟩ | ⟨silent, none⟩
        · exact Or.inl ⟨later, by simp [member], fires⟩
        · exact Or.inr ⟨silent, by simpa using ⟨quiet, none⟩⟩
      cases outcome with
      | none =>
          refine ⟨result, ?_, skip fun other fires => ?_⟩
          · simp only [firstFired, run, bind, Except.bind, restRun]
          · cases run.symm.trans fires.1
      | some first =>
          cases fired : first.fired with
          | true =>
              refine ⟨first, ?_, Or.inl ⟨rule, by simp, run, fired⟩⟩
              simp only [firstFired, run, bind, Except.bind, fired, if_true]
              rfl
          | false =>
              refine ⟨result, ?_, skip fun other fires => ?_⟩
              · simp [firstFired, run, bind, Except.bind, fired, restRun]
              · cases run.symm.trans fires.1
                exact Bool.noConfusion (fired.symm.trans fires.2)

end Aegis.Rulebook
