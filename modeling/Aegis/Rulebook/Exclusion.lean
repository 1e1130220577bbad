import Aegis.Rulebook.Rules
import Aegis.Vision.Band

/-!
# SELL and BUY exclude each other

A fired SELL rule has the RSI above the upper line of the current #1 band, a fired
BUY rule has it at or below the lower line (`FiredSide`).  The lines of a band that
was read off a screenshot are in order, so no frame has both, and the order in
which the rules are tried does not matter for the signal.
-/

namespace Aegis.Rulebook

open Aegis.Vision (bandUlm bandUlm_ordered)

variable {α : Type} [LinearOrder α]

/-! ## Where the RSI is when a rule fires -/

/-- What `signal` says about the RSI of the frame it fired on. -/
def FiredSide (cur : FrameState α) (signal : Signal) : Prop :=
  ∃ band rsi6, cur.band1 = some band ∧ cur.rsi6 = some rsi6 ∧
    match signal with
    | .sell => rsi6 < band.U
    | .buy => band.L ≤ rsi6

/-- The two kinds of result a fired rule may have, and what they rest on. -/
def Rule.Sided (rule : Rule α) : Prop :=
  ∀ {prev cur : FrameState α} {history : List (FrameState α)} {result : RuleResult},
    rule.FiresWith prev cur history result →
      ∃ signal, result.signal = some signal ∧ FiredSide cur signal

/-- Condition (3) of a divergence rule puts the RSI on the rule's side of the
guarding line, whichever disjunct holds. -/
theorem DivergenceRule.rsi_side {engine : SignalRuleEngine} {rule : DivergenceRule}
    {prev cur : FrameState α} {history : List (FrameState α)} {result : RuleResult}
    (fires : (divergenceRule engine rule).FiresWith prev cur history result) :
    result.signal = some rule.signal ∧ ∃ band rsi6, cur.band1 = some band ∧
      cur.rsi6 = some rsi6 ∧ sideOf rsi6 (band.get rule.guarding) = rule.side := by
  obtain ⟨_, _, band, _, _, _, rsi6, _, _, bandAt, _, _, _, rsiAt, _, _, third, _, shape⟩ :=
    DivergenceRule.fired_inv fires.1 fires.2
  refine ⟨by rw [shape], band, rsi6, bandAt, rsiAt, ?_⟩
  rcases third with cross | ⟨_, held⟩
  · exact (crossed_eq_some cross).1
  · exact held

theorem PriceFilterRule.rsi_side {rule : PriceFilterRule} {prev cur : FrameState α}
    {history : List (FrameState α)} {result : RuleResult}
    (fires : (priceFilterRule rule).FiresWith prev cur history result) :
    result.signal = some rule.signal ∧ ∃ band rsi6, cur.band1 = some band ∧
      cur.rsi6 = some rsi6 ∧ sideOf rsi6 (band.get rule.guarding) = rule.outerSide := by
  obtain ⟨_, _, band, _, _, _, rsi6, _, _, bandAt, _, _, _, rsiAt, _, _, third, _, shape⟩ :=
    PriceFilterRule.fired_inv fires.1 fires.2
  exact ⟨by rw [shape], band, rsi6, bandAt, rsiAt, (crossed_eq_some third).1⟩

/-- The three values that make a rule a SELL or a BUY rule. -/
def Guards (line : Line) (side : Side) (signal : Signal) : Prop :=
  (line, side, signal) = (.U, .above, .sell) ∨ (line, side, signal) = (.L, .below, .buy)

theorem Guards.firedSide {line : Line} {side : Side} {signal : Signal} {cur : FrameState α}
    {band : Band α} {rsi6 : α} (guards : Guards line side signal)
    (bandAt : cur.band1 = some band) (rsiAt : cur.rsi6 = some rsi6)
    (sided : sideOf rsi6 (band.get line) = side) : FiredSide cur signal := by
  refine ⟨band, rsi6, bandAt, rsiAt, ?_⟩
  rcases guards with shape | shape
  · cases shape
    exact sideOf_eq_above.mp sided
  · cases shape
    exact sideOf_eq_below.mp sided

theorem divergenceRule_sided (engine : SignalRuleEngine) {rule : DivergenceRule}
    (guards : Guards rule.guarding rule.side rule.signal) :
    (divergenceRule engine rule : Rule α).Sided := by
  intro prev cur history result fires
  obtain ⟨signal, band, rsi6, bandAt, rsiAt, side⟩ := DivergenceRule.rsi_side fires
  exact ⟨rule.signal, signal, guards.firedSide bandAt rsiAt side⟩

theorem priceFilterRule_sided {rule : PriceFilterRule}
    (guards : Guards rule.guarding rule.outerSide rule.signal) :
    (priceFilterRule rule : Rule α).Sided := by
  intro prev cur history result fires
  obtain ⟨signal, band, rsi6, bandAt, rsiAt, side⟩ := PriceFilterRule.rsi_side fires
  exact ⟨rule.signal, signal, guards.firedSide bandAt rsiAt side⟩

theorem SignalRuleEngine.rules_sided (engine : SignalRuleEngine) :
    ∀ rule ∈ (engine.rules : List (Rule α)), rule.Sided := by
  have divergence : ∀ rule ∈ [baseSell, baseBuy, uptrend2uSell, downtrend2lBuy],
      Guards rule.guarding rule.side rule.signal := by
    simp [Guards, baseSell, baseBuy, uptrend2uSell, downtrend2lBuy]
  have priceFilter : ∀ rule ∈ [priceFilterSell, priceFilterBuy],
      Guards rule.guarding rule.outerSide rule.signal := by
    simp [Guards, priceFilterSell, priceFilterBuy]
  apply engine.forall_rules (P := Rule.Sided)
  · exact fun rule member => divergenceRule_sided engine (divergence rule member)
  · exact fun rule member => priceFilterRule_sided (priceFilter rule member)

/-- With the band's lines in order the RSI is on one side only. -/
theorem FiredSide.unique {cur : FrameState α} {band : Band α} {s t : Signal}
    (at1 : cur.band1 = some band) (ordered : band.U ≤ band.M ∧ band.M ≤ band.L)
    (first : FiredSide cur s) (second : FiredSide cur t) : s = t := by
  have apart : ∀ {rsi6 : α}, rsi6 < band.U → band.L ≤ rsi6 → False := fun above below =>
    absurd (above.trans_le (ordered.1.trans (ordered.2.trans below))) (lt_irrefl _)
  rcases first with ⟨band₁, rsi₁, band₁At, rsi₁At, side₁⟩
  rcases second with ⟨band₂, rsi₂, band₂At, rsi₂At, side₂⟩
  cases at1.symm.trans band₁At
  cases at1.symm.trans band₂At
  cases rsi₁At.symm.trans rsi₂At
  cases s <;> cases t
  · rfl
  · exact (apart side₂ side₁).elim
  · exact (apart side₁ side₂).elim
  · rfl

/-! ## The evaluation loop -/

/-- Any two rules that fire have the same signal. -/
def SignalsAgree (rules : List (Rule α)) (prev cur : FrameState α)
    (history : List (FrameState α)) : Prop :=
  ∀ rule₁ ∈ rules, ∀ rule₂ ∈ rules, ∀ result₁ result₂,
    rule₁.FiresWith prev cur history result₁ → rule₂.FiresWith prev cur history result₂ →
      result₁.signal = result₂.signal

theorem SignalRuleEngine.signalsAgree (engine : SignalRuleEngine) {prev cur : FrameState α}
    {history : List (FrameState α)} {band : Band α} (bandAt : cur.band1 = some band)
    (ordered : band.U ≤ band.M ∧ band.M ≤ band.L) :
    SignalsAgree engine.rules prev cur history := by
  intro rule₁ member₁ rule₂ member₂ result₁ result₂ fires₁ fires₂
  obtain ⟨s, signal₁, side₁⟩ := engine.rules_sided rule₁ member₁ fires₁
  obtain ⟨t, signal₂, side₂⟩ := engine.rules_sided rule₂ member₂ fires₂
  rw [signal₁, signal₂, side₁.unique bandAt ordered side₂]

omit [LinearOrder α] in
/-- Rule lists with the same rules give the same signal when the rules that fire
agree. -/
theorem firstFired_signal_eq {prev cur : FrameState α} {history : List (FrameState α)}
    {rules others : List (Rule α)} (same : ∀ rule, rule ∈ others ↔ rule ∈ rules)
    (total : ∀ rule ∈ rules, ∃ result, rule prev cur history = .ok result)
    (agree : SignalsAgree rules prev cur history) :
    ∃ result other, firstFired prev cur history rules = .ok result ∧
      firstFired prev cur history others = .ok other ∧ other.signal = result.signal := by
  obtain ⟨result, run, found⟩ := firstFired_spec total
  obtain ⟨other, otherRun, otherFound⟩ :=
    firstFired_spec fun rule member => total rule ((same rule).mp member)
  refine ⟨result, other, run, otherRun, ?_⟩
  rcases otherFound with ⟨rule₂, member₂, fires₂⟩ | ⟨silent₂, none₂⟩ <;>
    rcases found with ⟨rule₁, member₁, fires₁⟩ | ⟨silent₁, none₁⟩
  · exact agree _ ((same _).mp member₂) _ member₁ _ _ fires₂ fires₁
  · exact (none₁ _ ((same _).mp member₂) _ fires₂).elim
  · exact (none₂ _ ((same _).mpr member₁) _ fires₁).elim
  · rw [silent₁, silent₂]

/-- **Exclusion.**  On a history of numeric frames whose current #1 band was read by
`bandUlm`, the rules that fire agree on the signal, and every order of the rule
list gives the signal of `evaluate`. -/
theorem SignalRuleEngine.fired_signals_agree (engine : SignalRuleEngine) {fl : ℚ →o α}
    {points : List Vision.Point} {history : List (FrameState α)} (long : 2 ≤ history.length)
    (numeric : ∀ frame ∈ history, frame.Numeric)
    (read : (history[history.length - 1]).band1 = bandUlm fl points) :
    SignalsAgree engine.rules history[history.length - 2] history[history.length - 1] history ∧
    ∀ rules, rules.Perm engine.rules → ∃ result other,
      engine.evaluate history = .ok result ∧ evaluateRules rules history = .ok other ∧
        other.signal = result.signal := by
  have prevNumeric := numeric history[history.length - 2] (List.getElem_mem _)
  have curNumeric := numeric history[history.length - 1] (List.getElem_mem _)
  obtain ⟨band, bandAt⟩ := Option.isSome_iff_exists.mp curNumeric.band1
  have ordered := bandUlm_ordered (read.symm.trans bandAt)
  refine ⟨engine.signalsAgree bandAt ordered, fun rules perm => ?_⟩
  have total : ∀ rule ∈ engine.rules, ∃ result,
      rule history[history.length - 2] history[history.length - 1] history = .ok result :=
    fun rule member => engine.rules_total rule member history prevNumeric curNumeric
  simp only [SignalRuleEngine.evaluate, evaluateRules, not_lt.mpr long, dif_neg,
    not_false_eq_true]
  exact firstFired_signal_eq (fun _ => perm.mem_iff) total
    (engine.signalsAgree bandAt ordered)

theorem SignalRuleEngine.fired_signals_agree_sellHistory :
    SignalsAgree (SignalRuleEngine.mk 12).rules sellHistory[0] sellHistory[1] sellHistory ∧
    ∀ rules, rules.Perm (SignalRuleEngine.mk 12).rules → ∃ result other,
      (SignalRuleEngine.mk 12).evaluate sellHistory = .ok result ∧
        evaluateRules rules sellHistory = .ok other ∧ other.signal = result.signal := by
  have frames : ∀ frame ∈ sellHistory, frame.Numeric := by
    intro frame member
    simp only [sellHistory, List.mem_cons, List.not_mem_nil, or_false] at member
    rcases member with rfl | rfl <;> exact ⟨rfl, rfl, rfl, rfl⟩
  have heights : Vision.rightmostYValues [⟨0, 7⟩, ⟨2, 3⟩, ⟨4, 30⟩] = [7, 3, 30] := by decide
  have read : sellHistory[1].band1 = bandUlm OrderHom.id [⟨0, 7⟩, ⟨2, 3⟩, ⟨4, 30⟩] := by
    simp [sellHistory, bandUlm, heights, Lib.arraySplit, Lib.splitSizes, Vision.meanHeight,
      Lib.mean]
  exact SignalRuleEngine.fired_signals_agree (SignalRuleEngine.mk 12) (by decide) frames read

end Aegis.Rulebook
