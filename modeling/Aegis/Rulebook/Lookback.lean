import Aegis.Rulebook.Rules

/-!
# How far back the engine looks

The rules see the last two frames and, through `SignalRuleEngine.window`, the last
`divergence_lookback` ones.  Dropping older frames does not change the decision
(`SignalRuleEngine.evaluate_rtake`).
-/

namespace Aegis.Rulebook

variable {α : Type} [LinearOrder α] (engine : SignalRuleEngine)

omit [LinearOrder α] in
theorem SignalRuleEngine.window_rtake (history : List (FrameState α)) {k : ℕ}
    (positive : 1 ≤ engine.divergenceLookback) (covered : engine.divergenceLookback ≤ k) :
    engine.window (history.rtake k) = engine.window history :=
  Lib.sliceFrom_rtake (by omega) (by omega)

/-- The history enters a rule through the window only. -/
theorem SignalRuleEngine.rules_congr {history other : List (FrameState α)}
    (same : engine.window history = engine.window other) :
    ∀ rule ∈ engine.rules, ∀ prev cur, rule prev cur history = rule prev cur other := by
  have diverges : ∀ kind, engine.diverges kind history = engine.diverges kind other :=
    fun kind => by simp only [SignalRuleEngine.diverges, same]
  apply engine.forall_rules (P := fun rule => ∀ prev cur,
    rule prev cur history = rule prev cur other)
  · intro rule _ prev cur
    simp only [divergenceRule, diverges]
  · exact fun _ _ _ _ => rfl

omit [LinearOrder α] in
theorem firstFired_congr {rules : List (Rule α)} {prev cur : FrameState α}
    {history other : List (FrameState α)}
    (same : ∀ rule ∈ rules, rule prev cur history = rule prev cur other) :
    firstFired prev cur history rules = firstFired prev cur other rules := by
  induction rules with
  | nil => rfl
  | cons rule rest ih =>
      rw [firstFired, firstFired, same rule (by simp),
        ih fun later member => same later (by simp [member])]

/-- **Suffix.**  The last `k` frames decide as the whole history does, when `k` covers
the window and the last two frames. -/
theorem SignalRuleEngine.evaluate_rtake {history : List (FrameState α)} {k : ℕ}
    (two : 2 ≤ k) (positive : 1 ≤ engine.divergenceLookback)
    (covered : engine.divergenceLookback ≤ k) :
    engine.evaluate (history.rtake k) = engine.evaluate history := by
  have length := Lib.length_rtake history k
  simp only [SignalRuleEngine.evaluate, evaluateRules]
  by_cases short : history.length < 2
  · rw [dif_pos short, dif_pos (by omega)]
  · rw [dif_neg short, dif_neg (by omega), Lib.getElem_rtake two (by omega) (by omega),
      Lib.getElem_rtake (by omega) (by omega) (by omega)]
    have same := engine.rules_congr (engine.window_rtake history positive covered)
    exact firstFired_congr fun rule member => same rule member _ _

end Aegis.Rulebook
