import Aegis.Rulebook.Rules

/-!
# A rule fires once for each crossing

The engine is asked after every frame.  `SignalRuleEngine.edgeTriggered` says that between two
frames at which a rule fires the #2 line that it watches has been back on the other side of
the #1 line, however long its other conditions persist.
-/

namespace Aegis.Rulebook

/-- The crossing that a rule waits for. -/
structure Guard where
  /-- the #2 line -/
  motional : Line
  /-- the #1 line that it crosses -/
  guarding : Line
  /-- the side that it crosses to -/
  side : Side

variable {α : Type} [LinearOrder α]

/-- The side of the #1 line on which the #2 line is. -/
def Guard.sideAt (guard : Guard) (frame : FrameState α) : Option Side := do
  let b1 ← frame.band1
  let b2 ← frame.band2
  return sideOf (b2.get guard.motional) (b1.get guard.guarding)

/-- The #2 line is where it has to cross from. -/
def Guard.Opposite (guard : Guard) (frame : FrameState α) : Prop :=
  ∃ side, guard.sideAt frame = some side ∧ side ≠ guard.side

/-- The rules with the crossings that they wait for. -/
def SignalRuleEngine.guarded (engine : SignalRuleEngine) : List (Rule α × Guard) :=
  [(engine.ruleBaseSell, ⟨.M, .U, .above⟩), (engine.ruleBaseBuy, ⟨.M, .L, .below⟩),
    (engine.ruleUptrend2uSell, ⟨.U, .U, .above⟩), (engine.ruleDowntrend2lBuy, ⟨.L, .L, .below⟩),
    (SignalRuleEngine.rulePriceFilterSell, ⟨.M, .M, .below⟩),
    (SignalRuleEngine.rulePriceFilterBuy, ⟨.M, .M, .above⟩)]

example (engine : SignalRuleEngine) :
    (engine.guarded : List (Rule α × Guard)).map Prod.fst = engine.rules := rfl

/-- `evaluate` on the history gives the rule two frames on which it fires. -/
def Rule.FiresOn (rule : Rule α) (history : List (FrameState α)) : Prop :=
  ∃ early prev cur result, history = early ++ [prev, cur] ∧ rule.FiresWith prev cur history result

/-- The rule fires only when the #2 line has just crossed. -/
def Rule.Waits (rule : Rule α) (guard : Guard) : Prop :=
  ∀ prev cur history result, rule.FiresWith prev cur history result →
    guard.sideAt cur = some guard.side ∧ guard.Opposite prev

section Crossing

variable {guard : Guard} {prev cur : FrameState α} {pb1 pb2 b1 b2 : Band α}

/-- A crossing by the sides before and after. -/
theorem Guard.of_crossed (pb1At : prev.band1 = some pb1) (pb2At : prev.band2 = some pb2)
    (b1At : cur.band1 = some b1) (b2At : cur.band2 = some b2)
    (cross : crossed (pb2.get guard.motional) (pb1.get guard.guarding) (b2.get guard.motional)
      (b1.get guard.guarding) = some guard.side) :
    guard.sideAt cur = some guard.side ∧ guard.Opposite prev := by
  obtain ⟨now, before⟩ := crossed_eq_some cross
  constructor
  · rw [Guard.sideAt, b1At, b2At, ← now]
    rfl
  · refine ⟨sideOf (pb2.get guard.motional) (pb1.get guard.guarding), ?_, before⟩
    rw [Guard.sideAt, pb1At, pb2At]
    rfl

theorem divergenceRule_waits (engine : SignalRuleEngine) (rule : DivergenceRule) :
    (divergenceRule engine rule : Rule α).Waits ⟨rule.motional, rule.guarding, rule.side⟩ := by
  intro prev cur history result fires
  obtain ⟨pb1, pb2, b1, b2, _, _, _, pb1At, pb2At, b1At, b2At, _, _, _, cross, _⟩ :=
    DivergenceRule.fired_inv fires.1 fires.2
  exact Guard.of_crossed pb1At pb2At b1At b2At cross

theorem priceFilterRule_waits (rule : PriceFilterRule) :
    (priceFilterRule rule : Rule α).Waits ⟨.M, .M, rule.midSide⟩ := by
  intro prev cur history result fires
  obtain ⟨pb1, pb2, b1, b2, _, _, _, pb1At, pb2At, b1At, b2At, _, _, _, cross, _⟩ :=
    PriceFilterRule.fired_inv fires.1 fires.2
  exact Guard.of_crossed pb1At pb2At b1At b2At cross

theorem SignalRuleEngine.guarded_waits (engine : SignalRuleEngine) :
    ∀ entry ∈ (engine.guarded : List (Rule α × Guard)), entry.1.Waits entry.2 := by
  intro entry member
  simp only [guarded, List.mem_cons, List.not_mem_nil, or_false] at member
  rcases member with rfl | rfl | rfl | rfl | rfl | rfl
  · exact divergenceRule_waits engine baseSell
  · exact divergenceRule_waits engine baseBuy
  · exact divergenceRule_waits engine uptrend2uSell
  · exact divergenceRule_waits engine downtrend2lBuy
  · exact priceFilterRule_waits priceFilterSell
  · exact priceFilterRule_waits priceFilterBuy

end Crossing

/-! ## Streams -/

section Streams

variable {stream : ℕ → FrameState α} {i : ℕ} {history : List (FrameState α)}

/-- The frames up to the `i`-th. -/
def framesUpTo (stream : ℕ → FrameState α) (i : ℕ) : List (FrameState α) :=
  (List.range (i + 1)).map stream

omit [LinearOrder α] in
/-- The last two frames of what is kept of a stream. -/
theorem lastTwo_of_suffix {early : List (FrameState α)} {prev cur : FrameState α}
    (kept : early ++ [prev, cur] <:+ framesUpTo stream i) :
    ∃ before, i = before + 1 ∧ prev = stream before ∧ cur = stream i := by
  cases i with
  | zero =>
      have length := kept.length_le
      simp [framesUpTo] at length
  | succ before =>
      obtain ⟨dropped, whole⟩ := kept
      have last : framesUpTo stream (before + 1) =
          (List.range before).map stream ++ [stream before, stream (before + 1)] := by
        rw [framesUpTo, List.range_succ, List.range_succ, List.map_append, List.map_append,
          List.append_assoc]
        rfl
      rw [last, ← List.append_assoc] at whole
      have two := (List.append_inj' whole rfl).2
      simp only [List.cons.injEq, and_true] at two
      exact ⟨before, rfl, two.1, two.2⟩

theorem Rule.Waits.at_frame {rule : Rule α} {guard : Guard} (waits : rule.Waits guard)
    (kept : history <:+ framesUpTo stream i) (fires : rule.FiresOn history) :
    ∃ before, i = before + 1 ∧ guard.sideAt (stream i) = some guard.side ∧
      guard.Opposite (stream before) := by
  obtain ⟨early, prev, cur, result, rfl, fires⟩ := fires
  obtain ⟨before, next, rfl, rfl⟩ := lastTwo_of_suffix kept
  obtain ⟨now, opposite⟩ := waits _ _ _ _ fires
  exact ⟨before, next, now, opposite⟩

end Streams

/-- **Edge-triggered signals.**  The histories are what is kept of a stream of frames after each
of them. -/
theorem SignalRuleEngine.edgeTriggered (engine : SignalRuleEngine) {stream : ℕ → FrameState α}
    {histories : ℕ → List (FrameState α)}
    (kept : ∀ i, histories i <:+ framesUpTo stream i) {rule : Rule α} {guard : Guard}
    (encoded : (rule, guard) ∈ engine.guarded) {i j : ℕ} (later : i < j)
    (first : rule.FiresOn (histories i)) (again : rule.FiresOn (histories j)) :
    j ≠ i + 1 ∧ ∃ k, i < k ∧ k < j ∧ guard.Opposite (stream k) := by
  have waits := engine.guarded_waits _ encoded
  obtain ⟨_, _, crossed, _⟩ := waits.at_frame (kept i) first
  obtain ⟨k, rfl, _, opposite⟩ := waits.at_frame (kept j) again
  have apart : k ≠ i := by
    intro same
    rcases same with rfl
    obtain ⟨side, there, other⟩ := opposite
    exact other (Option.some.inj (there.symm.trans crossed))
  exact ⟨by omega, k, by omega, by omega, opposite⟩

/-- 2M goes up and down across 1M. -/
def swinging : ℕ → FrameState ℚ := fun i => sellHistory.get ⟨i % 2, Nat.mod_lt i Nat.two_pos⟩

theorem SignalRuleEngine.edgeTriggered_swinging :
    3 ≠ 1 + 1 ∧ ∃ k, 1 < k ∧ k < 3 ∧ Guard.Opposite ⟨.M, .M, .below⟩ (swinging k) := by
  have kept : ∀ i, framesUpTo swinging i <:+ framesUpTo swinging i := fun _ => List.suffix_rfl
  have encoded : ((rulePriceFilterSell, ⟨.M, .M, .below⟩) : Rule ℚ × Guard) ∈
      (SignalRuleEngine.mk 12).guarded := by simp [guarded]
  have fires : ∀ early, (rulePriceFilterSell : Rule ℚ).FiresOn
      (early ++ [swinging 0, swinging 1]) := fun early =>
    ⟨early, swinging 0, swinging 1, _, rfl, rfl, by decide +kernel⟩
  have first : (rulePriceFilterSell : Rule ℚ).FiresOn (framesUpTo swinging 1) := fires []
  have again : (rulePriceFilterSell : Rule ℚ).FiresOn (framesUpTo swinging 3) :=
    fires [swinging 0, swinging 1]
  exact (SignalRuleEngine.mk 12).edgeTriggered kept encoded (by decide) first again

end Aegis.Rulebook
