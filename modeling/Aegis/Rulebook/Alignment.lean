import Aegis.Lib.Positions
import Aegis.Rulebook.Laws

/-!
# What the divergence conditions compare

A divergence rule collects the prices of the window and its CCI heights, each without what is
missing, and compares the two series index by index if they are of one length.
`callsAligned_iff` says when that compares heights of the same frames.
-/

namespace Aegis.Rulebook

open Aegis.Lib

variable {α : Type} [LinearOrder α]

/-- `DivergenceRule.diverges` with another function in the place of `divergence`. -/
def SignalRuleEngine.divergesUsing
    (divergence : List α → List α → Except PyError (Option Divergence))
    (engine : SignalRuleEngine) (kind : Divergence) (history : List (FrameState α)) :
    Except PyError Bool := do
  let prices := (engine.window history).filterMap (·.priceClose)
  let cciVals := (engine.window history).filterMap (·.cci5)
  if prices.length = cciVals.length then
    return (← divergence cciVals prices) == some kind
  else
    return false

/-- The rule with another function in the place of `divergence`. -/
def divergenceRuleUsing (divergence : List α → List α → Except PyError (Option Divergence))
    (engine : SignalRuleEngine) (rule : DivergenceRule) : Rule α :=
  fun prev cur history => readBands prev cur fun bands =>
    let level := bands.b1.get rule.guarding
    let prevLevel := bands.pb1.get rule.guarding
    let cond1 := crossed (bands.pb2.get rule.motional) prevLevel (bands.b2.get rule.motional)
      level == some rule.side
    if !cond1 then return none
    else readReadings prev cur fun readings => do
      let cond2 := isBetween readings.ma4 bands.b1.M level ||
        sideOf readings.ma4 level == rule.side
      let cond3 := crossed readings.prevRsi6 prevLevel readings.rsi6 level == some rule.side ||
        (rule.rsiMayHold && sideOf readings.rsi6 level == rule.side)
      let cond4 ← engine.divergesUsing divergence rule.kind history
      let fired := cond1 && cond2 && cond3 && cond4
      return some
        { fired := fired
          signal := if fired then some rule.signal else none
          ruleName := rule.name
          reason := rule.reason cond1 cond2 cond3 cond4 }

theorem divergenceRuleUsing_divergence (engine : SignalRuleEngine) (rule : DivergenceRule) :
    (divergenceRuleUsing divergence engine rule : Rule α) = divergenceRule engine rule := rfl

/-- A stand-in for `divergence` that raises on one pair of series. -/
def tripwire (cciVals prices : List α) (cci price : List α) :
    Except PyError (Option Divergence) :=
  if cci = cciVals ∧ price = prices then .error .attributeError else divergence cci price

/-- The rule calls `divergence` on the two series: it raises what `divergence` raises there. -/
def DivergenceRule.Calls (engine : SignalRuleEngine) (rule : DivergenceRule)
    (prev cur : FrameState α) (history : List (FrameState α)) (cciVals prices : List α) : Prop :=
  divergenceRuleUsing (tripwire cciVals prices) engine rule prev cur history =
    .error .attributeError

instance (engine : SignalRuleEngine) (rule : DivergenceRule) (prev cur : FrameState α)
    (history : List (FrameState α)) (cciVals prices : List α) :
    Decidable (rule.Calls engine prev cur history cciVals prices) :=
  inferInstanceAs (Decidable (_ = _))

/-- The heights are there and the crossing of condition (1) as well. -/
def DivergenceRule.Reaches (engine : SignalRuleEngine) (rule : DivergenceRule)
    (prev cur : FrameState α) : Prop :=
  ∃ (bands : Bands α) (readings : Readings α), bands.Of prev cur ∧ readings.Of prev cur ∧
    (rule.law engine).starts bands

/-- Prices and CCI heights at one index come from one frame of the window. -/
def SignalRuleEngine.WindowAligned (engine : SignalRuleEngine)
    (history : List (FrameState α)) : Prop :=
  Aligned FrameState.cci5 FrameState.priceClose (engine.window history)

section Calls

variable {engine : SignalRuleEngine} {rule : DivergenceRule} {prev cur : FrameState α}
  {history : List (FrameState α)} {cciVals prices : List α}

theorem divergesUsing_tripwire {kind : Divergence} :
    engine.divergesUsing (tripwire cciVals prices) kind history = .error .attributeError ↔
      (engine.window history).filterMap FrameState.priceClose = prices ∧
        (engine.window history).filterMap FrameState.cci5 = cciVals ∧
          prices.length = cciVals.length := by
  unfold SignalRuleEngine.divergesUsing
  dsimp only
  split
  next same =>
    by_cases given : (engine.window history).filterMap FrameState.cci5 = cciVals ∧
        (engine.window history).filterMap FrameState.priceClose = prices
    · have raised : tripwire cciVals prices ((engine.window history).filterMap FrameState.cci5)
          ((engine.window history).filterMap FrameState.priceClose) = .error .attributeError :=
        if_pos given
      rw [raised]
      refine iff_of_true rfl ⟨given.2, given.1, ?_⟩
      rw [← given.1, ← given.2]
      exact same
    · obtain ⟨found, run⟩ := divergence_total
        ((engine.window history).filterMap FrameState.cci5)
        ((engine.window history).filterMap FrameState.priceClose)
      have returned : tripwire cciVals prices
          ((engine.window history).filterMap FrameState.cci5)
          ((engine.window history).filterMap FrameState.priceClose) = .ok found :=
        (if_neg given).trans run
      rw [returned]
      exact iff_of_false (fun raised => by cases raised) fun both => given ⟨both.2.1, both.1⟩
  next other =>
    refine iff_of_false (fun raised => by cases raised) fun both => other ?_
    rw [both.1, both.2.1]
    exact both.2.2

/-- **Calls** of `divergence`: once the rule gets there and the lengths agree, on what is there. -/
theorem DivergenceRule.calls_iff :
    rule.Calls engine prev cur history cciVals prices ↔
      rule.Reaches engine prev cur ∧
        (engine.window history).filterMap FrameState.priceClose = prices ∧
          (engine.window history).filterMap FrameState.cci5 = cciVals ∧
            prices.length = cciVals.length := by
  unfold DivergenceRule.Calls divergenceRuleUsing
  by_cases seen : ∃ bands : Bands α, bands.Of prev cur
  · obtain ⟨bands, read⟩ := seen
    rw [readBands_of _ read]
    dsimp only
    by_cases starts : (rule.law engine).starts bands
    · have cond1 : (crossed (bands.pb2.get rule.motional) (bands.pb1.get rule.guarding)
          (bands.b2.get rule.motional) (bands.b1.get rule.guarding) == some rule.side) = true :=
        beq_iff_eq.mpr starts
      rw [cond1, Bool.not_true, if_neg Bool.false_ne_true]
      by_cases heights : ∃ readings : Readings α, readings.Of prev cur
      · obtain ⟨readings, readAlso⟩ := heights
        rw [readReadings_of _ readAlso, ← divergesUsing_tripwire]
        refine Iff.trans ?_ (and_iff_right ⟨bands, readings, read, readAlso, starts⟩).symm
        cases engine.divergesUsing (tripwire cciVals prices) rule.kind history with
        | error e =>
            refine ⟨fun raised => ?_, fun raised => ?_⟩ <;> cases raised <;> rfl
        | ok cond4 =>
            exact iff_of_false (fun raised => by cases raised) fun raised => by cases raised
      · rw [readReadings_stuck _ (not_exists.mp heights)]
        refine iff_of_false (fun raised => by cases raised) fun both => heights ?_
        obtain ⟨_, readings, _, readAlso, _⟩ := both.1
        exact ⟨readings, readAlso⟩
    · have cond1 : (crossed (bands.pb2.get rule.motional) (bands.pb1.get rule.guarding)
          (bands.b2.get rule.motional) (bands.b1.get rule.guarding) == some rule.side) = false :=
        beq_eq_false_iff_ne.mpr starts
      rw [cond1, Bool.not_false, if_pos rfl]
      refine iff_of_false (fun raised => by cases raised) fun both => starts ?_
      obtain ⟨others, _, readOthers, _, begun⟩ := both.1
      rw [← read.unique readOthers]
      exact begun
  · rw [readBands_blind _ (not_exists.mp seen)]
    refine iff_of_false (fun raised => by cases raised) fun both => seen ?_
    obtain ⟨bands, _, read, _⟩ := both.1
    exact ⟨bands, read⟩

end Calls

/-- What an aligned call compares at an index was seen on one frame. -/
theorem DivergenceRule.Calls.same_frame {engine : SignalRuleEngine} {rule : DivergenceRule}
    {prev cur : FrameState α} {history : List (FrameState α)} {cciVals prices : List α} {k : ℕ}
    {cci price : α} (calls : rule.Calls engine prev cur history cciVals prices)
    (aligned : engine.WindowAligned history) (cciAt : cciVals[k]? = some cci)
    (priceAt : prices[k]? = some price) :
    ∃ frame ∈ engine.window history, frame.cci5 = some cci ∧ frame.priceClose = some price := by
  obtain ⟨_, rfl, rfl, _⟩ := calls_iff.mp calls
  exact aligned.same cciAt priceAt

/-- **Alignment.**  Every call compares heights of the same frames exactly when, once the rule
gets that far with as many prices as CCI heights, no frame of the window lacks only one of the
two. -/
theorem DivergenceRule.callsAligned_iff (engine : SignalRuleEngine) (rule : DivergenceRule)
    (prev cur : FrameState α) (history : List (FrameState α)) :
    (∀ cciVals prices, rule.Calls engine prev cur history cciVals prices →
        engine.WindowAligned history) ↔
      (rule.Reaches engine prev cur →
        (engine.window history).countP (·.priceClose.isSome) =
            (engine.window history).countP (·.cci5.isSome) →
          ∀ frame ∈ engine.window history, frame.cci5.isSome = frame.priceClose.isSome) := by
  have lengths : (engine.window history).countP (·.priceClose.isSome) =
      (engine.window history).countP (·.cci5.isSome) ↔
        ((engine.window history).filterMap FrameState.cci5).length =
          ((engine.window history).filterMap FrameState.priceClose).length := by
    rw [List.length_filterMap_eq_countP, List.length_filterMap_eq_countP]
    exact eq_comm
  rw [lengths]
  refine ⟨fun aligned reaches same => ?_, fun paired cciVals prices calls => ?_⟩
  · exact (aligned_iff same).mp (aligned _ _ (calls_iff.mpr ⟨reaches, rfl, rfl, same.symm⟩))
  · obtain ⟨reaches, rfl, rfl, same⟩ := calls_iff.mp calls
    exact (aligned_iff same.symm).mpr (paired reaches same.symm)

/-- 2M rises above 1U; the older frame lacks the price and the newer one the CCI. -/
def mispairedFrames : List (FrameState ℚ) :=
  [{ band1 := some ⟨3, 7, 30⟩, band2 := some ⟨1, 5, 40⟩, ma4 := some 5, cci5 := some 9,
     rsi6 := some 4, priceClose := none, priceBand7 := none, priceBand8 := none },
    { band1 := some ⟨3, 7, 30⟩, band2 := some ⟨1, 2, 40⟩, ma4 := some 5, cci5 := none,
      rsi6 := some 2, priceClose := some 1, priceBand7 := none, priceBand8 := none }]

theorem not_callsAligned_mispaired :
    ¬ ∀ cciVals prices, baseSell.Calls ⟨12⟩ mispairedFrames[0] mispairedFrames[1] mispairedFrames
      cciVals prices → SignalRuleEngine.WindowAligned ⟨12⟩ mispairedFrames := by
  intro aligned
  have calls : baseSell.Calls ⟨12⟩ mispairedFrames[0] mispairedFrames[1] mispairedFrames
      [9] [1] := by decide +kernel
  exact absurd (aligned [9] [1] calls 0 0 1 rfl rfl) (by decide)

end Aegis.Rulebook
