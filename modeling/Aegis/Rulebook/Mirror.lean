import Mathlib.Algebra.Order.Group.MinMax
import Mathlib.Algebra.Order.Group.Unbundled.Int
import Aegis.Rulebook.Missing

/-!
# The mirrored chart

Each BUY rule is written as the mirror of a SELL rule.  On a chart turned upside down every
condition of a rule becomes the same condition of its mirror, except for one:
`divergence` tells a bearish window first, also when the window is bullish as well.
`SignalRuleEngine.mirrorSymmetric_iff` says exactly when that matters.
-/

namespace Aegis.Rulebook

open Aegis.Lib

/-! ## The two kinds of divergence -/

section Swings

variable {α : Type} [LinearOrder α]

/-- The later half of the series has the highest point on screen. -/
def NewHigh (series : List α) : Prop :=
  ∃ late early, minOf (series.drop (series.length / 2)) = .ok late ∧
    minOf (series.take (series.length / 2)) = .ok early ∧ late < early

/-- The later half of the series has the lowest point on screen. -/
def NewLow (series : List α) : Prop :=
  ∃ late early, maxOf (series.drop (series.length / 2)) = .ok late ∧
    maxOf (series.take (series.length / 2)) = .ok early ∧ early < late

def NewExtreme : Divergence → List α → Prop
  | .bearish => NewHigh
  | .bullish => NewLow

/-- The window shows the divergence: the price makes a new extreme that the indicator does
not confirm. -/
structure Shows (kind : Divergence) (indicatorSeries priceSeries : List α) : Prop where
  long : 4 ≤ priceSeries.length
  same : indicatorSeries.length = priceSeries.length
  price : NewExtreme kind priceSeries
  unconfirmed : ¬ NewExtreme kind indicatorSeries

theorem newHigh_iff {series : List α} {late early : α}
    (lateAt : minOf (series.drop (series.length / 2)) = .ok late)
    (earlyAt : minOf (series.take (series.length / 2)) = .ok early) :
    NewHigh series ↔ late < early := by
  constructor
  · intro held
    rcases held with ⟨_, _, lateAlso, earlyAlso, below⟩
    cases lateAt.symm.trans lateAlso
    cases earlyAt.symm.trans earlyAlso
    exact below
  · exact fun below => ⟨late, early, lateAt, earlyAt, below⟩

theorem newLow_iff {series : List α} {late early : α}
    (lateAt : maxOf (series.drop (series.length / 2)) = .ok late)
    (earlyAt : maxOf (series.take (series.length / 2)) = .ok early) :
    NewLow series ↔ early < late := by
  constructor
  · intro held
    rcases held with ⟨_, _, lateAlso, earlyAlso, below⟩
    cases lateAt.symm.trans lateAlso
    cases earlyAt.symm.trans earlyAlso
    exact below
  · exact fun below => ⟨late, early, lateAt, earlyAt, below⟩

open scoped Classical in
/-- What `divergence` answers: the bearish kind first. -/
theorem divergence_eq (indicatorSeries priceSeries : List α) :
    divergence indicatorSeries priceSeries =
      .ok (if Shows .bearish indicatorSeries priceSeries then some .bearish
        else if Shows .bullish indicatorSeries priceSeries then some .bullish else none) := by
  by_cases guard : priceSeries.length < 4 ∨ indicatorSeries.length ≠ priceSeries.length
  · have hidden (kind : Divergence) : ¬ Shows kind indicatorSeries priceSeries := by
      intro held
      rcases held with ⟨long, same, _⟩
      exact guard.elim (not_lt.mpr long) (fun other => other same)
    rw [if_neg (hidden .bearish), if_neg (hidden .bullish)]
    exact if_pos guard
  · obtain ⟨long, same⟩ := not_or.mp guard
    rw [not_lt] at long
    rw [not_not] at same
    obtain ⟨_, _, _, _, minPriceLate, minPriceEarly, maxPriceLate, maxPriceEarly⟩ :=
      extremes_total priceSeries long
    obtain ⟨_, _, _, _, minIndLate, minIndEarly, maxIndLate, maxIndEarly⟩ :=
      extremes_total indicatorSeries (long.trans_eq same.symm)
    have bearish : Shows .bearish indicatorSeries priceSeries ↔
        NewHigh priceSeries ∧ ¬ NewHigh indicatorSeries :=
      ⟨fun shows => ⟨shows.price, shows.unconfirmed⟩, fun both => ⟨long, same, both.1, both.2⟩⟩
    have bullish : Shows .bullish indicatorSeries priceSeries ↔
        NewLow priceSeries ∧ ¬ NewLow indicatorSeries :=
      ⟨fun shows => ⟨shows.price, shows.unconfirmed⟩, fun both => ⟨long, same, both.1, both.2⟩⟩
    rw [bearish, bullish, newHigh_iff minPriceLate minPriceEarly,
      newHigh_iff minIndLate minIndEarly, newLow_iff maxPriceLate maxPriceEarly,
      newLow_iff maxIndLate maxIndEarly]
    rw [same] at minIndLate minIndEarly maxIndLate maxIndEarly
    simp only [divergence, guard, if_false, minPriceLate, minPriceEarly, minIndLate, minIndEarly,
      maxPriceLate, maxPriceEarly, maxIndLate, maxIndEarly, ok_bind, Bool.and_eq_true,
      decide_eq_true_eq, Bool.not_eq_true', decide_eq_false_iff_not, gt_iff_lt]
    split
    · rfl
    · split <;> rfl

/-- The window of the history shows the divergence. -/
def SignalRuleEngine.Shows (engine : SignalRuleEngine) (kind : Divergence)
    (history : List (FrameState α)) : Prop :=
  Rulebook.Shows kind ((engine.window history).filterMap (·.cci5))
    ((engine.window history).filterMap (·.priceClose))

/-- A bullish window counts as such only when it is not bearish as well. -/
theorem SignalRuleEngine.diverges_iff (engine : SignalRuleEngine) (kind : Divergence)
    (history : List (FrameState α)) :
    engine.diverges kind history = .ok true ↔
      engine.Shows kind history ∧ (kind = .bullish → ¬ engine.Shows .bearish history) := by
  unfold diverges SignalRuleEngine.Shows
  dsimp only
  generalize (engine.window history).filterMap (·.cci5) = indicators
  generalize (engine.window history).filterMap (·.priceClose) = prices
  split
  next same =>
    rw [divergence_eq, ok_bind]
    by_cases bearish : Rulebook.Shows .bearish indicators prices
    · rw [if_pos bearish]
      cases kind with
      | bearish => exact iff_of_true rfl ⟨bearish, nofun⟩
      | bullish => exact iff_of_false nofun fun both => both.2 rfl bearish
    · rw [if_neg bearish]
      by_cases bullish : Rulebook.Shows .bullish indicators prices
      · rw [if_pos bullish]
        cases kind with
        | bearish => exact iff_of_false nofun fun both => bearish both.1
        | bullish => exact iff_of_true rfl ⟨bullish, fun _ => bearish⟩
      · rw [if_neg bullish]
        cases kind with
        | bearish => exact iff_of_false nofun fun both => bearish both.1
        | bullish => exact iff_of_false nofun fun both => bullish both.1
  next other => exact iff_of_false nofun fun both => other both.1.same.symm

end Swings

/-! ## Upside down -/

def Side.mirror : Side → Side
  | .above => .below
  | .below => .above

def Signal.mirror : Signal → Signal
  | .buy => .sell
  | .sell => .buy

def Divergence.mirror : Divergence → Divergence
  | .bearish => .bullish
  | .bullish => .bearish

def Line.mirror : Line → Line
  | .U => .L
  | .M => .M
  | .L => .U

/-- The names of the rules with those of their mirrors. -/
def mirroredNames : List (String × String) :=
  [("base_sell", "base_buy"), ("base_buy", "base_sell"),
    ("uptrend_2u_sell", "downtrend_2l_buy"), ("downtrend_2l_buy", "uptrend_2u_sell"),
    ("price_filter_sell", "price_filter_buy"), ("price_filter_buy", "price_filter_sell"),
    ("no_rule_matched", "no_rule_matched")]

section Frames

variable {α : Type} [Neg α]

def Band.mirror (band : Band α) : Band α := ⟨-band.L, -band.M, -band.U⟩

/-- Every height is negated, and the outer lines of each band change places. -/
def FrameState.mirror (frame : FrameState α) : FrameState α where
  band1 := frame.band1.map Band.mirror
  band2 := frame.band2.map Band.mirror
  ma4 := frame.ma4.map (-·)
  cci5 := frame.cci5.map (-·)
  rsi6 := frame.rsi6.map (-·)
  priceClose := frame.priceClose.map (-·)
  priceBand7 := frame.priceBand7.map Band.mirror
  priceBand8 := frame.priceBand8.map Band.mirror

def Bands.mirror (bands : Bands α) : Bands α :=
  ⟨bands.pb1.mirror, bands.pb2.mirror, bands.b1.mirror, bands.b2.mirror⟩

def Readings.mirror (readings : Readings α) : Readings α :=
  ⟨-readings.ma4, -readings.prevRsi6, -readings.rsi6⟩

@[simp]
theorem Band.get_mirror (band : Band α) (line : Line) :
    band.mirror.get line = -band.get line.mirror := by
  cases line <;> rfl

end Frames

/-- The result that the mirrored chart should give. -/
structure Mirrored (result other : RuleResult) : Prop where
  fired : other.fired = result.fired
  signal : other.signal = result.signal.map Signal.mirror
  ruleName : (result.ruleName, other.ruleName) ∈ mirroredNames

theorem Signal.mirror_mirror (signal : Signal) : signal.mirror.mirror = signal := by
  cases signal <;> rfl

section Primitives

variable {α : Type} [AddCommGroup α] [LinearOrder α] [IsOrderedAddMonoid α]

theorem sideOf_neg {value level : α} (apart : value ≠ level) :
    sideOf (-value) (-level) = (sideOf value level).mirror := by
  simp only [sideOf, neg_lt_neg_iff]
  rcases lt_or_gt_of_ne apart with below | above
  · rw [if_neg below.not_gt, if_pos below]
    rfl
  · rw [if_pos above, if_neg above.not_gt]
    rfl

theorem crossed_neg {prevValue prevLevel value level : α} (prevApart : prevValue ≠ prevLevel)
    (apart : value ≠ level) :
    crossed (-prevValue) (-prevLevel) (-value) (-level) =
      (crossed prevValue prevLevel value level).map Side.mirror := by
  unfold crossed
  rw [sideOf_neg prevApart, sideOf_neg apart]
  cases sideOf prevValue prevLevel <;> cases sideOf value level <;> rfl

theorem isBetween_neg (value low high : α) :
    isBetween (-value) (-low) (-high) = isBetween value low high := by
  simp only [isBetween, min_neg_neg, max_neg_neg, neg_le_neg_iff]
  exact decide_eq_decide.mpr and_comm

theorem foldl_min_neg (xs : List α) (x : α) :
    (xs.map (-·)).foldl min (-x) = -xs.foldl max x := by
  induction xs generalizing x with
  | nil => rfl
  | cons y ys ih =>
      rw [List.map_cons, List.foldl_cons, min_neg_neg]
      exact ih _

theorem minOf_neg (xs : List α) : minOf (xs.map (-·)) = (-·) <$> maxOf xs := by
  cases xs with
  | nil => rfl
  | cons x xs => exact congrArg Except.ok (foldl_min_neg xs x)

theorem newHigh_neg (series : List α) : NewHigh (series.map (-·)) ↔ NewLow series := by
  unfold NewHigh NewLow
  rw [List.length_map, ← List.map_drop, ← List.map_take, minOf_neg, minOf_neg]
  constructor
  · intro held
    rcases held with ⟨_, _, lateAt, earlyAt, below⟩
    obtain ⟨late, lateAlso, rfl⟩ := map_eq_ok.mp lateAt
    obtain ⟨early, earlyAlso, rfl⟩ := map_eq_ok.mp earlyAt
    exact ⟨late, early, lateAlso, earlyAlso, neg_lt_neg_iff.mp below⟩
  · intro held
    rcases held with ⟨late, early, lateAt, earlyAt, above⟩
    rw [lateAt, earlyAt]
    exact ⟨-late, -early, rfl, rfl, neg_lt_neg above⟩

theorem newLow_neg (series : List α) : NewLow (series.map (-·)) ↔ NewHigh series := by
  rw [← newHigh_neg, List.map_map]
  simp

theorem newExtreme_neg (kind : Divergence) (series : List α) :
    NewExtreme kind.mirror (series.map (-·)) ↔ NewExtreme kind series := by
  cases kind with
  | bearish => exact newLow_neg series
  | bullish => exact newHigh_neg series

theorem shows_neg (kind : Divergence) (indicatorSeries priceSeries : List α) :
    Shows kind.mirror (indicatorSeries.map (-·)) (priceSeries.map (-·)) ↔
      Shows kind indicatorSeries priceSeries := by
  constructor
  · intro shows
    have long := shows.long
    have same := shows.same
    rw [List.length_map] at long
    rw [List.length_map, List.length_map] at same
    exact ⟨long, same, (newExtreme_neg kind _).mp shows.price,
      fun confirmed => shows.unconfirmed ((newExtreme_neg kind _).mpr confirmed)⟩
  · intro shows
    have long : 4 ≤ (priceSeries.map (-·)).length := shows.long.trans_eq (List.length_map _).symm
    have same : (indicatorSeries.map (-·)).length = (priceSeries.map (-·)).length := by
      rw [List.length_map, List.length_map]
      exact shows.same
    exact ⟨long, same, (newExtreme_neg kind _).mpr shows.price,
      fun confirmed => shows.unconfirmed ((newExtreme_neg kind _).mp confirmed)⟩

theorem SignalRuleEngine.shows_mirror (engine : SignalRuleEngine) (kind : Divergence)
    (history : List (FrameState α)) :
    engine.Shows kind.mirror (history.map FrameState.mirror) ↔ engine.Shows kind history := by
  have prices (frames : List (FrameState α)) :
      (frames.map FrameState.mirror).filterMap (·.priceClose) =
        (frames.filterMap (·.priceClose)).map (-·) := by
    rw [List.filterMap_map, List.map_filterMap]
    rfl
  have ccis (frames : List (FrameState α)) :
      (frames.map FrameState.mirror).filterMap (·.cci5) =
        (frames.filterMap (·.cci5)).map (-·) := by
    rw [List.filterMap_map, List.map_filterMap]
    rfl
  unfold SignalRuleEngine.Shows SignalRuleEngine.window
  rw [← map_sliceFrom, prices, ccis]
  exact shows_neg kind _ _

theorem priceOutside_mirror (side : Side) (cur : FrameState α) :
    priceOutside side.mirror cur.mirror = priceOutside side cur := by
  unfold priceOutside FrameState.mirror
  cases cur.priceBand7 with
  | none => rfl
  | some pb7 =>
      cases cur.priceBand8 with
      | none => rfl
      | some pb8 =>
          cases cur.priceClose with
          | none => rfl
          | some price =>
              cases side with
              | above =>
                  change decide (-price > max (-pb7.U) (-pb8.U)) = decide (price < min pb7.U pb8.U)
                  simp only [max_neg_neg, gt_iff_lt, neg_lt_neg_iff]
              | below =>
                  change decide (-price < min (-pb7.L) (-pb8.L)) = decide (price > max pb7.L pb8.L)
                  simp only [min_neg_neg, gt_iff_lt, neg_lt_neg_iff]

end Primitives

/-! ## Mirrored rules -/

section Rules

variable {α : Type} [LinearOrder α]

/-- Conditions (1) to (3) of a divergence rule. -/
structure DivergenceRule.StandsOn (rule : DivergenceRule) (bands : Bands α)
    (readings : Readings α) : Prop where
  first : crossed (bands.pb2.get rule.motional) (bands.pb1.get rule.guarding)
    (bands.b2.get rule.motional) (bands.b1.get rule.guarding) = some rule.side
  second : isBetween readings.ma4 bands.b1.M (bands.b1.get rule.guarding) = true ∨
    sideOf readings.ma4 (bands.b1.get rule.guarding) = rule.side
  third : crossed readings.prevRsi6 (bands.pb1.get rule.guarding) readings.rsi6
      (bands.b1.get rule.guarding) = some rule.side ∨
    rule.rsiMayHold = true ∧ sideOf readings.rsi6 (bands.b1.get rule.guarding) = rule.side

/-- What two divergence rules that mirror each other have to do with each other. -/
structure DivergenceRule.Mirrors (rule other : DivergenceRule) : Prop where
  motional : other.motional = rule.motional.mirror
  guarding : other.guarding = rule.guarding.mirror
  side : other.side = rule.side.mirror
  rsiMayHold : other.rsiMayHold = rule.rsiMayHold
  kind : other.kind = rule.kind.mirror

/-- No height equals the one that a rule asks on which side of it it is. -/
structure Distinct (bands : Bands α) (readings : Readings α) : Prop where
  motional : ∀ lines ∈ [(Line.M, Line.U), (.M, .L), (.U, .U), (.L, .L), (.M, .M)],
    bands.pb2.get lines.1 ≠ bands.pb1.get lines.2 ∧ bands.b2.get lines.1 ≠ bands.b1.get lines.2
  rsi6 : ∀ line ∈ [Line.U, .L],
    readings.prevRsi6 ≠ bands.pb1.get line ∧ readings.rsi6 ≠ bands.b1.get line
  ma4 : ∀ line ∈ [Line.U, .L], readings.ma4 ≠ bands.b1.get line

variable {engine : SignalRuleEngine} {prev cur : FrameState α} {history : List (FrameState α)}
  {bands : Bands α} {readings : Readings α} {rule other : DivergenceRule}

theorem DivergenceRule.applies_iff (read : bands.Of prev cur) (readAlso : readings.Of prev cur) :
    (rule.law engine).Applies prev cur history ↔
      rule.StandsOn bands readings ∧ engine.diverges rule.kind history = .ok true := by
  rw [Law.applies_iff read readAlso]
  constructor
  · intro held
    rcases held with ⟨first, second, third, fourth⟩
    exact ⟨⟨first, second, third⟩, fourth⟩
  · intro held
    rcases held with ⟨stands, fourth⟩
    exact ⟨stands.first, stands.second, stands.third, fourth⟩

end Rules

section MirroredRules

variable {α : Type} [AddCommGroup α] [LinearOrder α] [IsOrderedAddMonoid α]
  {engine : SignalRuleEngine} {prev cur : FrameState α} {history : List (FrameState α)}
  {bands : Bands α} {readings : Readings α} {rule other : DivergenceRule}

omit [LinearOrder α] [IsOrderedAddMonoid α] in
theorem Bands.Of.mirror (read : bands.Of prev cur) : bands.mirror.Of prev.mirror cur.mirror where
  pb1 := congrArg (Option.map Band.mirror) read.pb1
  pb2 := congrArg (Option.map Band.mirror) read.pb2
  b1 := congrArg (Option.map Band.mirror) read.b1
  b2 := congrArg (Option.map Band.mirror) read.b2

omit [LinearOrder α] [IsOrderedAddMonoid α] in
theorem Readings.Of.mirror (read : readings.Of prev cur) :
    readings.mirror.Of prev.mirror cur.mirror where
  ma4 := congrArg (Option.map (-·)) read.ma4
  prevRsi6 := congrArg (Option.map (-·)) read.prevRsi6
  rsi6 := congrArg (Option.map (-·)) read.rsi6

theorem map_mirror_eq_some {side : Option Side} {expected : Side} :
    side.map Side.mirror = some expected.mirror ↔ side = some expected := by
  rcases side with _ | _ | _ <;> cases expected <;> decide

theorem Side.mirror_inj {side expected : Side} :
    side.mirror = expected.mirror ↔ side = expected := by
  cases side <;> cases expected <;> decide

theorem Line.mirror_mirror (line : Line) : line.mirror.mirror = line := by
  cases line <;> rfl

/-- On distinct heights the mirrored rule stands on the mirrored chart. -/
theorem DivergenceRule.Mirrors.standsOn_iff (mirrors : rule.Mirrors other)
    (distinct : Distinct bands readings)
    (watched : (rule.motional, rule.guarding) ∈ [(Line.M, Line.U), (.M, .L), (.U, .U), (.L, .L),
      (.M, .M)])
    (outer : rule.guarding ∈ [Line.U, .L]) :
    other.StandsOn bands.mirror readings.mirror ↔ rule.StandsOn bands readings := by
  have crossing := distinct.motional _ watched
  have rsi6 := distinct.rsi6 _ outer
  have ma4 := distinct.ma4 _ outer
  have first : crossed (bands.mirror.pb2.get other.motional) (bands.mirror.pb1.get other.guarding)
      (bands.mirror.b2.get other.motional) (bands.mirror.b1.get other.guarding) =
        some other.side ↔
      crossed (bands.pb2.get rule.motional) (bands.pb1.get rule.guarding)
        (bands.b2.get rule.motional) (bands.b1.get rule.guarding) = some rule.side := by
    simp only [Bands.mirror, Band.get_mirror, mirrors.motional, mirrors.guarding, mirrors.side,
      Line.mirror_mirror, crossed_neg crossing.1 crossing.2, map_mirror_eq_some]
  have second : isBetween readings.mirror.ma4 bands.mirror.b1.M
        (bands.mirror.b1.get other.guarding) = true ∨
      sideOf readings.mirror.ma4 (bands.mirror.b1.get other.guarding) = other.side ↔
      isBetween readings.ma4 bands.b1.M (bands.b1.get rule.guarding) = true ∨
        sideOf readings.ma4 (bands.b1.get rule.guarding) = rule.side := by
    have middle : bands.mirror.b1.M = -bands.b1.M := rfl
    simp only [Bands.mirror, Readings.mirror, Band.get_mirror, mirrors.guarding, mirrors.side,
      Line.mirror_mirror, sideOf_neg ma4, Side.mirror_inj] at middle ⊢
    rw [middle, isBetween_neg]
  have third : crossed readings.mirror.prevRsi6 (bands.mirror.pb1.get other.guarding)
        readings.mirror.rsi6 (bands.mirror.b1.get other.guarding) = some other.side ∨
      other.rsiMayHold = true ∧
        sideOf readings.mirror.rsi6 (bands.mirror.b1.get other.guarding) = other.side ↔
      crossed readings.prevRsi6 (bands.pb1.get rule.guarding) readings.rsi6
          (bands.b1.get rule.guarding) = some rule.side ∨
        rule.rsiMayHold = true ∧
          sideOf readings.rsi6 (bands.b1.get rule.guarding) = rule.side := by
    simp only [Bands.mirror, Readings.mirror, Band.get_mirror, mirrors.guarding, mirrors.side,
      mirrors.rsiMayHold, Line.mirror_mirror, crossed_neg rsi6.1 rsi6.2, sideOf_neg rsi6.2,
      map_mirror_eq_some, Side.mirror_inj]
  constructor
  · exact fun stands => ⟨first.mp stands.first, second.mp stands.second, third.mp stands.third⟩
  · exact fun stands => ⟨first.mpr stands.first, second.mpr stands.second, third.mpr stands.third⟩

/-- What two price filters that mirror each other have to do with each other. -/
structure PriceFilterRule.Mirrors (rule other : PriceFilterRule) : Prop where
  midSide : other.midSide = rule.midSide.mirror
  guarding : other.guarding = rule.guarding.mirror
  outerSide : other.outerSide = rule.outerSide.mirror

theorem PriceFilterRule.Mirrors.applies_iff {rule other : PriceFilterRule}
    (mirrors : rule.Mirrors other) (read : bands.Of prev cur) (readAlso : readings.Of prev cur)
    (distinct : Distinct bands readings) (outer : rule.guarding ∈ [Line.U, .L]) :
    other.law.Applies prev.mirror cur.mirror (history.map FrameState.mirror) ↔
      rule.law.Applies prev cur history := by
  have crossing : bands.pb2.M ≠ bands.pb1.M ∧ bands.b2.M ≠ bands.b1.M :=
    distinct.motional (.M, .M) (by decide)
  have rsi6 := distinct.rsi6 _ outer
  have starts : other.law.starts bands.mirror ↔ rule.law.starts bands := by
    change crossed (-bands.pb2.M) (-bands.pb1.M) (-bands.b2.M) (-bands.b1.M) =
      some other.midSide ↔ crossed bands.pb2.M bands.pb1.M bands.b2.M bands.b1.M =
        some rule.midSide
    rw [crossed_neg crossing.1 crossing.2, mirrors.midSide, map_mirror_eq_some]
  have second : isBetween (-readings.ma4) (-bands.b1.M) (-bands.b1.L) = true ∨
      isBetween (-readings.ma4) (-bands.b1.M) (-bands.b1.U) = true ↔
      isBetween readings.ma4 bands.b1.M bands.b1.U = true ∨
        isBetween readings.ma4 bands.b1.M bands.b1.L = true := by
    rw [isBetween_neg, isBetween_neg, or_comm]
  have third : crossed readings.mirror.prevRsi6 (bands.mirror.pb1.get other.guarding)
        readings.mirror.rsi6 (bands.mirror.b1.get other.guarding) = some other.outerSide ↔
      crossed readings.prevRsi6 (bands.pb1.get rule.guarding) readings.rsi6
        (bands.b1.get rule.guarding) = some rule.outerSide := by
    simp only [Bands.mirror, Readings.mirror, Band.get_mirror, mirrors.guarding,
      mirrors.outerSide, Line.mirror_mirror, crossed_neg rsi6.1 rsi6.2, map_mirror_eq_some]
  have fourth : priceOutside other.outerSide cur.mirror = priceOutside rule.outerSide cur := by
    rw [mirrors.outerSide, priceOutside_mirror]
  rw [Law.applies_iff read.mirror readAlso.mirror, Law.applies_iff read readAlso, starts]
  refine and_congr_right fun _ => and_congr second (and_congr third ?_)
  rw [fourth]

end MirroredRules

/-! ## Mirrored decisions -/

section Pairs

variable {α : Type} {prev cur prev' cur' : FrameState α} {history history' : List (FrameState α)}

/-- Two laws that change places between two charts, and exclude each other. -/
structure Law.Opposed (prev cur : FrameState α) (history : List (FrameState α))
    (prev' cur' : FrameState α) (history' : List (FrameState α)) (law other : Law α) : Prop where
  signal : other.signal = law.signal.mirror
  name : (law.name, other.name) ∈ mirroredNames
  there : other.Applies prev' cur' history' ↔ law.Applies prev cur history
  back : law.Applies prev' cur' history' ↔ other.Applies prev cur history
  apart : law.Applies prev cur history → ¬ other.Applies prev cur history

/-- The answers of the two charts: none, or two laws that mirror each other. -/
def Law.Paired : Option (Law α) → Option (Law α) → Prop
  | none, none => True
  | some law, some other =>
      other.signal = law.signal.mirror ∧ (law.name, other.name) ∈ mirroredNames
  | _, _ => False

/-- A rulebook of opposed pairs gives paired answers, in whatever order the pairs stand. -/
theorem Law.first_paired (pairs : List (Law α × Law α))
    (opposed : ∀ pair ∈ pairs,
      Law.Opposed prev cur history prev' cur' history' pair.1 pair.2) :
    Law.Paired (Law.first (pairs.flatMap fun pair => [pair.1, pair.2]) prev cur history)
      (Law.first (pairs.flatMap fun pair => [pair.1, pair.2]) prev' cur' history') := by
  induction pairs with
  | nil => exact trivial
  | cons pair pairs ih =>
      have swaps := opposed pair (.head _)
      rw [List.flatMap_cons, List.cons_append, List.cons_append, List.nil_append]
      by_cases left : pair.1.Applies prev cur history
      · rw [Law.first_cons_of_applies left,
          Law.first_cons_of_not (swaps.back.not.mpr (swaps.apart left)),
          Law.first_cons_of_applies (swaps.there.mpr left)]
        exact ⟨swaps.signal, swaps.name⟩
      · rw [Law.first_cons_of_not left]
        by_cases right : pair.2.Applies prev cur history
        · rw [Law.first_cons_of_applies right, Law.first_cons_of_applies (swaps.back.mpr right)]
          have swapped : ∀ names ∈ mirroredNames, names.swap ∈ mirroredNames := by decide
          exact ⟨by rw [swaps.signal, Signal.mirror_mirror], swapped _ swaps.name⟩
        · rw [Law.first_cons_of_not right, Law.first_cons_of_not (swaps.back.not.mpr right),
            Law.first_cons_of_not (swaps.there.not.mpr left)]
          exact ih fun later member => opposed later (.tail _ member)

theorem Law.Paired.mirrored {law other : Option (Law α)} {result answer : RuleResult}
    (paired : Law.Paired law other) (answers : Answers law result)
    (answersAlso : Answers other answer) : Mirrored result answer := by
  cases law with
  | none =>
      cases other with
      | none =>
          obtain ⟨fired, signal, name⟩ := answers
          obtain ⟨firedAlso, signalAlso, nameAlso⟩ := answersAlso
          refine ⟨firedAlso.trans fired.symm, ?_, ?_⟩
          · rw [signal, signalAlso]
            rfl
          · rw [name, nameAlso]
            decide
      | some other => exact paired.elim
  | some law =>
      cases other with
      | none => exact paired.elim
      | some other =>
          obtain ⟨fired, signal, name⟩ := answers
          obtain ⟨firedAlso, signalAlso, nameAlso⟩ := answersAlso
          refine ⟨firedAlso.trans fired.symm, ?_, ?_⟩
          · rw [signal, signalAlso, paired.1]
            rfl
          · rw [name, nameAlso]
            exact paired.2

end Pairs

section Decisions

variable {α : Type} [LinearOrder α] {engine : SignalRuleEngine} {prev cur : FrameState α}
  {history : List (FrameState α)} {bands : Bands α} {readings : Readings α} {result : RuleResult}

/-- Some divergence rule has its conditions (1) to (3). -/
def SomeStandsOn (rules : List DivergenceRule) (bands : Bands α)
    (readings : Readings α) : Prop :=
  ∃ rule ∈ rules, rule.StandsOn bands readings

/-- In a bearish window neither bullish rule answers. -/
theorem not_bullish_of_bearish (shown : engine.Shows .bearish history)
    (answers : Answers (Law.first engine.laws prev cur history) result) :
    result.ruleName ∉ [baseBuy.name, downtrend2lBuy.name] := by
  have quiet (rule : DivergenceRule) (kind : rule.kind = .bullish) :
      ¬ (rule.law engine).Applies prev cur history := by
    intro held
    rcases held with ⟨_, _, _, _, _, _, _, diverges⟩
    rw [kind, SignalRuleEngine.diverges_iff] at diverges
    exact diverges.2 rfl shown
  cases first : Law.first engine.laws prev cur history with
  | none =>
      rw [first] at answers
      rw [answers.2.2]
      decide
  | some law =>
      rw [first] at answers
      rw [answers.2.2]
      obtain ⟨member, applies⟩ := Law.of_first_eq_some first
      simp only [SignalRuleEngine.laws, List.mem_cons, List.not_mem_nil, or_false] at member
      rcases member with rfl | rfl | rfl | rfl | rfl | rfl
      · exact (by decide : baseSell.name ∉ [baseBuy.name, downtrend2lBuy.name])
      · exact (quiet baseBuy rfl applies).elim
      · exact (by decide : uptrend2uSell.name ∉ [baseBuy.name, downtrend2lBuy.name])
      · exact (quiet downtrend2lBuy rfl applies).elim
      · exact (by decide : priceFilterSell.name ∉ [baseBuy.name, downtrend2lBuy.name])
      · exact (by decide : priceFilterBuy.name ∉ [baseBuy.name, downtrend2lBuy.name])

/-- In a bearish window a bearish rule that stands answers before the others. -/
theorem bearish_of_standsOn (read : bands.Of prev cur) (readAlso : readings.Of prev cur)
    (shown : engine.Shows .bearish history)
    (stands : SomeStandsOn [baseSell, uptrend2uSell] bands readings)
    (answers : Answers (Law.first engine.laws prev cur history) result) :
    result.ruleName ∈ [baseSell.name, uptrend2uSell.name] := by
  have applies (rule : DivergenceRule) (kind : rule.kind = .bearish)
      (ready : rule.StandsOn bands readings) : (rule.law engine).Applies prev cur history := by
    rw [DivergenceRule.applies_iff read readAlso, kind, SignalRuleEngine.diverges_iff]
    exact ⟨ready, shown, nofun⟩
  have quiet : ¬ (baseBuy.law engine).Applies prev cur history := by
    rw [DivergenceRule.applies_iff read readAlso, SignalRuleEngine.diverges_iff]
    exact fun both => both.2.2 rfl shown
  by_cases first : (baseSell.law engine).Applies prev cur history
  · rw [SignalRuleEngine.laws, Law.first_cons_of_applies first] at answers
    rw [answers.2.2]
    exact .head _
  · obtain ⟨rule, member, ready⟩ := stands
    rcases List.mem_pair.mp member with rfl | rfl
    · exact (first (applies baseSell rfl ready)).elim
    · rw [SignalRuleEngine.laws, Law.first_cons_of_not first, Law.first_cons_of_not quiet,
        Law.first_cons_of_applies (applies uptrend2uSell rfl ready)] at answers
      rw [answers.2.2]
      exact .tail _ (.head _)

/-- The divergence rules, the selling ones first. -/
theorem someStandsOn_iff_or :
    SomeStandsOn [baseSell, baseBuy, uptrend2uSell, downtrend2lBuy] bands readings ↔
      SomeStandsOn [baseSell, uptrend2uSell] bands readings ∨
        SomeStandsOn [baseBuy, downtrend2lBuy] bands readings := by
  simp only [SomeStandsOn, List.exists_mem_cons_iff, List.not_mem_nil, false_and, exists_false,
    or_false]
  exact or_assoc.symm.trans or_or_or_comm

end Decisions

section MirroredDecisions

variable {α : Type} [AddCommGroup α] [LinearOrder α] [IsOrderedAddMonoid α]
  {engine : SignalRuleEngine} {prev cur : FrameState α} {history : List (FrameState α)}
  {bands : Bands α} {readings : Readings α} {rule other : DivergenceRule}

/-- The divergence rules, in pairs. -/
theorem divergence_mirrors :
    baseSell.Mirrors baseBuy ∧ baseBuy.Mirrors baseSell ∧
      uptrend2uSell.Mirrors downtrend2lBuy ∧ downtrend2lBuy.Mirrors uptrend2uSell :=
  ⟨⟨rfl, rfl, rfl, rfl, rfl⟩, ⟨rfl, rfl, rfl, rfl, rfl⟩, ⟨rfl, rfl, rfl, rfl, rfl⟩,
    ⟨rfl, rfl, rfl, rfl, rfl⟩⟩

theorem someStandsOn_mirror (distinct : Distinct bands readings) :
    SomeStandsOn [baseSell, uptrend2uSell] bands.mirror readings.mirror ↔
      SomeStandsOn [baseBuy, downtrend2lBuy] bands readings := by
  simp only [SomeStandsOn, List.exists_mem_cons_iff, List.not_mem_nil, false_and, exists_false,
    or_false]
  exact or_congr
    (divergence_mirrors.2.1.standsOn_iff distinct (by decide) (by decide))
    (divergence_mirrors.2.2.2.standsOn_iff distinct (by decide) (by decide))

/-- Where only one kind of divergence is shown the pair is opposed. -/
theorem DivergenceRule.Mirrors.opposed (mirrors : rule.Mirrors other)
    (read : bands.Of prev cur) (readAlso : readings.Of prev cur)
    (kind : rule.kind = .bearish)
    (stands : other.StandsOn bands.mirror readings.mirror ↔ rule.StandsOn bands readings)
    (back : rule.StandsOn bands.mirror readings.mirror ↔ other.StandsOn bands readings)
    (plain : ¬ (engine.Shows .bearish history ∧ engine.Shows .bullish history ∧
      (rule.StandsOn bands readings ∨ other.StandsOn bands readings)))
    (signal : other.signal = rule.signal.mirror) (name : (rule.name, other.name) ∈ mirroredNames) :
    Law.Opposed prev cur history prev.mirror cur.mirror (history.map FrameState.mirror)
      (rule.law engine) (other.law engine) := by
  have otherKind : other.kind = .bullish := by
    rw [mirrors.kind, kind]
    rfl
  have bullish := engine.shows_mirror .bearish history
  have bearish := engine.shows_mirror .bullish history
  refine ⟨signal, name, ?_, ?_, ?_⟩
  · rw [DivergenceRule.applies_iff read.mirror readAlso.mirror,
      DivergenceRule.applies_iff read readAlso, stands, kind, otherKind,
      SignalRuleEngine.diverges_iff, SignalRuleEngine.diverges_iff]
    constructor
    · exact fun both => ⟨both.1, bullish.mp both.2.1, nofun⟩
    · refine fun both => ⟨both.1, bullish.mpr both.2.1, fun _ shown => plain ?_⟩
      exact ⟨both.2.1, bearish.mp shown, .inl both.1⟩
  · rw [DivergenceRule.applies_iff read.mirror readAlso.mirror,
      DivergenceRule.applies_iff read readAlso, back, kind, otherKind,
      SignalRuleEngine.diverges_iff, SignalRuleEngine.diverges_iff]
    constructor
    · refine fun both => ⟨both.1, bearish.mp both.2.1, fun _ shown => plain ?_⟩
      exact ⟨shown, bearish.mp both.2.1, .inr both.1⟩
    · exact fun both => ⟨both.1, bearish.mpr both.2.1, nofun⟩
  · rw [DivergenceRule.applies_iff read readAlso, DivergenceRule.applies_iff read readAlso, kind,
      otherKind, SignalRuleEngine.diverges_iff, SignalRuleEngine.diverges_iff]
    exact fun one both => both.2.2 rfl one.2.1

theorem priceFilter_opposed (read : bands.Of prev cur) (readAlso : readings.Of prev cur)
    (distinct : Distinct bands readings) :
    Law.Opposed prev cur history prev.mirror cur.mirror (history.map FrameState.mirror)
      priceFilterSell.law priceFilterBuy.law := by
  have mirrors : priceFilterSell.Mirrors priceFilterBuy := ⟨rfl, rfl, rfl⟩
  have mirrorsBack : priceFilterBuy.Mirrors priceFilterSell := ⟨rfl, rfl, rfl⟩
  refine ⟨rfl, (by decide : (priceFilterSell.name, priceFilterBuy.name) ∈ mirroredNames),
    mirrors.applies_iff read readAlso distinct (by decide),
    mirrorsBack.applies_iff read readAlso distinct (by decide), ?_⟩
  rw [Law.applies_iff read readAlso, Law.applies_iff read readAlso]
  intro held
  rcases held with ⟨below, _⟩
  intro also
  rcases also with ⟨above, _⟩
  cases below.symm.trans above

/-- Without a window of both kinds on which a divergence rule stands, all pairs are opposed. -/
theorem laws_opposed (read : bands.Of prev cur) (readAlso : readings.Of prev cur)
    (distinct : Distinct bands readings)
    (plain : ¬ (engine.Shows .bearish history ∧ engine.Shows .bullish history ∧
      SomeStandsOn [baseSell, baseBuy, uptrend2uSell, downtrend2lBuy] bands readings)) :
    ∀ pair ∈ [(baseSell.law engine, baseBuy.law engine),
      (uptrend2uSell.law engine, downtrend2lBuy.law engine),
      (priceFilterSell.law, priceFilterBuy.law)],
      Law.Opposed prev cur history prev.mirror cur.mirror (history.map FrameState.mirror)
        pair.1 pair.2 := by
  obtain ⟨base, baseBack, trend, trendBack⟩ := divergence_mirrors
  intro pair member
  simp only [List.mem_cons, List.not_mem_nil, or_false] at member
  rcases member with rfl | rfl | rfl
  · refine base.opposed read readAlso rfl
      (base.standsOn_iff distinct (by decide) (by decide))
      (baseBack.standsOn_iff distinct (by decide) (by decide)) ?_ rfl (by decide)
    intro held
    rcases held with ⟨bear, bull, ready | ready⟩
    · exact plain ⟨bear, bull, _, .head _, ready⟩
    · exact plain ⟨bear, bull, _, .tail _ (.head _), ready⟩
  · refine trend.opposed read readAlso rfl
      (trend.standsOn_iff distinct (by decide) (by decide))
      (trendBack.standsOn_iff distinct (by decide) (by decide)) ?_ rfl (by decide)
    intro held
    rcases held with ⟨bear, bull, ready | ready⟩
    · exact plain ⟨bear, bull, _, .tail _ (.tail _ (.head _)), ready⟩
    · exact plain ⟨bear, bull, _, .tail _ (.tail _ (.tail _ (.head _))), ready⟩
  · exact priceFilter_opposed read readAlso distinct

/-- The engine answers both charts, and the answers mirror each other. -/
def SignalRuleEngine.MirrorSymmetric (engine : SignalRuleEngine) (history : List (FrameState α)) :
    Prop :=
  ∃ result other, engine.evaluate history = .ok result ∧
    engine.evaluate (history.map FrameState.mirror) = .ok other ∧ Mirrored result other

/-- **Mirror.**  On distinct heights the answers to a chart and to its mirror image mirror each
other, except in a window of both kinds of divergence on which one of the divergence rules
stands. -/
theorem SignalRuleEngine.mirrorSymmetric_iff (early : List (FrameState α))
    (read : bands.Of prev cur) (readAlso : readings.Of prev cur)
    (distinct : Distinct bands readings) :
    engine.MirrorSymmetric (early ++ [prev, cur]) ↔
      ¬ (engine.Shows .bearish (early ++ [prev, cur]) ∧
        engine.Shows .bullish (early ++ [prev, cur]) ∧
          SomeStandsOn [baseSell, baseBuy, uptrend2uSell, downtrend2lBuy] bands readings) := by
  have bearish := engine.shows_mirror .bullish (early ++ [prev, cur])
  obtain ⟨result, run, answers⟩ :=
    engine.evaluate_of_readable early ⟨bands, read, fun _ => ⟨readings, readAlso⟩⟩
  obtain ⟨other, ran, answersAlso⟩ :=
    engine.evaluate_of_readable (early.map FrameState.mirror)
      ⟨bands.mirror, read.mirror, fun _ => ⟨readings.mirror, readAlso.mirror⟩⟩
  have mirrored : early.map FrameState.mirror ++ [prev.mirror, cur.mirror] =
    (early ++ [prev, cur]).map FrameState.mirror := by simp
  rw [mirrored] at ran answersAlso
  constructor
  · intro held
    rcases held with ⟨first, second, firstRun, secondRun, mirrors⟩
    intro also
    rcases also with ⟨bear, bull, stands⟩
    cases run.symm.trans firstRun
    cases ran.symm.trans secondRun
    have swap : ∀ names ∈ mirroredNames,
        (names.1 ∈ [baseSell.name, uptrend2uSell.name] →
          names.2 ∈ [baseBuy.name, downtrend2lBuy.name]) ∧
          (names.2 ∈ [baseSell.name, uptrend2uSell.name] →
            names.1 ∈ [baseBuy.name, downtrend2lBuy.name]) := by decide
    obtain ⟨here, there⟩ := swap _ mirrors.ruleName
    rcases someStandsOn_iff_or.mp stands with sells | buys
    · exact not_bullish_of_bearish (bearish.mpr bull) answersAlso
        (here (bearish_of_standsOn read readAlso bear sells answers))
    · exact not_bullish_of_bearish bear answers
        (there (bearish_of_standsOn read.mirror readAlso.mirror (bearish.mpr bull)
          ((someStandsOn_mirror distinct).mpr buys) answersAlso))
  · intro plain
    have opposed := laws_opposed read readAlso distinct plain
    exact ⟨result, other, run, ran, (Law.first_paired _ opposed).mirrored answers answersAlso⟩

end MirroredDecisions

/-- Three frames that differ in price and CCI only, and a fourth in which #2 leaves the band. -/
def wideSwing : List (FrameState ℤ) :=
  let frame (price cci : ℤ) (band2 : Band ℤ) : FrameState ℤ :=
    { band1 := some ⟨40, 50, 60⟩, band2 := some band2, ma4 := some 45, cci5 := some cci
      rsi6 := some 35, priceClose := some price, priceBand7 := some ⟨20, 30, 80⟩
      priceBand8 := some ⟨20, 30, 80⟩ }
  [frame 50 0 ⟨55, 65, 75⟩, frame 50 100 ⟨55, 65, 75⟩, frame 10 50 ⟨55, 65, 75⟩,
    frame 90 50 ⟨30, 39, 48⟩]

/-- The bands of the last two frames. -/
def wideBands : Bands ℤ := ⟨⟨40, 50, 60⟩, ⟨55, 65, 75⟩, ⟨40, 50, 60⟩, ⟨30, 39, 48⟩⟩

def wideReadings : Readings ℤ := ⟨45, 35, 35⟩

theorem distinct_wideSwing : Distinct wideBands wideReadings :=
  ⟨by decide, by decide, by decide⟩

/-- Without its first two frames the swing has no window of four. -/
theorem SignalRuleEngine.mirrorSymmetric_iff_wideSwing :
    (SignalRuleEngine.mk 12).MirrorSymmetric (wideSwing.drop 2) := by
  refine (SignalRuleEngine.mirrorSymmetric_iff [] ⟨rfl, rfl, rfl, rfl⟩ ⟨rfl, rfl, rfl⟩
    distinct_wideSwing).mpr ?_
  intro held
  rcases held with ⟨bearish, _⟩
  exact absurd bearish.long (by decide)

/-- The price makes a new high and a new low: `base_sell` fires, and nothing does on the
mirrored chart. -/
theorem SignalRuleEngine.not_mirrorSymmetric_wideSwing :
    (∀ frame ∈ wideSwing, frame.Numeric ∧ frame.cci5.isSome ∧ frame.priceClose.isSome) ∧
      wideBands.Of wideSwing[2] wideSwing[3] ∧ wideReadings.Of wideSwing[2] wideSwing[3] ∧
        Distinct wideBands wideReadings ∧ ¬ (SignalRuleEngine.mk 12).MirrorSymmetric wideSwing := by
  refine ⟨fun frame member => ?_, ⟨rfl, rfl, rfl, rfl⟩, ⟨rfl, rfl, rfl⟩, distinct_wideSwing, ?_⟩
  · simp only [wideSwing, List.mem_cons, List.not_mem_nil, or_false] at member
    rcases member with rfl | rfl | rfl | rfl <;> exact ⟨⟨rfl, rfl, rfl, rfl⟩, rfl, rfl⟩
  · intro held
    rcases held with ⟨result, other, run, ran, mirrored⟩
    cases run
    cases ran
    cases mirrored.fired

end Aegis.Rulebook
