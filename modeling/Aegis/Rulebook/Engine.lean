import Mathlib.Algebra.Order.Ring.Unbundled.Rat
import Mathlib.Order.Defs.LinearOrder
import Mathlib.Order.Lattice
import Aegis.Lib.Python
import Aegis.Lib.Suffix

/-!
# The signal rule engine

`signal_rule_engine.py`: the primitives on pixel heights, the six encoded rules
and `SignalRuleEngine.evaluate`.  Heights are compared only, never computed with,
so they live in an arbitrary linear order; a smaller height is higher on screen.

A frame field that extraction could not read is `None`.  Comparing or
subscripting it raises `TypeError`, which `present` models; the rules test only
the price fields and `cci5` for `None`.

The rules come in two families.  `divergenceRule` is `_rule_base_sell`,
`_rule_base_buy`, `_rule_uptrend_2u_sell` and `_rule_downtrend_2l_buy`, which
differ in the lines they watch and in one disjunct of the third condition;
`priceFilterRule` is the `_rule_price_filter_*` pair.
-/

namespace Aegis.Rulebook

open Aegis.Lib

/-- Reading through a field that may be `None`. -/
def present {β : Type} : Option β → Except PyError β
  | some value => .ok value
  | none => .error .typeError

@[simp]
theorem present_some {β : Type} (value : β) : present (some value) = .ok value := rfl

@[simp]
theorem present_none {β : Type} :
    present (none : Option β) = .error .typeError := rfl

inductive Side where
  | above
  | below
  deriving DecidableEq

inductive Signal where
  | buy
  | sell
  deriving DecidableEq

inductive Divergence where
  | bearish
  | bullish
  deriving DecidableEq

/-- The three lines of a band: upper, middle, lower. -/
inductive Line where
  | U
  | M
  | L
  deriving DecidableEq

structure Band (α : Type) where
  U : α
  M : α
  L : α
  deriving DecidableEq

/-- `band["U"]`, `band["M"]`, `band["L"]`. -/
def Band.get {α : Type} (band : Band α) : Line → α
  | .U => band.U
  | .M => band.M
  | .L => band.L

/-- The frame fields the engine reads; `none` is Python's `None`, or a key that
is absent, which `.get` does not distinguish. -/
structure FrameState (α : Type) where
  band1 : Option (Band α)
  band2 : Option (Band α)
  ma4 : Option α
  cci5 : Option α
  rsi6 : Option α
  priceClose : Option α
  priceBand7 : Option (Band α)
  priceBand8 : Option (Band α)
  deriving DecidableEq

/-- Every field that a rule reads without a `None` test is there. -/
structure FrameState.Numeric {α : Type} (frame : FrameState α) : Prop where
  band1 : frame.band1.isSome
  band2 : frame.band2.isSome
  ma4 : frame.ma4.isSome
  rsi6 : frame.rsi6.isSome

structure RuleResult where
  fired : Bool
  signal : Option Signal
  ruleName : String
  reason : String
  deriving DecidableEq

variable {α : Type} [LinearOrder α]

/-! ## Primitives -/

def sideOf (value level : α) : Side :=
  if value < level then .above else .below

/-- The side `value` has just crossed to, if it changed sides of `level`. -/
def crossed (prevValue prevLevel curValue curLevel : α) : Option Side :=
  let prevSide := sideOf prevValue prevLevel
  let curSide := sideOf curValue curLevel
  if prevSide = curSide then none else some curSide

def isBetween (value low high : α) : Bool :=
  let lo := min low high
  let hi := max low high
  decide (lo ≤ value ∧ value ≤ hi)

/-- Python's `min` of a list. -/
def minOf : List α → Except PyError α
  | [] => .error .valueError
  | x :: xs => .ok (xs.foldl min x)

/-- Python's `max` of a list. -/
def maxOf : List α → Except PyError α
  | [] => .error .valueError
  | x :: xs => .ok (xs.foldl max x)

/-- Compares the extremes of the later half of the window with the earlier half. -/
def divergence (indicatorSeries priceSeries : List α) :
    Except PyError (Option Divergence) := do
  let n := priceSeries.length
  if n < 4 ∨ indicatorSeries.length ≠ n then
    return none
  let mid := n / 2
  let priceEarly := priceSeries.take mid
  let priceLate := priceSeries.drop mid
  let indEarly := indicatorSeries.take mid
  let indLate := indicatorSeries.drop mid
  let priceNewHigh := decide ((← minOf priceLate) < (← minOf priceEarly))
  let indNewHigh := decide ((← minOf indLate) < (← minOf indEarly))
  if priceNewHigh && !indNewHigh then
    return some .bearish
  let priceNewLow := decide ((← maxOf priceLate) > (← maxOf priceEarly))
  let indNewLow := decide ((← maxOf indLate) > (← maxOf indEarly))
  if priceNewLow && !indNewLow then
    return some .bullish
  return none

/-! ## Rules -/

structure SignalRuleEngine where
  divergenceLookback : ℤ := 12

/-- A bound rule method: previous frame, current frame, whole history. -/
abbrev Rule (α : Type) :=
  FrameState α → FrameState α → List (FrameState α) → Except PyError (Option RuleResult)

/-- `str` of a Python `bool`. -/
def pyBool (b : Bool) : String := if b then "True" else "False"

/-- What the four divergence rules differ in. -/
structure DivergenceRule where
  /-- the #2 line that crosses -/
  motional : Line
  /-- the #1 line it crosses, which also guards #4 and #6 -/
  guarding : Line
  side : Side
  /-- #6 may also already be past the guarding line -/
  rsiMayHold : Bool
  kind : Divergence
  signal : Signal
  name : String
  reason : Bool → Bool → Bool → Bool → String

/-- The window the divergence conditions look at, `history[-divergence_lookback:]`. -/
def SignalRuleEngine.window (engine : SignalRuleEngine) (history : List (FrameState α)) :
    List (FrameState α) :=
  Lib.sliceFrom history (-engine.divergenceLookback)

/-- Condition (4) of the divergence rules. -/
def SignalRuleEngine.diverges (engine : SignalRuleEngine) (kind : Divergence)
    (history : List (FrameState α)) : Except PyError Bool := do
  let prices := (engine.window history).filterMap (·.priceClose)
  let cciVals := (engine.window history).filterMap (·.cci5)
  if prices.length = cciVals.length then
    return (← divergence cciVals prices) == some kind
  else
    return false

def divergenceRule (engine : SignalRuleEngine) (rule : DivergenceRule) : Rule α :=
  fun prev cur history => do
    let pb2 ← present prev.band2
    let pb1 ← present prev.band1
    let b2 ← present cur.band2
    let b1 ← present cur.band1
    let level := b1.get rule.guarding
    let prevLevel := pb1.get rule.guarding
    let cond1 :=
      crossed (pb2.get rule.motional) prevLevel (b2.get rule.motional) level == some rule.side
    if !cond1 then
      return none
    let ma4 ← present cur.ma4
    let cond2 := isBetween ma4 b1.M level || sideOf ma4 level == rule.side
    let prevRsi6 ← present prev.rsi6
    let rsi6 ← present cur.rsi6
    let cond3 := crossed prevRsi6 prevLevel rsi6 level == some rule.side ||
      (rule.rsiMayHold && sideOf rsi6 level == rule.side)
    let cond4 ← engine.diverges rule.kind history
    let fired := cond1 && cond2 && cond3 && cond4
    return some
      { fired := fired
        signal := if fired then some rule.signal else none
        ruleName := rule.name
        reason := rule.reason cond1 cond2 cond3 cond4 }

/-- What the two price-filter rules differ in. -/
structure PriceFilterRule where
  /-- the side of #1(1M) that #2(2M) crosses to -/
  midSide : Side
  /-- the #1 line that #6 crosses -/
  guarding : Line
  /-- the side #6 crosses to, which is also where the price has to be -/
  outerSide : Side
  signal : Signal
  name : String
  reason : Bool → Bool → Bool → Bool → String

/-- Condition (4) of the price-filter rules: the price is beyond both #7 and #8.
A missing price or band fails it. -/
def priceOutside (side : Side) (cur : FrameState α) : Bool :=
  match cur.priceBand7, cur.priceBand8, cur.priceClose with
  | some pb7, some pb8, some price =>
      match side with
      | .above => decide (price < min pb7.U pb8.U)
      | .below => decide (price > max pb7.L pb8.L)
  | _, _, _ => false

def priceFilterRule (rule : PriceFilterRule) : Rule α :=
  fun prev cur _ => do
    let pb2 ← present prev.band2
    let pb1 ← present prev.band1
    let b2 ← present cur.band2
    let b1 ← present cur.band1
    let cond1 := crossed pb2.M pb1.M b2.M b1.M == some rule.midSide
    if !cond1 then
      return none
    let ma4 ← present cur.ma4
    let cond2 := isBetween ma4 b1.M b1.U || isBetween ma4 b1.M b1.L
    let prevRsi6 ← present prev.rsi6
    let rsi6 ← present cur.rsi6
    let cond3 :=
      crossed prevRsi6 (pb1.get rule.guarding) rsi6 (b1.get rule.guarding) == some rule.outerSide
    let cond4 := priceOutside rule.outerSide cur
    let fired := cond1 && cond2 && cond3 && cond4
    return some
      { fired := fired
        signal := if fired then some rule.signal else none
        ruleName := rule.name
        reason := rule.reason cond1 cond2 cond3 cond4 }

def baseSell : DivergenceRule where
  motional := .M
  guarding := .U
  side := .above
  rsiMayHold := true
  kind := .bearish
  signal := .sell
  name := "base_sell"
  reason c1 c2 c3 c4 :=
    s!"cond1(2M x #1U)={pyBool c1}, cond2(#4 pos)={pyBool c2}, " ++
      s!"cond3(#6 x #1U)={pyBool c3}, cond4(#5 bearish div)={pyBool c4}"

def baseBuy : DivergenceRule where
  motional := .M
  guarding := .L
  side := .below
  rsiMayHold := true
  kind := .bullish
  signal := .buy
  name := "base_buy"
  reason c1 c2 c3 c4 :=
    s!"cond1(2M x #1L)={pyBool c1}, cond2(#4 pos)={pyBool c2}, " ++
      s!"cond3(#6 x #1L)={pyBool c3}, cond4(#5 bullish div)={pyBool c4}"

def uptrend2uSell : DivergenceRule where
  motional := .U
  guarding := .U
  side := .above
  rsiMayHold := false
  kind := .bearish
  signal := .sell
  name := "uptrend_2u_sell"
  reason c1 c2 c3 c4 :=
    s!"cond1={pyBool c1}, cond2={pyBool c2}, cond3={pyBool c3}, cond4={pyBool c4}"

def downtrend2lBuy : DivergenceRule where
  motional := .L
  guarding := .L
  side := .below
  rsiMayHold := false
  kind := .bullish
  signal := .buy
  name := "downtrend_2l_buy"
  reason c1 c2 c3 c4 :=
    s!"cond1={pyBool c1}, cond2={pyBool c2}, cond3={pyBool c3}, cond4={pyBool c4}"

def priceFilterSell : PriceFilterRule where
  midSide := .below
  guarding := .U
  outerSide := .above
  signal := .sell
  name := "price_filter_sell"
  reason c1 c2 c3 c4 :=
    s!"cond1={pyBool c1}, cond2={pyBool c2}, cond3={pyBool c3}, " ++
      s!"cond4(price>#7/#8)={pyBool c4}"

def priceFilterBuy : PriceFilterRule where
  midSide := .above
  guarding := .L
  outerSide := .below
  signal := .buy
  name := "price_filter_buy"
  reason c1 c2 c3 c4 :=
    s!"cond1={pyBool c1}, cond2={pyBool c2}, cond3={pyBool c3}, " ++
      s!"cond4(price<#7/#8)={pyBool c4}"

namespace SignalRuleEngine

variable (engine : SignalRuleEngine)

def ruleBaseSell : Rule α := divergenceRule engine baseSell

def ruleBaseBuy : Rule α := divergenceRule engine baseBuy

def ruleUptrend2uSell : Rule α := divergenceRule engine uptrend2uSell

def ruleDowntrend2lBuy : Rule α := divergenceRule engine downtrend2lBuy

def rulePriceFilterSell : Rule α := priceFilterRule priceFilterSell

def rulePriceFilterBuy : Rule α := priceFilterRule priceFilterBuy

/-- `_rules()`, in the order they are tried. -/
def rules : List (Rule α) :=
  [engine.ruleBaseSell, engine.ruleBaseBuy, engine.ruleUptrend2uSell,
    engine.ruleDowntrend2lBuy, rulePriceFilterSell, rulePriceFilterBuy]

end SignalRuleEngine

/-! ## Evaluation -/

/-- The `for rule_fn in self._rules()` loop: the first rule that fires decides. -/
def firstFired (prev cur : FrameState α) (history : List (FrameState α)) :
    List (Rule α) → Except PyError RuleResult
  | [] => return ⟨false, none, "no_rule_matched",
      "No condition set fully matched this frame."⟩
  | rule :: rest => do
      match ← rule prev cur history with
      | some result => if result.fired then return result else firstFired prev cur history rest
      | none => firstFired prev cur history rest

/-- `evaluate` for a given rule list. -/
def evaluateRules (rules : List (Rule α)) (history : List (FrameState α)) :
    Except PyError RuleResult :=
  if short : history.length < 2 then
    return ⟨false, none, "insufficient_history", "Need at least 2 frames."⟩
  else
    firstFired history[history.length - 2] history[history.length - 1] history rules

def SignalRuleEngine.evaluate (engine : SignalRuleEngine) (history : List (FrameState α)) :
    Except PyError RuleResult :=
  evaluateRules engine.rules history

/-- Two frames on which `price_filter_sell` fires: 2M falls below 1M while the RSI
rises above 1U and the price is beyond both price bands. -/
def sellHistory : List (FrameState ℚ) :=
  let frame (mid rsi : ℚ) : FrameState ℚ :=
    { band1 := some ⟨3, 7, 30⟩, band2 := some ⟨1, mid, 40⟩, ma4 := some 5, cci5 := some 0,
      rsi6 := some rsi, priceClose := some 1, priceBand7 := some ⟨2, 20, 40⟩,
      priceBand8 := some ⟨2, 20, 40⟩ }
  [frame 5 4, frame 8 2]

example : (SignalRuleEngine.mk 12).evaluate sellHistory = .ok
    ⟨true, some .sell, "price_filter_sell",
      "cond1=True, cond2=True, cond3=True, cond4(price>#7/#8)=True"⟩ := by
  decide +kernel

end Aegis.Rulebook
