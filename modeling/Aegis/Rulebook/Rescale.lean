import Mathlib.Algebra.Order.Ring.Rat
import Mathlib.Order.MinMax
import Mathlib.Tactic.NormNum
import Aegis.Rulebook.Rules

/-!
# The decision does not depend on the scale

The engine only compares heights: indicator heights with indicator heights, price
heights with price heights and CCI readings with CCI readings.  A strictly
increasing change of each scale therefore commutes with every primitive, and from
there with the rules and with `evaluate` (`SignalRuleEngine.evaluate_rescale`).
-/

namespace Aegis.Rulebook

variable {α β : Type} [LinearOrder α] [LinearOrder β]

/-! ## Rescaling a frame -/

section Frame

omit [LinearOrder α] [LinearOrder β]

def Band.map (f : α → β) (band : Band α) : Band β := ⟨f band.U, f band.M, f band.L⟩

@[simp]
theorem Band.get_map (f : α → β) (band : Band α) (line : Line) :
    (band.map f).get line = f (band.get line) := by
  cases line <;> rfl

@[simp]
theorem Band.map_U (f : α → β) (band : Band α) : (band.map f).U = f band.U := rfl

@[simp]
theorem Band.map_M (f : α → β) (band : Band α) : (band.map f).M = f band.M := rfl

@[simp]
theorem Band.map_L (f : α → β) (band : Band α) : (band.map f).L = f band.L := rfl

/-- `f` acts on the indicator panel, `g` on the price panel and `k` on the CCI. -/
def FrameState.rescale (f g k : α → β) (frame : FrameState α) : FrameState β where
  band1 := frame.band1.map (Band.map f)
  band2 := frame.band2.map (Band.map f)
  ma4 := frame.ma4.map f
  cci5 := frame.cci5.map k
  rsi6 := frame.rsi6.map f
  priceClose := frame.priceClose.map g
  priceBand7 := frame.priceBand7.map (Band.map g)
  priceBand8 := frame.priceBand8.map (Band.map g)

theorem present_map {γ δ : Type} (f : γ → δ) (field : Option γ) :
    present (field.map f) = f <$> present field := by
  cases field <;> rfl

end Frame

/-! ## Primitives -/

section Primitives

variable {f : α → β}

theorem sideOf_map (mono : StrictMono f) (value level : α) :
    sideOf (f value) (f level) = sideOf value level := by
  simp only [sideOf, mono.lt_iff_lt]

theorem crossed_map (mono : StrictMono f) (prevValue prevLevel value level : α) :
    crossed (f prevValue) (f prevLevel) (f value) (f level) =
      crossed prevValue prevLevel value level := by
  simp only [crossed, sideOf_map mono]

theorem isBetween_map (mono : StrictMono f) (value low high : α) :
    isBetween (f value) (f low) (f high) = isBetween value low high := by
  simp only [isBetween, ← mono.monotone.map_min, ← mono.monotone.map_max, mono.le_iff_le]

theorem foldl_min_map (mono : StrictMono f) (xs : List α) (x : α) :
    (xs.map f).foldl min (f x) = f (xs.foldl min x) := by
  induction xs generalizing x with
  | nil => rfl
  | cons y ys ih => rw [List.map_cons, List.foldl_cons, ← mono.monotone.map_min, ih]; rfl

theorem foldl_max_map (mono : StrictMono f) (xs : List α) (x : α) :
    (xs.map f).foldl max (f x) = f (xs.foldl max x) := by
  induction xs generalizing x with
  | nil => rfl
  | cons y ys ih => rw [List.map_cons, List.foldl_cons, ← mono.monotone.map_max, ih]; rfl

theorem minOf_map (mono : StrictMono f) (xs : List α) : minOf (xs.map f) = f <$> minOf xs := by
  cases xs with
  | nil => rfl
  | cons x xs => exact congrArg Except.ok (foldl_min_map mono xs x)

theorem maxOf_map (mono : StrictMono f) (xs : List α) : maxOf (xs.map f) = f <$> maxOf xs := by
  cases xs with
  | nil => rfl
  | cons x xs => exact congrArg Except.ok (foldl_max_map mono xs x)

/-- The two series of `divergence` are never compared with each other, so each may
have a scale of its own. -/
theorem divergence_map {g k : α → β} (gMono : StrictMono g) (kMono : StrictMono k)
    (indicatorSeries priceSeries : List α) :
    divergence (indicatorSeries.map k) (priceSeries.map g) =
      divergence indicatorSeries priceSeries := by
  simp only [divergence, List.length_map, ← List.map_take, ← List.map_drop,
    minOf_map gMono, minOf_map kMono, maxOf_map gMono, maxOf_map kMono, bind_map_left,
    gMono.lt_iff_lt, kMono.lt_iff_lt, gt_iff_lt]

theorem priceOutside_rescale {g : α → β} (gMono : StrictMono g) (f k : α → β) (side : Side)
    (cur : FrameState α) : priceOutside side (cur.rescale f g k) = priceOutside side cur := by
  simp only [priceOutside, FrameState.rescale]
  cases cur.priceBand7 with
  | none => rfl
  | some pb7 =>
      cases cur.priceBand8 with
      | none => rfl
      | some pb8 =>
          cases cur.priceClose with
          | none => rfl
          | some price =>
              simp only [Option.map_some, Band.map_U, Band.map_L, ← gMono.monotone.map_min,
                ← gMono.monotone.map_max, gMono.lt_iff_lt, gt_iff_lt]

end Primitives

/-! ## Rules -/

section Rules

variable {f g k : α → β} (fMono : StrictMono f) (gMono : StrictMono g) (kMono : StrictMono k)
variable (engine : SignalRuleEngine)

include gMono kMono in
theorem SignalRuleEngine.diverges_rescale (kind : Divergence)
    (history : List (FrameState α)) :
    engine.diverges kind (history.map (FrameState.rescale f g k)) =
      engine.diverges kind history := by
  have prices : ∀ frames : List (FrameState α),
      (frames.map (FrameState.rescale f g k)).filterMap (·.priceClose) =
        (frames.filterMap (·.priceClose)).map g := fun frames => by
    rw [List.filterMap_map, List.map_filterMap]
    rfl
  have ccis : ∀ frames : List (FrameState α),
      (frames.map (FrameState.rescale f g k)).filterMap (·.cci5) =
        (frames.filterMap (·.cci5)).map k := fun frames => by
    rw [List.filterMap_map, List.map_filterMap]
    rfl
  simp only [SignalRuleEngine.diverges, SignalRuleEngine.window, ← Lib.map_sliceFrom, prices,
    ccis, List.length_map, divergence_map gMono kMono]
  rfl

include fMono gMono kMono

theorem divergenceRule_rescale (rule : DivergenceRule) (prev cur : FrameState α)
    (history : List (FrameState α)) :
    divergenceRule engine rule (prev.rescale f g k) (cur.rescale f g k)
        (history.map (FrameState.rescale f g k)) =
      divergenceRule engine rule prev cur history := by
  simp only [divergenceRule, engine.diverges_rescale gMono kMono]
  simp only [FrameState.rescale, present_map, bind_map_left, Band.get_map, Band.map_M,
    crossed_map fMono, sideOf_map fMono, isBetween_map fMono]

omit kMono in
theorem priceFilterRule_rescale (rule : PriceFilterRule) (prev cur : FrameState α)
    (history : List (FrameState α)) :
    priceFilterRule rule (prev.rescale f g k) (cur.rescale f g k)
        (history.map (FrameState.rescale f g k)) =
      priceFilterRule rule prev cur history := by
  simp only [priceFilterRule, priceOutside_rescale gMono]
  simp only [FrameState.rescale, present_map, bind_map_left, Band.get_map, Band.map_U,
    Band.map_M, Band.map_L, crossed_map fMono, isBetween_map fMono]

/-- The rule decides the same on rescaled frames. -/
def Rule.Invariant (f g k : α → β) (rule : Rule α) (scaled : Rule β) : Prop :=
  ∀ (prev cur : FrameState α) (history : List (FrameState α)),
    scaled (prev.rescale f g k) (cur.rescale f g k)
      (history.map (FrameState.rescale f g k)) = rule prev cur history

theorem SignalRuleEngine.rules_invariant :
    List.Forall₂ (Rule.Invariant f g k) engine.rules engine.rules :=
  .cons (divergenceRule_rescale fMono gMono kMono engine baseSell)
    (.cons (divergenceRule_rescale fMono gMono kMono engine baseBuy)
      (.cons (divergenceRule_rescale fMono gMono kMono engine uptrend2uSell)
        (.cons (divergenceRule_rescale fMono gMono kMono engine downtrend2lBuy)
          (.cons (priceFilterRule_rescale fMono gMono priceFilterSell)
            (.cons (priceFilterRule_rescale fMono gMono priceFilterBuy) .nil)))))

end Rules

/-! ## Evaluation -/

omit [LinearOrder α] [LinearOrder β] in
theorem firstFired_rescale {f g k : α → β} {rules : List (Rule α)} {scaled : List (Rule β)}
    (invariant : List.Forall₂ (Rule.Invariant f g k) rules scaled)
    (prev cur : FrameState α) (history : List (FrameState α)) :
    firstFired (prev.rescale f g k) (cur.rescale f g k)
        (history.map (FrameState.rescale f g k)) scaled =
      firstFired prev cur history rules := by
  induction invariant with
  | nil => rfl
  | cons same _ ih =>
      rw [firstFired, firstFired, same prev cur history]
      congr 1
      funext outcome
      cases outcome with
      | none => exact ih
      | some result => rw [ih]

/-- **Scale independence.**  Strictly increasing changes of the indicator panel, of
the price panel and of the CCI scale leave the whole result of `evaluate` as it is,
missing fields and raised exceptions included. -/
theorem SignalRuleEngine.evaluate_rescale (engine : SignalRuleEngine) {f g k : α → β}
    (fMono : StrictMono f) (gMono : StrictMono g) (kMono : StrictMono k)
    (history : List (FrameState α)) :
    engine.evaluate (history.map (FrameState.rescale f g k)) = engine.evaluate history := by
  simp only [SignalRuleEngine.evaluate, evaluateRules, List.length_map, List.getElem_map]
  split
  · rfl
  · exact firstFired_rescale (engine.rules_invariant fMono gMono kMono) _ _ _

/-- Twice the resolution on the indicator panel, a price panel 100 pixels lower. -/
theorem SignalRuleEngine.evaluate_rescale_sellHistory :
    (SignalRuleEngine.mk 12).evaluate
        (sellHistory.map (FrameState.rescale (2 * ·) (· + 100) (3 * ·))) =
      (SignalRuleEngine.mk 12).evaluate sellHistory :=
  SignalRuleEngine.evaluate_rescale (SignalRuleEngine.mk 12)
    (fun _ _ below => mul_lt_mul_of_pos_left below (by norm_num))
    (fun _ _ below => add_lt_add_left below 100)
    (fun _ _ below => mul_lt_mul_of_pos_left below (by norm_num)) sellHistory

end Aegis.Rulebook
