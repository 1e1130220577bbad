import Mathlib.Algebra.Order.Floor.Ring
import Mathlib.Algebra.Order.Ring.Rat
import Mathlib.Data.Rat.Floor
import Mathlib.Tactic.Linarith

/-!
# The mask of a colour

`_find_color_points` turns the configured colour into HSV and keeps the pixels whose hue is near
and whose saturation and value are not below 50, whatever the configured colour has there.
`inMask_self_iff` says which colours pass their own mask.

The conversion of 8-bit RGB is the documented one of OpenCV: saturation and value go up to 255
and the hue is halved, each rounded to the nearest number.
-/

namespace Aegis.Vision

/-- `np.uint8([[rgb]])`. -/
structure Rgb where
  r : Fin 256
  g : Fin 256
  b : Fin 256
  deriving DecidableEq

structure Hsv where
  h : ℤ
  s : ℤ
  v : ℤ
  deriving DecidableEq

namespace Rgb

variable (rgb : Rgb)

def largest : ℕ := max rgb.r (max rgb.g rgb.b)

def least : ℕ := min rgb.r (min rgb.g rgb.b)

end Rgb

/-- The nearest number. -/
def nearest (q : ℚ) : ℤ := ⌊q + 1 / 2⌋

/-- The hue in degrees. -/
def degrees (rgb : Rgb) : ℚ :=
  let v : ℚ := rgb.largest
  let delta : ℚ := v - rgb.least
  let h : ℚ :=
    if delta = 0 then 0
    else if v = rgb.r.val then 60 * (rgb.g.val - rgb.b.val) / delta
    else if v = rgb.g.val then 120 + 60 * (rgb.b.val - rgb.r.val) / delta
    else 240 + 60 * (rgb.r.val - rgb.g.val) / delta
  if h < 0 then h + 360 else h

/-- `cvtColor(…, COLOR_RGB2HSV)` of a pixel. -/
def rgbToHsv (rgb : Rgb) : Hsv where
  h := nearest (degrees rgb / 2)
  s := if rgb.largest = 0 then 0
    else nearest (255 * (rgb.largest - rgb.least : ℚ) / rgb.largest)
  v := rgb.largest

/-- `lower` and `upper`, for the `hue` of the configured tolerance if there is one. -/
def maskBounds (rgb : Rgb) (hue : Option ℤ) : Hsv × Hsv :=
  let hueTol := hue.getD 10
  let hsvColor := rgbToHsv rgb
  (⟨max 0 (hsvColor.h - hueTol), 50, 50⟩, ⟨min 180 (hsvColor.h + hueTol), 255, 255⟩)

/-- `inRange` of a pixel: both bounds are included. -/
def inRange (pixel lower upper : Hsv) : Prop :=
  (lower.h ≤ pixel.h ∧ pixel.h ≤ upper.h) ∧ (lower.s ≤ pixel.s ∧ pixel.s ≤ upper.s) ∧
    lower.v ≤ pixel.v ∧ pixel.v ≤ upper.v

instance (pixel lower upper : Hsv) : Decidable (inRange pixel lower upper) :=
  inferInstanceAs (Decidable (_ ∧ _))

/-- A pixel of the colour `painted` is in the mask of the configured colour. -/
def InMask (rgb : Rgb) (hue : Option ℤ) (painted : Rgb) : Prop :=
  inRange (rgbToHsv painted) (maskBounds rgb hue).1 (maskBounds rgb hue).2

section Conversion

variable (rgb : Rgb)

namespace Rgb

theorem least_le : rgb.least ≤ rgb.r ∧ rgb.least ≤ rgb.g ∧ rgb.least ≤ rgb.b := by
  unfold least
  omega

theorem le_largest : rgb.r ≤ rgb.largest ∧ rgb.g ≤ rgb.largest ∧ rgb.b ≤ rgb.largest := by
  unfold largest
  omega

theorem largest_le : rgb.largest ≤ 255 := by
  unfold largest
  omega

end Rgb

theorem le_nearest {q : ℚ} {n : ℤ} : n ≤ nearest q ↔ n - 1 / 2 ≤ q := by
  rw [nearest, Int.le_floor, sub_le_iff_le_add]

theorem nearest_le {q : ℚ} {n : ℤ} (below : q ≤ n) : nearest q ≤ n := by
  have less : nearest q < n + 1 := by
    rw [nearest, Int.floor_lt]
    push_cast
    linarith
  omega

/-- A sector of the circle reaches over a sixth of it to either side. -/
theorem sector_bounds {x y : ℕ} (low : rgb.least ≤ x ∧ rgb.least ≤ y)
    (high : x ≤ rgb.largest ∧ y ≤ rgb.largest) (coloured : (rgb.largest - rgb.least : ℚ) ≠ 0) :
    -60 ≤ 60 * (x - y : ℚ) / (rgb.largest - rgb.least) ∧
      60 * (x - y : ℚ) / (rgb.largest - rgb.least) ≤ 60 := by
  have lowX : (rgb.least : ℚ) ≤ x := Nat.cast_le.mpr low.1
  have lowY : (rgb.least : ℚ) ≤ y := Nat.cast_le.mpr low.2
  have highX : (x : ℚ) ≤ rgb.largest := Nat.cast_le.mpr high.1
  have highY : (y : ℚ) ≤ rgb.largest := Nat.cast_le.mpr high.2
  have positive : (0 : ℚ) < rgb.largest - rgb.least :=
    lt_of_le_of_ne (by linarith) coloured.symm
  rw [le_div_iff₀ positive, div_le_iff₀ positive]
  exact ⟨by linarith, by linarith⟩

theorem degrees_bounds : 0 ≤ degrees rgb ∧ degrees rgb ≤ 360 := by
  obtain ⟨lowR, lowG, lowB⟩ := rgb.least_le
  obtain ⟨highR, highG, highB⟩ := rgb.le_largest
  -- Only the red sector reaches below zero, by a sixth at most.
  suffices bounds : ∀ h : ℚ, -60 ≤ h ∧ h ≤ 300 →
      0 ≤ (if h < 0 then h + 360 else h) ∧ (if h < 0 then h + 360 else h) ≤ 360 by
    unfold degrees
    refine bounds _ ?_
    split
    next => norm_num
    next coloured =>
      have red := sector_bounds rgb ⟨lowG, lowB⟩ ⟨highG, highB⟩ coloured
      have green := sector_bounds rgb ⟨lowB, lowR⟩ ⟨highB, highR⟩ coloured
      have blue := sector_bounds rgb ⟨lowR, lowG⟩ ⟨highR, highG⟩ coloured
      split
      next => exact ⟨red.1, by linarith [red.2]⟩
      next =>
        split
        next => exact ⟨by linarith [green.1], by linarith [green.2]⟩
        next => exact ⟨by linarith [blue.1], by linarith [blue.2]⟩
  intro h within
  split
  next negative => exact ⟨by linarith [within.1], by linarith⟩
  next nonneg => exact ⟨not_lt.mp nonneg, by linarith [within.2]⟩

/-- The hue that is stored. -/
theorem hue_bounds : 0 ≤ (rgbToHsv rgb).h ∧ (rgbToHsv rgb).h ≤ 180 := by
  obtain ⟨low, high⟩ := degrees_bounds rgb
  refine ⟨le_nearest.mpr ?_, nearest_le ?_⟩
  · push_cast
    linarith
  · push_cast
    linarith

theorem saturation_le : (rgbToHsv rgb).s ≤ 255 := by
  unfold rgbToHsv
  dsimp only
  split
  next => decide
  next bright =>
    have positive : (0 : ℚ) < rgb.largest := Nat.cast_pos.mpr (Nat.pos_of_ne_zero bright)
    refine nearest_le ?_
    rw [div_le_iff₀ positive]
    have nonneg : (0 : ℚ) ≤ rgb.least := Nat.cast_nonneg _
    push_cast
    linarith

/-- The saturation that a mask asks for, by the components. -/
theorem saturation_iff (bright : rgb.largest ≠ 0) :
    50 ≤ (rgbToHsv rgb).s ↔ 99 * rgb.largest ≤ 510 * (rgb.largest - rgb.least) := by
  have positive : (0 : ℚ) < rgb.largest := Nat.cast_pos.mpr (Nat.pos_of_ne_zero bright)
  have ordered : rgb.least ≤ rgb.largest := rgb.least_le.1.trans rgb.le_largest.1
  unfold rgbToHsv
  dsimp only
  rw [if_neg bright, le_nearest, le_div_iff₀ positive, ← Nat.cast_sub ordered]
  have scaled : ((50 : ℤ) - 1 / 2 : ℚ) * rgb.largest ≤
      255 * ((rgb.largest - rgb.least : ℕ) : ℚ) ↔
        ((99 * rgb.largest : ℕ) : ℚ) ≤ ((510 * (rgb.largest - rgb.least) : ℕ) : ℚ) := by
    push_cast
    refine ⟨fun below => ?_, fun below => ?_⟩ <;> linarith
  rw [scaled, Nat.cast_le]

end Conversion

/-- **Masks.**  A colour passes its own mask exactly when it is bright and saturated enough. -/
theorem inMask_self_iff (rgb : Rgb) {hue : Option ℤ} (tolerance : 0 ≤ hue.getD 10) :
    InMask rgb hue rgb ↔
      50 ≤ rgb.largest ∧ 99 * rgb.largest ≤ 510 * (rgb.largest - rgb.least) := by
  obtain ⟨low, high⟩ := hue_bounds rgb
  have within : max 0 ((rgbToHsv rgb).h - hue.getD 10) ≤ (rgbToHsv rgb).h ∧
      (rgbToHsv rgb).h ≤ min 180 ((rgbToHsv rgb).h + hue.getD 10) := by omega
  have saturated := saturation_le rgb
  have value : (rgbToHsv rgb).v = rgb.largest := rfl
  have bound := rgb.largest_le
  unfold InMask inRange maskBounds
  dsimp only
  rw [and_iff_right within, and_iff_left saturated, value]
  refine ⟨fun passes => ?_, fun enough => ?_⟩
  · have bright : 50 ≤ rgb.largest := by omega
    exact ⟨bright, (saturation_iff rgb (by omega)).mp passes.1⟩
  · exact ⟨(saturation_iff rgb (by omega)).mpr enough.2, by omega, by omega⟩

/-- The magenta of #4. -/
theorem inMask_self_iff_magenta : InMask ⟨220, 0, 255⟩ (some 14) ⟨220, 0, 255⟩ :=
  (inMask_self_iff ⟨220, 0, 255⟩ (by decide)).mpr (by decide)

/-- The white of #1. -/
theorem not_inMask_self_white : ¬ InMask ⟨245, 245, 245⟩ (some 12) ⟨245, 245, 245⟩ := by
  intro passes
  exact absurd passes.2.1.1 (by decide +kernel)

end Aegis.Vision
