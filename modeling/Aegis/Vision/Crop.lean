import Mathlib.Algebra.Order.Archimedean.Basic
import Mathlib.Algebra.Order.Floor.Ring
import Mathlib.Data.List.Range
import Mathlib.Data.Rat.Floor
import Mathlib.Tactic.Linarith
import Mathlib.Tactic.NormNum
import Mathlib.Tactic.Positivity

/-!
# Cropping on the phone and again on the server

The phone cuts a screenshot down to the bounds that `get_capture_roi` serves, `applyRoiCrop`, and
the server cuts each panel out of what arrives, `_crop_panel`.  Both scale the same percentages,
by the heights of different images.  `transparent_iff` says for which configurations no panel
moves.

An image is the list of its rows, and percentages are exact.
-/

namespace Aegis.Vision

/-! ## The three pieces of code -/

/-- The part of the height that a panel takes. -/
structure Bounds where
  topPercent : ℚ
  bottomPercent : ℚ
  deriving DecidableEq

/-- `config["roi"]` -/
structure Roi where
  pricePanel : Option Bounds
  indicatorPanel : Option Bounds

inductive Panel where
  | pricePanel
  | indicatorPanel
  deriving DecidableEq

def Roi.get (roi : Roi) : Panel → Option Bounds
  | .pricePanel => roi.pricePanel
  | .indicatorPanel => roi.indicatorPanel

/-- What the phone is told. -/
structure CaptureRoi where
  captureTopPercent : ℚ
  captureBottomPercent : ℚ
  deriving DecidableEq

def getCaptureRoi (roi : Roi) : CaptureRoi :=
  let pricePanel := roi.pricePanel.getD ⟨0, 1⟩
  let indicatorPanel := roi.indicatorPanel.getD ⟨0, 1⟩
  { captureTopPercent := min pricePanel.topPercent indicatorPanel.topPercent
    captureBottomPercent := max pricePanel.bottomPercent indicatorPanel.bottomPercent }

/-- Python's `int` and Kotlin's `toInt`: what follows the point is dropped. -/
def toInt (x : ℚ) : ℤ := if 0 ≤ x then ⌊x⌋ else ⌈x⌉

/-- Kotlin's `coerceIn`. -/
def coerceIn (i least greatest : ℤ) : ℤ :=
  if i < least then least else if greatest < i then greatest else i

variable {α : Type}

/-- The bitmap has at least one row: `coerceIn` throws otherwise. -/
def applyRoiCrop (roi : CaptureRoi) (bitmap : List α) : List α :=
  if roi.captureTopPercent ≤ 0 ∧ 1 ≤ roi.captureBottomPercent then bitmap
  else
    let height : ℤ := bitmap.length
    let top := coerceIn (toInt (height * roi.captureTopPercent)) 0 (height - 1)
    let bottom := coerceIn (toInt (height * roi.captureBottomPercent)) (top + 1) height
    (bitmap.drop top.toNat).take (bottom - top).toNat

/-- Where an index of a slice points to; a negative one counts from the end. -/
def sliceIndex (length : ℕ) (i : ℤ) : ℕ :=
  if i < 0 then (length + i).toNat else i.toNat

/-- `image[top:bottom, :, :]` -/
def sliceRows (image : List α) (top bottom : ℤ) : List α :=
  (image.take (sliceIndex image.length bottom)).drop (sliceIndex image.length top)

/-- `none` is the `KeyError` of a panel that is not configured. -/
def cropPanel (roi : Roi) (image : List α) (panel : Panel) : Option (List α) := do
  let roi ← roi.get panel
  let h : ℚ := image.length
  let top := toInt (h * roi.topPercent)
  let bottom := toInt (h * roi.bottomPercent)
  return sliceRows image top bottom

/-! ## What cropping should not change -/

/-- The panels are read from the same rows, counted on the screenshot, with and without
cropping. -/
def Transparent (roi : Roi) (height : ℕ) : Prop :=
  ∀ panel, cropPanel roi (applyRoiCrop (getCaptureRoi roi) (List.range height)) panel =
    cropPanel roi (List.range height) panel

structure Bounds.Valid (bounds : Bounds) : Prop where
  nonneg : 0 ≤ bounds.topPercent
  ordered : bounds.topPercent < bounds.bottomPercent
  atMost : bounds.bottomPercent ≤ 1

/-- Both panels are configured. -/
structure Roi.Configures (roi : Roi) (bounds : Panel → Bounds) : Prop where
  given : ∀ panel, roi.get panel = some (bounds panel)
  valid : ∀ panel, (bounds panel).Valid

/-- Between them the panels reach from the top of the screenshot to its bottom. -/
def Whole (bounds : Panel → Bounds) : Prop :=
  (∃ panel, (bounds panel).topPercent = 0) ∧ ∃ panel, (bounds panel).bottomPercent = 1

/-- The panel has a row of an image so high. -/
def Bounds.HasRow (bounds : Bounds) (height : ℕ) : Prop :=
  ⌊height * bounds.topPercent⌋₊ < ⌊height * bounds.bottomPercent⌋₊

section Rows

theorem toInt_of_nonneg {x : ℚ} (nonneg : 0 ≤ x) : toInt x = ⌊x⌋₊ := by
  rw [toInt, if_pos nonneg, Int.natCast_floor_eq_floor nonneg]

theorem coerceIn_eq {i least greatest : ℤ} (ordered : least ≤ greatest) :
    coerceIn i least greatest = max least (min i greatest) := by
  unfold coerceIn
  split
  · omega
  · split <;> omega

/-- A part of so many rows keeps no more of them. -/
theorem floor_mul_le {n : ℕ} {part : ℚ} (atMost : part ≤ 1) : ⌊n * part⌋₊ ≤ n :=
  Nat.floor_le_of_le (mul_le_of_le_one_right (Nat.cast_nonneg n) atMost)

theorem floor_mul_lt {n : ℕ} {part : ℚ} (nonneg : 0 ≤ part) (small : part < 1) (some : 0 < n) :
    ⌊n * part⌋₊ < n :=
  (Nat.floor_lt (by positivity)).mpr (mul_lt_of_lt_one_right (Nat.cast_pos.mpr some) small)

/-- The rows of a part of a screenshot that lie between two others. -/
theorem sliceRows_range' {start length top bottom : ℕ} (le : bottom ≤ length) :
    sliceRows (List.range' start length) top bottom =
      List.range' (start + top) (bottom - top) := by
  have index : ∀ i : ℕ, sliceIndex length i = i := by
    intro i
    rw [sliceIndex, if_neg (by omega), Int.toNat_natCast]
  rw [sliceRows, List.length_range', index, index, List.take_range'_of_length_ge le,
    List.drop_range', Nat.mul_one]

theorem cropPanel_range' {roi : Roi} {panel : Panel} {bounds : Bounds}
    (given : roi.get panel = some bounds) (valid : bounds.Valid) (start length : ℕ) :
    cropPanel roi (List.range' start length) panel =
      some (List.range' (start + ⌊length * bounds.topPercent⌋₊)
        (⌊length * bounds.bottomPercent⌋₊ - ⌊length * bounds.topPercent⌋₊)) := by
  have nonneg : (0 : ℚ) ≤ bounds.bottomPercent := valid.nonneg.trans valid.ordered.le
  have rows : sliceRows (List.range' start length) ⌊length * bounds.topPercent⌋₊
      ⌊length * bounds.bottomPercent⌋₊ = List.range' (start + ⌊length * bounds.topPercent⌋₊)
        (⌊length * bounds.bottomPercent⌋₊ - ⌊length * bounds.topPercent⌋₊) :=
    sliceRows_range' (floor_mul_le valid.atMost)
  rw [← toInt_of_nonneg (mul_nonneg (Nat.cast_nonneg _) valid.nonneg),
    ← toInt_of_nonneg (mul_nonneg (Nat.cast_nonneg _) nonneg)] at rows
  simp only [cropPanel, given, List.length_range', Option.bind_eq_bind, Option.bind_some,
    Option.pure_def, rows]

/-- What the phone sends of a screenshot. -/
theorem applyRoiCrop_range {top bottom : ℚ} {height : ℕ} (some : 0 < height) (nonneg : 0 ≤ top)
    (ordered : top < bottom) (atMost : bottom ≤ 1) :
    applyRoiCrop ⟨top, bottom⟩ (List.range height) =
      List.range' ⌊height * top⌋₊
        (max ⌊height * bottom⌋₊ (⌊height * top⌋₊ + 1) - ⌊height * top⌋₊) := by
  have within := floor_mul_lt nonneg (ordered.trans_le atMost) some
  have reach := floor_mul_le (n := height) atMost
  unfold applyRoiCrop
  dsimp only
  split
  next whole =>
    have first : top = 0 := le_antisymm whole.1 nonneg
    have last : bottom = 1 := le_antisymm atMost whole.2
    rw [first, last, mul_zero, mul_one, Nat.floor_zero, Nat.floor_natCast,
      max_eq_left (by omega), List.range_eq_range']
    rfl
  · rw [List.length_range, Int.cast_natCast,
      toInt_of_nonneg (mul_nonneg (Nat.cast_nonneg _) nonneg),
      toInt_of_nonneg (mul_nonneg (Nat.cast_nonneg _) (nonneg.trans ordered.le))]
    have start : coerceIn ⌊height * top⌋₊ 0 (height - 1) = ⌊height * top⌋₊ := by
      rw [coerceIn_eq (by omega)]
      omega
    have stop : coerceIn ⌊height * bottom⌋₊ (⌊height * top⌋₊ + 1) height =
        (max ⌊height * bottom⌋₊ (⌊height * top⌋₊ + 1) : ℕ) := by
      rw [coerceIn_eq (by omega)]
      omega
    rw [start, stop, List.range_eq_range', List.drop_range',
      List.take_range'_of_length_ge (by omega), Int.toNat_natCast]
    congr 1 <;> omega

end Rows

section Configured

variable {roi : Roi} {bounds : Panel → Bounds} {height : ℕ}

/-- The upper bound of the capture. -/
def captureTop (bounds : Panel → Bounds) : ℚ :=
  min (bounds .pricePanel).topPercent (bounds .indicatorPanel).topPercent

/-- The lower bound of the capture. -/
def captureBottom (bounds : Panel → Bounds) : ℚ :=
  max (bounds .pricePanel).bottomPercent (bounds .indicatorPanel).bottomPercent

theorem captureTop_le (panel : Panel) : captureTop bounds ≤ (bounds panel).topPercent := by
  cases panel with
  | pricePanel => exact min_le_left _ _
  | indicatorPanel => exact min_le_right _ _

theorem le_captureBottom (panel : Panel) :
    (bounds panel).bottomPercent ≤ captureBottom bounds := by
  cases panel with
  | pricePanel => exact le_max_left _ _
  | indicatorPanel => exact le_max_right _ _

theorem exists_captureTop (bounds : Panel → Bounds) :
    ∃ panel, (bounds panel).topPercent = captureTop bounds := by
  rcases min_choice (bounds .pricePanel).topPercent (bounds .indicatorPanel).topPercent with
    price | indicator
  · exact ⟨.pricePanel, price.symm⟩
  · exact ⟨.indicatorPanel, indicator.symm⟩

theorem exists_captureBottom (bounds : Panel → Bounds) :
    ∃ panel, (bounds panel).bottomPercent = captureBottom bounds := by
  rcases max_choice (bounds .pricePanel).bottomPercent (bounds .indicatorPanel).bottomPercent
    with price | indicator
  · exact ⟨.pricePanel, price.symm⟩
  · exact ⟨.indicatorPanel, indicator.symm⟩

theorem getCaptureRoi_eq (configures : roi.Configures bounds) :
    getCaptureRoi roi = ⟨captureTop bounds, captureBottom bounds⟩ := by
  have price : roi.pricePanel = some (bounds .pricePanel) := configures.given .pricePanel
  have indicator : roi.indicatorPanel = some (bounds .indicatorPanel) :=
    configures.given .indicatorPanel
  rw [getCaptureRoi, price, indicator]
  rfl

/-- The first row of the screenshot that is sent. -/
def sentFrom (bounds : Panel → Bounds) (height : ℕ) : ℕ := ⌊height * captureTop bounds⌋₊

/-- How many rows are sent. -/
def sentHeight (bounds : Panel → Bounds) (height : ℕ) : ℕ :=
  max ⌊height * captureBottom bounds⌋₊ (sentFrom bounds height + 1) - sentFrom bounds height

/-- The panel is cut out of what is sent where it is cut out of the screenshot, if at all. -/
theorem transparent_iff_rows (configures : roi.Configures bounds) (some : 0 < height) :
    Transparent roi height ↔ ∀ panel,
      List.range' (sentFrom bounds height +
          ⌊sentHeight bounds height * (bounds panel).topPercent⌋₊)
        (⌊sentHeight bounds height * (bounds panel).bottomPercent⌋₊ -
          ⌊sentHeight bounds height * (bounds panel).topPercent⌋₊) =
      List.range' ⌊height * (bounds panel).topPercent⌋₊
        (⌊height * (bounds panel).bottomPercent⌋₊ -
          ⌊height * (bounds panel).topPercent⌋₊) := by
  obtain ⟨lowest, atBottom⟩ := exists_captureBottom bounds
  obtain ⟨highest, atTop⟩ := exists_captureTop bounds
  have nonneg : 0 ≤ captureTop bounds := atTop ▸ (configures.valid highest).nonneg
  have atMost : captureBottom bounds ≤ 1 := atBottom ▸ (configures.valid lowest).atMost
  have ordered : captureTop bounds < captureBottom bounds :=
    (captureTop_le lowest).trans_lt
      ((configures.valid lowest).ordered.trans_le (le_captureBottom lowest))
  have sent := applyRoiCrop_range some nonneg ordered atMost
  refine forall_congr' fun panel => ?_
  rw [getCaptureRoi_eq configures, sent, List.range_eq_range',
    cropPanel_range' (configures.given panel) (configures.valid panel),
    cropPanel_range' (configures.given panel) (configures.valid panel), Option.some_inj,
    Nat.zero_add]
  rfl

/-- How many rows below are not sent. -/
def cutBelow (bounds : Panel → Bounds) (height : ℕ) : ℕ :=
  height - (sentFrom bounds height + sentHeight bounds height)

/-- What is cut off at the top pushes a bound of a panel down, and what is cut off at the bottom
pulls it up; with what rounding took it stays within its row. -/
def Settled (bounds : Panel → Bounds) (height : ℕ) (part : ℚ) : Prop :=
  0 ≤ Int.fract (height * part) + sentFrom bounds height * (1 - part) -
      cutBelow bounds height * part ∧
    Int.fract (height * part) + sentFrom bounds height * (1 - part) -
      cutBelow bounds height * part < 1

/-- What is sent is a part of the screenshot. -/
theorem sent_add_cutBelow (configures : roi.Configures bounds) (some : 0 < height) :
    sentFrom bounds height + sentHeight bounds height + cutBelow bounds height = height := by
  obtain ⟨lowest, atBottom⟩ := exists_captureBottom bounds
  obtain ⟨highest, atTop⟩ := exists_captureTop bounds
  have top := configures.valid highest
  have bottom := configures.valid lowest
  have start : sentFrom bounds height < height :=
    floor_mul_lt (atTop ▸ top.nonneg) (atTop ▸ top.ordered.trans_le top.atMost) some
  have stop : ⌊height * captureBottom bounds⌋₊ ≤ height :=
    floor_mul_le (atBottom ▸ bottom.atMost)
  unfold cutBelow sentHeight
  omega

theorem settled_iff {part : ℚ} (nonneg : 0 ≤ part)
    (sent : sentFrom bounds height + sentHeight bounds height + cutBelow bounds height = height) :
    sentFrom bounds height + ⌊sentHeight bounds height * part⌋₊ = ⌊height * part⌋₊ ↔
      Settled bounds height part := by
  have inInt : ∀ n : ℕ, (⌊n * part⌋₊ : ℤ) = ⌊n * part⌋ :=
    fun n => Int.natCast_floor_eq_floor (mul_nonneg (Nat.cast_nonneg _) nonneg)
  have rows : (sentHeight bounds height : ℚ) =
      height - sentFrom bounds height - cutBelow bounds height := by
    rw [eq_sub_iff_add_eq, eq_sub_iff_add_eq']
    exact_mod_cast (Nat.add_assoc _ _ _).symm.trans sent
  rw [← Int.natCast_inj, Nat.cast_add, inInt, inInt, ← eq_sub_iff_add_eq', Int.floor_eq_iff,
    rows, Settled, Int.fract]
  push_cast
  refine and_congr ⟨fun above => ?_, fun above => ?_⟩ ⟨fun below => ?_, fun below => ?_⟩
  all_goals linarith

/-- **One height.**  A panel that has rows keeps them exactly when its bounds stay; one that has
none must not be given any. -/
theorem transparent_iff_settled (configures : roi.Configures bounds) (some : 0 < height) :
    Transparent roi height ↔ ∀ panel,
      ((bounds panel).HasRow (sentHeight bounds height) → (bounds panel).HasRow height) ∧
        ((bounds panel).HasRow height → Settled bounds height (bounds panel).topPercent ∧
          Settled bounds height (bounds panel).bottomPercent) := by
  have sent := sent_add_cutBelow configures some
  rw [transparent_iff_rows configures some]
  refine forall_congr' fun panel => ?_
  have valid := configures.valid panel
  have ordered : ∀ n : ℕ, ⌊n * (bounds panel).topPercent⌋₊ ≤ ⌊n * (bounds panel).bottomPercent⌋₊ :=
    fun n => Nat.floor_mono (mul_le_mul_of_nonneg_left valid.ordered.le (Nat.cast_nonneg n))
  have within := ordered (sentHeight bounds height)
  rw [← settled_iff valid.nonneg sent, ← settled_iff (valid.nonneg.trans valid.ordered.le) sent,
    List.range'_inj, Bounds.HasRow, Bounds.HasRow]
  omega

/-- Where rows below the panels are cut off, the lowest panel shrinks. -/
theorem captureBottom_of_transparent (configures : roi.Configures bounds)
    (visible : ∀ panel, (bounds panel).HasRow height) (some : 0 < height)
    (transparent : Transparent roi height) : captureBottom bounds = 1 := by
  obtain ⟨lowest, atBottom⟩ := exists_captureBottom bounds
  have valid := configures.valid lowest
  have row := visible lowest
  have kept := ((transparent_iff_settled configures some).mp transparent lowest).2 row
  have stays := (settled_iff (valid.nonneg.trans valid.ordered.le)
    (sent_add_cutBelow configures some)).mpr kept.2
  have above : sentFrom bounds height ≤ ⌊height * (bounds lowest).topPercent⌋₊ :=
    Nat.floor_mono (mul_le_mul_of_nonneg_left (captureTop_le lowest) (Nat.cast_nonneg _))
  unfold Bounds.HasRow at row
  rw [atBottom] at stays row
  by_contra cut
  have small : captureBottom bounds < 1 := lt_of_le_of_ne (atBottom ▸ valid.atMost) cut
  have nonneg : 0 ≤ captureBottom bounds := atBottom ▸ valid.nonneg.trans valid.ordered.le
  have sent : 0 < sentHeight bounds height := by
    unfold sentHeight
    omega
  have shrunk := floor_mul_lt nonneg small sent
  unfold sentHeight at stays shrunk
  omega

/-- High screenshots show every panel. -/
theorem exists_visible (configures : roi.Configures bounds) :
    ∃ least : ℕ, ∀ height ≥ least, ∀ panel, (bounds panel).HasRow height := by
  have enough : ∀ panel, ∃ least : ℕ, ∀ height ≥ least, (bounds panel).HasRow height := by
    intro panel
    have valid := configures.valid panel
    have room : 0 < (bounds panel).bottomPercent - (bounds panel).topPercent :=
      sub_pos.mpr valid.ordered
    obtain ⟨least, large⟩ :=
      exists_nat_ge (1 / ((bounds panel).bottomPercent - (bounds panel).topPercent))
    refine ⟨least, fun height high => ?_⟩
    have row : 1 ≤ height * ((bounds panel).bottomPercent - (bounds panel).topPercent) :=
      (div_le_iff₀ room).mp (large.trans (Nat.cast_le.mpr high))
    have next : ⌊height * (bounds panel).topPercent⌋₊ + 1 =
        ⌊height * (bounds panel).topPercent + 1⌋₊ :=
      (Nat.floor_add_one (mul_nonneg (Nat.cast_nonneg _) valid.nonneg)).symm
    refine Nat.lt_of_succ_le (next.le.trans (Nat.floor_mono ?_))
    linarith only [row]
  obtain ⟨price, priceShown⟩ := enough .pricePanel
  obtain ⟨indicator, indicatorShown⟩ := enough .indicatorPanel
  refine ⟨max price indicator, fun height high panel => ?_⟩
  cases panel with
  | pricePanel => exact priceShown height ((le_max_left _ _).trans high)
  | indicatorPanel => exact indicatorShown height ((le_max_right _ _).trans high)

theorem cutBelow_of_whole (whole : captureBottom bounds = 1) : cutBelow bounds height = 0 := by
  rw [cutBelow, sentHeight, whole, mul_one, Nat.floor_natCast]
  omega

/-- Where the cut-off rows add up to one, the highest panel moves. -/
theorem not_settled_captureTop (whole : captureBottom bounds = 1) (low : captureTop bounds < 1)
    (high : 2 ≤ height * (captureTop bounds * (1 - captureTop bounds)))
    (nonneg : 0 ≤ captureTop bounds) : ¬ Settled bounds height (captureTop bounds) := by
  intro settled
  have within := settled.2
  rw [cutBelow_of_whole whole, Nat.cast_zero, zero_mul, sub_zero] at within
  have frac := Int.fract_nonneg (height * captureTop bounds)
  have floor : height * captureTop bounds - 1 < sentFrom bounds height :=
    Nat.sub_one_lt_floor _
  have along : (height * captureTop bounds - 1) * (1 - captureTop bounds) ≤
      sentFrom bounds height * (1 - captureTop bounds) :=
    mul_le_mul_of_nonneg_right floor.le (sub_nonneg.mpr low.le)
  linarith only [within, frac, along, high, nonneg]

theorem whole_iff (configures : roi.Configures bounds) :
    Whole bounds ↔ captureTop bounds = 0 ∧ captureBottom bounds = 1 := by
  constructor
  · intro whole
    obtain ⟨⟨first, atTop⟩, last, atBottom⟩ := whole
    obtain ⟨highest, top⟩ := exists_captureTop bounds
    obtain ⟨lowest, bottom⟩ := exists_captureBottom bounds
    exact ⟨le_antisymm (atTop ▸ captureTop_le first) (top ▸ (configures.valid highest).nonneg),
      le_antisymm (bottom ▸ (configures.valid lowest).atMost) (atBottom ▸ le_captureBottom last)⟩
  · intro whole
    obtain ⟨highest, top⟩ := exists_captureTop bounds
    obtain ⟨lowest, bottom⟩ := exists_captureBottom bounds
    exact ⟨⟨highest, top.trans whole.1⟩, lowest, bottom.trans whole.2⟩

/-- Nothing is cropped where the panels reach from top to bottom. -/
theorem transparent_of_whole (configures : roi.Configures bounds) (whole : Whole bounds) :
    Transparent roi height := by
  have bound := (whole_iff configures).mp whole
  have uncropped : applyRoiCrop (getCaptureRoi roi) (List.range height) = List.range height := by
    rw [getCaptureRoi_eq configures, applyRoiCrop]
    exact if_pos ⟨bound.1.le, bound.2.ge⟩
  intro panel
  rw [uncropped]

theorem whole_of_transparent (configures : roi.Configures bounds)
    (transparent : ∀ height > 0, Transparent roi height) : Whole bounds := by
  obtain ⟨least, visible⟩ := exists_visible configures
  obtain ⟨highest, top⟩ := exists_captureTop bounds
  have nonneg : 0 ≤ captureTop bounds := top ▸ (configures.valid highest).nonneg
  have low : captureTop bounds < 1 :=
    top ▸ (configures.valid highest).ordered.trans_le (configures.valid highest).atMost
  have bottom : captureBottom bounds = 1 :=
    captureBottom_of_transparent configures (visible (least + 1) (Nat.le_succ _))
      (Nat.succ_pos _) (transparent _ (Nat.succ_pos _))
  refine (whole_iff configures).mpr ⟨?_, bottom⟩
  by_contra cut
  have part : 0 < captureTop bounds * (1 - captureTop bounds) :=
    mul_pos (lt_of_le_of_ne nonneg (Ne.symm cut)) (sub_pos.mpr low)
  obtain ⟨large, enough⟩ := exists_nat_ge (2 / (captureTop bounds * (1 - captureTop bounds)))
  have much : 2 ≤ (max (least + 1) large : ℕ) * (captureTop bounds * (1 - captureTop bounds)) :=
    (div_le_iff₀ part).mp (enough.trans (Nat.cast_le.mpr (le_max_right _ _)))
  have least' : least + 1 ≤ max (least + 1) large := le_max_left _ _
  have some : 0 < max (least + 1) large := by omega
  have settled := ((transparent_iff_settled configures some).mp (transparent _ some) highest).2
    (visible _ (by omega) highest)
  exact not_settled_captureTop bottom low much nonneg (top ▸ settled.1)

end Configured

/-- **Cropping.**  Cropping on the phone moves no panel, whatever the height, exactly when the
panels reach from the top of the screenshot to its bottom.  At one height it moves none exactly
when the bounds of the panels that have rows stay within theirs, and no other panel gets rows. -/
theorem transparent_iff {roi : Roi} {bounds : Panel → Bounds}
    (configures : roi.Configures bounds) :
    ((∀ height > 0, Transparent roi height) ↔ Whole bounds) ∧
      ∀ height > 0, (Transparent roi height ↔ ∀ panel,
        ((bounds panel).HasRow (sentHeight bounds height) → (bounds panel).HasRow height) ∧
          ((bounds panel).HasRow height → Settled bounds height (bounds panel).topPercent ∧
            Settled bounds height (bounds panel).bottomPercent)) :=
  ⟨⟨whole_of_transparent configures, fun whole _ _ => transparent_of_whole configures whole⟩,
    fun _ some => transparent_iff_settled configures some⟩

/-- The price above the indicator. -/
def stackedPanels (top middle bottom : ℚ) : Panel → Bounds
  | .pricePanel => ⟨top, middle⟩
  | .indicatorPanel => ⟨middle, bottom⟩

def stacked (top middle bottom : ℚ) : Roi :=
  ⟨some (stackedPanels top middle bottom .pricePanel),
    some (stackedPanels top middle bottom .indicatorPanel)⟩

theorem stacked_configures {top middle bottom : ℚ} (nonneg : 0 ≤ top) (upper : top < middle)
    (lower : middle < bottom) (atMost : bottom ≤ 1) :
    (stacked top middle bottom).Configures (stackedPanels top middle bottom) where
  given panel := by cases panel <;> rfl
  valid panel := by
    cases panel with
    | pricePanel => exact ⟨nonneg, upper, lower.le.trans atMost⟩
    | indicatorPanel => exact ⟨nonneg.trans upper.le, lower, atMost⟩

theorem transparent_iff_stacked : Transparent (stacked 0 (7 / 10) 1) 2400 :=
  (transparent_iff (stacked_configures le_rfl (by norm_num) (by norm_num) le_rfl)).1.mpr
    ⟨⟨.pricePanel, rfl⟩, .indicatorPanel, rfl⟩ 2400 (by decide)

/-- With a status bar above the panels and a navigation bar below them, cropping moves them. -/
theorem not_transparent_bars : ¬ Transparent (stacked (1 / 5) (3 / 5) (4 / 5)) 2400 := by
  intro transparent
  have configures : (stacked (1 / 5) (3 / 5) (4 / 5)).Configures
      (stackedPanels (1 / 5) (3 / 5) (4 / 5)) :=
    stacked_configures (by norm_num) (by norm_num) (by norm_num) (by norm_num)
  have visible : ∀ panel, (stackedPanels (1 / 5) (3 / 5) (4 / 5) panel).HasRow 2400 := by
    intro panel
    unfold Bounds.HasRow
    cases panel <;> decide +kernel
  have whole := captureBottom_of_transparent configures visible (by decide) transparent
  norm_num [captureBottom, stackedPanels] at whole

end Aegis.Vision
