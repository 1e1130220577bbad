import Aegis.Lib.Binary64
import Aegis.Lib.Rounding
import Aegis.Vision.Uploads

/-!
# Chart detection

`POST /chart-detection/detect` takes margins off an uploaded image.  The products with the
margins are floats and are rounded.  The response model wants a plotting area of a pixel at
least: `detectChart_ok_iff` says for which images it gets one, and `plottingArea_bounds` where
the area lies.
-/

namespace Aegis.Vision

open Aegis.Lib

/-- The floats `0.05`, `0.95`, `0.10` and `0.90`. -/
def fivePercent : ℚ := 3602879701896397 / 72057594037927936

def ninetyFivePercent : ℚ := 4278419646001971 / 4503599627370496

def tenPercent : ℚ := 3602879701896397 / 36028797018963968

def ninetyPercent : ℚ := 8106479329266893 / 9007199254740992

structure ChartRegion where
  left : ℕ
  right : ℕ
  top : ℕ
  bottom : ℕ
  deriving DecidableEq

structure PlottingArea where
  x : ℕ
  y : ℕ
  width : ℤ
  height : ℤ
  deriving DecidableEq

/-- What `detect` returns. -/
structure ChartDetection where
  image : ImageInformation
  chartRegion : ChartRegion
  plottingArea : PlottingArea
  /-- the path of `candlestick_input`, which repeats the plotting area -/
  imagePath : String
  deriving DecidableEq

def chartRegion (fl : ℚ →o ℚ) (info : ImageInformation) : ChartRegion where
  left := part fl info.width fivePercent
  right := part fl info.width ninetyFivePercent
  top := part fl info.height tenPercent
  bottom := part fl info.height ninetyPercent

def ChartRegion.plottingArea (region : ChartRegion) : PlottingArea :=
  ⟨region.left, region.top, region.right - region.left, region.bottom - region.top⟩

section Detect

variable {Image : Type} (fl : ℚ →o ℚ) (cv : OpenCvFiles Image) (cwd : List String)
  (fs : FileSystem)

def detect (imagePath : String) : Except LoadError ChartDetection := do
  let image ← loadImage cv cwd fs imagePath
  let info := imageInformation cv image
  let region := chartRegion fl info
  return ⟨info, region, region.plottingArea, imagePath⟩

/-- `ChartDetectionResponse`, on what `detect` returns; the other bounds are of numbers that
are not negative. -/
def ChartDetection.Valid (result : ChartDetection) : Prop :=
  1 ≤ result.image.width ∧ 1 ≤ result.image.height ∧ 1 ≤ result.image.channels ∧
    1 ≤ result.plottingArea.width ∧ 1 ≤ result.plottingArea.height

instance (result : ChartDetection) : Decidable result.Valid :=
  inferInstanceAs (Decidable (_ ∧ _ ∧ _ ∧ _ ∧ _))

inductive DetectRejection where
  | httpException (statusCode : ℕ) (detail : String)
  /-- the framework answers a result that is not a response with a 500 -/
  | responseValidation
  deriving DecidableEq

/-- `detect_chart`. -/
def detectChart (imagePath : String) : Except DetectRejection ChartDetection :=
  match detect fl cv cwd fs imagePath with
  | .error (.fileNotFoundError text) => .error (.httpException 404 text)
  | .error (.valueError text) => .error (.httpException 400 text)
  | .ok result => if result.Valid then .ok result else .error .responseValidation

end Detect

theorem stands_fivePercent : Stands fivePercent 1 20 := by
  constructor <;> norm_num [fivePercent]

theorem stands_ninetyFivePercent : Stands ninetyFivePercent 19 20 := by
  constructor <;> norm_num [ninetyFivePercent]

theorem stands_tenPercent : Stands tenPercent 1 10 := by
  constructor <;> norm_num [tenPercent]

theorem stands_ninetyPercent : Stands ninetyPercent 9 10 := by
  constructor <;> norm_num [ninetyPercent]

variable {fl : ℚ →o ℚ}

/-- **Margins.**  At most the margins are taken off, and at most a pixel less than they are; the
area is inside the image. -/
theorem chartRegion_bounds (info : ImageInformation) (exact : Exact64 fl)
    (narrow : info.width ≤ 2 ^ 47) (low : info.height ≤ 2 ^ 47) :
    (20 * (chartRegion fl info).left ≤ info.width ∧
      info.width ≤ 20 * ((chartRegion fl info).left + 1)) ∧
    (20 * (chartRegion fl info).right ≤ 19 * info.width ∧
      19 * info.width ≤ 20 * ((chartRegion fl info).right + 1)) ∧
    (10 * (chartRegion fl info).top ≤ info.height ∧
      info.height ≤ 10 * ((chartRegion fl info).top + 1)) ∧
    (10 * (chartRegion fl info).bottom ≤ 9 * info.height ∧
      9 * info.height ≤ 10 * ((chartRegion fl info).bottom + 1)) := by
  have left := part_le exact narrow stands_fivePercent
  have left' := le_part exact narrow stands_fivePercent
  have top := part_le exact low stands_tenPercent
  have top' := le_part exact low stands_tenPercent
  rw [Nat.one_mul] at left left' top top'
  exact ⟨⟨left, left'⟩,
    ⟨part_le exact narrow stands_ninetyFivePercent, le_part exact narrow stands_ninetyFivePercent⟩,
    ⟨top, top'⟩, part_le exact low stands_ninetyPercent, le_part exact low stands_ninetyPercent⟩

theorem plottingArea_iff (info : ImageInformation) (exact : Exact64 fl)
    (narrow : info.width ≤ 2 ^ 47) (low : info.height ≤ 2 ^ 47) :
    (1 ≤ (chartRegion fl info).plottingArea.width ↔ 2 ≤ info.width) ∧
      (1 ≤ (chartRegion fl info).plottingArea.height ↔ 2 ≤ info.height) := by
  obtain ⟨⟨left, _⟩, ⟨right, right'⟩, ⟨top, _⟩, ⟨bottom, bottom'⟩⟩ :=
    chartRegion_bounds info exact narrow low
  unfold ChartRegion.plottingArea
  dsimp only
  constructor
  · omega
  · omega

/-- What comes of an image that is loaded. -/
theorem detectChart_of_loaded (fl : ℚ →o ℚ) {Image : Type} {cv : OpenCvFiles Image}
    {cwd : List String} {fs : FileSystem} {imagePath : String} {image : Image}
    (loaded : loadImage cv cwd fs imagePath = .ok image) :
    let info := imageInformation cv image
    let result : ChartDetection :=
      ⟨info, chartRegion fl info, (chartRegion fl info).plottingArea, imagePath⟩
    detectChart fl cv cwd fs imagePath =
      if result.Valid then .ok result else .error .responseValidation := by
  have found : detect fl cv cwd fs imagePath = .ok ⟨imageInformation cv image,
      chartRegion fl (imageInformation cv image),
      (chartRegion fl (imageInformation cv image)).plottingArea, imagePath⟩ := by
    rw [detect, loaded]
    rfl
  rw [detectChart, found]

/-- **Which images.**  Of the images that can be loaded, those of two pixels by two at least get
their chart, whose plotting area lies inside the image, with at most the margins and a pixel
taken off; for the others the endpoint fails. -/
theorem detectChart_ok_iff {Image : Type} {cv : OpenCvFiles Image} {cwd : List String}
    {fs : FileSystem} {imagePath : String} {image : Image} (exact : Exact64 fl)
    (loaded : loadImage cv cwd fs imagePath = .ok image) (narrow : (cv.shape image).width ≤ 2 ^ 47)
    (low : (cv.shape image).height ≤ 2 ^ 47) :
    ((∃ result, detectChart fl cv cwd fs imagePath = .ok result) ↔
      2 ≤ (cv.shape image).width ∧ 2 ≤ (cv.shape image).height ∧
        (cv.shape image).channels ≠ some 0) ∧
    ∀ result, detectChart fl cv cwd fs imagePath = .ok result →
      result.chartRegion.left < result.chartRegion.right ∧
      result.chartRegion.right ≤ (cv.shape image).width ∧
      result.chartRegion.top < result.chartRegion.bottom ∧
      result.chartRegion.bottom ≤ (cv.shape image).height ∧
      result.Valid ∧
      result.plottingArea.x + result.plottingArea.width ≤ (cv.shape image).width ∧
      result.plottingArea.y + result.plottingArea.height ≤ (cv.shape image).height ∧
      9 * (cv.shape image).width - 10 ≤ 10 * result.plottingArea.width ∧
      8 * (cv.shape image).height - 10 ≤ 10 * result.plottingArea.height := by
  have outcome := detectChart_of_loaded fl loaded
  dsimp only at outcome
  have bounds := chartRegion_bounds (imageInformation cv image) exact narrow low
  have area := plottingArea_iff (imageInformation cv image) exact narrow low
  have width : (imageInformation cv image).width = (cv.shape image).width := rfl
  have height : (imageInformation cv image).height = (cv.shape image).height := rfl
  have channels : 1 ≤ (imageInformation cv image).channels ↔
      (cv.shape image).channels ≠ some 0 := by
    unfold imageInformation
    cases (cv.shape image).channels with
    | none => simp
    | some n => simp [Nat.one_le_iff_ne_zero]
  rw [width, height] at bounds area
  rw [outcome]
  constructor
  · rw [← area.1, ← area.2, ← channels]
    constructor
    · intro held
      rcases held with ⟨result, ok⟩
      split at ok
      next valid => exact ⟨valid.2.2.2.1, valid.2.2.2.2, valid.2.2.1⟩
      next => cases ok
    · intro held
      rcases held with ⟨wide, high, some⟩
      have wider := Nat.le_of_lt (area.1.mp wide)
      have higher := Nat.le_of_lt (area.2.mp high)
      exact ⟨_, if_pos ⟨wider, higher, some, wide, high⟩⟩
  · intro result ok
    split at ok
    next valid =>
      cases ok
      have wide := valid.2.2.2.1
      have high := valid.2.2.2.2
      unfold ChartRegion.plottingArea at wide high ⊢
      dsimp only at wide high ⊢
      refine ⟨by omega, by omega, by omega, by omega, valid, by omega, by omega, by omega, by omega⟩
    next => cases ok

def pixelFiles : FileSystem := fun place =>
  if place = ["app", "uploads", "a.png"] then some (.file [1]) else none

/-- An OpenCV that takes any file for a screenshot. -/
def screenshotCv : OpenCvFiles (List UInt8) := ⟨some, fun _ => ⟨2400, 1080, some 3⟩⟩

theorem detectChart_ok_iff_pixelFiles :
    ∃ result, detectChart binary64 screenshotCv ["app"] pixelFiles "uploads/a.png" = .ok result ∧
      result.plottingArea.x + result.plottingArea.width ≤ 1080 ∧
      result.plottingArea.y + result.plottingArea.height ≤ 2400 ∧
      971 ≤ result.plottingArea.width ∧ 1919 ≤ result.plottingArea.height := by
  have loaded : loadImage screenshotCv ["app"] pixelFiles "uploads/a.png" = .ok [1] := rfl
  have detects := detectChart_ok_iff exact64_binary64 loaded (by decide) (by decide)
  dsimp only [screenshotCv] at detects
  obtain ⟨result, ok⟩ := detects.1.mpr (by decide)
  obtain ⟨_, _, _, _, _, wide, high, width, height⟩ := detects.2 result ok
  refine ⟨result, ok, by exact_mod_cast wide, by exact_mod_cast high, ?_, ?_⟩
  · omega
  · omega

end Aegis.Vision
