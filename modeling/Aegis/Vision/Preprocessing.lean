import Aegis.Lib.Pipeline
import Aegis.Lib.Python
import Aegis.Lib.Rounding
import Aegis.Vision.Uploads

/-!
# Preprocessing

`POST /preprocessing/execute` runs the enhancement stages that a client asks for on an uploaded
image; a stage that raises is reported, and the next one gets the image as it was.  OpenCV is a
parameter, and the products and quotients of `resize_image` are rounded.

`executePreprocessing_accounts` is about the report: it says of every image that can be loaded
what the reported stages did to it.  `executePreprocessing_statistics` gives the size and the
colour space that come out.
-/

namespace Aegis.Vision

open Aegis.Lib

/-- OpenCV, as far as `ImageEnhancement` calls it.  A call may raise an exception with a text. -/
structure OpenCvFilters (Image : Type) extends OpenCvFiles Image where
  /-- by `alpha` and `beta` -/
  convertScaleAbs : ℚ → ℚ → Image → Except String Image
  cvtColorBgr2Gray : Image → Except String Image
  /-- `INTER_AREA`, to a width and a height -/
  resize : ℕ × ℕ → Image → Except String Image

/-- What the manual says of the shapes. -/
structure OpenCvFilters.Documented {Image : Type} (cv : OpenCvFilters Image) : Prop where
  imread : ∀ contents image, cv.imread contents = some image →
    (cv.shape image).channels = some 3
  convertScaleAbs : ∀ alpha beta image after, cv.convertScaleAbs alpha beta image = .ok after →
    cv.shape after = cv.shape image
  cvtColorBgr2Gray : ∀ image after, cv.cvtColorBgr2Gray image = .ok after →
    cv.shape after = ⟨(cv.shape image).height, (cv.shape image).width, none⟩
  resize : ∀ width height image after, cv.resize (width, height) image = .ok after →
    (cv.shape after).width = width ∧ (cv.shape after).height = height ∧
      (cv.shape after).channels.getD 1 = (cv.shape image).channels.getD 1

/-! ## `ImageEnhancement` -/

section Enhancement

variable {Image : Type} (fl : ℚ →o ℚ) (cv : OpenCvFilters Image)

def normalizeBrightness : Image → Except String Image := cv.convertScaleAbs 1 15

def enhanceContrast : Image → Except String Image := cv.convertScaleAbs (5 / 4) 0

def convertToGrayscale (image : Image) : Except String Image :=
  match (cv.shape image).channels with
  | none => .ok image
  | some _ => cv.cvtColorBgr2Gray image

/-- What is from here on is not a finite float. -/
def floatOverflow : ℚ := 2 ^ 1024 - 2 ^ 970

/-- `int(original * (asked / float(other)))`. -/
def scaledSide (original other asked : ℕ) : Except String ℕ :=
  if floatOverflow ≤ asked then .error "int too large to convert to float"
  else if other = 0 then .error "float division by zero"
  else
    let ratio := fl (fl asked / fl other)
    if floatOverflow ≤ fl original * ratio then .error "cannot convert float infinity to integer"
    else .ok (fl (fl original * ratio)).floor.toNat

def resizeImage (width height : Option ℕ) (image : Image) : Except String Image :=
  match width, height with
  | none, none => .ok image
  | none, some height => do
      let width ← scaledSide fl (cv.shape image).width (cv.shape image).height height
      cv.resize (width, height) image
  | some width, none => do
      let height ← scaledSide fl (cv.shape image).height (cv.shape image).width width
      cv.resize (width, height) image
  | some width, some height => cv.resize (width, height) image

end Enhancement

/-! ## `VisionPreprocessingExecutor` -/

structure ImagePreprocessingRequest where
  filename : String
  applyBrightness : Bool := true
  applyContrast : Bool := true
  applyGrayscale : Bool := false
  resizeWidth : Option ℕ := none
  resizeHeight : Option ℕ := none
  widthPositive : ∀ width ∈ resizeWidth, 1 ≤ width := by decide
  heightPositive : ∀ height ∈ resizeHeight, 1 ≤ height := by decide

structure PreprocessingStageResult where
  stageName : String
  executed : Bool
  success : Bool
  message : String
  deriving DecidableEq

structure PipelineExecutionSummary where
  totalStages : ℤ
  successfulStages : ℤ
  failedStages : ℤ
  deriving DecidableEq

structure ProcessingStatistics where
  width : ℕ
  height : ℕ
  channels : ℕ
  fileSizeBytes : Option ℕ
  colorSpace : String
  deriving DecidableEq

structure ImagePreprocessingResponse where
  status : String
  filename : String
  processedFilename : String
  pipelineVersion : String := "CP-003-Part1"
  statistics : ProcessingStatistics
  stages : List PreprocessingStageResult
  summary : PipelineExecutionSummary
  deriving DecidableEq

/-- The result of a stage that ran. -/
def PreprocessingStageResult.ofOutcome (outcome : Outcome String String) :
    PreprocessingStageResult :=
  ⟨outcome.name, true, outcome.failure.isNone, outcome.failure.getD "Completed"⟩

/-- The result of a registered stage, which does not run. -/
def PreprocessingStageResult.registered (stageName : String) : PreprocessingStageResult :=
  ⟨stageName, true, true, "Registered stage"⟩

/-- `registered_stages()`: what `_register_default_pipeline` registers. -/
def registeredStages : List String := ["identity"]

section Executor

variable {Image : Type} (fl : ℚ →o ℚ) (cv : OpenCvFilters Image)
  (request : ImagePreprocessingRequest)

/-- The stages, each with whether it is enabled. -/
def builtInStages : List (Bool × Stage String Image String) :=
  [(request.applyBrightness, ⟨"brightness_normalization", normalizeBrightness cv⟩),
    (request.applyContrast, ⟨"contrast_enhancement", enhanceContrast cv⟩),
    (request.applyGrayscale, ⟨"grayscale_conversion", convertToGrayscale cv⟩),
    (request.resizeWidth.isSome || request.resizeHeight.isSome,
      ⟨"resize", resizeImage fl cv request.resizeWidth request.resizeHeight⟩)]

def enabledStages : List (Stage String Image String) :=
  ((builtInStages fl cv request).filter (·.1)).map (·.2)

variable (cwd : List String) (fs : FileSystem) (directorySize : List String → ℕ)

/-- `st_size` of the place, if there is anything. -/
def fileSize (place : List String) : Option ℕ :=
  (fs place).map fun entry => match entry with
    | .file contents => contents.length
    | .directory => directorySize place

def statistics (image : Image) : ProcessingStatistics :=
  let info := imageInformation cv.toOpenCvFiles image
  ⟨info.width, info.height, info.channels,
    fileSize fs directorySize (requestedPlace cwd request.filename),
    if info.channels = 1 then "GRAY" else "BGR"⟩

/-- The end of `execute`, when the enabled stages have run. -/
def responseTo (progress : Progress String Image String) : ImagePreprocessingResponse :=
  let failedStages := progress.outcomes.countP (·.failure.isSome)
  let stages := progress.outcomes.map PreprocessingStageResult.ofOutcome ++
    registeredStages.map .registered
  { status := if failedStages = 0 then "success" else "partial_success"
    filename := request.filename
    processedFilename := request.filename
    statistics := statistics cv request cwd fs directorySize progress.product
    stages := stages
    summary := ⟨stages.length, stages.length - failedStages, failedStages⟩ }

/-- `execute`. -/
def executePipeline : Except LoadError ImagePreprocessingResponse := do
  let image ← loadImage cv.toOpenCvFiles cwd fs request.filename
  return responseTo cv request cwd fs directorySize (.through (enabledStages fl cv request) image)

/-- `execute_preprocessing`: the response, or the status code and the detail. -/
def executePreprocessing : Except (ℕ × String) ImagePreprocessingResponse :=
  match executePipeline fl cv request cwd fs directorySize with
  | .error (.fileNotFoundError text) => .error (404, text)
  | .error (.valueError text) => .error (400, text)
  | .ok response => .ok response

end Executor

/-! ## The report -/

section Report

variable {Image : Type} {fl : ℚ →o ℚ} {cv : OpenCvFilters Image}
  {request : ImagePreprocessingRequest} {cwd : List String} {fs : FileSystem}
  {directorySize : List String → ℕ} {image : Image}

/-- The built-in stages have four names. -/
theorem nodup_enabledStages : ((enabledStages fl cv request).map (·.name)).Nodup := by
  have sub : ((enabledStages fl cv request).map (·.name)).Sublist
      ((builtInStages fl cv request).map (·.2.name)) := by
    rw [enabledStages, List.map_map]
    exact List.filter_sublist.map _
  exact sub.nodup (by simp [builtInStages])

theorem identity_notMem : "identity" ∉ (enabledStages fl cv request).map (·.name) := by
  intro member
  have sub : (enabledStages fl cv request).map (·.name) ⊆
      (builtInStages fl cv request).map (·.2.name) := by
    rw [enabledStages, List.map_map]
    exact (List.filter_sublist.map _).subset
  have listed := sub member
  simp [builtInStages] at listed

/-- The stage is reported as completed. -/
def ImagePreprocessingResponse.Completed (response : ImagePreprocessingResponse)
    (stageName : String) : Prop :=
  ∃ stage ∈ response.stages, stage.stageName = stageName ∧ stage.success = true

instance (response : ImagePreprocessingResponse) (stageName : String) :
    Decidable (response.Completed stageName) :=
  inferInstanceAs (Decidable (∃ _ ∈ _, _))

/-- The stages of the request that the response reports as completed. -/
def completedStages (fl : ℚ →o ℚ) (cv : OpenCvFilters Image) (request : ImagePreprocessingRequest)
    (response : ImagePreprocessingResponse) : List (Stage String Image String) :=
  (enabledStages fl cv request).filter fun stage => response.Completed stage.name

theorem executePreprocessing_of_loaded
    (loaded : loadImage cv.toOpenCvFiles cwd fs request.filename = .ok image) :
    executePreprocessing fl cv request cwd fs directorySize =
      .ok (responseTo cv request cwd fs directorySize
        (.through (enabledStages fl cv request) image)) := by
  have found : executePipeline fl cv request cwd fs directorySize =
      .ok (responseTo cv request cwd fs directorySize
        (.through (enabledStages fl cv request) image)) := by
    rw [executePipeline, loaded]
    rfl
  rw [executePreprocessing, found]

variable {progress : Progress String Image String} {stage : Stage String Image String}

/-- What the response says of a stage that ran. -/
theorem completed_iff (ran : stage.name ≠ "identity") :
    (responseTo cv request cwd fs directorySize progress).Completed stage.name ↔
      ⟨stage.name, none⟩ ∈ progress.outcomes := by
  unfold ImagePreprocessingResponse.Completed responseTo
  simp only [registeredStages, List.map_singleton, List.mem_append, List.mem_map,
    List.mem_singleton]
  constructor
  · intro held
    rcases held with ⟨result, ⟨outcome, member, rfl⟩ | rfl, named, success⟩
    · obtain ⟨name, failure⟩ := outcome
      cases failure with
      | none =>
          rw [← named]
          exact member
      | some text => cases success
    · exact absurd named.symm ran
  · intro member
    exact ⟨_, .inl ⟨_, member, rfl⟩, rfl, rfl⟩

theorem failed_mem_iff {text : String} :
    ⟨stage.name, true, false, text⟩ ∈
        (responseTo cv request cwd fs directorySize progress).stages ↔
      ⟨stage.name, some text⟩ ∈ progress.outcomes := by
  unfold responseTo
  simp only [registeredStages, List.map_singleton, List.mem_append, List.mem_map,
    List.mem_singleton]
  constructor
  · intro either
    rcases either with ⟨outcome, member, same⟩ | registered
    · obtain ⟨name, failure⟩ := outcome
      cases failure with
      | none => cases same
      | some other =>
          cases same
          exact member
    · simp [PreprocessingStageResult.registered] at registered
  · intro member
    exact .inl ⟨_, member, rfl⟩

theorem countP_failed :
    (responseTo cv request cwd fs directorySize progress).stages.countP (!·.success) =
      progress.outcomes.countP (·.failure.isSome) := by
  have same (outcome : Outcome String String) :
      (!(PreprocessingStageResult.ofOutcome outcome).success) = outcome.failure.isSome := by
    cases failed : outcome.failure <;> simp [PreprocessingStageResult.ofOutcome, failed]
  simp only [responseTo, List.countP_append, List.countP_map]
  exact congrArg (· + 0) (List.countP_congr fun outcome _ => by
    rw [Function.comp_apply, same])

theorem summary_eq :
    (responseTo cv request cwd fs directorySize progress).summary =
      ⟨(responseTo cv request cwd fs directorySize progress).stages.length,
        (responseTo cv request cwd fs directorySize progress).stages.countP (·.success),
        (responseTo cv request cwd fs directorySize progress).stages.countP (!·.success)⟩ := by
  have all := List.length_eq_countP_add_countP (·.success)
    (l := (responseTo cv request cwd fs directorySize progress).stages)
  have negated : (fun stage : PreprocessingStageResult => decide ¬ stage.success = true) =
      fun stage => !stage.success := by
    funext stage
    cases stage.success <;> rfl
  rw [negated] at all
  have failed := @countP_failed _ cv request cwd fs directorySize progress
  have summary : (responseTo cv request cwd fs directorySize progress).summary =
      ⟨(responseTo cv request cwd fs directorySize progress).stages.length,
        (responseTo cv request cwd fs directorySize progress).stages.length -
          progress.outcomes.countP (·.failure.isSome),
        progress.outcomes.countP (·.failure.isSome)⟩ := rfl
  rw [summary, ← failed]
  congr 1
  omega

theorem status_iff :
    (responseTo cv request cwd fs directorySize progress).status = "success" ↔
      ∀ stage ∈ (responseTo cv request cwd fs directorySize progress).stages, stage.success := by
  have failed := @countP_failed _ cv request cwd fs directorySize progress
  have status : (responseTo cv request cwd fs directorySize progress).status =
      if progress.outcomes.countP (·.failure.isSome) = 0 then "success" else "partial_success" := rfl
  rw [status, ← failed]
  split
  next zero =>
    rw [List.countP_eq_zero] at zero
    simpa using zero
  next some =>
    rw [List.countP_eq_zero] at some
    simpa using some

/-- An image that is loaded is that of a file. -/
theorem file_of_loaded (loaded : loadImage cv.toOpenCvFiles cwd fs request.filename = .ok image) :
    ∃ contents, fs (requestedPlace cwd request.filename) = some (.file contents) ∧
      cv.imread contents = some image := by
  unfold loadImage at loaded
  dsimp only at loaded
  split at loaded
  · cases place : fs (requestedPlace cwd request.filename) with
    | none =>
        rw [place] at loaded
        cases loaded
    | some entry =>
        rw [place] at loaded
        cases entry with
        | directory => cases loaded
        | file contents =>
            refine ⟨contents, rfl, ?_⟩
            cases read : cv.imread contents with
            | none => simp [read] at loaded
            | some found =>
                simp only [read] at loaded
                cases loaded
                rfl
  · cases loaded

theorem completedStages_eq :
    completedStages fl cv request (responseTo cv request cwd fs directorySize progress) =
      succeeded (enabledStages fl cv request) progress.outcomes := by
  refine List.filter_congr fun stage member => decide_eq_decide.mpr (completed_iff fun same => ?_)
  refine @identity_notMem _ fl cv request ?_
  rw [← same]
  exact List.mem_map_of_mem member

/-- **The report.**  Every enabled stage is in it, in order, and the registered one after them.
Those reported as completed are what made the image that comes out, and each that failed did so
on the image that those before it had made. -/
theorem executePreprocessing_accounts
    (loaded : loadImage cv.toOpenCvFiles cwd fs request.filename = .ok image) :
    ∃ response made, executePreprocessing fl cv request cwd fs directorySize = .ok response ∧
      strictly (completedStages fl cv request response) image = .ok made ∧
      imageInformation cv.toOpenCvFiles made = ⟨response.statistics.width,
        response.statistics.height, response.statistics.channels⟩ ∧
      (∃ contents, fs (requestedPlace cwd request.filename) = some (.file contents) ∧
        response.statistics.fileSizeBytes = some contents.length) ∧
      response.stages.map (·.stageName) =
        (enabledStages fl cv request).map (·.name) ++ registeredStages ∧
      (∀ before stage after, enabledStages fl cv request = before ++ stage :: after →
        ∀ text, ⟨stage.name, true, false, text⟩ ∈ response.stages ↔
          ∃ given, strictly (before.filter fun stage => response.Completed stage.name) image =
            .ok given ∧ stage.operation given = .error text) ∧
      response.summary = ⟨response.stages.length, response.stages.countP (·.success),
        response.stages.countP (!·.success)⟩ ∧
      (response.status = "success" ↔ ∀ stage ∈ response.stages, stage.success) := by
  have distinct := @nodup_enabledStages _ fl cv request
  obtain ⟨contents, place, _⟩ := file_of_loaded loaded
  refine ⟨_, (Progress.through (enabledStages fl cv request) image).product,
    executePreprocessing_of_loaded loaded, ?_, rfl, ⟨contents, place, ?_⟩, ?_, ?_, ?_, ?_⟩
  · rw [completedStages_eq]
    exact strictly_succeeded distinct
  · exact congrArg (Option.map _) place
  · have named := @map_name_outcomes _ _ _ (enabledStages fl cv request) image
    rw [← named]
    simp only [responseTo, List.map_append, List.map_map]
    rfl
  · intro before stage after split text
    rw [failed_mem_iff]
    have same : (before.filter fun stage => (responseTo cv request cwd fs directorySize
        (.through (enabledStages fl cv request) image)).Completed stage.name) =
        succeeded before (Progress.through (enabledStages fl cv request) image).outcomes := by
      refine List.filter_congr fun earlier member =>
        decide_eq_decide.mpr (completed_iff fun identity => ?_)
      refine @identity_notMem _ fl cv request ?_
      rw [split, ← identity]
      exact List.mem_map_of_mem (List.mem_append_left _ member)
    rw [same, split]
    rw [split] at distinct
    exact failed_iff distinct text
  · exact summary_eq
  · exact status_iff

/-- An OpenCV that knows no more of an image than its shape. -/
def shapeFilters : OpenCvFilters Shape where
  imread _ := some ⟨2, 4, some 3⟩
  shape image := image
  convertScaleAbs _ _ image := .ok image
  cvtColorBgr2Gray image := .ok ⟨image.height, image.width, none⟩
  resize size image := .ok ⟨size.2, size.1, image.channels⟩

def storedPixel : FileSystem := fun place =>
  if place = ["app", "uploads", "a.png"] then some (.file [1]) else none

def wideRequest : ImagePreprocessingRequest where
  filename := "a.png"
  applyGrayscale := true
  resizeWidth := some 8
  widthPositive := by simp

theorem executePreprocessing_accounts_wideRequest :
    ∃ response made, executePreprocessing OrderHom.id shapeFilters wideRequest ["app"] storedPixel
        (fun _ => 0) = .ok response ∧
      strictly (completedStages OrderHom.id shapeFilters wideRequest response) ⟨2, 4, some 3⟩ =
        .ok made := by
  have loaded : loadImage shapeFilters.toOpenCvFiles ["app"] storedPixel wideRequest.filename =
      .ok ⟨2, 4, some 3⟩ := rfl
  obtain ⟨response, made, answered, ran, _⟩ := executePreprocessing_accounts loaded
  exact ⟨response, made, answered, ran⟩

/-! ## The image that comes out -/

variable {made given : Image} {width height : Option ℕ} {W H w h : ℕ}

/-- A stage other than `resize`. -/
theorem size_of_enhancement (documented : cv.Documented)
    (member : stage ∈ enabledStages fl cv request) (other : stage.name ≠ "resize")
    (ran : stage.operation given = .ok made) :
    (cv.shape made).width = (cv.shape given).width ∧
      (cv.shape made).height = (cv.shape given).height := by
  obtain ⟨⟨enabled, found⟩, among, rfl⟩ := List.mem_map.mp member
  have listed := List.mem_of_mem_filter among
  unfold builtInStages at listed
  simp only [List.mem_cons, List.not_mem_nil, or_false, Prod.mk.injEq] at listed
  obtain ⟨_, rfl⟩ | ⟨_, rfl⟩ | ⟨_, rfl⟩ | ⟨_, rfl⟩ := listed
  · rw [documented.convertScaleAbs _ _ _ _ ran]
    exact ⟨rfl, rfl⟩
  · rw [documented.convertScaleAbs _ _ _ _ ran]
    exact ⟨rfl, rfl⟩
  · dsimp only [convertToGrayscale] at ran
    split at ran
    · cases ran
      exact ⟨rfl, rfl⟩
    · rw [documented.cvtColorBgr2Gray _ _ ran]
      exact ⟨rfl, rfl⟩
  · exact absurd rfl other

/-- `resize_image` is a resizing by OpenCV, or nothing. -/
theorem resizeImage_cases (ran : resizeImage fl cv width height given = .ok made) :
    made = given ∨ ∃ w h, cv.resize (w, h) given = .ok made := by
  unfold resizeImage at ran
  split at ran
  · cases ran
    exact .inl rfl
  · obtain ⟨w, _, resized⟩ := bind_eq_ok.mp ran
    exact .inr ⟨_, _, resized⟩
  · obtain ⟨h, _, resized⟩ := bind_eq_ok.mp ran
    exact .inr ⟨_, _, resized⟩
  · exact .inr ⟨_, _, ran⟩

/-- After `grayscale_conversion` there is one channel; the other stages keep what there are. -/
theorem channels_of_stage (documented : cv.Documented)
    (member : stage ∈ enabledStages fl cv request) (ran : stage.operation given = .ok made) :
    (cv.shape made).channels.getD 1 =
      if stage.name = "grayscale_conversion" then 1 else (cv.shape given).channels.getD 1 := by
  obtain ⟨⟨enabled, found⟩, among, rfl⟩ := List.mem_map.mp member
  have listed := List.mem_of_mem_filter among
  unfold builtInStages at listed
  simp only [List.mem_cons, List.not_mem_nil, or_false, Prod.mk.injEq] at listed
  obtain ⟨_, rfl⟩ | ⟨_, rfl⟩ | ⟨_, rfl⟩ | ⟨_, rfl⟩ := listed
  · rw [if_neg (by simp), documented.convertScaleAbs _ _ _ _ ran]
  · rw [if_neg (by simp), documented.convertScaleAbs _ _ _ _ ran]
  · rw [if_pos rfl]
    dsimp only [convertToGrayscale] at ran
    split at ran
    next single =>
      cases ran
      rw [single]
      rfl
    · rw [documented.cvtColorBgr2Gray _ _ ran]
      rfl
  · rw [if_neg (by simp)]
    obtain rfl | ⟨w, h, resized⟩ := resizeImage_cases ran
    · rfl
    · exact (documented.resize _ _ _ _ resized).2.2

theorem scaledSide_bounds (exact : Exact64 fl) (close : Close fl) {original other asked side : ℕ}
    (asked_pos : 1 ≤ asked) (original_small : original ≤ 2 ^ 24) (other_small : other ≤ 2 ^ 24)
    (asked_small : asked ≤ 2 ^ 24) (ok : scaledSide fl original other asked = .ok side) :
    other * side ≤ original * asked ∧ original * asked ≤ other * (side + 1) := by
  unfold scaledSide at ok
  split at ok
  · cases ok
  · split at ok
    · cases ok
    · next positive =>
        dsimp only at ok
        split at ok
        · cases ok
        · cases ok
          rw [exact.natCast (by omega), exact.natCast (by omega), exact.natCast (by omega)]
          exact part_quotient exact close asked_pos (Nat.one_le_iff_ne_zero.mpr positive)
            original_small asked_small other_small

/-- What comes of a size that was asked for. -/
structure Resized (width height : Option ℕ) (before after : Shape) : Prop where
  askedWidth : ∀ w, width = some w → after.width = w
  askedHeight : ∀ h, height = some h → after.height = h
  /-- with a width only, the height is the proportional one, short of a pixel at most -/
  proportionalHeight : ∀ w, width = some w → height = none →
    before.width * after.height ≤ before.height * w ∧
      before.height * w ≤ before.width * (after.height + 1)
  proportionalWidth : ∀ h, height = some h → width = none →
    before.height * after.width ≤ before.width * h ∧
      before.width * h ≤ before.height * (after.width + 1)

theorem resized_of_resizeImage (documented : cv.Documented) (exact : Exact64 fl)
    (close : Close fl) (narrow : (cv.shape given).width ≤ 2 ^ 24)
    (low : (cv.shape given).height ≤ 2 ^ 24) (widths : ∀ w, width = some w → 1 ≤ w ∧ w ≤ 2 ^ 24)
    (heights : ∀ h, height = some h → 1 ≤ h ∧ h ≤ 2 ^ 24)
    (ran : resizeImage fl cv width height given = .ok made) :
    Resized width height (cv.shape given) (cv.shape made) := by
  unfold resizeImage at ran
  split at ran
  · exact ⟨nofun, nofun, nofun, nofun⟩
  next h =>
    obtain ⟨side, fitted, resized⟩ := bind_eq_ok.mp ran
    obtain ⟨atWidth, atHeight, _⟩ := documented.resize _ _ _ _ resized
    obtain ⟨positive, small⟩ := heights h rfl
    have bounds := scaledSide_bounds exact close positive narrow low small fitted
    refine ⟨nofun, fun _ same => ?_, nofun, fun _ same _ => ?_⟩
    · rw [atHeight]
      exact Option.some.inj same
    · rw [atWidth, ← Option.some.inj same]
      exact bounds
  next w =>
    obtain ⟨side, fitted, resized⟩ := bind_eq_ok.mp ran
    obtain ⟨atWidth, atHeight, _⟩ := documented.resize _ _ _ _ resized
    obtain ⟨positive, small⟩ := widths w rfl
    have bounds := scaledSide_bounds exact close positive low narrow small fitted
    refine ⟨fun _ same => ?_, nofun, fun _ same _ => ?_, nofun⟩
    · rw [atWidth]
      exact Option.some.inj same
    · rw [atHeight, ← Option.some.inj same]
      exact bounds
  next w h =>
    obtain ⟨atWidth, atHeight, _⟩ := documented.resize _ _ _ _ ran
    refine ⟨fun _ same => ?_, fun _ same => ?_, nofun, nofun⟩
    · rw [atWidth]
      exact Option.some.inj same
    · rw [atHeight]
      exact Option.some.inj same

/-- `resize` comes last. -/
theorem enabledStages_eq : ∃ others, (∀ stage ∈ others, stage ∈ enabledStages fl cv request) ∧
    (∀ stage ∈ others, stage.name ≠ "resize") ∧
    enabledStages fl cv request = others ++
      if request.resizeWidth.isSome || request.resizeHeight.isSome then
        [⟨"resize", resizeImage fl cv request.resizeWidth request.resizeHeight⟩]
      else [] := by
  have split : enabledStages fl cv request =
      (((builtInStages fl cv request).take 3).filter (·.1)).map (·.2) ++
        (((builtInStages fl cv request).drop 3).filter (·.1)).map (·.2) := by
    rw [← List.map_append, ← List.filter_append, List.take_append_drop]
    rfl
  refine ⟨(((builtInStages fl cv request).take 3).filter (·.1)).map (·.2), fun stage member => ?_,
    fun stage member => ?_, split.trans ?_⟩
  · rw [split]
    exact List.mem_append_left _ member
  · obtain ⟨⟨enabled, found⟩, among, rfl⟩ := List.mem_map.mp member
    have listed := List.mem_of_mem_filter among
    simp only [builtInStages, List.take_succ_cons, List.take_zero, List.mem_cons,
      List.not_mem_nil, or_false, Prod.mk.injEq] at listed
    obtain ⟨_, rfl⟩ | ⟨_, rfl⟩ | ⟨_, rfl⟩ := listed
    · simp
    · simp
    · simp
  · congr 1
    simp only [builtInStages, List.drop_succ_cons, List.drop_zero]
    split <;> simp [*]

theorem mem_completedStages {response : ImagePreprocessingResponse} :
    stage ∈ completedStages fl cv request response ↔
      stage ∈ enabledStages fl cv request ∧ response.Completed stage.name := by
  rw [completedStages, List.mem_filter, decide_eq_true_iff]

variable {response : ImagePreprocessingResponse}

theorem size_kept (documented : cv.Documented) {stages : List (Stage String Image String)}
    (among : ∀ stage ∈ stages, stage ∈ enabledStages fl cv request)
    (others : ∀ stage ∈ stages, stage.name ≠ "resize") (ran : strictly stages image = .ok made) :
    (cv.shape made).width = (cv.shape image).width ∧
      (cv.shape made).height = (cv.shape image).height := by
  refine strictly_keeps (P := fun reached => (cv.shape reached).width = (cv.shape image).width ∧
    (cv.shape reached).height = (cv.shape image).height) ?_ ⟨rfl, rfl⟩ ran
  intro stage member given same made ran
  have size := size_of_enhancement documented (among stage member) (others stage member) ran
  exact ⟨size.1.trans same.1, size.2.trans same.2⟩

theorem size_resized (documented : cv.Documented) (exact : Exact64 fl) (close : Close fl)
    (narrow : (cv.shape image).width ≤ 2 ^ 24) (low : (cv.shape image).height ≤ 2 ^ 24)
    (widths : ∀ w, request.resizeWidth = some w → w ≤ 2 ^ 24)
    (heights : ∀ h, request.resizeHeight = some h → h ≤ 2 ^ 24)
    (completed : ∃ stage ∈ completedStages fl cv request response, stage.name = "resize")
    (ran : strictly (completedStages fl cv request response) image = .ok made) :
    Resized request.resizeWidth request.resizeHeight (cv.shape image) (cv.shape made) := by
  obtain ⟨stage, member, named⟩ := completed
  obtain ⟨among, completed⟩ := mem_completedStages.mp member
  obtain ⟨others, sub, distinct, split⟩ := @enabledStages_eq _ fl cv request
  rw [split, List.mem_append, or_iff_right fun early => distinct stage early named] at among
  split at among
  next asked =>
    have last : completedStages fl cv request response =
        (others.filter fun stage => response.Completed stage.name) ++
          [⟨"resize", resizeImage fl cv request.resizeWidth request.resizeHeight⟩] := by
      rw [named] at completed
      rw [completedStages, split, if_pos asked, List.filter_append]
      exact congrArg _ (List.filter_cons_of_pos (decide_eq_true completed))
    rw [last, strictly_concat] at ran
    obtain ⟨given, early, resized⟩ := bind_eq_ok.mp ran
    have size := size_kept documented (fun stage kept => sub stage (List.mem_of_mem_filter kept))
      (fun stage kept => distinct stage (List.mem_of_mem_filter kept)) early
    have final := resized_of_resizeImage documented exact close (by rw [size.1]; exact narrow)
      (by rw [size.2]; exact low)
      (fun w same => ⟨request.widthPositive w same, widths w same⟩)
      (fun h same => ⟨request.heightPositive h same, heights h same⟩) resized
    refine ⟨final.askedWidth, final.askedHeight, ?_, ?_⟩
    · rw [← size.1, ← size.2]
      exact final.proportionalHeight
    · rw [← size.1, ← size.2]
      exact final.proportionalWidth
  next => exact absurd among List.not_mem_nil

theorem gray_iff (documented : cv.Documented) (color : (cv.shape image).channels = some 3)
    (ran : strictly (completedStages fl cv request response) image = .ok made) :
    (cv.shape made).channels.getD 1 = 1 ↔
      ∃ stage ∈ completedStages fl cv request response, stage.name = "grayscale_conversion" := by
  constructor
  · intro single
    by_contra! others
    have kept := strictly_keeps (P := fun reached => (cv.shape reached).channels.getD 1 = 3)
      (fun stage member given same made ran => by
        have channels := channels_of_stage documented (mem_completedStages.mp member).1 ran
        rwa [if_neg (others stage member), same] at channels)
      (by rw [color]; rfl) ran
    omega
  · intro held
    rcases held with ⟨stage, member, named⟩
    obtain ⟨before, after, split⟩ := List.append_of_mem member
    rw [split, strictly_append] at ran
    obtain ⟨given, _, ran⟩ := bind_eq_ok.mp ran
    obtain ⟨between, first, ran⟩ := strictly_cons.mp ran
    have single := channels_of_stage documented (mem_completedStages.mp member).1 first
    rw [if_pos named] at single
    refine strictly_keeps (P := fun reached => (cv.shape reached).channels.getD 1 = 1)
      (fun stage later given same made ran => ?_) single ran
    have among : stage ∈ completedStages fl cv request response := by
      rw [split]
      exact List.mem_append_right _ (List.mem_cons_of_mem _ later)
    have channels := channels_of_stage documented (mem_completedStages.mp among).1 ran
    rw [channels, same, ite_self]

/-- What the response says of the built-in stages. -/
theorem exists_completed_iff {name : String} (other : name ≠ "identity") :
    let response := responseTo cv request cwd fs directorySize
      (.through (enabledStages fl cv request) image)
    (∃ stage ∈ completedStages fl cv request response, stage.name = name) ↔
      response.Completed name := by
  intro response
  constructor
  · intro held
    rcases held with ⟨stage, member, rfl⟩
    exact (mem_completedStages.mp member).2
  · intro completed
    have ran : ⟨name, none⟩ ∈ (Progress.through (enabledStages fl cv request) image).outcomes :=
      (@completed_iff _ cv request cwd fs directorySize _ ⟨name, fun image => .ok image⟩ other).mp
        completed
    have named := @map_name_outcomes _ _ _ (enabledStages fl cv request) image
    have listed : name ∈ (enabledStages fl cv request).map (·.name) := by
      rw [← named]
      exact List.mem_map_of_mem ran
    obtain ⟨stage, member, rfl⟩ := List.mem_map.mp listed
    exact ⟨stage, mem_completedStages.mpr ⟨member, completed⟩, rfl⟩

/-- **The image that comes out.**  Its size is that of the image before, or the one asked for if
`resize` completed; it is gray if `grayscale_conversion` completed. -/
theorem executePreprocessing_statistics (documented : cv.Documented) (exact : Exact64 fl)
    (close : Close fl) (loaded : loadImage cv.toOpenCvFiles cwd fs request.filename = .ok image)
    (narrow : (cv.shape image).width ≤ 2 ^ 24) (low : (cv.shape image).height ≤ 2 ^ 24)
    (widths : ∀ w, request.resizeWidth = some w → w ≤ 2 ^ 24)
    (heights : ∀ h, request.resizeHeight = some h → h ≤ 2 ^ 24)
    (answered : executePreprocessing fl cv request cwd fs directorySize = .ok response) :
    (¬ response.Completed "resize" → response.statistics.width = (cv.shape image).width ∧
      response.statistics.height = (cv.shape image).height) ∧
    (response.Completed "resize" →
      Resized request.resizeWidth request.resizeHeight (cv.shape image)
        ⟨response.statistics.height, response.statistics.width, none⟩) ∧
    (response.statistics.colorSpace = "GRAY" ↔ response.Completed "grayscale_conversion") := by
  obtain ⟨contents, _, read⟩ := file_of_loaded loaded
  rw [executePreprocessing_of_loaded loaded] at answered
  cases answered
  have ran := @strictly_succeeded _ _ _ _ image _ _ (@nodup_enabledStages _ fl cv request)
  rw [← @completedStages_eq _ fl cv request cwd fs directorySize] at ran
  refine ⟨fun unresized => ?_, fun resized => ?_, ?_⟩
  · refine size_kept documented (fun stage member => (mem_completedStages.mp member).1)
      (fun stage member same => unresized ?_) ran
    rw [← same]
    exact (mem_completedStages.mp member).2
  · have size := size_resized documented exact close narrow low widths heights
      ((exists_completed_iff (by decide)).mpr resized) ran
    exact ⟨size.askedWidth, size.askedHeight, size.proportionalHeight, size.proportionalWidth⟩
  · refine Iff.trans ?_ (exists_completed_iff (by decide))
    rw [← gray_iff documented (documented.imread _ _ read) ran]
    simp only [responseTo, statistics, imageInformation]
    by_cases single : (cv.shape (Progress.through (enabledStages fl cv request) image).product
      ).channels.getD 1 = 1
    · simp [single]
    · simp [single]

theorem documented_shapeFilters : shapeFilters.Documented where
  imread _ _ read := by
    cases read
    rfl
  convertScaleAbs _ _ _ _ ran := by
    cases ran
    rfl
  cvtColorBgr2Gray _ _ ran := by
    cases ran
    rfl
  resize _ _ _ _ ran := by
    cases ran
    exact ⟨rfl, rfl, rfl⟩

theorem executePreprocessing_statistics_wideRequest :
    ∃ response, executePreprocessing OrderHom.id shapeFilters wideRequest ["app"] storedPixel
        (fun _ => 0) = .ok response ∧
      (response.Completed "resize" →
        Resized (some 8) none ⟨2, 4, some 3⟩
          ⟨response.statistics.height, response.statistics.width, none⟩) := by
  have loaded : loadImage shapeFilters.toOpenCvFiles ["app"] storedPixel wideRequest.filename =
      .ok ⟨2, 4, some 3⟩ := rfl
  refine ⟨_, executePreprocessing_of_loaded loaded, ?_⟩
  exact (executePreprocessing_statistics documented_shapeFilters .id .id loaded (by decide)
    (by decide) (by simp [wideRequest]) nofun (executePreprocessing_of_loaded loaded)).2.1

end Report

end Aegis.Vision
