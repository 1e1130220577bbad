import Mathlib.Data.Rat.Init
import Aegis.Lib.PosixPath
import Aegis.Lib.Run
import Aegis.Lib.Text

/-!
# Uploaded images

`POST /upload/` stores an image under a name that it draws, and `ImageProcessingService` loads
images by a path that any client of `/upload/info`, `/preprocessing` and `/chart-detection`
chooses.  What OpenCV reads from a file is a parameter, and so are the drawn names.

`loadImage_congr` says that nothing outside the directory of the uploads has a part in what is
loaded, whatever the path is.  `uploads_kept` is about any sequence of uploads: each stored image
is found again, and nothing else is touched.
-/

namespace Aegis.Vision

open Aegis.Lib

inductive Entry where
  | file (contents : List UInt8)
  | directory
  deriving DecidableEq

abbrev FileSystem := List String → Option Entry

/-- `shape` of a loaded image; two numbers for one channel. -/
structure Shape where
  height : ℕ
  width : ℕ
  channels : Option ℕ
  deriving DecidableEq

/-- OpenCV, as far as these services call it. -/
structure OpenCvFiles (Image : Type) where
  imread : List UInt8 → Option Image
  shape : Image → Shape

inductive LoadError where
  | valueError (text : String)
  | fileNotFoundError (text : String)
  deriving DecidableEq

/-! ## Loading -/

/-- `ALLOWED_BASE_DIRECTORY`. -/
def uploadsDirectory (cwd : List String) : List String := cwd ++ ["uploads"]

section Load

variable {Image : Type} (cv : OpenCvFiles Image) (cwd : List String)

/-- The place that `load_image` looks at. -/
def requestedPlace (imagePath : String) : List String :=
  PosixPath.resolveChild (uploadsDirectory cwd) (PosixPath.name imagePath)

def loadImage (fs : FileSystem) (imagePath : String) : Except LoadError Image :=
  let path := requestedPlace cwd imagePath
  if PosixPath.chars (uploadsDirectory cwd) <+: PosixPath.chars path then
    match fs path with
    | none => .error (.fileNotFoundError s!"Image not found: {imagePath}")
    | some .directory => .error (.valueError "Unable to read image.")
    | some (.file contents) =>
        match cv.imread contents with
        | none => .error (.valueError "Unable to read image.")
        | some image => .ok image
  else .error (.valueError "Invalid image path.")

structure ImageInformation where
  width : ℕ
  height : ℕ
  channels : ℕ
  deriving DecidableEq

def imageInformation (image : Image) : ImageInformation :=
  ⟨(cv.shape image).width, (cv.shape image).height, (cv.shape image).channels.getD 1⟩

end Load

/-! ## Uploading -/

def allowedExtensions : List String := [".png", ".jpg", ".jpeg", ".bmp", ".webp"]

def isAllowedExtension (filename : String) : Bool :=
  decide (lower (PosixPath.suffix filename) ∈ allowedExtensions)

/-- The text of a `uuid4()`. -/
structure Uuid where
  text : String
  length : text.toList.length = 36
  plain : ∀ c ∈ text.toList, c ∈ "0123456789abcdef-".toList

structure UploadFile where
  filename : String
  contentType : Option String
  contents : List UInt8

structure ImageMetadata where
  filename : String
  originalFilename : String
  contentType : String
  fileSize : ℕ
  uploadTime : ℚ
  storagePath : String
  deriving DecidableEq

/-- One request, with what the server draws and reads for it. -/
structure Upload where
  file : UploadFile
  uuid : Uuid
  now : ℚ

namespace Upload

variable (upload : Upload)

def generatedName : String := upload.uuid.text ++ lower (PosixPath.suffix upload.file.filename)

def destination (cwd : List String) : List String := uploadsDirectory cwd ++ [upload.generatedName]

/-- `save_image`, or the text of its `ValueError`.  The file is written before the metadata are
checked, and they need a content type. -/
def saveImage (cwd : List String) (invalid : String) (fs : FileSystem) :
    Except String ImageMetadata × FileSystem :=
  if isAllowedExtension upload.file.filename then
    let after := Function.update fs (upload.destination cwd) (some (.file upload.file.contents))
    match upload.file.contentType with
    | none => (.error invalid, after)
    | some contentType =>
        (.ok ⟨upload.generatedName, upload.file.filename, contentType, upload.file.contents.length,
          upload.now, "uploads/" ++ upload.generatedName⟩, after)
  else (.error "Unsupported file format.", fs)

def ct : String := lower (strip (beforeSemicolon (upload.file.contentType.getD "")))

def BadContentType : Prop :=
  upload.ct ≠ "" ∧ ¬ "image/".toList <+: upload.ct.toList ∧ upload.ct ≠ "application/octet-stream"

instance : Decidable upload.BadContentType := inferInstanceAs (Decidable (_ ∧ _))

/-- `upload_image`: the metadata, or the detail of its 400. -/
def uploadImage (cwd : List String) (invalid : String) (fs : FileSystem) :
    Except String ImageMetadata × FileSystem :=
  if upload.BadContentType then
    (.error s!"Only image files are accepted (got content-type={pyRepr upload.file.contentType}).",
      fs)
  else upload.saveImage cwd invalid fs

end Upload

/-! ## Confinement -/

section Confined

variable {Image : Type} {cv : OpenCvFiles Image} {cwd : List String} {fs other : FileSystem}

/-- The directory of the uploads, and what is right in it. -/
def Inside (cwd place : List String) : Prop :=
  place = uploadsDirectory cwd ∨
    ∃ name, '/' ∉ name.toList ∧ name ≠ "" ∧ name ≠ ".." ∧ place = uploadsDirectory cwd ++ [name]

/-- The guard of `load_image` stops `..` and nothing else. -/
theorem guard_iff (imagePath : String) :
    PosixPath.chars (uploadsDirectory cwd) <+: PosixPath.chars (requestedPlace cwd imagePath) ↔
      PosixPath.name imagePath ≠ ".." := by
  unfold requestedPlace PosixPath.resolveChild uploadsDirectory
  by_cases empty : PosixPath.name imagePath = ""
  · rw [if_pos empty]
    refine iff_of_true (List.prefix_refl _) ?_
    rw [empty]
    decide
  · rw [if_neg empty]
    by_cases up : PosixPath.name imagePath = ".."
    · rw [if_pos up, List.dropLast_concat]
      exact iff_of_false (PosixPath.not_chars_append_prefix (by decide)) (not_not.mpr up)
    · rw [if_neg up]
      exact iff_of_true (PosixPath.chars_append_prefix _ _ (by simp)) up

theorem inside_requestedPlace {imagePath : String} (allowed : PosixPath.name imagePath ≠ "..") :
    Inside cwd (requestedPlace cwd imagePath) := by
  unfold requestedPlace PosixPath.resolveChild
  by_cases empty : PosixPath.name imagePath = ""
  · rw [if_pos empty]
    exact .inl rfl
  · rw [if_neg empty, if_neg allowed]
    exact .inr ⟨_, PosixPath.slash_notMem_name imagePath, empty, allowed, rfl⟩

/-- **Confinement.**  Whatever the path is, what lies outside the directory of the uploads, or
deeper in it, does not matter: not whether an image is loaded, not which, and not which error is
raised. -/
theorem loadImage_congr (same : ∀ place, Inside cwd place → fs place = other place)
    (imagePath : String) : loadImage cv cwd fs imagePath = loadImage cv cwd other imagePath := by
  unfold loadImage
  dsimp only
  by_cases allowed : PosixPath.name imagePath = ".."
  · have refused : ¬ PosixPath.chars (uploadsDirectory cwd) <+:
        PosixPath.chars (requestedPlace cwd imagePath) :=
      fun passed => (guard_iff imagePath).mp passed allowed
    rw [if_neg refused, if_neg refused]
  · rw [same _ (inside_requestedPlace allowed)]

/-- An OpenCV that takes any file for an image of one pixel. -/
def sampleCv : OpenCvFiles (List UInt8) := ⟨some, fun _ => ⟨1, 1, some 3⟩⟩

def secretFiles : FileSystem := fun place =>
  if place = ["etc", "passwd"] then some (.file [114, 111, 111, 116]) else none

theorem loadImage_congr_secretFiles :
    loadImage sampleCv ["app"] secretFiles "../../etc/passwd" =
      loadImage sampleCv ["app"] (fun _ => none) "../../etc/passwd" := by
  refine loadImage_congr (fun place inside => if_neg ?_) _
  rcases inside with rfl | ⟨name, _, _, _, rfl⟩ <;> simp [uploadsDirectory]

end Confined

/-! ## Runs of uploads -/

namespace Upload

/-- The image is written. -/
def Stored (upload : Upload) : Prop :=
  ¬ upload.BadContentType ∧ isAllowedExtension upload.file.filename = true

instance (upload : Upload) : Decidable upload.Stored := inferInstanceAs (Decidable (_ ∧ _))

def step (cwd : List String) (invalid : String) (fs : FileSystem) (upload : Upload) : FileSystem :=
  (upload.uploadImage cwd invalid fs).2

variable {cwd : List String} {invalid : String} {fs : FileSystem} {upload other : Upload}
  {metadata : ImageMetadata}

theorem step_stored (stored : upload.Stored) : step cwd invalid fs upload =
    Function.update fs (upload.destination cwd) (some (.file upload.file.contents)) := by
  unfold step uploadImage saveImage
  rw [if_neg stored.1, if_pos stored.2]
  dsimp only
  split <;> rfl

theorem step_refused (refused : ¬ upload.Stored) : step cwd invalid fs upload = fs := by
  unfold step uploadImage saveImage
  by_cases bad : upload.BadContentType
  · rw [if_pos bad]
  · rw [if_neg bad, if_neg fun allowed => refused ⟨bad, allowed⟩]

/-- What a receipt says. -/
theorem stored_of_receipt (receipt : (upload.uploadImage cwd invalid fs).1 = .ok metadata) :
    upload.Stored ∧ metadata.filename = upload.generatedName := by
  unfold uploadImage saveImage at receipt
  split at receipt
  · cases receipt
  next good =>
    split at receipt
    next allowed =>
      dsimp only at receipt
      split at receipt
      · cases receipt
      · cases receipt
        exact ⟨⟨good, allowed⟩, rfl⟩
    · cases receipt

theorem length_generatedName (upload : Upload) : 36 ≤ upload.generatedName.toList.length := by
  rw [generatedName, String.toList_append, List.length_append, upload.uuid.length]
  exact Nat.le_add_right _ _

theorem generatedName_ne {text : String} (short : text.toList.length < 36) :
    upload.generatedName ≠ text := by
  intro same
  have long := upload.length_generatedName
  rw [same] at long
  omega

theorem uuid_eq_of_generatedName (same : upload.generatedName = other.generatedName) :
    upload.uuid.text = other.uuid.text := by
  have chars := congrArg String.toList same
  rw [generatedName, generatedName, String.toList_append, String.toList_append] at chars
  have lengths := upload.uuid.length.trans other.uuid.length.symm
  exact String.toList_inj.mp (List.append_inj chars lengths).1

theorem destination_ne (apart : upload.uuid.text ≠ other.uuid.text) :
    upload.destination cwd ≠ other.destination cwd := by
  intro same
  have last := List.append_cancel_left same
  exact apart (uuid_eq_of_generatedName (List.singleton_inj.mp last))

/-- The uploads of a run write to their destinations only. -/
theorem exec_frame {uploads : List Upload} {place : List String}
    (elsewhere : ∀ upload ∈ uploads, place ≠ upload.destination cwd) :
    exec (step cwd invalid) fs uploads place = fs place := by
  induction uploads generalizing fs with
  | nil => rfl
  | cons upload rest ih =>
      obtain ⟨first, elsewhere⟩ := List.forall_mem_cons.mp elsewhere
      rw [exec, List.foldl_cons, ← exec, ih elsewhere]
      by_cases stored : upload.Stored
      · rw [step_stored stored, Function.update_of_ne first]
      · rw [step_refused stored]

theorem exec_destination {uploads : List Upload}
    (distinct : (uploads.map (·.uuid.text)).Nodup) (member : upload ∈ uploads)
    (stored : upload.Stored) :
    exec (step cwd invalid) fs uploads (upload.destination cwd) =
      some (.file upload.file.contents) := by
  induction uploads generalizing fs with
  | nil => cases member
  | cons first rest ih =>
      rw [List.map_cons, List.nodup_cons] at distinct
      rcases List.mem_cons.mp member with rfl | later
      · have elsewhere : ∀ other ∈ rest, upload.destination cwd ≠ other.destination cwd := by
          intro other among
          refine destination_ne fun same => distinct.1 ?_
          exact List.mem_map.mpr ⟨other, among, same.symm⟩
        rw [exec, List.foldl_cons, ← exec, exec_frame elsewhere, step_stored stored,
          Function.update_self]
      · rw [exec, List.foldl_cons, ← exec]
        exact ih distinct.2 later

theorem requestedPlace_eq {imagePath : String}
    (named : PosixPath.name imagePath = upload.generatedName) :
    requestedPlace cwd imagePath = upload.destination cwd := by
  have nonempty : upload.generatedName ≠ "" := generatedName_ne (by decide)
  have proper : upload.generatedName ≠ ".." := generatedName_ne (by decide)
  rw [requestedPlace, named, PosixPath.resolveChild, if_neg nonempty, if_neg proper, destination]

end Upload

/-- **Uploads are kept.**  After any sequence of uploads, each that was answered with metadata is
found under the filename of the answer, in whatever folder a client thinks it is, with its
contents; places other than those of the uploads are as they were. -/
theorem uploads_kept {Image : Type} (cv : OpenCvFiles Image) (cwd : List String) (invalid : String)
    (fs : FileSystem) {uploads : List Upload} (distinct : (uploads.map (·.uuid.text)).Nodup) :
    (∀ upload ∈ uploads, ∀ found metadata, (upload.uploadImage cwd invalid found).1 = .ok metadata →
      ∀ imagePath, PosixPath.name imagePath = metadata.filename →
        loadImage cv cwd (exec (Upload.step cwd invalid) fs uploads) imagePath =
          match cv.imread upload.file.contents with
          | none => .error (.valueError "Unable to read image.")
          | some image => .ok image) ∧
      ∀ place, (∀ upload ∈ uploads, place ≠ upload.destination cwd) →
        exec (Upload.step cwd invalid) fs uploads place = fs place := by
  refine ⟨?_, fun place elsewhere => Upload.exec_frame elsewhere⟩
  intro upload member found metadata receipt imagePath named
  obtain ⟨stored, filename⟩ := Upload.stored_of_receipt receipt
  rw [filename] at named
  have kept : exec (Upload.step cwd invalid) fs uploads (upload.destination cwd) =
      some (.file upload.file.contents) := Upload.exec_destination distinct member stored
  have proper : PosixPath.name imagePath ≠ ".." := by
    rw [named]
    exact Upload.generatedName_ne (by decide)
  unfold loadImage
  dsimp only
  rw [if_pos ((guard_iff imagePath).mpr proper), Upload.requestedPlace_eq named, kept]

def sampleUpload : Upload where
  file := ⟨"chart.PNG", some "image/png", [137, 80]⟩
  uuid := ⟨"0f8fad5b-d9cb-469f-a165-70867728950e", by decide, by simp⟩
  now := 0

/-- Another chart under the same filename. -/
def laterUpload : Upload where
  file := ⟨"chart.PNG", some "image/png", [255, 216]⟩
  uuid := ⟨"7c9e6679-7425-40de-944b-e07fc1f90ae7", by decide, by simp⟩
  now := 1

theorem uploads_kept_laterUpload :
    loadImage sampleCv ["app"]
        (exec (Upload.step ["app"] "") (fun _ => none) [sampleUpload, laterUpload])
        "elsewhere/0f8fad5b-d9cb-469f-a165-70867728950e.png" = .ok [137, 80] ∧
      exec (Upload.step ["app"] "") (fun _ => none) [sampleUpload, laterUpload]
        ["etc", "passwd"] = none := by
  have distinct : ([sampleUpload, laterUpload].map (·.uuid.text)).Nodup := by decide
  have kept := uploads_kept sampleCv ["app"] "" (fun _ => none) distinct
  exact ⟨kept.1 sampleUpload List.mem_cons_self (fun _ => none) _ rfl _ (by decide),
    kept.2 ["etc", "passwd"] (by decide)⟩

end Aegis.Vision
