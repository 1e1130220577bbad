import Aegis.History.Commands
import Aegis.Lib.Atomic
import Aegis.Lib.Text
import Aegis.Rulebook.Missing

/-!
# `POST /aegis/analyze`

`analyze_screenshot` after its authorization and its rate limit, with `BrainCVService` and
the two services that it records with.  Each command to a store may be refused, or run and
lose its reply; which do, and the clock, the nonce and the latency, are input.

What a request leaves in the frame history is decided by its `try` block alone
(`history_of_accepted`); without faults it is what `append_frame` leaves (`run_analyze`).
-/

namespace Aegis.Vision

open Aegis.Lib Aegis.Rulebook Aegis.History

/-! ## What a request meets -/

/-- A command that its store does not run, or that runs and loses its reply. -/
inductive Fault where
  | refused
  | replyLost
  deriving DecidableEq

/-- The commands that the endpoint sends. -/
inductive Command where
  | zadd
  | zremrangebyrank
  | expire
  | zrange
  | recordUpload
  | recordSignal
  deriving DecidableEq

/-- An exception, as far as the endpoint tells them apart. -/
inductive Raised where
  | valueError (text : String)
  | other

inductive Rejection where
  | httpException (statusCode : ℕ) (detail : String)
  | unhandled (raised : Raised)

/-- The framework answers an unhandled exception with a 500. -/
def Rejection.statusCode : Rejection → ℕ
  | httpException statusCode _ => statusCode
  | unhandled _ => 500

/-- A row of `upload_diagnostics`. -/
structure UploadDiagnostic where
  createdAt : ℚ
  accountId : String
  success : Bool
  httpStatus : ℕ
  latencyMs : ℚ
  imageBytes : Option ℕ := none
  errorCode : Option String := none
  detail : Option String := none

/-- A row of `signal_history`. -/
structure SignalHistory where
  accountId : String
  signal : String
  confidence : ℚ
  ruleName : String
  details : String
  createdAt : ℚ

/-- What the endpoint reads and writes. -/
structure Stores (α : Type) [LinearOrder (Record (FrameState α))] where
  indicatorHistory : Redis (FrameState α)
  uploadDiagnostics : List UploadDiagnostic
  signalHistory : List SignalHistory

/-- What the outside decides about one request. -/
structure Arrival where
  now : ℚ
  latencyMs : ℚ
  nonce : String
  fault : Command → Option Fault

structure AnalyzeRequest where
  contentType : Option String
  image : List UInt8
  accountId : String
  capturedAtMs : Option ℤ

/-- What `evaluate` returns. -/
structure Analysis where
  signal : String
  confidence : ℚ
  ruleName : String
  details : String
  deriving DecidableEq

/-- The body of the 200. -/
structure Response extends Analysis where
  timestamp : ℤ
  latencyMs : ℚ
  deriving DecidableEq

/-- `round(x, 1)`, half to even. -/
def roundTenth (x : ℚ) : ℚ :=
  let below := (10 * x).floor
  let rest := 10 * x - below
  if rest < 1 / 2 ∨ rest = 1 / 2 ∧ below % 2 = 0 then below / 10 else (below + 1) / 10

section Commands

variable {σ β : Type}

def command (fault : Option Fault) (f : σ → β × σ) : Prog Raised σ β :=
  match fault with
  | none => Prog.act f
  | some .refused => Prog.raise .other
  | some .replyLost => do
      Prog.modify fun s => (f s).2
      Prog.raise .other

theorem guarantees_command {R : σ → σ → Prop} {fault : Option Fault} {f : σ → β × σ}
    (step : ∀ s, R s (f s).2) : (command fault f).Guarantees R := by
  rcases fault with _ | _ | _
  · exact Prog.guarantees_act step
  · trivial
  · exact .bind (Prog.guarantees_modify step) fun _ => trivial

end Commands

/-! ## `BrainCVService` -/

/-- OpenCV, as far as the service calls it: decoding, and the contour centres by colour. -/
structure OpenCv (Image : Type) where
  imdecode : List UInt8 → Option Image
  colorPoints : Image → Except Raised ColorPoints

structure BrainCVService (Image α : Type) [LinearOrder α] where
  cv : OpenCv Image
  /-- how a mean is rounded -/
  fl : ℚ →o α
  ruleEngine : SignalRuleEngine

def signalText : Signal → String
  | .buy => "BUY"
  | .sell => "SELL"

/-- The exceptions of the engine. -/
def raisedBy : PyError → Raised
  | .valueError => .valueError "min() iterable argument is empty"
  | .overflowError => .other
  | .typeError => .other
  | .attributeError => .other

/-- `evaluate` on what the engine returned. -/
def RuleResult.analysis (result : RuleResult) : Analysis where
  signal := (result.signal.map signalText).getD "HOLD"
  confidence := if result.fired then 17 / 20 else 0
  ruleName := result.ruleName
  details := s!"{result.ruleName}: {result.reason}"

namespace BrainCVService

variable {Image α : Type} [LinearOrder α] (brain : BrainCVService Image α)

def decodeImage (imageBytes : List UInt8) : Except Raised Image :=
  match brain.cv.imdecode imageBytes with
  | none => .error (.valueError "Could not decode image - unsupported or corrupt file.")
  | some image => .ok image

def extractFrameState (image : Image) : Except Raised (FrameState α) :=
  (Vision.extractFrameState brain.fl) <$> brain.cv.colorPoints image

def evaluate (history : List (FrameState α)) : Except Raised Analysis :=
  match brain.ruleEngine.evaluate history with
  | .ok result => .ok (RuleResult.analysis result)
  | .error error => .error (raisedBy error)

/-- The frame that the first two statements of the `try` block find. -/
def readFrame (imageBytes : List UInt8) : Except Raised (FrameState α) :=
  brain.decodeImage imageBytes >>= brain.extractFrameState

end BrainCVService

/-! ## The endpoint -/

/-- `MAX_UPLOAD_SIZE`. -/
def maxUploadSize : ℕ := 20 * 1024 * 1024

/-- `_IMAGE_CONTENT_TYPES`. -/
def imageContentTypes : List String :=
  ["image/jpeg", "image/jpg", "image/png", "image/webp", "image/bmp", "image/x-ms-bmp",
    "application/octet-stream"]

namespace AnalyzeRequest

variable (request : AnalyzeRequest)

def ct : String := lower (strip (beforeSemicolon (request.contentType.getD "")))

def BadContentType : Prop :=
  request.ct ≠ "" ∧ request.ct ∉ imageContentTypes ∧ ¬ "image/".toList <+: request.ct.toList

instance : Decidable request.BadContentType := inferInstanceAs (Decidable (_ ∧ _))

/-- The request gets as far as the `try` block. -/
structure Accepted : Prop where
  contentType : ¬ request.BadContentType
  nonempty : request.image ≠ []
  size : request.image.length ≤ maxUploadSize

end AnalyzeRequest

section Endpoint

variable {Image α : Type} [LinearOrder α] [LinearOrder (Record (FrameState α))]
  (brain : BrainCVService Image α) (service : IndicatorHistoryService) (arrival : Arrival)
  (request : AnalyzeRequest)

/-- A command on the frame history. -/
def onHistory (f : Redis (FrameState α) → Redis (FrameState α)) (stores : Stores α) :
    Unit × Stores α :=
  ((), { stores with indicatorHistory := f stores.indicatorHistory })

/-- The score of the frame. -/
def Arrival.ts : Except Raised ℚ := (tsOf arrival.now request.capturedAtMs).mapError raisedBy

/-- The score and the member of the frame. -/
def Arrival.entry (frame : FrameState α) (ts : ℚ) : ℚ × Record (FrameState α) :=
  (ts, ⟨frame, ts, arrival.nonce⟩)

/-- The commands of `append_frame`. -/
def appendEntry (entry : ℚ × Record (FrameState α)) : Prog Raised (Stores α) Unit := do
  command (arrival.fault .zadd)
    (onHistory (zadd arrival.now request.accountId entry.1 entry.2))
  command (arrival.fault .zremrangebyrank)
    (onHistory (zremrangebyrank arrival.now request.accountId 0 (-(service.maxFrames + 1))))
  command (arrival.fault .expire)
    (onHistory (expire arrival.now request.accountId service.ttlSeconds))

/-- `append_frame`. -/
def appendFrame (frame : FrameState α) : Prog Raised (Stores α) Unit := do
  let ts ← Prog.ofExcept (arrival.ts request)
  appendEntry service arrival request (arrival.entry frame ts)

/-- `get_history`. -/
def readHistory : Prog Raised (Stores α) (List (FrameState α)) :=
  command (arrival.fault .zrange) fun stores =>
    ((getHistory arrival.now stores.indicatorHistory request.accountId).map (·.frame), stores)

/-- The `try` block. -/
def analyze : Prog Raised (Stores α) Analysis := do
  let frame ← Prog.ofExcept (brain.readFrame request.image)
  appendFrame service arrival request frame
  let history ← readHistory arrival request
  Prog.ofExcept (brain.evaluate history)

/-- `upload_diag.record`, outside every `try`. -/
def recordUpload (success : Bool) (httpStatus : ℕ) (imageBytes : Option ℕ)
    (errorCode detail : Option String) : Prog Rejection (Stores α) Unit :=
  let row : UploadDiagnostic :=
    { createdAt := arrival.now, accountId := request.accountId, success := success
      httpStatus := httpStatus, latencyMs := arrival.latencyMs, imageBytes := imageBytes
      errorCode := errorCode
      detail := (detail.map fun text => (text.take 500).toString).filter (· ≠ "") }
  (command (arrival.fault .recordUpload) fun stores =>
    ((), { stores with uploadDiagnostics := stores.uploadDiagnostics ++ [row] })).catchWith
      fun raised => Prog.raise (.unhandled raised)

/-- A request that is recorded and refused. -/
def refuse {β : Type} (statusCode : ℕ) (imageBytes : Option ℕ) (errorCode : String)
    (noted : Option String) (detail : String) : Prog Rejection (Stores α) β := do
  recordUpload arrival request false statusCode imageBytes (some errorCode) noted
  Prog.raise (.httpException statusCode detail)

/-- The `except` clauses. -/
def refuseRaised : Raised → Prog Rejection (Stores α) Analysis
  | .valueError text =>
      refuse arrival request 400 (some request.image.length) "decode_or_value"
        (some (text.take 300).toString) text
  | .other =>
      refuse arrival request 500 (some request.image.length) "analysis_failed" none
        "Analysis failed."

/-- `signal_history.record`. -/
def recordSignal (analysis : Analysis) : Prog Rejection (Stores α) Unit :=
  let row : SignalHistory :=
    ⟨request.accountId, analysis.signal, analysis.confidence, analysis.ruleName, analysis.details,
      arrival.now⟩
  (command (arrival.fault .recordSignal) fun stores =>
    ((), { stores with signalHistory := stores.signalHistory ++ [row] })).catchWith
      fun raised => Prog.raise (.unhandled raised)

def analyzeScreenshot : Prog Rejection (Stores α) Response :=
  if request.BadContentType then
    refuse arrival request 400 none "bad_content_type"
      (some (request.contentType.getD "None"))
      s!"Only image files are accepted (got content-type={pyRepr request.contentType})."
  else if request.image = [] then
    refuse arrival request 400 none "empty_body" none "Empty image body."
  else if request.image.length > maxUploadSize then
    refuse arrival request 413 (some request.image.length) "too_large" none
      s!"Image too large ({request.image.length} bytes). Max is {maxUploadSize} bytes."
  else do
    let analysis ← (analyze brain service arrival request).catchWith (refuseRaised arrival request)
    recordUpload arrival request true 200 (some request.image.length) none none
    recordSignal arrival request analysis
    return ⟨analysis, (arrival.now * 1000).floor, roundTenth arrival.latencyMs⟩

end Endpoint

/-! ## What a request does to the history -/

section History

variable {α : Type} [LinearOrder (Record (FrameState α))] {arrival : Arrival}
  {request : AnalyzeRequest}

/-- The frame histories are left alone. -/
def SameHistory (before after : Stores α) : Prop :=
  after.indicatorHistory = before.indicatorHistory

theorem SameHistory.refl (stores : Stores α) : SameHistory stores stores := rfl

theorem SameHistory.trans {first second third : Stores α} (early : SameHistory first second)
    (late : SameHistory second third) : SameHistory first third :=
  Eq.trans late early

theorem SameHistory.of_run {ε β : Type} {p : Prog ε (Stores α) β}
    (guarantees : p.Guarantees SameHistory) (stores : Stores α) :
    SameHistory stores (p.run stores).2 :=
  guarantees.run SameHistory.refl SameHistory.trans stores

theorem guarantees_recordUpload (success : Bool) (httpStatus : ℕ) (imageBytes : Option ℕ)
    (errorCode detail : Option String) :
    (recordUpload (α := α) arrival request success httpStatus imageBytes errorCode
      detail).Guarantees SameHistory :=
  .catchWith (guarantees_command fun _ => rfl) fun _ => trivial

theorem guarantees_refuse {β : Type} (statusCode : ℕ) (imageBytes : Option ℕ)
    (errorCode : String) (noted : Option String) (detail : String) :
    (refuse (α := α) (β := β) arrival request statusCode imageBytes errorCode noted
      detail).Guarantees SameHistory :=
  .bind (guarantees_recordUpload false statusCode imageBytes (some errorCode) noted)
    fun _ => trivial

theorem guarantees_refuseRaised (raised : Raised) :
    (refuseRaised (α := α) arrival request raised).Guarantees SameHistory := by
  cases raised with
  | valueError text => exact guarantees_refuse _ _ _ _ _
  | other => exact guarantees_refuse _ _ _ _ _

theorem guarantees_recordSignal (analysis : Analysis) :
    (recordSignal (α := α) arrival request analysis).Guarantees SameHistory :=
  .catchWith (guarantees_command fun _ => rfl) fun _ => trivial

end History

section Requests

variable {Image α : Type} [LinearOrder α] [LinearOrder (Record (FrameState α))]
  {brain : BrainCVService Image α} {service : IndicatorHistoryService} {arrival : Arrival}
  {request : AnalyzeRequest} {stores : Stores α} {frame : FrameState α} {ts : ℚ}

/-- A request that does not get to the `try` block leaves the history alone. -/
theorem history_of_not_accepted (refused : ¬ request.Accepted) :
    SameHistory stores ((analyzeScreenshot brain service arrival request).run stores).2 := by
  unfold analyzeScreenshot
  by_cases badType : request.BadContentType
  · rw [if_pos badType]
    exact .of_run (guarantees_refuse _ _ _ _ _) stores
  · by_cases empty : request.image = []
    · rw [if_neg badType, if_pos empty]
      exact .of_run (guarantees_refuse _ _ _ _ _) stores
    · have large : request.image.length > maxUploadSize :=
        not_le.mp fun size => refused ⟨badType, empty, size⟩
      rw [if_neg badType, if_neg empty, if_pos large]
      exact .of_run (guarantees_refuse _ _ _ _ _) stores

/-- Otherwise the request is analyzed. -/
theorem analyzeScreenshot_accepted (accepted : request.Accepted) :
    analyzeScreenshot brain service arrival request = (do
      let analysis ← (analyze brain service arrival request).catchWith
        (refuseRaised arrival request)
      recordUpload arrival request true 200 (some request.image.length) none none
      recordSignal arrival request analysis
      return ⟨analysis, (arrival.now * 1000).floor, roundTenth arrival.latencyMs⟩) := by
  rw [analyzeScreenshot, if_neg accepted.contentType, if_neg accepted.nonempty,
    if_neg (not_lt.mpr accepted.size)]

/-- What is left then is what the `try` block leaves. -/
theorem history_of_accepted (accepted : request.Accepted) :
    SameHistory ((analyze brain service arrival request).run stores).2
      ((analyzeScreenshot brain service arrival request).run stores).2 := by
  rw [analyzeScreenshot_accepted accepted]
  refine SameHistory.trans
    (Prog.run_catchWith_rest SameHistory.refl SameHistory.trans _ guarantees_refuseRaised stores)
    (Prog.run_bind_rest SameHistory.refl SameHistory.trans _ (fun analysis => ?_) stores)
  exact .bind (guarantees_recordUpload _ _ _ _ _) fun _ =>
    .bind (guarantees_recordSignal analysis) fun _ => trivial

theorem history_analyze_ok (read : brain.readFrame request.image = .ok frame)
    (scored : arrival.ts request = .ok ts) :
    SameHistory ((appendEntry service arrival request (arrival.entry frame ts)).run stores).2
      ((analyze brain service arrival request).run stores).2 := by
  rw [analyze, read, Prog.ofExcept_ok_bind, appendFrame, scored, Prog.ofExcept_ok_bind]
  refine Prog.run_bind_rest SameHistory.refl SameHistory.trans _ (fun _ => ?_) stores
  exact .bind (guarantees_command fun _ => rfl) fun _ => trivial

/-- The first exception in front of the commands is that of the `try` block. -/
theorem run_analyze_error {raised : Raised}
    (failed : brain.readFrame request.image = .error raised ∨
      ∃ frame, brain.readFrame request.image = .ok frame ∧ arrival.ts request = .error raised) :
    (analyze brain service arrival request).run stores = (.error raised, stores) := by
  rcases failed with read | ⟨frame, read, scored⟩
  · rw [analyze, read]
    rfl
  · rw [analyze, read, Prog.ofExcept_ok_bind, appendFrame, scored]
    rfl

theorem history_analyze_error {raised : Raised}
    (failed : brain.readFrame request.image = .error raised ∨
      ∃ frame, brain.readFrame request.image = .ok frame ∧ arrival.ts request = .error raised) :
    SameHistory stores ((analyze brain service arrival request).run stores).2 := by
  rw [run_analyze_error failed]
  exact .refl stores

omit [LinearOrder α] in
/-- The append, by what its commands meet. -/
theorem contents_run_appendEntry (ttl : 0 < service.ttlSeconds)
    (entry : ℚ × Record (FrameState α)) :
    let before := contents arrival.now stores.indicatorHistory request.accountId
    contents arrival.now
        ((appendEntry service arrival request entry).run stores).2.indicatorHistory
        request.accountId =
      if arrival.fault .zadd = some .refused then before
      else if arrival.fault .zadd = none ∧ arrival.fault .zremrangebyrank ≠ some .refused then
        before.zaddTrim service.maxFrames entry.1 entry.2
      else before.zadd entry.1 entry.2 := by
  let added := zadd arrival.now request.accountId entry.1 entry.2 stores.indicatorHistory
  let trimmed := zremrangebyrank arrival.now request.accountId 0 (-(service.maxFrames + 1)) added
  have contentsAdded : contents arrival.now added request.accountId =
      (contents arrival.now stores.indicatorHistory request.accountId).zadd entry.1 entry.2 :=
    contents_zadd _ _
  have contentsTrimmed : contents arrival.now trimmed request.accountId =
      (contents arrival.now stores.indicatorHistory request.accountId).zaddTrim service.maxFrames
        entry.1 entry.2 := by
    rw [contents_zremrangebyrank, contentsAdded]
    rfl
  rcases zaddFault : arrival.fault .zadd with _ | _ | _
  · rcases trimFault : arrival.fault .zremrangebyrank with _ | _ | _
    · rcases expireFault : arrival.fault .expire with _ | _ | _
      · rw [appendEntry, zaddFault, trimFault, expireFault]
        exact (contents_expire ttl).trans contentsTrimmed
      · rw [appendEntry, zaddFault, trimFault, expireFault]
        exact contentsTrimmed
      · rw [appendEntry, zaddFault, trimFault, expireFault]
        exact (contents_expire ttl).trans contentsTrimmed
    · rw [appendEntry, zaddFault, trimFault]
      exact contentsAdded
    · rw [appendEntry, zaddFault, trimFault]
      exact contentsTrimmed
  · rw [appendEntry, zaddFault]
    rfl
  · rw [appendEntry, zaddFault]
    exact contentsAdded

/-! ## Requests that meet no fault -/

/-- What the `except` clauses answer. -/
def rejectionOf : Raised → Rejection
  | .valueError text => .httpException 400 text
  | .other => .httpException 500 "Analysis failed."

section Faultless

variable (faultless : ∀ command, arrival.fault command = none)

include faultless

omit [LinearOrder α] in
/-- Without faults the three commands are `append_frame` as a whole. -/
theorem run_appendFrame (scored : arrival.ts request = .ok ts) :
    (appendFrame service arrival request frame).run stores =
      (.ok (), { stores with
        indicatorHistory := service.appendAt arrival.now arrival.nonce stores.indicatorHistory
          request.accountId frame ts }) := by
  rw [service.appendAt_eq, appendFrame, scored, Prog.ofExcept_ok_bind, appendEntry, faultless,
    faultless, faultless]
  rfl

theorem run_analyze (read : brain.readFrame request.image = .ok frame)
    (scored : arrival.ts request = .ok ts) :
    let redis := service.appendAt arrival.now arrival.nonce stores.indicatorHistory
      request.accountId frame ts
    (analyze brain service arrival request).run stores =
      (brain.evaluate ((getHistory arrival.now redis request.accountId).map (·.frame)),
        { stores with indicatorHistory := redis }) := by
  dsimp only
  rw [analyze, read]
  change (appendFrame service arrival request frame >>= _).run stores = _
  rw [Prog.run_bind_ok (run_appendFrame faultless scored), readHistory, faultless]
  rfl

omit [LinearOrder α] in
theorem answer_refuse {β : Type} (statusCode : ℕ) (imageBytes : Option ℕ) (errorCode : String)
    (noted : Option String) (detail : String) :
    ((refuse (β := β) arrival request statusCode imageBytes errorCode noted detail).run stores).1 =
      .error (.httpException statusCode detail) := by
  rw [refuse, recordUpload, faultless]
  rfl

/-- An exception in the `try` block decides the answer. -/
theorem answer_of_raised (accepted : request.Accepted) {raised : Raised}
    (ended : ((analyze brain service arrival request).run stores).1 = .error raised) :
    ((analyzeScreenshot brain service arrival request).run stores).1 =
      .error (rejectionOf raised) := by
  rw [analyzeScreenshot_accepted accepted, Prog.run_bind, Prog.run_catchWith]
  revert ended
  cases (analyze brain service arrival request).run stores with
  | mk outcome after =>
      intro same
      rcases same with rfl
      have answered : ((refuseRaised arrival request raised).run after).1 =
          .error (rejectionOf raised) := by
        cases raised with
        | valueError text => exact answer_refuse faultless _ _ _ _ _
        | other => exact answer_refuse faultless _ _ _ _ _
      dsimp only
      revert answered
      cases (refuseRaised arrival request raised).run after with
      | mk outcome after =>
          intro same
          rcases same with rfl
          rfl

theorem answer_of_analyzed (accepted : request.Accepted) {analysis : Analysis}
    (ended : ((analyze brain service arrival request).run stores).1 = .ok analysis) :
    ((analyzeScreenshot brain service arrival request).run stores).1 =
      .ok ⟨analysis, (arrival.now * 1000).floor, roundTenth arrival.latencyMs⟩ := by
  rw [analyzeScreenshot_accepted accepted, Prog.run_bind, Prog.run_catchWith]
  revert ended
  cases (analyze brain service arrival request).run stores with
  | mk outcome after =>
      intro same
      rcases same with rfl
      dsimp only
      rw [recordUpload, faultless, recordSignal, faultless]
      rfl

/-- The answer to an accepted request with a frame. -/
theorem answer_of_read (accepted : request.Accepted)
    (read : brain.readFrame request.image = .ok frame) (scored : arrival.ts request = .ok ts) :
    ((analyzeScreenshot brain service arrival request).run stores).1 =
      match brain.evaluate ((getHistory arrival.now
        (service.appendAt arrival.now arrival.nonce stores.indicatorHistory request.accountId
          frame ts) request.accountId).map (·.frame)) with
      | .ok analysis =>
          .ok ⟨analysis, (arrival.now * 1000).floor, roundTenth arrival.latencyMs⟩
      | .error raised => .error (rejectionOf raised) := by
  have ran : (analyze brain service arrival request).run stores = _ :=
    run_analyze faultless read scored
  split
  next analysis evaluated =>
    exact answer_of_analyzed faultless accepted ((congrArg Prod.fst ran).trans evaluated)
  next raised evaluated =>
    exact answer_of_raised faultless accepted ((congrArg Prod.fst ran).trans evaluated)

end Faultless

end Requests

/-! ## A history of one frame -/

/-- The account has one stored frame. -/
noncomputable def storedOne (frame : FrameState ℚ) : Stores ℚ :=
  ⟨Function.update (fun _ => none) "acc"
    (some ⟨(SortedSet.empty : SortedSet ℚ (Record (FrameState ℚ))).zadd 1 ⟨frame, 1, "a"⟩, none⟩),
    [], []⟩

/-- A screenshot that was captured later. -/
def upload : AnalyzeRequest := ⟨some "image/png", [0], "acc", some (2 * 1000)⟩

def arrivalAt (now : ℚ) (nonce : String) : Arrival := ⟨now, 0, nonce, fun _ => none⟩

theorem seconds_upload : seconds (2 * 1000) = .ok 2 := seconds_thousands (by decide)

theorem ts_upload (now : ℚ) (nonce : String) : (arrivalAt now nonce).ts upload = .ok 2 :=
  congrArg (Except.mapError raisedBy) seconds_upload

theorem accepted_upload : upload.Accepted := ⟨by decide, by decide, by decide⟩

theorem entries_storedOne (now : ℚ) (frame : FrameState ℚ) :
    (contents now (storedOne frame).indicatorHistory upload.accountId).entries =
      [toLex (1, ⟨frame, 1, "a"⟩)] := by
  rw [contents, storedOne]
  rfl

theorem earlier_storedOne (now : ℚ) (frame : FrameState ℚ) :
    Earlier (contents now (storedOne frame).indicatorHistory upload.accountId)
      2 := by
  intro held stored
  rw [entries_storedOne, List.mem_singleton] at stored
  rw [stored]
  exact ⟨by norm_num, rfl⟩

end Aegis.Vision
