import Aegis.Vision.Analyze

/-!
# Uploads that are answered with an error

The frame is appended before the history is evaluated, and nothing takes it out again.
`analyzeScreenshot_keeps_history_iff` says which of the requests that are answered with an
error leave the frame history as it was.
-/

namespace Aegis.Vision

open Aegis.Lib Aegis.Rulebook Aegis.History

section Requests

variable {Image α : Type} [LinearOrder α] [LinearOrder (Record (FrameState α))]
  {brain : BrainCVService Image α} {service : IndicatorHistoryService} {arrival : Arrival}
  {request : AnalyzeRequest} {stores : Stores α} {frame : FrameState α} {ts : ℚ}

/-- The request adds no frame, or adds one that does not show: no frame is read or its time is
beyond the doubles, or `ZADD` is refused, or both `ZADD` and the trim are run and the full history
absorbs the frame. -/
def LeavesNoTrace (brain : BrainCVService Image α) (service : IndicatorHistoryService)
    (arrival : Arrival) (request : AnalyzeRequest) (stores : Stores α) : Prop :=
  ∀ frame ts, request.Accepted → brain.readFrame request.image = .ok frame →
    arrival.ts request = .ok ts → arrival.fault .zadd = some .refused ∨
      (arrival.fault .zadd = none ∧ arrival.fault .zremrangebyrank ≠ some .refused) ∧
        Absorbs service.maxFrames (contents arrival.now stores.indicatorHistory request.accountId)
          (toLex (arrival.entry frame ts))

omit [LinearOrder α] in
theorem getHistory_appendEntry_iff (ttl : 0 < service.ttlSeconds) (size : 0 ≤ service.maxFrames)
    (fresh : ∀ held ∈ (contents arrival.now stores.indicatorHistory request.accountId).entries,
      (ofLex held).2.nonce ≠ arrival.nonce) :
    getHistory arrival.now
        ((appendEntry service arrival request (arrival.entry frame ts)).run
          stores).2.indicatorHistory
        request.accountId =
      getHistory arrival.now stores.indicatorHistory request.accountId ↔
    arrival.fault .zadd = some .refused ∨
      (arrival.fault .zadd = none ∧ arrival.fault .zremrangebyrank ≠ some .refused) ∧
        Absorbs service.maxFrames (contents arrival.now stores.indicatorHistory request.accountId)
          (toLex (arrival.entry frame ts)) := by
  have member : (arrival.entry frame ts).2 ∉
      (contents arrival.now stores.indicatorHistory request.accountId).entries.map
        fun entry => (ofLex entry).2 := by
    intro stored
    obtain ⟨held, heldAt, same⟩ := List.mem_map.mp stored
    exact fresh held heldAt (congrArg Record.nonce same)
  rw [getHistory_eq, getHistory_eq, contents_run_appendEntry ttl]
  by_cases refused : arrival.fault .zadd = some .refused
  · rw [if_pos refused]
    exact iff_of_true rfl (.inl refused)
  · rw [if_neg refused, or_iff_right refused]
    by_cases both : arrival.fault .zadd = none ∧ arrival.fault .zremrangebyrank ≠ some .refused
    · rw [if_pos both, and_iff_right both]
      exact zaddTrim_keeps_iff size member
    · rw [if_neg both]
      exact iff_of_false (zadd_changes member) fun absorbed => both absorbed.1

/-- **Rejected uploads.**  When a request is answered with an error, the frame history is what
it was before exactly when the request leaves no trace. -/
theorem analyzeScreenshot_keeps_history_iff (ttl : 0 < service.ttlSeconds)
    (size : 0 ≤ service.maxFrames)
    (fresh : ∀ held ∈ (contents arrival.now stores.indicatorHistory request.accountId).entries,
      (ofLex held).2.nonce ≠ arrival.nonce)
    {rejection : Rejection} {after : Stores α}
    (rejected : (analyzeScreenshot brain service arrival request).run stores =
      (.error rejection, after)) :
    getHistory arrival.now after.indicatorHistory request.accountId =
        getHistory arrival.now stores.indicatorHistory request.accountId ↔
      LeavesNoTrace brain service arrival request stores := by
  have ended : after = ((analyzeScreenshot brain service arrival request).run stores).2 := by
    rw [rejected]
  by_cases accepted : request.Accepted
  · cases read : brain.readFrame request.image with
    | error raised =>
        have kept : after.indicatorHistory = stores.indicatorHistory := by
          rw [ended]
          exact (history_analyze_error (.inl read)).trans (history_of_accepted accepted)
        rw [kept]
        exact iff_of_true rfl fun frame _ _ readAlso => nomatch read.symm.trans readAlso
    | ok frame =>
        cases scored : arrival.ts request with
        | error raised =>
            have kept : after.indicatorHistory = stores.indicatorHistory := by
              rw [ended]
              exact (history_analyze_error (.inr ⟨frame, read, scored⟩)).trans
                (history_of_accepted accepted)
            rw [kept]
            exact iff_of_true rfl fun _ ts _ _ scoredAlso => nomatch scored.symm.trans scoredAlso
        | ok ts =>
            have left : after.indicatorHistory = ((appendEntry service arrival request
                (arrival.entry frame ts)).run stores).2.indicatorHistory := by
              rw [ended]
              exact (history_analyze_ok read scored).trans (history_of_accepted accepted)
            rw [left, getHistory_appendEntry_iff ttl size fresh]
            constructor
            · intro condition other otherTs _ readAlso scoredAlso
              cases read.symm.trans readAlso
              cases scored.symm.trans scoredAlso
              exact condition
            · exact fun condition => condition frame ts accepted read scored
  · have kept : after.indicatorHistory = stores.indicatorHistory := by
      rw [ended]
      exact history_of_not_accepted accepted
    rw [kept]
    exact iff_of_true rfl fun _ _ acceptedAlso => (accepted acceptedAlso).elim

end Requests

/-! ## A second frame without bands -/

/-- An OpenCV that decodes any bytes and finds no colour. -/
def blindCv : OpenCv Unit := ⟨fun _ => some (), fun _ => .ok noPoints⟩

def blindBrain : BrainCVService Unit ℚ := ⟨blindCv, OrderHom.id, ⟨12⟩⟩

def blindFrame : FrameState ℚ := Vision.extractFrameState OrderHom.id noPoints

theorem read_upload : blindBrain.readFrame upload.image = .ok blindFrame := rfl

theorem history_upload :
    getHistory (arrivalAt 2 "b").now
      ((⟨60, 600⟩ : IndicatorHistoryService).appendAt (arrivalAt 2 "b").now
        (arrivalAt 2 "b").nonce (storedOne blindFrame).indicatorHistory upload.accountId
        blindFrame 2) upload.accountId =
      [⟨blindFrame, 1⟩, ⟨blindFrame, 2⟩] := by
  have unexpired : (arrivalAt 2 "b").now < (arrivalAt 2 "b").now + ((600 : ℤ) : ℚ) := by
    norm_num
  have appended := (⟨60, 600⟩ : IndicatorHistoryService).contents_appendAt "b"
    (storedOne blindFrame).indicatorHistory upload.accountId blindFrame 2 le_rfl unexpired
  have entries := (earlier_storedOne 2 blindFrame).entries_zaddTrim (rfl : (60 : ℤ).toNat = 59 + 1)
    (rfl : ((arrivalAt 2 "b").entry blindFrame 2).2.ts = 2)
  rw [getHistory_eq]
  refine (congrArg (fun set => set.entries.map entryParsed) appended).trans ?_
  refine (congrArg (List.map entryParsed) entries).trans ?_
  rw [entries_storedOne]
  rfl

theorem answer_upload :
    ((analyzeScreenshot blindBrain ⟨60, 600⟩ (arrivalAt 2 "b") upload).run
      (storedOne blindFrame)).1 = .error (.httpException 500 "Analysis failed.") := by
  rw [answer_of_read (fun _ => rfl) accepted_upload read_upload (ts_upload 2 "b"), history_upload]
  rfl

theorem history_rejected :
    getHistory (arrivalAt 2 "b").now
      ((analyzeScreenshot blindBrain ⟨60, 600⟩ (arrivalAt 2 "b") upload).run
        (storedOne blindFrame)).2.indicatorHistory upload.accountId =
          [⟨blindFrame, 1⟩, ⟨blindFrame, 2⟩] := by
  have left : SameHistory
      ((analyze blindBrain ⟨60, 600⟩ (arrivalAt 2 "b") upload).run (storedOne blindFrame)).2
      ((analyzeScreenshot blindBrain ⟨60, 600⟩ (arrivalAt 2 "b") upload).run
        (storedOne blindFrame)).2 :=
    history_of_accepted accepted_upload
  rw [run_analyze (fun _ => rfl) read_upload (ts_upload 2 "b")] at left
  rw [left]
  exact history_upload

theorem history_storedOne : getHistory (arrivalAt 2 "b").now
    (storedOne blindFrame).indicatorHistory upload.accountId = [⟨blindFrame, 1⟩] := by
  rw [getHistory_eq, entries_storedOne]
  rfl

/-- The second frame is answered with a 500 and stays. -/
theorem not_analyzeScreenshot_keeps_history :
    ∃ rejection after,
      (analyzeScreenshot blindBrain ⟨60, 600⟩ (arrivalAt 2 "b") upload).run
        (storedOne blindFrame) = (.error rejection, after) ∧ rejection.statusCode = 500 ∧
          getHistory (arrivalAt 2 "b").now after.indicatorHistory upload.accountId ≠
            getHistory (arrivalAt 2 "b").now (storedOne blindFrame).indicatorHistory
              upload.accountId := by
  refine ⟨_, _, Prod.ext answer_upload rfl, rfl, ?_⟩
  rw [history_rejected, history_storedOne]
  exact fun same => absurd (congrArg List.length same) (by decide)

/-- It leaves a trace. -/
theorem analyzeScreenshot_keeps_history_iff_upload :
    ¬ LeavesNoTrace blindBrain ⟨60, 600⟩ (arrivalAt 2 "b") upload (storedOne blindFrame) := by
  have fresh : ∀ held ∈ (contents (arrivalAt 2 "b").now (storedOne blindFrame).indicatorHistory
      upload.accountId).entries, (ofLex held).2.nonce ≠ (arrivalAt 2 "b").nonce := by
    intro held stored
    rw [entries_storedOne, List.mem_singleton] at stored
    rw [stored]
    decide
  rw [← analyzeScreenshot_keeps_history_iff (by decide) (by decide) fresh
    (Prod.ext answer_upload rfl), history_rejected, history_storedOne]
  exact fun same => absurd (congrArg List.length same) (by decide)

end Aegis.Vision
