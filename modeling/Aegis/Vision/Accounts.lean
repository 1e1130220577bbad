import Aegis.Lib.Journal
import Aegis.Vision.Analyze

/-!
# The books of `POST /aegis/analyze`

Every request that is answered leaves one row in `upload_diagnostics`, and one in
`signal_history` when its screenshot was analyzed.  `analyze_accounts` says so of any number of
requests at a time, whatever the stores do to their commands: the rows of a run are those of its
requests, and those of a request are what its answer says, up to what its two recorders have met.
-/

namespace Aegis.Vision

open Aegis.Lib Aegis.Rulebook Aegis.History

section Tables

variable {α : Type} [LinearOrder (Record (FrameState α))]

/-- Neither table changes. -/
def SameTables (before after : Stores α) : Prop :=
  after.uploadDiagnostics = before.uploadDiagnostics ∧ after.signalHistory = before.signalHistory

variable (arrival : Arrival) (request : AnalyzeRequest)

/-- The row of a request whose screenshot was analyzed. -/
def UploadDiagnostic.Succeeded (row : UploadDiagnostic) : Prop :=
  row.success = true ∧ row.httpStatus = 200 ∧ row.errorCode = none

/-- What the row says of a request that was answered so. -/
def UploadDiagnostic.Tells (row : UploadDiagnostic) : Except Rejection Response → Prop
  | .ok _ => row.Succeeded
  | .error (.httpException statusCode _) =>
      row.success = false ∧ row.httpStatus = statusCode ∧ row.errorCode ≠ none
  | .error (.unhandled _) => row.Succeeded ∧ arrival.fault .recordSignal ≠ none

/-- The row of the request, which its account sent. -/
def UploadDiagnostic.IsOf (row : UploadDiagnostic) : Prop :=
  row.accountId = request.accountId ∧ row.createdAt = arrival.now ∧
    row.latencyMs = arrival.latencyMs

/-- What the request leaves in `upload_diagnostics`. -/
def CountsUpload (outcome : Except Rejection Response) (rows : List UploadDiagnostic) : Prop :=
  match arrival.fault .recordUpload with
  | none => ∃ row : UploadDiagnostic, rows = [row] ∧ row.IsOf arrival request ∧
      row.Tells arrival outcome
  | some .refused => rows = [] ∧ outcome = .error (.unhandled .other)
  | some .replyLost => (∃ row : UploadDiagnostic, rows = [row] ∧ row.IsOf arrival request) ∧
      outcome = .error (.unhandled .other)

/-- The row of `signal_history` for an analysis. -/
def signalRow (analysis : Analysis) : SignalHistory :=
  ⟨request.accountId, analysis.signal, analysis.confidence, analysis.ruleName, analysis.details,
    arrival.now⟩

/-- What the request leaves in `signal_history`. -/
def KeepsSignal : Except Rejection Response → List SignalHistory → Prop
  | .ok response, rows => rows = [signalRow arrival request response.toAnalysis]
  | .error (.httpException _ _), rows => rows = []
  | .error (.unhandled _), rows =>
      (rows = [] ∧ (arrival.fault .recordUpload ≠ none ∨
        arrival.fault .recordSignal = some .refused)) ∨
      (∃ analysis, rows = [signalRow arrival request analysis]) ∧
        arrival.fault .recordSignal = some .replyLost

end Tables

section Commands

variable {α β : Type} [LinearOrder (Record (FrameState α))]

/-- A command that adds a row to a table, and what its store does to it. -/
theorem writes_command {log : Stores α → List β} {fault : Option Fault}
    {f : Stores α → Unit × Stores α} (added : List β) {P : Except Rejection Unit → List β → Prop}
    (grows : ∀ s, log (f s).2 = log s ++ added) (runs : fault = none → P (.ok ()) added)
    (refused : fault = some .refused → P (.error (.unhandled .other)) [])
    (replyLost : fault = some .replyLost → P (.error (.unhandled .other)) added) :
    ((command fault f).catchWith fun raised => Prog.raise (.unhandled raised)).Writes log P := by
  rcases fault with _ | _ | _
  · exact .catchWith (Prog.writes_act added grows fun _ => runs rfl)
  · exact .catchWith (Prog.writes_raise (Prog.writes_raise (refused rfl)))
  · refine .catchWith (.bind (Prog.writes_modify added grows ?_))
    refine Prog.writes_raise (Prog.writes_raise ?_)
    rw [List.append_nil, List.append_nil]
    exact replyLost rfl

/-- One that leaves the table alone. -/
theorem writes_command_elsewhere {log : Stores α → List β} {fault : Option Fault}
    {f : Stores α → Unit × Stores α} {P : Except Rejection Unit → List β → Prop}
    (same : ∀ s, log (f s).2 = log s) (runs : fault = none → P (.ok ()) [])
    (fails : fault ≠ none → P (.error (.unhandled .other)) []) :
    ((command fault f).catchWith fun raised => Prog.raise (.unhandled raised)).Writes log P := by
  refine writes_command [] (fun s => ?_) runs (fun refused => fails ?_) fun lost => fails ?_
  · rw [same, List.append_nil]
  · rw [refused]
    nofun
  · rw [lost]
    nofun

end Commands

section Requests

variable {Image α : Type} [LinearOrder α] [LinearOrder (Record (FrameState α))]
  {brain : BrainCVService Image α} {service : IndicatorHistoryService} {arrival : Arrival}
  {request : AnalyzeRequest}

omit [LinearOrder α] in
theorem sameTables_onHistory (f : Redis (FrameState α) → Redis (FrameState α)) (s : Stores α) :
    SameTables s (onHistory f s).2 := ⟨rfl, rfl⟩

/-- The `try` block writes to neither table. -/
theorem sameTables_analyze :
    (analyze brain service arrival request).Guarantees SameTables := by
  refine .bind trivial fun frame => .bind ?_ fun _ => .bind ?_ fun _ => trivial
  · refine .bind trivial fun ts => ?_
    exact .bind (guarantees_command (sameTables_onHistory _)) fun _ =>
      .bind (guarantees_command (sameTables_onHistory _)) fun _ =>
        guarantees_command (sameTables_onHistory _)
  · exact guarantees_command fun _ => ⟨rfl, rfl⟩

/-! ## `upload_diagnostics` -/

section Uploads

variable (arrival request)

omit [LinearOrder α] in
/-- The recorder leaves a row of the request. -/
theorem writes_recordUpload {P : Except Rejection Unit → List UploadDiagnostic → Prop}
    (success : Bool) (httpStatus : ℕ) (imageBytes : Option ℕ) (errorCode detail : Option String)
    (runs : ∀ row : UploadDiagnostic, row.IsOf arrival request → row.success = success →
      row.httpStatus = httpStatus → row.errorCode = errorCode →
        arrival.fault .recordUpload = none → P (.ok ()) [row])
    (refused : arrival.fault .recordUpload = some .refused → P (.error (.unhandled .other)) [])
    (replyLost : ∀ row : UploadDiagnostic, row.IsOf arrival request →
      arrival.fault .recordUpload = some .replyLost → P (.error (.unhandled .other)) [row]) :
    (recordUpload (α := α) arrival request success httpStatus imageBytes errorCode detail).Writes
      Stores.uploadDiagnostics P :=
  writes_command _ (fun _ => rfl) (runs _ ⟨rfl, rfl, rfl⟩ rfl rfl rfl) refused
    (replyLost _ ⟨rfl, rfl, rfl⟩)

omit [LinearOrder α] in
/-- A refused request is counted with the status that it is answered with. -/
theorem counts_refuse {β : Type} {P : Except Rejection β → List UploadDiagnostic → Prop}
    (statusCode : ℕ) (imageBytes : Option ℕ) (errorCode : String) (noted : Option String)
    (detail : String) (counted : ∀ rejection rows,
      CountsUpload arrival request (.error rejection) rows → P (.error rejection) rows) :
    (refuse (α := α) arrival request statusCode imageBytes errorCode noted detail).Writes
      Stores.uploadDiagnostics P := by
  refine .bind (writes_recordUpload arrival request _ _ _ _ _ ?_ ?_ ?_)
  · intro row isOf failed status code recorded
    refine Prog.writes_raise (counted _ _ ?_)
    unfold CountsUpload
    rw [recorded]
    exact ⟨row, rfl, isOf, failed, status, by rw [code]; nofun⟩
  · intro refused
    refine counted _ _ ?_
    unfold CountsUpload
    rw [refused]
    exact ⟨rfl, rfl⟩
  · intro row isOf lost
    refine counted _ _ ?_
    unfold CountsUpload
    rw [lost]
    exact ⟨⟨row, rfl, isOf⟩, rfl⟩

omit [LinearOrder α] in
theorem counts_refuseRaised {P : Except Rejection Analysis → List UploadDiagnostic → Prop}
    (raised : Raised) (counted : ∀ rejection rows,
      CountsUpload arrival request (.error rejection) rows → P (.error rejection) rows) :
    (refuseRaised (α := α) arrival request raised).Writes Stores.uploadDiagnostics P := by
  cases raised with
  | valueError text => exact counts_refuse arrival request _ _ _ _ _ counted
  | other => exact counts_refuse arrival request _ _ _ _ _ counted

omit [LinearOrder α] in
/-- An analyzed request is counted as a success, whatever becomes of its signal. -/
theorem counts_analyzed (analysis : Analysis) (response : Response) :
    (do
      recordUpload (α := α) arrival request true 200 (some request.image.length) none none
      recordSignal arrival request analysis
      return response).Writes Stores.uploadDiagnostics (CountsUpload arrival request) := by
  refine .bind (writes_recordUpload arrival request _ _ _ _ _ ?_ ?_ ?_)
  · intro row isOf success status code recorded
    have counted (outcome : Except Rejection Response) (tells : row.Tells arrival outcome) :
        CountsUpload arrival request outcome [row] := by
      unfold CountsUpload
      rw [recorded]
      exact ⟨row, rfl, isOf, tells⟩
    refine .bind (writes_command_elsewhere (fun _ => rfl) (fun _ => ?_) fun failed => ?_)
    · exact Prog.writes_pure (counted (.ok response) ⟨success, status, code⟩)
    · exact counted _ ⟨⟨success, status, code⟩, failed⟩
  · intro refused
    unfold Prog.Resumes CountsUpload
    rw [refused]
    exact ⟨rfl, rfl⟩
  · intro row isOf lost
    unfold Prog.Resumes CountsUpload
    rw [lost]
    exact ⟨⟨row, rfl, isOf⟩, rfl⟩

end Uploads

theorem counts_analyzeScreenshot :
    (analyzeScreenshot brain service arrival request).Writes Stores.uploadDiagnostics
      (CountsUpload arrival request) := by
  unfold analyzeScreenshot
  refine .ite (counts_refuse arrival request _ _ _ _ _ fun _ _ => id) ?_
  refine .ite (counts_refuse arrival request _ _ _ _ _ fun _ _ => id) ?_
  refine .ite (counts_refuse arrival request _ _ _ _ _ fun _ _ => id) ?_
  refine .bind (.catchWith ((sameTables_analyze.mono fun _ _ same => same.1).writes ?_))
  intro outcome
  cases outcome with
  | ok analysis => exact counts_analyzed arrival request analysis _
  | error raised => exact counts_refuseRaised arrival request raised fun _ _ => id

/-! ## `signal_history` -/

section Signals

variable (arrival request)

omit [LinearOrder α] in
theorem keeps_recordUpload {P : Except Rejection Unit → List SignalHistory → Prop}
    (success : Bool) (httpStatus : ℕ) (imageBytes : Option ℕ) (errorCode detail : Option String)
    (runs : P (.ok ()) [])
    (fails : arrival.fault .recordUpload ≠ none → P (.error (.unhandled .other)) []) :
    (recordUpload (α := α) arrival request success httpStatus imageBytes errorCode detail).Writes
      Stores.signalHistory P :=
  writes_command_elsewhere (fun _ => rfl) (fun _ => runs) fails

omit [LinearOrder α] in
/-- A refused request leaves no signal. -/
theorem keeps_refuse {β : Type} {P : Except Rejection β → List SignalHistory → Prop}
    (statusCode : ℕ) (imageBytes : Option ℕ) (errorCode : String) (noted : Option String)
    (detail : String) (kept : ∀ rejection,
      KeepsSignal arrival request (.error rejection) [] → P (.error rejection) []) :
    (refuse (α := α) arrival request statusCode imageBytes errorCode noted detail).Writes
      Stores.signalHistory P := by
  refine .bind (keeps_recordUpload arrival request _ _ _ _ _ ?_ fun failed => ?_)
  · exact Prog.writes_raise (kept (.httpException statusCode detail) rfl)
  · exact kept (.unhandled .other) (.inl ⟨rfl, .inl failed⟩)

omit [LinearOrder α] in
theorem keeps_refuseRaised {P : Except Rejection Analysis → List SignalHistory → Prop}
    (raised : Raised) (kept : ∀ rejection,
      KeepsSignal arrival request (.error rejection) [] → P (.error rejection) []) :
    (refuseRaised (α := α) arrival request raised).Writes Stores.signalHistory P := by
  cases raised with
  | valueError text => exact keeps_refuse arrival request _ _ _ _ _ kept
  | other => exact keeps_refuse arrival request _ _ _ _ _ kept

omit [LinearOrder α] in
/-- An analyzed request leaves its signal, when its recorders work. -/
theorem keeps_analyzed (response : Response) :
    (do
      recordUpload (α := α) arrival request true 200 (some request.image.length) none none
      recordSignal arrival request response.toAnalysis
      return response).Writes Stores.signalHistory (KeepsSignal arrival request) := by
  refine .bind (keeps_recordUpload arrival request _ _ _ _ _ ?_ fun failed => ?_)
  · refine .bind (writes_command [signalRow arrival request response.toAnalysis]
      (fun _ => rfl) (fun _ => ?_) (fun refused => ?_) fun lost => ?_)
    · exact Prog.writes_pure rfl
    · exact .inl ⟨rfl, .inr refused⟩
    · exact .inr ⟨⟨response.toAnalysis, rfl⟩, lost⟩
  · exact .inl ⟨rfl, .inl failed⟩

end Signals

theorem keeps_analyzeScreenshot :
    (analyzeScreenshot brain service arrival request).Writes Stores.signalHistory
      (KeepsSignal arrival request) := by
  unfold analyzeScreenshot
  refine .ite (keeps_refuse arrival request _ _ _ _ _ fun _ => id) ?_
  refine .ite (keeps_refuse arrival request _ _ _ _ _ fun _ => id) ?_
  refine .ite (keeps_refuse arrival request _ _ _ _ _ fun _ => id) ?_
  refine .bind (.catchWith ((sameTables_analyze.mono fun _ _ same => same.2).writes ?_))
  intro outcome
  cases outcome with
  | ok analysis => exact keeps_analyzed arrival request ⟨analysis, _, _⟩
  | error raised => exact keeps_refuseRaised arrival request raised fun _ => id

end Requests

/-! ## Any number of requests -/

section Run

variable {Image α ι : Type} [LinearOrder α] [LinearOrder (Record (FrameState α))] [DecidableEq ι]

/-- A request has at most one row in a table. -/
theorem length_le_one_of_counts {arrival : Arrival} {request : AnalyzeRequest}
    {outcome : Except Rejection Response} {rows : List UploadDiagnostic}
    (counts : CountsUpload arrival request outcome rows) : rows.length ≤ 1 := by
  unfold CountsUpload at counts
  split at counts
  · obtain ⟨row, rfl, _⟩ := counts
    exact le_rfl
  · rw [counts.1]
    exact Nat.zero_le 1
  · obtain ⟨⟨row, rfl, _⟩, _⟩ := counts
    exact le_rfl

theorem length_le_one_of_keeps {arrival : Arrival} {request : AnalyzeRequest}
    {outcome : Except Rejection Response} {rows : List SignalHistory}
    (keeps : KeepsSignal arrival request outcome rows) : rows.length ≤ 1 := by
  unfold KeepsSignal at keeps
  split at keeps
  · rw [keeps]
    exact le_rfl
  · rw [keeps]
    exact Nat.zero_le 1
  · rcases keeps with ⟨rfl, _⟩ | ⟨⟨analysis, rfl⟩, _⟩
    · exact Nat.zero_le 1
    · exact le_rfl

section Books

variable (arrivals : ι → Arrival) (requests : ι → AnalyzeRequest)

/-- The rows that the tables have gained, each in the name of a request. -/
structure Books (start : Stores α) (now : Pool ι Rejection (Stores α) Response)
    (uploads : List (ι × UploadDiagnostic)) (signals : List (ι × SignalHistory)) : Prop where
  uploaded : now.shared.uploadDiagnostics = start.uploadDiagnostics ++ uploads.map Prod.snd
  signalled : now.shared.signalHistory = start.signalHistory ++ signals.map Prod.snd
  once : ∀ i, (Pool.own i uploads).length ≤ 1 ∧ (Pool.own i signals).length ≤ 1
  counted : ∀ i outcome, now.threads i = .halt outcome →
    CountsUpload (arrivals i) (requests i) outcome (Pool.own i uploads)
  kept : ∀ i outcome, now.threads i = .halt outcome →
    KeepsSignal (arrivals i) (requests i) outcome (Pool.own i signals)

variable {arrivals requests}

omit [LinearOrder α] in
theorem books_of_journals {start now : Pool ι Rejection (Stores α) Response}
    {uploads : List (ι × UploadDiagnostic)} {signals : List (ι × SignalHistory)}
    (counted : Pool.Journal Stores.uploadDiagnostics start now
      (fun i => CountsUpload (arrivals i) (requests i)) uploads)
    (kept : Pool.Journal Stores.signalHistory start now
      (fun i => KeepsSignal (arrivals i) (requests i)) signals) :
    Books arrivals requests start.shared now uploads signals where
  uploaded := counted.grown
  signalled := kept.grown
  once i := by
    obtain ⟨outcome, rest, counts⟩ := counted.begun i
    obtain ⟨outcome', rest', keeps⟩ := kept.begun i
    have few := length_le_one_of_counts counts
    have few' := length_le_one_of_keeps keeps
    rw [List.length_append] at few few'
    exact ⟨by omega, by omega⟩
  counted i outcome ended := counted.ended ended
  kept i outcome ended := kept.ended ended

omit [LinearOrder α] in
theorem exists_books {threads : ι → Prog Rejection (Stores α) Response}
    (counts : ∀ i, (threads i).Writes Stores.uploadDiagnostics
      (CountsUpload (arrivals i) (requests i)))
    (keeps : ∀ i, (threads i).Writes Stores.signalHistory
      (KeepsSignal (arrivals i) (requests i)))
    (stores : Stores α) (schedule : List ι) :
    ∃ uploads signals, Books arrivals requests stores (Pool.exec ⟨stores, threads⟩ schedule)
      uploads signals := by
  -- any threads, for with the programs in place the match on the pool would unfold them
  let start : Pool ι Rejection (Stores α) Response := ⟨stores, threads⟩
  have counts : ∀ i, (start.threads i).Writes Stores.uploadDiagnostics
    (CountsUpload (arrivals i) (requests i)) := counts
  have keeps : ∀ i, (start.threads i).Writes Stores.signalHistory
    (KeepsSignal (arrivals i) (requests i)) := keeps
  obtain ⟨uploads, counted⟩ := Pool.exec_writes counts schedule
  obtain ⟨signals, kept⟩ := Pool.exec_writes keeps schedule
  exact ⟨uploads, signals, books_of_journals counted kept⟩

end Books

/-- **The books.**  However any number of requests interleave, each row that the tables have
gained is that of one request, no request has two, and one that has ended has those that its
answer tells of. -/
theorem analyze_accounts (brain : BrainCVService Image α) (service : IndicatorHistoryService)
    (stores : Stores α) (arrivals : ι → Arrival) (requests : ι → AnalyzeRequest)
    (schedule : List ι) :
    ∃ uploads signals, Books arrivals requests stores
      (Pool.exec ⟨stores, fun i => analyzeScreenshot brain service (arrivals i) (requests i)⟩
        schedule) uploads signals :=
  exists_books (fun _ => counts_analyzeScreenshot) (fun _ => keeps_analyzeScreenshot) stores
    schedule

end Run

end Aegis.Vision
