import Mathlib.Data.List.Sort
import Aegis.Lib.Binary64
import Aegis.Lib.Counts
import Aegis.Lib.Retention
import Aegis.Lib.Rounding

/-!
# The audit trail and the upload diagnostics

`audit_service.py`, `upload_diagnostic_service.py` and `retention_service.py`.  Rows are only
added, and once a day the old ones of both tables are deleted.

The queries do not notice that: `trends_run` is about the trends, and `listEvents_run` about the
newest events.  `trends_accounts` says what the numbers of the trends mean.

Times are in seconds.  Quotients of floats are exact, but for the position of `p95_latency_ms`:
the product with `0.95` goes through a rounding.
-/

namespace Aegis.Storage

open Aegis.Lib

/-! ## The tables -/

/-- What `AuditService.record` is told. -/
structure AuditRecord where
  action : String
  actorType : String := "system"
  actorId : Option String := none
  actorLabel : Option String := none
  targetType : Option String := none
  targetId : Option String := none
  accountId : Option String := none
  detail : Option String := none
  ip : Option String := none
  success : Bool := true
  deriving DecidableEq

/-- A row of `audit_events`. -/
structure AuditEvent extends AuditRecord where
  id : ℕ
  createdAt : ℚ
  deriving DecidableEq

/-- What `UploadDiagnosticService.record` is told. -/
structure UploadRecord where
  accountId : String
  success : Bool
  httpStatus : Option ℤ := none
  latencyMs : Option ℚ := none
  imageBytes : Option ℤ := none
  errorCode : Option String := none
  detail : Option String := none
  deriving DecidableEq

/-- A row of `upload_diagnostics`. -/
structure UploadDiagnostic extends UploadRecord where
  id : ℕ
  createdAt : ℚ
  deriving DecidableEq

structure Diagnostics where
  auditEvents : List AuditEvent
  uploadDiagnostics : List UploadDiagnostic

def recordAudit (now : ℚ) (id : ℕ) (record : AuditRecord) (db : Diagnostics) : Diagnostics :=
  { db with auditEvents := db.auditEvents ++ [{ record with id, createdAt := now }] }

/-- `(detail or "")[:500] or None`. -/
def cutDetail (detail : Option String) : Option String :=
  let text := String.ofList ((detail.getD "").toList.take 500)
  if text = "" then none else some text

def recordUpload (now : ℚ) (id : ℕ) (record : UploadRecord) (db : Diagnostics) : Diagnostics :=
  { db with uploadDiagnostics := db.uploadDiagnostics ++
      [{ record with id, createdAt := now, detail := cutDetail record.detail }] }

/-- `int(settings.AUDIT_RETENTION_DAYS or 90)`. -/
def retentionDays (setting : ℤ) : ℤ := if setting = 0 then 90 else setting

/-- The numbers of deleted rows, and what is left. -/
def purgeOldRecords (setting : ℤ) (now : ℚ) (db : Diagnostics) : (ℕ × ℕ) × Diagnostics :=
  if retentionDays setting ≤ 0 then ((0, 0), db)
  else
    let cutoff := now - retentionDays setting * 86400
    let auditEvents := db.auditEvents.filter fun row => cutoff ≤ row.createdAt
    let uploadDiagnostics := db.uploadDiagnostics.filter fun row => cutoff ≤ row.createdAt
    ((db.auditEvents.length - auditEvents.length,
      db.uploadDiagnostics.length - uploadDiagnostics.length), ⟨auditEvents, uploadDiagnostics⟩)

/-- What the server does to the tables, and when. -/
inductive DiagnosticEvent where
  | audited (now : ℚ) (id : ℕ) (record : AuditRecord)
  | uploaded (now : ℚ) (id : ℕ) (record : UploadRecord)
  | purged (now : ℚ)

def DiagnosticEvent.now : DiagnosticEvent → ℚ
  | audited now _ _ | uploaded now _ _ | purged now => now

def diagnosticStep (setting : ℤ) (db : Diagnostics) : DiagnosticEvent → Diagnostics
  | .audited now id record => recordAudit now id record db
  | .uploaded now id record => recordUpload now id record db
  | .purged now => (purgeOldRecords setting now db).2

/-- The event, with nothing ever deleted. -/
def archiveStep (db : Diagnostics) : DiagnosticEvent → Diagnostics
  | .audited now id record => recordAudit now id record db
  | .uploaded now id record => recordUpload now id record db
  | .purged _ => db

/-! ## The queries -/

/-- A Python filter is off for `None` and for `""`. -/
def asked (wanted : Option String) (found : Option String) : Bool :=
  wanted.getD "" = "" || found = wanted

/-- `list_events`: what it may answer. -/
def ListEvents (db : Diagnostics) (limit : ℤ) (action accountId actorId : Option String)
    (answer : List AuditEvent) : Prop :=
  Newest AuditEvent.createdAt (min (max limit 1) 500).toNat
    (db.auditEvents.filter fun row =>
      asked action (some row.action) && asked accountId row.accountId && asked actorId row.actorId)
    answer

/-- `last_n`: what it may answer. -/
def LastN (db : Diagnostics) (limit : ℤ) (accountId : Option String)
    (answer : List UploadDiagnostic) : Prop :=
  Newest UploadDiagnostic.createdAt (min (max limit 1) 200).toNat
    (db.uploadDiagnostics.filter fun row => asked accountId (some row.accountId)) answer

/-- An entry of `latency_series`. -/
structure LatencyPoint where
  createdAt : ℚ
  latencyMs : Option ℚ
  success : Bool
  httpStatus : Option ℤ
  deriving DecidableEq

/-- `latency_series`, from the rows of `last_n`. -/
def latencySeries (rows : List UploadDiagnostic) : List LatencyPoint :=
  rows.reverse.map fun row => ⟨row.createdAt, row.latencyMs, row.success, row.httpStatus⟩

structure Trends where
  windowHours : ℤ
  total : ℕ
  successes : ℕ
  failures : ℕ
  successRate : Option ℚ
  avgLatencyMs : Option ℚ
  p95LatencyMs : Option ℚ
  byHttpStatus : List (String × ℕ)
  byErrorCode : List (String × ℕ)
  deriving DecidableEq

/-- `str(r.http_status or ("ok" if r.success else "unknown"))`. -/
def statusKey (row : UploadDiagnostic) : String :=
  match row.httpStatus with
  | none | some 0 => if row.success then "ok" else "unknown"
  | some status => toString status

/-- `if r.error_code`. -/
def errorKey (row : UploadDiagnostic) : Option String :=
  if row.errorCode = some "" then none else row.errorCode

/-- The float `0.95`. -/
def ninetyFive : ℚ := 4278419646001971 / 4503599627370496

/-- `s[min(len(s) - 1, int(len(s) * 0.95))]`. -/
def p95 (fl : ℚ →o ℚ) (latencies : List ℚ) : Option ℚ :=
  (latencies.insertionSort (· ≤ ·))[min (latencies.length - 1)
    (part fl latencies.length ninetyFive)]?

def trendsOf (fl : ℚ →o ℚ) (hours : ℤ) (rows : List UploadDiagnostic) : Trends :=
  let successes := rows.countP (·.success)
  let latencies := rows.filterMap (·.latencyMs)
  { windowHours := hours
    total := rows.length
    successes
    failures := rows.length - successes
    successRate := if rows.length = 0 then none else some (successes / rows.length)
    avgLatencyMs := if latencies = [] then none else some (latencies.sum / latencies.length)
    p95LatencyMs := p95 fl latencies
    byHttpStatus := counts (rows.map statusKey)
    byErrorCode := counts (rows.filterMap errorKey) }

/-- The rows that `trends` reads. -/
def trendRows (now : ℚ) (hours : ℤ) (accountId : Option String) (db : Diagnostics) :
    List UploadDiagnostic :=
  (db.uploadDiagnostics.filter fun row => now - hours * 3600 ≤ row.createdAt).filter
    fun row => asked accountId (some row.accountId)

def trends (fl : ℚ →o ℚ) (now : ℚ) (hours : ℤ) (accountId : Option String) (db : Diagnostics) :
    Trends :=
  trendsOf fl hours (trendRows now hours accountId db)

/-! ## What the trends say -/

section Accounts

variable {fl : ℚ →o ℚ}

theorem stands_ninetyFive : Stands ninetyFive 19 20 := by
  constructor <;> norm_num [ninetyFive]

/-- **The 95th percentile.** -/
theorem exists_p95 (exact : Exact64 fl) {latencies : List ℚ}
    (nonempty : latencies ≠ []) (few : latencies.length ≤ 2 ^ 47) :
    ∃ p, p95 fl latencies = some p ∧ p ∈ latencies ∧
      19 * latencies.length ≤ 20 * latencies.countP (· ≤ p) ∧
      latencies.length ≤ 20 * latencies.countP (p ≤ ·) := by
  have upper := part_le exact few stands_ninetyFive
  have lower := le_part exact few stands_ninetyFive
  have positive := List.length_pos_iff.mpr nonempty
  unfold p95
  generalize part fl latencies.length ninetyFive = i at upper lower ⊢
  have perm := List.perm_insertionSort (· ≤ ·) latencies
  have ordered := List.pairwise_insertionSort (· ≤ ·) latencies
  have position : min (latencies.length - 1) i = i := by omega
  have inside : i < (latencies.insertionSort (· ≤ ·)).length := by
    rw [perm.length_eq]
    omega
  rw [position, List.getElem?_eq_getElem inside]
  have early := le_countP_le ordered inside
  have late := sub_le_countP_ge ordered inside
  rw [perm.countP_eq] at early late
  rw [perm.length_eq] at late
  refine ⟨_, rfl, perm.subset (List.getElem_mem inside), ?_, ?_⟩
  · omega
  · omega

/-- **Accounts.**  The trends add up: each row is a success or a failure and is counted under one
status, and at least 19 in 20 latencies are not above the 95th percentile, at least 1 in 20 not
below it. -/
theorem trends_accounts (exact : Exact64 fl) (hours : ℤ)
    {rows : List UploadDiagnostic} (few : rows.length ≤ 2 ^ 47) :
    let trends := trendsOf fl hours rows
    let latencies := rows.filterMap (·.latencyMs)
    trends.successes + trends.failures = trends.total ∧
      (trends.byHttpStatus.map (·.2)).sum = trends.total ∧
      (trends.byErrorCode.map (·.2)).sum ≤ trends.total ∧
      (∀ status, countOf status trends.byHttpStatus = rows.countP (statusKey · = status)) ∧
      (latencies ≠ [] → ∃ p, trends.p95LatencyMs = some p ∧ p ∈ latencies ∧
        19 * latencies.length ≤ 20 * latencies.countP (· ≤ p) ∧
        latencies.length ≤ 20 * latencies.countP (p ≤ ·)) := by
  refine ⟨Nat.add_sub_cancel' List.countP_le_length, ?_, ?_, fun status => ?_, fun nonempty => ?_⟩
  · exact sum_counts.trans (List.length_map _)
  · exact sum_counts.trans_le (List.length_filterMap_le _ _)
  · refine countOf_counts.trans ?_
    rw [List.count_eq_countP, List.countP_map]
    rfl
  · exact exists_p95 exact nonempty ((List.length_filterMap_le _ _).trans few)

def sampleUpload : UploadRecord :=
  { accountId := "acc", success := true, httpStatus := some 200, latencyMs := some 120 }

/-- Two successes and a failure, which has no latency. -/
def sampleRows : List UploadDiagnostic :=
  [{ sampleUpload with id := 1, createdAt := 0 },
    { sampleUpload with
      id := 2, createdAt := 1, success := false, httpStatus := some 502, latencyMs := none,
      errorCode := some "bad_gateway" },
    { sampleUpload with id := 3, createdAt := 2, latencyMs := some 80 }]

theorem trends_accounts_sampleRows :
    let trends := trendsOf binary64 24 sampleRows
    trends.successes + trends.failures = 3 ∧ (trends.byHttpStatus.map (·.2)).sum = 3 ∧
      (trends.byErrorCode.map (·.2)).sum ≤ 3 ∧ countOf "502" trends.byHttpStatus = 1 ∧
      ∃ p, trends.p95LatencyMs = some p ∧ p ∈ [(120 : ℚ), 80] ∧
        19 * 2 ≤ 20 * [(120 : ℚ), 80].countP (· ≤ p) ∧
        2 ≤ 20 * [(120 : ℚ), 80].countP (p ≤ ·) := by
  have few : sampleRows.length ≤ 2 ^ 47 := by decide
  obtain ⟨parts, statuses, codes, each, p95⟩ := trends_accounts exact64_binary64 24 few
  exact ⟨parts, statuses, codes, (each "502").trans (by decide), p95 (by decide)⟩

end Accounts

/-! ## Both tables are logs -/

section Logs

variable {setting : ℤ} {db : Diagnostics} {events : List DiagnosticEvent} {now : ℚ}

/-- The cutoff of a purge, unless the setting turns it off. -/
def cutoffAt (setting : ℤ) : DiagnosticEvent → Option ℚ
  | .audited _ _ _ | .uploaded _ _ _ => none
  | .purged now =>
      if retentionDays setting ≤ 0 then none else some (now - retentionDays setting * 86400)

/-- What an event does to `audit_events`. -/
def auditLog (setting : ℤ) : DiagnosticEvent → Option (LogEvent AuditEvent ℚ)
  | .audited now id record => some (.record { record with id, createdAt := now })
  | .uploaded _ _ _ => none
  | .purged now => (cutoffAt setting (.purged now)).map .purge

/-- What an event does to `upload_diagnostics`. -/
def uploadLog (setting : ℤ) : DiagnosticEvent → Option (LogEvent UploadDiagnostic ℚ)
  | .audited _ _ _ => none
  | .uploaded now id record =>
      some (.record { record with id, createdAt := now, detail := cutDetail record.detail })
  | .purged now => (cutoffAt setting (.purged now)).map .purge

/-- **One event** does to the tables what it does to the logs. -/
theorem diagnosticStep_eq (event : DiagnosticEvent) :
    diagnosticStep setting db event =
      ⟨exec (logStep AuditEvent.createdAt) db.auditEvents (auditLog setting event).toList,
        exec (logStep UploadDiagnostic.createdAt) db.uploadDiagnostics
          (uploadLog setting event).toList⟩ := by
  cases event with
  | audited now id record => rfl
  | uploaded now id record => rfl
  | purged now =>
      by_cases off : retentionDays setting ≤ 0
      · simp [diagnosticStep, purgeOldRecords, auditLog, uploadLog, cutoffAt, off, exec]
      · simp [diagnosticStep, purgeOldRecords, auditLog, uploadLog, cutoffAt, off, exec, logStep]

theorem archiveStep_eq (setting : ℤ) (event : DiagnosticEvent) :
    archiveStep db event =
      ⟨db.auditEvents ++ (auditLog setting event).toList.filterMap LogEvent.row,
        db.uploadDiagnostics ++ (uploadLog setting event).toList.filterMap LogEvent.row⟩ := by
  cases event with
  | audited now id record => simp [archiveStep, recordAudit, auditLog, uploadLog, LogEvent.row]
  | uploaded now id record => simp [archiveStep, recordUpload, auditLog, uploadLog, LogEvent.row]
  | purged now =>
      by_cases off : retentionDays setting ≤ 0
      · simp [archiveStep, auditLog, uploadLog, cutoffAt, off]
      · simp [archiveStep, auditLog, uploadLog, cutoffAt, off, LogEvent.row, List.filterMap_cons]

theorem filterMap_cons_toList {α β : Type} (f : α → Option β) (a : α) (rest : List α) :
    (a :: rest).filterMap f = (f a).toList ++ rest.filterMap f := by
  cases found : f a with
  | none => rw [List.filterMap_cons_none found, Option.toList_none, List.nil_append]
  | some b =>
      rw [List.filterMap_cons_some found, Option.toList_some, List.singleton_append]

theorem exec_diagnosticStep :
    exec (diagnosticStep setting) db events =
      ⟨exec (logStep AuditEvent.createdAt) db.auditEvents (events.filterMap (auditLog setting)),
        exec (logStep UploadDiagnostic.createdAt) db.uploadDiagnostics
          (events.filterMap (uploadLog setting))⟩ := by
  induction events generalizing db with
  | nil => rfl
  | cons event rest ih =>
      rw [exec, List.foldl_cons, ← exec, ih, diagnosticStep_eq, filterMap_cons_toList,
        filterMap_cons_toList, exec_append, exec_append]

theorem exec_archiveStep (setting : ℤ) :
    exec archiveStep db events =
      ⟨db.auditEvents ++ (events.filterMap (auditLog setting)).filterMap LogEvent.row,
        db.uploadDiagnostics ++ (events.filterMap (uploadLog setting)).filterMap LogEvent.row⟩ := by
  induction events generalizing db with
  | nil => simp [exec]
  | cons event rest ih =>
      rw [exec, List.foldl_cons, ← exec, ih, archiveStep_eq setting, filterMap_cons_toList,
        filterMap_cons_toList, List.filterMap_append, List.filterMap_append, List.append_assoc,
        List.append_assoc]

theorem cutoff_auditLog (event : DiagnosticEvent) :
    (auditLog setting event).bind LogEvent.cutoff = cutoffAt setting event := by
  cases event with
  | audited now id record => rfl
  | uploaded now id record => rfl
  | purged now => exact Option.bind_map.trans (Option.bind_fun_some _)

theorem cutoff_uploadLog (event : DiagnosticEvent) :
    (uploadLog setting event).bind LogEvent.cutoff = cutoffAt setting event := by
  cases event with
  | audited now id record => rfl
  | uploaded now id record => rfl
  | purged now => exact Option.bind_map.trans (Option.bind_fun_some _)

theorem cutoffAt_le {event : DiagnosticEvent} {cutoff : ℚ}
    (cut : cutoffAt setting event = some cutoff) :
    0 < retentionDays setting ∧ cutoff = event.now - retentionDays setting * 86400 := by
  cases event with
  | audited now id record => cases cut
  | uploaded now id record => cases cut
  | purged now =>
      by_cases off : retentionDays setting ≤ 0
      · rw [cutoffAt, if_pos off] at cut
        cases cut
      · rw [cutoffAt, if_neg off] at cut
        cases cut
        exact ⟨not_le.mp off, rfl⟩

end Logs

/-- **Trends.**  They are what they would be if nothing was ever deleted, as long as the window is
not longer than the retention. -/
theorem trends_run (fl : ℚ →o ℚ) {setting : ℤ} {db : Diagnostics} {events : List DiagnosticEvent}
    {now : ℚ} {hours : ℤ} (past : ∀ event ∈ events, event.now ≤ now)
    (short : 0 < retentionDays setting → hours ≤ 24 * retentionDays setting)
    (accountId : Option String) :
    trends fl now hours accountId (exec (diagnosticStep setting) db events) =
      trends fl now hours accountId (exec archiveStep db events) := by
  have early : ∀ log ∈ events.filterMap (uploadLog setting), ∀ cutoff, log.cutoff = some cutoff →
      cutoff ≤ now - hours * 3600 := by
    intro log member cutoff cut
    obtain ⟨event, among, logged⟩ := List.mem_filterMap.mp member
    have purged : (uploadLog setting event).bind LogEvent.cutoff = cutoffAt setting event :=
      cutoff_uploadLog event
    rw [logged, Option.bind_some, cut] at purged
    obtain ⟨positive, rfl⟩ := cutoffAt_le purged.symm
    have before := past event among
    have window : (hours : ℚ) ≤ 24 * retentionDays setting := by exact_mod_cast short positive
    linarith
  unfold trends trendRows
  rw [exec_diagnosticStep, exec_archiveStep setting, filter_exec early]

/-- An upload and an issued key a hundred days before a purge. -/
def longAgo : List DiagnosticEvent :=
  [.uploaded 0 1 sampleUpload, .audited 0 1 { action := "key.issue" }, .purged 8640000]

theorem trends_run_longAgo :
    trends OrderHom.id 8640000 24 none (exec (diagnosticStep 0) ⟨[], []⟩ longAgo) =
      trends OrderHom.id 8640000 24 none (exec archiveStep ⟨[], []⟩ longAgo) := by
  have past : ∀ event ∈ longAgo, event.now ≤ 8640000 := by
    simp [longAgo, DiagnosticEvent.now]
  exact trends_run _ past (by decide) none

/-! ## The newest events -/

/-- The row is not older than the cutoff of any purge. -/
def Retained (setting : ℤ) (events : List DiagnosticEvent) (createdAt : ℚ) : Prop :=
  ∀ cutoff ∈ events.filterMap (cutoffAt setting), cutoff ≤ createdAt

instance (setting : ℤ) (events : List DiagnosticEvent) (createdAt : ℚ) :
    Decidable (Retained setting events createdAt) := inferInstanceAs (Decidable (∀ _ ∈ _, _))

theorem kept_auditLog {setting : ℤ} {events : List DiagnosticEvent} {row : AuditEvent} :
    Kept AuditEvent.createdAt (events.filterMap (auditLog setting)) row ↔
      Retained setting events row.createdAt := by
  have cutoffs : (events.filterMap (auditLog setting)).filterMap LogEvent.cutoff =
      events.filterMap (cutoffAt setting) := by
    rw [List.filterMap_filterMap]
    exact List.filterMap_congr fun event _ => cutoff_auditLog event
  rw [Kept, cutoffs, Retained]

theorem row_auditLog {setting : ℤ} {event : DiagnosticEvent} {log : LogEvent AuditEvent ℚ}
    {row : AuditEvent} (logged : auditLog setting event = some log) (added : log.row = some row) :
    row.createdAt = event.now := by
  cases event with
  | audited now id record =>
      cases logged
      cases added
      rfl
  | uploaded now id record => cases logged
  | purged now =>
      obtain ⟨cutoff, _, rfl⟩ := Option.map_eq_some_iff.mp logged
      cases added

theorem timely_auditLog {setting : ℤ} {events : List DiagnosticEvent}
    (clock : events.Pairwise fun earlier later => earlier.now ≤ later.now) :
    Timely AuditEvent.createdAt (events.filterMap (auditLog setting)) := by
  induction events with
  | nil => trivial
  | cons event rest ih =>
      obtain ⟨after, clock⟩ := List.pairwise_cons.mp clock
      cases logged : auditLog setting event with
      | none =>
          rw [List.filterMap_cons_none logged]
          exact ih clock
      | some log =>
          rw [List.filterMap_cons_some logged]
          refine ⟨fun row member cutoff cut => ?_, ih clock⟩
          obtain ⟨later, among, added⟩ := List.mem_filterMap.mp member
          obtain ⟨second, inRest, loggedLater⟩ := List.mem_filterMap.mp among
          have purged : (auditLog setting event).bind LogEvent.cutoff = cutoffAt setting event :=
            cutoff_auditLog event
          rw [logged, Option.bind_some, cut] at purged
          obtain ⟨positive, rfl⟩ := cutoffAt_le purged.symm
          have order := after second inRest
          have days : (0 : ℚ) < retentionDays setting := by exact_mod_cast positive
          rw [row_auditLog loggedLater added]
          linarith

/-- **Newest events.**  What is deleted is missing from the answers, and nothing else changes: the
newest events that are still there are the answer without deletions, less the deleted ones. -/
theorem listEvents_run {setting : ℤ} {db : Diagnostics} {events : List DiagnosticEvent}
    (clock : events.Pairwise fun earlier later => earlier.now ≤ later.now) (limit : ℤ)
    (action accountId actorId : Option String) (answer : List AuditEvent) :
    ListEvents (exec (diagnosticStep setting) db events) limit action accountId actorId answer ↔
      ∃ whole, ListEvents (exec archiveStep db events) limit action accountId actorId whole ∧
        answer = whole.filter fun row => Retained setting events row.createdAt := by
  have timely : Timely AuditEvent.createdAt (events.filterMap (auditLog setting)) :=
    timely_auditLog clock
  have upward (a b : AuditEvent) (retained : decide (Retained setting events b.createdAt))
      (le : b.createdAt ≤ a.createdAt) : decide (Retained setting events a.createdAt) :=
    decide_eq_true fun cutoff member => ((of_decide_eq_true retained) cutoff member).trans le
  unfold ListEvents
  rw [exec_diagnosticStep, exec_archiveStep setting, ← newest_filter_iff upward]
  dsimp only
  rw [exec_eq_kept timely, List.filter_comm]
  simp only [kept_auditLog]

/-- A key issued long before a purge, and one revoked shortly before it. -/
def twoEvents : List DiagnosticEvent :=
  [.audited 0 1 { action := "key.issue" }, .audited 8000000 2 { action := "key.revoke" },
    .purged 8640000]

theorem listEvents_run_twoEvents :
    ListEvents (exec (diagnosticStep 0) ⟨[], []⟩ twoEvents) 100 none none none
      [{ action := "key.revoke", id := 2, createdAt := 8000000 }] := by
  have clock : twoEvents.Pairwise fun earlier later => earlier.now ≤ later.now := by
    norm_num [twoEvents, DiagnosticEvent.now]
  refine (listEvents_run clock 100 none none none _).mpr
    ⟨[{ action := "key.revoke", id := 2, createdAt := 8000000 },
      { action := "key.issue", id := 1, createdAt := 0 }], ?_, by decide +kernel⟩
  exact ⟨_, List.reverse_perm _, by decide +kernel, rfl⟩

end Aegis.Storage
