import Aegis.History.Commands
import Aegis.Lib.Leases

/-!
# Histories that expire

Every append gives the history of its account `ttl_seconds` more to live; after a pause of that
length the frames before it are gone.  `evaluate_sessions` says what is read, and decided on, after
any run of appends for any accounts: it is as if there had been only the frames since the last
pause.
-/

namespace Aegis.History

open Aegis.Lib

/-- One `append_frame` that gets as far as its commands: for whom, when, with which nonce, what was
sent, and the score of that. -/
structure Append (F : Type) where
  accountId : String
  receivedAt : ℚ
  nonce : String
  frame : F
  capturedAtMs : Option ℤ
  ts : ℚ
  scored : tsOf receivedAt capturedAtMs = .ok ts

namespace Append

variable {F : Type} (append : Append F)

/-- The member that it adds. -/
def record : Record F := ⟨append.frame, append.ts, append.nonce⟩

end Append

variable {F : Type} [LinearOrder (Record F)]

/-- The frames as they rank: by capture time, frames of one time by their texts. -/
def captureOrder (appends : List (Append F)) : List (Parsed F) :=
  (SortedSet.ranked (appends.map fun append => (append.ts, append.record))).map entryParsed

namespace IndicatorHistoryService

variable (service : IndicatorHistoryService)

def step (redis : Redis F) (append : Append F) : Redis F :=
  match service.appendFrame append.receivedAt append.nonce redis append.accountId append.frame
    append.capturedAtMs with
  | .ok after => after
  | .error _ => redis

theorem step_eq (redis : Redis F) (append : Append F) : service.step redis append =
    service.appendAt append.receivedAt append.nonce redis append.accountId append.frame
      append.ts := by
  rw [step, appendFrame, append.scored, map_ok]

omit [LinearOrder (Record F)] in
/-- The appends for the account since the last pause, if that is not still going on. -/
def session (accountId : String) (readAt : ℚ) (appends : List (Append F)) : List (Append F) :=
  Lease.live Append.receivedAt (service.ttlSeconds : ℚ) readAt
    (Lease.uses Append.receivedAt (service.ttlSeconds : ℚ)
      (appends.filter fun append => append.accountId = accountId))

/-- What an append leaves, until it expires and then. -/
theorem contents_step (redis : Redis F) (append : Append F) {later : ℚ}
    (le : append.receivedAt ≤ later) :
    contents later (service.step redis append) append.accountId =
      if later < append.receivedAt + service.ttlSeconds then
        (contents append.receivedAt redis append.accountId).zaddTrim service.maxFrames append.ts
          append.record
      else .empty := by
  split
  next lives =>
    have positive : (0 : ℚ) < service.ttlSeconds := pos_of_lt_add_right (le.trans_lt lives)
    simp only [contents, step_eq, appendAt, Function.update_self,
      Expiring.read_expire positive lives, Expiring.read_modify, Expiring.read_write,
      Option.bind_some, getD_dropEmpty]
    rfl
  next gone =>
    simp only [contents, step_eq, appendAt, Function.update_self,
      Expiring.read_expired (not_lt.mp gone)]
    rfl

/-- **What is there** after any run: the bounded log of the session. -/
theorem contents_exec {appends : List (Append F)} {readAt : ℚ}
    (clock : appends.Pairwise fun earlier later => earlier.receivedAt ≤ later.receivedAt)
    (past : ∀ append ∈ appends, append.receivedAt ≤ readAt) (accountId : String) :
    contents readAt (exec service.step (fun _ => none) appends) accountId =
      (service.session accountId readAt appends).foldl
        (fun set append => set.zaddTrim service.maxFrames append.ts append.record) .empty :=
  @Lease.seen_exec ℚ (Append F) _ (Redis F) String _ _ _ _ _ _ _ _ _ _ _
    (fun redis accountId now => contents now redis accountId) _
    (fun append _ redis _ => service.contents_step redis append)
    (fun redis append other apart => by
      funext now
      unfold contents
      rw [service.step_eq, appendAt, Function.update_of_ne apart])
    (fun _ _ => rfl) clock past accountId

theorem getHistory_exec {appends : List (Append F)} {readAt : ℚ}
    (clock : appends.Pairwise fun earlier later => earlier.receivedAt ≤ later.receivedAt)
    (past : ∀ append ∈ appends, append.receivedAt ≤ readAt) {accountId : String}
    (distinct : ((appends.filter fun append => append.accountId = accountId).map
      Append.record).Nodup) :
    getHistory readAt (exec service.step (fun _ => none) appends) accountId =
      (captureOrder (service.session accountId readAt appends)).rtake service.maxFrames.toNat := by
  have within : (service.session accountId readAt appends).Sublist
      (appends.filter fun append => append.accountId = accountId) :=
    (Lease.live_suffix.trans Lease.uses_suffix).sublist
  have apart := distinct.sublist (within.map Append.record)
  have entries := SortedSet.entries_foldl_zaddTrim service.maxFrames
    ((service.session accountId readAt appends).map fun append => (append.ts, append.record))
    (by rwa [List.map_map])
  rw [List.foldl_map] at entries
  rw [getHistory_eq, service.contents_exec clock past, entries, captureOrder, map_rtake]

end IndicatorHistoryService

/-! ## The engine on a session -/

section Decision

open Aegis.Rulebook

variable {α : Type} [LinearOrder α] [LinearOrder (Record (FrameState α))]

/-- **Sessions.**  The history is the end of what was appended for the account since the last
pause of `ttl_seconds`, in order of capture; if it is long enough for the engine's window, the
engine decides on it as on all of that. -/
theorem IndicatorHistoryService.evaluate_sessions (service : IndicatorHistoryService)
    (engine : SignalRuleEngine) {appends : List (Append (FrameState α))} {readAt : ℚ}
    (clock : appends.Pairwise fun earlier later => earlier.receivedAt ≤ later.receivedAt)
    (past : ∀ append ∈ appends, append.receivedAt ≤ readAt) {accountId : String}
    (distinct : ((appends.filter fun append => append.accountId = accountId).map
      Append.record).Nodup) :
    let session := captureOrder (service.session accountId readAt appends)
    let history := getHistory readAt (exec service.step (fun _ => none) appends) accountId
    history = session.rtake service.maxFrames.toNat ∧
    (max 2 engine.divergenceLookback ≤ service.maxFrames → 1 ≤ engine.divergenceLookback →
      engine.evaluate (history.map (·.frame)) = engine.evaluate (session.map (·.frame))) := by
  intro session history
  have retained : history = session.rtake service.maxFrames.toNat :=
    service.getHistory_exec clock past distinct
  refine ⟨retained, fun covered positive => ?_⟩
  rw [retained, map_rtake]
  exact engine.evaluate_rtake (by omega) positive (by omega)

/-- Two accounts; the first one pauses for more than ten minutes. -/
def paused : List (Append (FrameState ℚ)) :=
  let frame (average : ℚ) : FrameState ℚ := ⟨none, none, some average, none, none, none, none, none⟩
  [⟨"acc", 100, "a", frame 5, some (99 * 1000), 99, seconds_thousands (by decide)⟩,
    ⟨"other", 300, "b", frame 5, none, 300, rfl⟩,
    ⟨"acc", 701, "c", frame 6, some (700 * 1000), 700, seconds_thousands (by decide)⟩]

theorem IndicatorHistoryService.evaluate_sessions_paused :
    let service : IndicatorHistoryService := ⟨2, 600⟩
    let session := captureOrder (service.session "acc" 800 paused)
    let history := getHistory 800 (exec service.step (fun _ => none) paused) "acc"
    history = session.rtake service.maxFrames.toNat ∧
    (max 2 (SignalRuleEngine.mk 2).divergenceLookback ≤ service.maxFrames →
      1 ≤ (SignalRuleEngine.mk 2).divergenceLookback →
        (SignalRuleEngine.mk 2).evaluate (history.map (·.frame)) =
          (SignalRuleEngine.mk 2).evaluate (session.map (·.frame))) := by
  have clock : paused.Pairwise fun earlier later => earlier.receivedAt ≤ later.receivedAt := by
    simp [paused]
    norm_num
  have past : ∀ append ∈ paused, append.receivedAt ≤ 800 := by
    simp [paused]
    norm_num
  have distinct : ((paused.filter fun append => append.accountId = "acc").map
      Append.record).Nodup := by
    refine List.Nodup.of_map Record.nonce ?_
    decide
  exact IndicatorHistoryService.evaluate_sessions ⟨2, 600⟩ (SignalRuleEngine.mk 2) clock past
    distinct

end Decision

end Aegis.History
