import Mathlib.Logic.Function.Basic
import Mathlib.SetTheory.Cardinal.Order
import Aegis.Lib.Binary64
import Aegis.Lib.Expiring
import Aegis.Lib.SortedSet
import Aegis.Rulebook.Lookback

/-!
# The rolling frame history

`indicator_history_service.py`: one Redis sorted set for each account, scored by
capture time, trimmed after every insertion.  A member is the JSON text of a frame
with its time and a nonce; `Record` is what the text decodes to, and the order of
the texts, which only ranks members of equal score, is any linear order on records.
The nonce is the service's random draw and the clock reading is an argument.

The score `captured_at_ms / 1000.0` is a double.  Distinct times have distinct scores below
8796093022208000 ms (`seconds_lt`), but not always beyond (`not_evaluate_getHistory`), and
the conversion of a time that no double can hold raises.
-/

namespace Aegis.History

open Aegis.Lib

/-- A member of the sorted set, decoded. -/
structure Record (F : Type) where
  frame : F
  ts : ℚ
  nonce : String

/-- A record without its nonce, as `get_history` returns it. -/
structure Parsed (F : Type) where
  frame : F
  ts : ℚ
  deriving DecidableEq

def Record.parsed {F : Type} (record : Record F) : Parsed F := ⟨record.frame, record.ts⟩

structure IndicatorHistoryService where
  maxFrames : ℤ := 60
  ttlSeconds : ℤ := 600

variable {F : Type} [LinearOrder (Record F)]

/-- The `indicator_history:{account_id}` keys. -/
abbrev Redis (F : Type) [LinearOrder (Record F)] :=
  String → Option (Expiring ℚ (SortedSet ℚ (Record F)))

/-- The sorted set a command finds; a missing key is an empty set. -/
def contents (now : ℚ) (redis : Redis F) (accountId : String) : SortedSet ℚ (Record F) :=
  (Expiring.read now (redis accountId)).getD .empty

/-- Redis removes a sorted set with its last member. -/
def dropEmpty (set : SortedSet ℚ (Record F)) : Option (SortedSet ℚ (Record F)) :=
  if set.entries = [] then none else some set

/-- `get_history`: every member in rank order, without the nonces. -/
def getHistory (now : ℚ) (redis : Redis F) (accountId : String) : List (Parsed F) :=
  ((contents now redis accountId).zrange 0 (-1)).map Record.parsed

/-- `captured_at_ms / 1000.0`. -/
def seconds (ms : ℤ) : Except PyError ℚ := (fun float : ℚ => double (float / 1000)) <$> toDouble ms

/-- The capture time, or the time of the request. -/
def tsOf (now : ℚ) : Option ℤ → Except PyError ℚ
  | some ms => seconds ms
  | none => .ok now

namespace IndicatorHistoryService

variable (service : IndicatorHistoryService)

/-- `append_frame`, once it has the score. -/
def appendAt (now : ℚ) (nonce : String) (redis : Redis F) (accountId : String) (frameState : F)
    (ts : ℚ) : Redis F :=
  let member : Record F := ⟨frameState, ts, nonce⟩
  let zadded := Expiring.write now .empty (·.zadd ts member) (redis accountId)
  let trimmed := Expiring.modify now
    (fun set => dropEmpty (set.zremrangebyrank 0 (-(service.maxFrames + 1)))) zadded
  Function.update redis accountId (Expiring.expire now (service.ttlSeconds : ℚ) trimmed)

def appendFrame (now : ℚ) (nonce : String) (redis : Redis F) (accountId : String)
    (frameState : F) (capturedAtMs : Option ℤ) : Except PyError (Redis F) :=
  service.appendAt now nonce redis accountId frameState <$> tsOf now capturedAtMs

/-! ## One append -/

omit service in
theorem getD_dropEmpty (set : SortedSet ℚ (Record F)) : (dropEmpty set).getD .empty = set := by
  unfold dropEmpty
  split
  next none => exact SortedSet.ext none.symm
  · rfl

/-- Until the key expires, one append is one bounded insertion. -/
theorem contents_appendAt {now later : ℚ} (nonce : String) (redis : Redis F)
    (accountId : String) (frame : F) (ts : ℚ) (alive : now ≤ later)
    (unexpired : later < now + service.ttlSeconds) :
    contents later (service.appendAt now nonce redis accountId frame ts) accountId =
      (contents now redis accountId).zaddTrim service.maxFrames ts ⟨frame, ts, nonce⟩ := by
  have positive : 0 < (service.ttlSeconds : ℚ) := pos_of_lt_add_right (alive.trans_lt unexpired)
  simp only [contents, appendAt, Function.update_self,
    Expiring.read_expire positive unexpired, Expiring.read_modify, Expiring.read_write,
    Option.bind_some, getD_dropEmpty]
  rfl

end IndicatorHistoryService

/-! ## Scores -/

theorem seconds_eq_ok {ms : ℤ} {ts : ℚ} :
    seconds ms = .ok ts ↔ |double ms| < 2 ^ 1024 ∧ double (double ms / 1000) = ts := by
  rw [seconds, map_eq_ok, toDouble]
  split
  next finite =>
    rw [and_iff_right finite]
    constructor
    · intro held
      rcases held with ⟨_, same, rfl⟩
      rw [Except.ok.inj same]
    · intro same
      exact ⟨double ms, rfl, same⟩
  next huge =>
    refine iff_of_false ?_ fun both => huge both.1
    intro held
    rcases held with ⟨_, raised, _⟩
    cases raised

/-- Later frames do not score less. -/
theorem seconds_mono {ms later : ℤ} {ts tsLater : ℚ} (scored : seconds ms = .ok ts)
    (scoredLater : seconds later = .ok tsLater) (le : ms ≤ later) : ts ≤ tsLater := by
  obtain ⟨_, rfl⟩ := seconds_eq_ok.mp scored
  obtain ⟨_, rfl⟩ := seconds_eq_ok.mp scoredLater
  have cast : (ms : ℚ) ≤ later := by exact_mod_cast le
  exact double_mono (div_le_div_of_nonneg_right (double_mono cast) (by norm_num))

/-- The times that the quotients tell apart for sure. -/
def InEra (ms : ℤ) : Prop := |ms| < 8796093022208000

instance (ms : ℤ) : Decidable (InEra ms) := inferInstanceAs (Decidable (_ < _))

theorem seconds_of_inEra {ms : ℤ} (era : InEra ms) : seconds ms = .ok (double (ms / 1000)) := by
  rw [seconds, toDouble_small (le_trans (le_of_lt era) (by norm_num)), map_ok]

theorem seconds_of_few {ms : ℤ} (few : |ms| ≤ 2 ^ 53) :
    seconds ms = .ok (double (double ms / 1000)) := by
  rw [seconds, toDouble_small few, double_intCast few, map_ok]

/-- Whole seconds are exact. -/
theorem seconds_thousands {s : ℤ} (era : InEra (s * 1000)) : seconds (s * 1000) = .ok s := by
  have few : |s| ≤ 2 ^ 53 := by
    rw [InEra, abs_mul] at era
    norm_num at era ⊢
    omega
  rw [seconds_of_inEra era]
  push_cast
  rw [mul_div_cancel_right₀ _ (by norm_num), double_intCast few]

/-- **In the era**, distinct times have distinct scores, in their order. -/
theorem seconds_lt {ms later : ℤ} (era : InEra ms) (eraLater : InEra later) (less : ms < later) :
    double (ms / 1000) < double (later / 1000) := by
  have small {n : ℤ} (era : InEra n) : |(n : ℚ) / 1000| < 2 ^ ((-10 : ℤ) + 53) := by
    have cast : |(n : ℚ)| < 8796093022208000 := by exact_mod_cast era
    rw [abs_div, abs_of_pos (by norm_num : (0 : ℚ) < 1000), div_lt_iff₀ (by norm_num)]
    exact cast.trans_eq (by norm_num)
  refine double_lt (small era) (small eraLater) (by norm_num) ?_
  have cast : (ms : ℚ) + 1 ≤ later := by exact_mod_cast less
  have unit : (2 : ℚ) ^ (-10 : ℤ) < 1 / 1000 := by norm_num
  linarith

/-! ## Runs of uploads -/

/-- One upload as the service handles it: when, with which nonce, and what was sent. -/
structure Upload (F : Type) where
  receivedAt : ℚ
  nonce : String
  frame : F
  capturedAtMs : ℤ

/-- The score of an upload that has one. -/
def Upload.ts (upload : Upload F) : ℚ := double (double upload.capturedAtMs / 1000)

/-- The score and the member an upload adds. -/
def Upload.entry (upload : Upload F) : ℚ × Record F :=
  (upload.ts, ⟨upload.frame, upload.ts, upload.nonce⟩)

def Upload.parsed (upload : Upload F) : Parsed F := ⟨upload.frame, upload.ts⟩

/-- Each upload has a score, and no two the same. -/
structure Scored (uploads : List (Upload F)) : Prop where
  finite : ∀ upload ∈ uploads, seconds upload.capturedAtMs = .ok upload.ts
  apart : (uploads.map Upload.ts).Nodup

/-- The uploads in order of capture. -/
def chronological (uploads : List (Upload F)) : List (Upload F) :=
  uploads.insertionSort fun u v => u.capturedAtMs ≤ v.capturedAtMs

namespace IndicatorHistoryService

variable (service : IndicatorHistoryService)

/-- An `append_frame` that raises has not sent a command. -/
def receive (accountId : String) (redis : Redis F) (upload : Upload F) : Redis F :=
  match service.appendFrame upload.receivedAt upload.nonce redis accountId upload.frame
    (some upload.capturedAtMs) with
  | .ok after => after
  | .error _ => redis

def receiveAll (accountId : String) (redis : Redis F) (uploads : List (Upload F)) : Redis F :=
  uploads.foldl (service.receive accountId) redis

/-- Each access comes after the one before it and before the key expires. -/
def Unexpired (times : List ℚ) : Prop :=
  times.IsChain fun earlier later : ℚ =>
    earlier ≤ later ∧ later < earlier + (service.ttlSeconds : ℚ)

theorem receive_of_scored {upload : Upload F} (scored : seconds upload.capturedAtMs = .ok upload.ts)
    (accountId : String) (redis : Redis F) : service.receive accountId redis upload =
      service.appendAt upload.receivedAt upload.nonce redis accountId upload.frame upload.ts := by
  rw [receive, appendFrame, tsOf, scored, map_ok]

/-- A run of uploads is a run of bounded insertions. -/
theorem contents_receiveAll (accountId : String) {readAt : ℚ} :
    ∀ (uploads : List (Upload F)) (redis : Redis F),
      (∀ upload ∈ uploads, seconds upload.capturedAtMs = .ok upload.ts) →
      service.Unexpired (uploads.map (·.receivedAt) ++ [readAt]) →
      contents readAt (service.receiveAll accountId redis uploads) accountId =
        uploads.foldl
          (fun set upload => set.zaddTrim service.maxFrames upload.entry.1 upload.entry.2)
          (contents ((uploads.map (·.receivedAt)).headD readAt) redis accountId)
  | [], _, _, _ => rfl
  | upload :: rest, redis, finite, unexpired => by
      have head : upload.receivedAt ≤ (rest.map (·.receivedAt)).headD readAt ∧
          (rest.map (·.receivedAt)).headD readAt <
            upload.receivedAt + service.ttlSeconds := by
        cases rest with
        | nil => exact (List.isChain_cons_cons.mp unexpired).1
        | cons next rest => exact (List.isChain_cons_cons.mp unexpired).1
      have tail := contents_receiveAll accountId rest
        (service.receive accountId redis upload) (List.forall_mem_of_forall_mem_cons finite)
        unexpired.of_cons
      rw [receiveAll, List.foldl_cons, ← receiveAll, tail,
        service.receive_of_scored (finite upload List.mem_cons_self),
        service.contents_appendAt _ _ _ _ _ head.1 head.2]
      rfl

end IndicatorHistoryService

/-! ## The retained frames -/

section Chronological

omit [LinearOrder (Record F)]

theorem chronological_perm (uploads : List (Upload F)) :
    (chronological uploads).Perm uploads := List.perm_insertionSort _ _

/-- Distinct times in the era have scores of their own. -/
theorem scored_of_inEra {uploads : List (Upload F)}
    (distinct : (uploads.map (·.capturedAtMs)).Nodup)
    (era : ∀ upload ∈ uploads, InEra upload.capturedAtMs) : Scored uploads := by
  have exact {upload : Upload F} (member : upload ∈ uploads) :
      upload.ts = double (upload.capturedAtMs / 1000) := by
    rw [Upload.ts, double_intCast (le_trans (le_of_lt (era upload member)) (by norm_num))]
  refine ⟨fun upload member => ?_, ?_⟩
  · rw [seconds_of_inEra (era upload member), exact member]
  · rw [List.nodup_map_iff_inj_on distinct.of_map]
    intro u memberU v memberV same
    rw [exact memberU, exact memberV] at same
    refine List.inj_on_of_nodup_map distinct memberU memberV ?_
    rcases lt_trichotomy u.capturedAtMs v.capturedAtMs with less | equal | greater
    · exact absurd same (seconds_lt (era u memberU) (era v memberV) less).ne
    · exact equal
    · exact absurd same (seconds_lt (era v memberV) (era u memberU) greater).ne'

/-- Distinct scores make distinct members, whatever the nonces. -/
theorem Scored.nodup_entries {uploads : List (Upload F)} (scored : Scored uploads) :
    ((uploads.map Upload.entry).map Prod.snd).Nodup := by
  refine List.Nodup.of_map Record.ts ?_
  rw [List.map_map, List.map_map]
  exact scored.apart

/-- The scores are in the order of the times. -/
theorem Scored.chronological_strict {uploads : List (Upload F)} (scored : Scored uploads) :
    (chronological uploads).Pairwise fun u v => u.ts < v.ts := by
  have perm := chronological_perm uploads
  have apart : ((chronological uploads).map Upload.ts).Nodup :=
    (perm.map _).nodup_iff.mpr scored.apart
  have sorted : (chronological uploads).Pairwise fun u v => u.ts ≤ v.ts := by
    have times : (chronological uploads).Pairwise fun u v => u.capturedAtMs ≤ v.capturedAtMs :=
      List.pairwise_insertionSort _ _
    refine times.imp_of_mem fun {u v} memberU memberV le => ?_
    exact seconds_mono (scored.finite u (perm.subset memberU))
      (scored.finite v (perm.subset memberV)) le
  rw [List.nodup_iff_pairwise_ne, List.pairwise_map] at apart
  exact (sorted.and apart).imp fun both => lt_of_le_of_ne both.1 both.2

end Chronological

theorem Scored.ranked_eq {uploads : List (Upload F)} (scored : Scored uploads) :
    SortedSet.ranked (uploads.map Upload.entry) =
      (chronological uploads).map (toLex ∘ Upload.entry) := by
  have sorted : ((chronological uploads).map (toLex ∘ Upload.entry)).Pairwise (· ≤ ·) := by
    rw [List.pairwise_map]
    exact scored.chronological_strict.imp fun less => Prod.Lex.le_iff.mpr (Or.inl less)
  have perm : (SortedSet.ranked (uploads.map Upload.entry)).Perm
      ((chronological uploads).map (toLex ∘ Upload.entry)) := by
    refine (SortedSet.ranked_perm _).trans ?_
    rw [List.map_map]
    exact ((chronological_perm uploads).map _).symm
  exact List.Perm.eq_of_pairwise' (SortedSet.ranked_sorted _) sorted perm

/-- The history is the last `max_frames` of the uploads in order of capture. -/
theorem IndicatorHistoryService.getHistory_receiveAll (service : IndicatorHistoryService)
    (accountId : String) {redis : Redis F} (absent : redis accountId = none)
    {uploads : List (Upload F)} {readAt : ℚ} (scored : Scored uploads)
    (unexpired : service.Unexpired (uploads.map (·.receivedAt) ++ [readAt])) :
    getHistory readAt (service.receiveAll accountId redis uploads) accountId =
      ((chronological uploads).rtake service.maxFrames.toNat).map Upload.parsed := by
  have start : ∀ now, contents now redis accountId = .empty := fun now => by
    rw [contents, absent]
    rfl
  have entries := SortedSet.entries_foldl_zaddTrim service.maxFrames
    (uploads.map Upload.entry) scored.nodup_entries
  rw [List.foldl_map] at entries
  rw [getHistory, SortedSet.zrange_all, service.contents_receiveAll _ _ _ scored.finite unexpired,
    start, entries, scored.ranked_eq, ← map_rtake, List.map_map, List.map_map]
  rfl

/-! ## The engine on the retained frames -/

section Decision

open Aegis.Rulebook

variable {α : Type} [LinearOrder α] [LinearOrder (Record (FrameState α))]

/-- **Retention.**  Whatever the order in which frames with distinct capture times in the era, or
with distinct scores at least, are received, the history is the last `max_frames` of them in order
of capture; and when that covers the engine's window, the engine decides on it as on all frames
ever received. -/
theorem IndicatorHistoryService.evaluate_getHistory (service : IndicatorHistoryService)
    (engine : SignalRuleEngine) (accountId : String) {redis : Redis (FrameState α)}
    (absent : redis accountId = none) {uploads : List (Upload (FrameState α))} {readAt : ℚ}
    (distinct : (uploads.map (·.capturedAtMs)).Nodup)
    (scored : (∀ upload ∈ uploads, InEra upload.capturedAtMs) ∨ Scored uploads)
    (unexpired : service.Unexpired (uploads.map (·.receivedAt) ++ [readAt])) :
    let history := getHistory readAt (service.receiveAll accountId redis uploads) accountId
    history = ((chronological uploads).rtake service.maxFrames.toNat).map Upload.parsed ∧
    (max 2 engine.divergenceLookback ≤ service.maxFrames → 1 ≤ engine.divergenceLookback →
      engine.evaluate (history.map (·.frame)) =
        engine.evaluate ((chronological uploads).map (·.frame))) := by
  have scored : Scored uploads := scored.elim (scored_of_inEra distinct) id
  have retained := service.getHistory_receiveAll accountId absent scored unexpired
  refine ⟨retained, fun covered positive => ?_⟩
  have frames : (((chronological uploads).rtake service.maxFrames.toNat).map
      Upload.parsed).map (·.frame) =
        ((chronological uploads).map (·.frame)).rtake service.maxFrames.toNat := by
    rw [← map_rtake, List.map_map]
    rfl
  rw [retained, frames]
  exact engine.evaluate_rtake (by omega) positive (by omega)

/-- Any order of the member texts will do: it only ranks members of equal score. -/
noncomputable instance : LinearOrder (Record (FrameState ℚ)) :=
  IsWellOrder.linearOrder WellOrderingRel

/-- Three uploads that arrive newest first, with room for two. -/
def replayed : List (Upload (FrameState ℚ)) :=
  [⟨100, "c", sellHistory[1], 3000⟩, ⟨101, "a", sellHistory[1], 1000⟩,
    ⟨102, "b", sellHistory[0], 2000⟩]

theorem IndicatorHistoryService.evaluate_getHistory_replayed :
    let service : IndicatorHistoryService := ⟨2, 600⟩
    let history := getHistory 103 (service.receiveAll "acc" (fun _ => none) replayed) "acc"
    history = [⟨sellHistory[0], 2⟩, ⟨sellHistory[1], 3⟩] ∧
      (SignalRuleEngine.mk 2).evaluate (history.map (·.frame)) =
        (SignalRuleEngine.mk 2).evaluate [sellHistory[1], sellHistory[0], sellHistory[1]] := by
  have times : (⟨2, 600⟩ : IndicatorHistoryService).Unexpired
      (replayed.map (·.receivedAt) ++ [103]) := by
    simp [IndicatorHistoryService.Unexpired, replayed]
    norm_num
  have both : getHistory 103 ((⟨2, 600⟩ : IndicatorHistoryService).receiveAll "acc"
      (fun _ => none) replayed) "acc" = _ ∧ _ :=
    IndicatorHistoryService.evaluate_getHistory ⟨2, 600⟩ (SignalRuleEngine.mk 2) "acc" rfl
      (by decide) (.inl (by decide)) times
  have sorted : chronological replayed = [replayed[1], replayed[2], replayed[0]] := rfl
  have scores : replayed[2].ts = 2 ∧ replayed[0].ts = 3 :=
    ⟨(seconds_eq_ok.mp (seconds_thousands (by decide : InEra (2 * 1000)))).2,
      (seconds_eq_ok.mp (seconds_thousands (by decide : InEra (3 * 1000)))).2⟩
  obtain ⟨retained, decided⟩ := both
  refine ⟨retained.trans ?_, (decided (by decide) (by decide)).trans (by rw [sorted]; rfl)⟩
  rw [sorted]
  change [(⟨_, replayed[2].ts⟩ : Parsed (FrameState ℚ)), ⟨_, replayed[0].ts⟩] = _
  rw [scores.1, scores.2]
  rfl

/-- Beyond the era two times can share a score, and then the texts decide. -/
theorem history_of_tie {early late : Upload (FrameState ℚ)} (tie : early.ts = late.ts)
    (finite : ∀ upload ∈ [early, late], seconds upload.capturedAtMs = .ok upload.ts)
    (texts : early.entry.2 < late.entry.2) {readAt : ℚ}
    (unexpired : (⟨60, 600⟩ : IndicatorHistoryService).Unexpired
      [early.receivedAt, late.receivedAt, readAt]) :
    getHistory readAt ((⟨60, 600⟩ : IndicatorHistoryService).receiveAll "acc" (fun _ => none)
      [early, late]) "acc" = [early.parsed, late.parsed] := by
  have distinct : ([early.entry, late.entry].map Prod.snd).Nodup := by
    simpa using texts.ne
  have entries := SortedSet.entries_foldl_zaddTrim 60 [early.entry, late.entry] distinct
  have ranked : SortedSet.ranked [early.entry, late.entry] =
      [toLex early.entry, toLex late.entry] := by
    refine List.Perm.eq_of_pairwise' (SortedSet.ranked_sorted _) ?_ (SortedSet.ranked_perm _)
    exact List.pairwise_pair.mpr (Prod.Lex.le_iff.mpr (.inr ⟨tie, texts.le⟩))
  rw [getHistory, SortedSet.zrange_all, IndicatorHistoryService.contents_receiveAll _ "acc"
    [early, late] _ finite unexpired]
  refine (congrArg (fun entries => (List.map _ entries).map Record.parsed) entries).trans ?_
  rw [ranked]
  rfl

/-- Two uploads, a millisecond apart beyond the era. -/
def captured (late : Bool) (frame : FrameState ℚ) : Upload (FrameState ℚ) :=
  if late then ⟨100, "a", frame, 8796093022208002⟩ else ⟨101, "a", frame, 8796093022208001⟩

/-- They have one score. -/
theorem ts_captured (late : Bool) (frame : FrameState ℚ) :
    (captured late frame).ts = 4503599627370497 / 512 := by
  have scores : double (double (8796093022208002 : ℤ) / 1000) = 4503599627370497 / 512 ∧
      double (double (8796093022208001 : ℤ) / 1000) = 4503599627370497 / 512 := by
    decide +kernel
  cases late with
  | true => exact scores.1
  | false => exact scores.2

theorem seconds_captured (late : Bool) (frame : FrameState ℚ) :
    seconds (captured late frame).capturedAtMs = .ok (captured late frame).ts := by
  cases late with
  | true => exact seconds_of_few (by decide : |(8796093022208002 : ℤ)| ≤ 2 ^ 53)
  | false => exact seconds_of_few (by decide : |(8796093022208001 : ℤ)| ≤ 2 ^ 53)

theorem unexpired_captured :
    (⟨60, 600⟩ : IndicatorHistoryService).Unexpired [100, 101, 102] := by
  simp [IndicatorHistoryService.Unexpired]
  norm_num

/-- The text that is less comes first, although it was captured later. -/
theorem history_captured {frame other : FrameState ℚ}
    (texts : (captured true frame).entry.2 < (captured false other).entry.2) :
    getHistory 102 ((⟨60, 600⟩ : IndicatorHistoryService).receiveAll "acc" (fun _ => none)
        [captured true frame, captured false other]) "acc" ≠
      ((chronological [captured true frame, captured false other]).rtake 60).map
        Upload.parsed := by
  have finite : ∀ upload ∈ [captured true frame, captured false other],
      seconds upload.capturedAtMs = .ok upload.ts :=
    List.forall_mem_cons.mpr ⟨seconds_captured _ _,
      List.forall_mem_singleton.mpr (seconds_captured _ _)⟩
  have sorted : chronological [captured true frame, captured false other] =
      [captured false other, captured true frame] := rfl
  have scores := (ts_captured true frame).trans (ts_captured false other).symm
  rw [history_of_tie scores finite texts unexpired_captured, sorted]
  intro same
  have frames : frame = other := congrArg Parsed.frame (List.cons.inj same).1
  refine texts.ne (congrArg₂ (fun frame ts => (⟨frame, ts, "a"⟩ : Record (FrameState ℚ))) frames ?_)
  exact scores

/-- Of two frames one has the lesser text, whichever it is. -/
theorem not_evaluate_getHistory : ∃ frame other : FrameState ℚ,
    ([captured true frame, captured false other].map (·.capturedAtMs)).Nodup ∧
    (⟨60, 600⟩ : IndicatorHistoryService).Unexpired
        ([captured true frame, captured false other].map (·.receivedAt) ++ [102]) ∧
      getHistory 102 ((⟨60, 600⟩ : IndicatorHistoryService).receiveAll "acc" (fun _ => none)
          [captured true frame, captured false other]) "acc" ≠
        ((chronological [captured true frame, captured false other]).rtake 60).map
          Upload.parsed := by
  let text (frame : FrameState ℚ) : Record (FrameState ℚ) := ⟨frame, 4503599627370497 / 512, "a"⟩
  have texts (late : Bool) (frame : FrameState ℚ) : (captured late frame).entry.2 = text frame := by
    have nonce : (captured late frame).nonce = "a" ∧ (captured late frame).frame = frame := by
      cases late <;> exact ⟨rfl, rfl⟩
    rw [Upload.entry, ts_captured, nonce.1, nonce.2]
  have apart : text sellHistory[0] ≠ text sellHistory[1] :=
    ne_of_apply_ne Record.frame (by decide)
  rcases lt_or_gt_of_ne apart with less | greater
  · exact ⟨sellHistory[0], sellHistory[1], by decide, unexpired_captured,
      history_captured (by rw [texts, texts]; exact less)⟩
  · exact ⟨sellHistory[1], sellHistory[0], by decide, unexpired_captured,
      history_captured (by rw [texts, texts]; exact greater)⟩

end Decision

end Aegis.History
