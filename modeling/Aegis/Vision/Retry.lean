import Aegis.Vision.Analyze

/-!
# Uploads that are sent twice

When the reply to an upload is lost, the phone sends the same screenshot again.  The nonce
makes it another member of the sorted set, so the engine compares the newest frame with
itself: nothing crosses, and no rule fires.  `retry_same_iff` says for which uploads the
second answer is that of the first.
-/

namespace Aegis.Rulebook

open Aegis.Lib

variable {α : Type} [LinearOrder α] {engine : SignalRuleEngine} {frame : FrameState α}

theorem crossed_self (value level : α) : crossed value level value level = none := by
  unfold crossed
  exact if_pos rfl

/-- A frame has not crossed itself. -/
theorem Bands.not_crossing_self {bands : Bands α} (read : bands.Of frame frame) :
    ¬ bands.Crossing := by
  have first : bands.pb1 = bands.b1 := Option.some.inj (read.pb1.symm.trans read.b1)
  have second : bands.pb2 = bands.b2 := Option.some.inj (read.pb2.symm.trans read.b2)
  simp only [Bands.Crossing, first, second, crossed_self, reduceCtorEq, or_self, not_false_eq_true]

/-- No law applies to a frame twice over. -/
theorem SignalRuleEngine.first_self (history : List (FrameState α)) :
    Law.first engine.laws frame frame history = none := by
  rw [Law.first_eq_none]
  intro law member held
  rcases held with ⟨bands, _, read, _, starts, _⟩
  exact bands.not_crossing_self read ((bands.crossing_iff engine).mpr ⟨law, member, starts⟩)

/-- The names of the laws are not the answer of the loop when there is none. -/
theorem SignalRuleEngine.name_of_mem_laws {law : Law α} (member : law ∈ engine.laws) :
    law.name ≠ "no_rule_matched" := by
  simp only [SignalRuleEngine.laws, List.mem_cons, List.not_mem_nil, or_false] at member
  rcases member with rfl | rfl | rfl | rfl | rfl | rfl
  · exact (by decide : baseSell.name ≠ "no_rule_matched")
  · exact (by decide : baseBuy.name ≠ "no_rule_matched")
  · exact (by decide : uptrend2uSell.name ≠ "no_rule_matched")
  · exact (by decide : downtrend2lBuy.name ≠ "no_rule_matched")
  · exact (by decide : priceFilterSell.name ≠ "no_rule_matched")
  · exact (by decide : priceFilterBuy.name ≠ "no_rule_matched")

end Aegis.Rulebook

namespace Aegis.Vision

open Aegis.Lib Aegis.Rulebook Aegis.History

/-! ## What an answer decides -/

/-- The two fields of an answer that a retry must repeat. -/
def decision (answer : Except Rejection Response) : Except Rejection (String × String) :=
  (fun response => (response.signal, response.ruleName)) <$> answer

/-- The same, from what the engine returned. -/
def decisionOf : Except PyError RuleResult → Except Rejection (String × String)
  | .ok result => .ok ((result.signal.map signalText).getD "HOLD", result.ruleName)
  | .error error => .error (rejectionOf (raisedBy error))

section Decisions

variable {α : Type} [LinearOrder α] {engine : SignalRuleEngine} {prev frame : FrameState α}
  {early : List (FrameState α)}

/-- The frame lacks one of the two bands. -/
def Bandless (frame : FrameState α) : Prop := ∀ bands : Bands α, ¬ bands.Of frame frame

omit [LinearOrder α] in
theorem Bandless.blind (bandless : Bandless frame) (bands : Bands α) : ¬ bands.Of prev frame :=
  fun read => bandless ⟨bands.b1, bands.b2, bands.b1, bands.b2⟩ ⟨read.b1, read.b2, read.b1, read.b2⟩

theorem decision_of_unreadable (unreadable : ¬ Readable prev frame) :
    decisionOf (engine.evaluate (early ++ [prev, frame])) =
      .error (.httpException 500 "Analysis failed.") := by
  rw [engine.evaluate_append, engine.raises_of_not_readable unreadable]
  rfl

theorem decision_of_first_none (readable : Readable prev frame)
    (none : Law.first engine.laws prev frame (early ++ [prev, frame]) = none) :
    decisionOf (engine.evaluate (early ++ [prev, frame])) = .ok ("HOLD", "no_rule_matched") := by
  obtain ⟨result, run, answers⟩ := engine.evaluate_of_readable early readable
  rw [none] at answers
  rw [run, decisionOf, answers.2.1, answers.2.2]
  rfl

/-- The second time the engine sees the frame twice. -/
theorem decision_twice (seen : ¬ Bandless frame) :
    decisionOf (engine.evaluate (early ++ [frame, frame])) = .ok ("HOLD", "no_rule_matched") := by
  obtain ⟨bands, read⟩ := not_forall_not.mp seen
  exact decision_of_first_none
    ⟨bands, read, fun crossing => (bands.not_crossing_self read crossing).elim⟩
    (engine.first_self _)

/-- The decisions on a frame behind another one and on the frame behind itself. -/
theorem decision_eq_twice_iff (other : List (FrameState α)) :
    decisionOf (engine.evaluate (early ++ [prev, frame])) =
        decisionOf (engine.evaluate (other ++ [frame, frame])) ↔
      Bandless frame ∨ Readable prev frame ∧
        ∀ law ∈ engine.laws, ¬ law.Applies prev frame (early ++ [prev, frame]) := by
  by_cases bandless : Bandless frame
  · rw [decision_of_unreadable fun readable => readable.elim fun bands both =>
        bandless.blind bands both.1,
      decision_of_unreadable fun readable => readable.elim fun bands both =>
        bandless bands both.1]
    exact iff_of_true rfl (.inl bandless)
  · rw [decision_twice bandless, or_iff_right bandless]
    by_cases readable : Readable prev frame
    · rw [and_iff_right readable]
      cases first : Law.first engine.laws prev frame (early ++ [prev, frame]) with
      | none =>
          exact iff_of_true (decision_of_first_none readable first) (Law.first_eq_none.mp first)
      | some law =>
          obtain ⟨member, applies⟩ := Law.of_first_eq_some first
          refine iff_of_false (fun same => ?_) fun quiet => quiet law member applies
          obtain ⟨result, run, answers⟩ := engine.evaluate_of_readable early readable
          rw [first] at answers
          rw [run, decisionOf] at same
          have names : result.ruleName = "no_rule_matched" :=
            congrArg Prod.snd (Except.ok.inj same)
          exact engine.name_of_mem_laws member (answers.2.2.symm.trans names)
    · rw [decision_of_unreadable readable]
      exact iff_of_false nofun fun both => readable both.1

/-- A first frame is told apart from a repeated one. -/
theorem decision_alone_ne (other : List (FrameState α)) :
    decisionOf (engine.evaluate [frame]) ≠
      decisionOf (engine.evaluate (other ++ [frame, frame])) := by
  have alone : decisionOf (engine.evaluate [frame]) = .ok ("HOLD", "insufficient_history") := rfl
  rw [alone]
  by_cases bandless : Bandless frame
  · rw [decision_of_unreadable fun readable => readable.elim fun bands both =>
      bandless bands both.1]
    nofun
  · rw [decision_twice bandless]
    intro same
    exact absurd (congrArg Prod.snd (Except.ok.inj same)) (by decide)

end Decisions

/-! ## Two deliveries of one upload -/

section Deliveries

variable {Image α : Type} [LinearOrder α] [LinearOrder (Record (FrameState α))]
  {brain : BrainCVService Image α} {service : IndicatorHistoryService} {arrival : Arrival}
  {request : AnalyzeRequest} {stores : Stores α} {frame : FrameState α} {ms : ℤ} {ts : ℚ}

section Answers

variable (faultless : ∀ command, arrival.fault command = none)

include faultless

theorem decision_of_read (accepted : request.Accepted)
    (read : brain.readFrame request.image = .ok frame) (scored : arrival.ts request = .ok ts) :
    decision ((analyzeScreenshot brain service arrival request).run stores).1 =
      decisionOf (brain.ruleEngine.evaluate ((getHistory arrival.now
        (service.appendAt arrival.now arrival.nonce stores.indicatorHistory request.accountId
          frame ts) request.accountId).map (·.frame))) := by
  rw [answer_of_read faultless accepted read scored, BrainCVService.evaluate]
  generalize brain.ruleEngine.evaluate (α := α) _ = evaluated
  cases evaluated <;> rfl

end Answers

/-- The score of a frame is that of its capture time. -/
theorem ts_of_captured (captured : request.capturedAtMs = some ms) :
    arrival.ts request = (seconds ms).mapError raisedBy := by
  rw [Arrival.ts, captured]
  rfl

theorem ts_of_seconds (captured : request.capturedAtMs = some ms) (scored : seconds ms = .ok ts) :
    arrival.ts request = .ok ts := by
  rw [ts_of_captured captured, scored]
  rfl

/-- A request without a frame, or without a score for it, is answered the same whenever it comes. -/
theorem answer_without_frame (captured : request.capturedAtMs = some ms)
    (frameless : ∀ frame ts, request.Accepted → brain.readFrame request.image = .ok frame →
      seconds ms ≠ .ok ts) :
    ∃ rejection, ∀ arrival (stores : Stores α), (∀ command, arrival.fault command = none) →
      ((analyzeScreenshot brain service arrival request).run stores).1 = .error rejection := by
  by_cases accepted : request.Accepted
  · cases read : brain.readFrame request.image with
    | ok frame =>
        cases scored : seconds ms with
        | ok ts => exact (frameless frame ts accepted read scored).elim
        | error error =>
            refine ⟨rejectionOf (raisedBy error), fun arrival stores faultless => ?_⟩
            have unscored : arrival.ts request = .error (raisedBy error) := by
              rw [ts_of_captured captured, scored]
              rfl
            refine answer_of_raised faultless accepted ?_
            rw [run_analyze_error (.inr ⟨frame, read, unscored⟩)]
    | error raised =>
        refine ⟨rejectionOf raised, fun arrival stores faultless => ?_⟩
        refine answer_of_raised faultless accepted ?_
        rw [run_analyze_error (.inl read)]
  · unfold analyzeScreenshot
    by_cases badType : request.BadContentType
    · simp only [if_pos badType]
      exact ⟨_, fun arrival stores faultless => answer_refuse faultless _ _ _ _ _⟩
    · by_cases empty : request.image = []
      · simp only [if_neg badType, if_pos empty]
        exact ⟨_, fun arrival stores faultless => answer_refuse faultless _ _ _ _ _⟩
      · have large : request.image.length > maxUploadSize :=
          not_le.mp fun size => accepted ⟨badType, empty, size⟩
        simp only [if_neg badType, if_neg empty, if_pos large]
        exact ⟨_, fun arrival stores faultless => answer_refuse faultless _ _ _ _ _⟩

section Twice

variable {first second : Arrival} {n : ℕ}

/-- The frames that are stored when the upload arrives first. -/
def storedFrames (arrival : Arrival) (request : AnalyzeRequest) (stores : Stores α) :
    List (FrameState α) :=
  (getHistory arrival.now stores.indicatorHistory request.accountId).map (·.frame)

/-- The stores that the first delivery leaves. -/
def redelivered (brain : BrainCVService Image α) (service : IndicatorHistoryService)
    (first : Arrival) (request : AnalyzeRequest) (stores : Stores α) : Stores α :=
  ((analyzeScreenshot brain service first request).run stores).2

omit [LinearOrder α] in
theorem storedFrames_eq :
    storedFrames arrival request stores =
      ((contents arrival.now stores.indicatorHistory request.accountId).entries.map
        entryParsed).map (·.frame) := by
  rw [storedFrames, getHistory_eq]

omit [LinearOrder α] in
/-- What the engine sees the first time. -/
theorem frames_first (positive : 0 < service.ttlSeconds)
    (size : service.maxFrames.toNat = n + 2)
    (earlier : Earlier (contents first.now stores.indicatorHistory request.accountId) ts) :
    (getHistory first.now
        (service.appendAt first.now first.nonce stores.indicatorHistory request.accountId
          frame ts) request.accountId).map (·.frame) =
      (storedFrames first request stores).rtake (n + 1) ++ [frame] := by
  have unexpired : first.now < first.now + (service.ttlSeconds : ℚ) :=
    lt_add_of_pos_right _ (Int.cast_pos.mpr positive)
  rw [getHistory_eq, service.contents_appendAt _ _ _ _ _ le_rfl unexpired,
    earlier.entries_zaddTrim size rfl, storedFrames_eq, List.map_append, map_rtake,
    List.map_append, map_rtake]
  rfl

omit [LinearOrder α] in
/-- What it sees the second time, whatever the order of the two nonces. -/
theorem frames_second (unexpired : service.Unexpired [first.now, second.now])
    (size : service.maxFrames.toNat = n + 2) (apart : first.nonce ≠ second.nonce)
    (earlier : Earlier (contents first.now stores.indicatorHistory request.accountId) ts) :
    (getHistory second.now
        (service.appendAt second.now second.nonce
          (service.appendAt first.now first.nonce stores.indicatorHistory request.accountId
            frame ts) request.accountId frame ts)
        request.accountId).map (·.frame) =
      (storedFrames first request stores).rtake n ++ [frame, frame] := by
  obtain ⟨alive, before⟩ := List.isChain_pair.mp unexpired
  have positive : 0 < (service.ttlSeconds : ℚ) := pos_of_lt_add_right (alive.trans_lt before)
  have lasting : second.now < second.now + (service.ttlSeconds : ℚ) :=
    lt_add_of_pos_right _ positive
  have twice := earlier.parsed_zaddTrim_twice size
    (rfl : (⟨frame, ts, first.nonce⟩ : Record (FrameState α)).ts = ts)
    (rfl : (⟨frame, ts, second.nonce⟩ : Record (FrameState α)).parsed = _)
    (fun same => apart (congrArg Record.nonce same).symm)
  rw [getHistory_eq, service.contents_appendAt _ _ _ _ _ le_rfl lasting,
    service.contents_appendAt _ _ _ _ _ alive before, twice, storedFrames_eq,
    List.map_append, map_rtake]
  rfl

theorem history_redelivered (faultless : ∀ command, first.fault command = none)
    (accepted : request.Accepted) (read : brain.readFrame request.image = .ok frame)
    (scored : first.ts request = .ok ts) :
    (redelivered brain service first request stores).indicatorHistory =
      service.appendAt first.now first.nonce stores.indicatorHistory request.accountId frame
        ts := by
  have kept : SameHistory ((analyze brain service first request).run stores).2
    (redelivered brain service first request stores) := history_of_accepted accepted
  rw [run_analyze faultless read scored] at kept
  exact kept

/-- The two answers to an upload with a frame. -/
theorem retry_same_iff_of_read (faultless : ∀ command, first.fault command = none)
    (faultlessAlso : ∀ command, second.fault command = none) (accepted : request.Accepted)
    (read : brain.readFrame request.image = .ok frame) (captured : request.capturedAtMs = some ms)
    (scored : seconds ms = .ok ts)
    (unexpired : service.Unexpired [first.now, second.now]) (size : 2 ≤ service.maxFrames)
    (apart : first.nonce ≠ second.nonce)
    (earlier : Earlier (contents first.now stores.indicatorHistory request.accountId) ts) :
    decision ((analyzeScreenshot brain service first request).run stores).1 =
        decision ((analyzeScreenshot brain service second request).run
          (redelivered brain service first request stores)).1 ↔
      ∃ early prev, storedFrames first request stores = early ++ [prev] ∧
        (Bandless frame ∨ Readable prev frame ∧ ∀ law ∈ brain.ruleEngine.laws,
          ¬ law.Applies prev frame
            ((early ++ [prev, frame]).rtake service.maxFrames.toNat)) := by
  obtain ⟨n, width⟩ : ∃ n, service.maxFrames.toNat = n + 2 :=
    ⟨service.maxFrames.toNat - 2, by omega⟩
  obtain ⟨alive, before⟩ := List.isChain_pair.mp unexpired
  have positive : 0 < service.ttlSeconds :=
    Int.cast_pos.mp (pos_of_lt_add_right (alive.trans_lt before))
  rw [decision_of_read faultless accepted read (ts_of_seconds captured scored),
    decision_of_read faultlessAlso accepted read (ts_of_seconds captured scored),
    history_redelivered faultless accepted read (ts_of_seconds captured scored),
    frames_first positive width earlier, frames_second unexpired width apart earlier]
  rcases List.eq_nil_or_concat (storedFrames first request stores) with none | ⟨early, prev, some⟩
  · rw [none, List.rtake_nil, List.rtake_nil]
    refine iff_of_false (decision_alone_ne []) fun condition => ?_
    obtain ⟨early, prev, some, _⟩ := condition
    exact absurd (congrArg List.length some) (by simp)
  · have kept : (early ++ [prev, frame]).rtake service.maxFrames.toNat =
        early.rtake n ++ [prev, frame] := by
      rw [width, List.append_cons, List.rtake_concat_succ, List.rtake_concat_succ,
        List.append_assoc]
      rfl
    rw [some, List.concat_eq_append, List.rtake_concat_succ, List.append_assoc]
    change decisionOf (brain.ruleEngine.evaluate (early.rtake n ++ [prev, frame])) = _ ↔ _
    rw [decision_eq_twice_iff]
    constructor
    · intro condition
      rw [← kept] at condition
      exact ⟨early, prev, rfl, condition⟩
    · intro held
      rcases held with ⟨others, last, same, condition⟩
      obtain ⟨rfl, lastSame⟩ := List.append_inj' same rfl
      cases List.singleton_injective lastSame
      rw [kept] at condition
      exact condition

/-- **Retry.**  When an upload that is captured later than all stored frames is delivered
twice, the second answer carries the signal and the rule of the first exactly when there is
no frame in it or no double for its time, or there are stored frames, and the frame lacks a band or
no rule applies to it behind the last of them. -/
theorem retry_same_iff (faultless : ∀ command, first.fault command = none)
    (faultlessAlso : ∀ command, second.fault command = none)
    (captured : request.capturedAtMs = some ms)
    (unexpired : service.Unexpired [first.now, second.now]) (size : 2 ≤ service.maxFrames)
    (apart : first.nonce ≠ second.nonce)
    (earlier : ∀ ts, seconds ms = .ok ts →
      Earlier (contents first.now stores.indicatorHistory request.accountId) ts) :
    decision ((analyzeScreenshot brain service first request).run stores).1 =
        decision ((analyzeScreenshot brain service second request).run
          (redelivered brain service first request stores)).1 ↔
      ∀ frame ts, request.Accepted → brain.readFrame request.image = .ok frame →
        seconds ms = .ok ts → ∃ early prev, storedFrames first request stores = early ++ [prev] ∧
          (Bandless frame ∨ Readable prev frame ∧ ∀ law ∈ brain.ruleEngine.laws,
            ¬ law.Applies prev frame
              ((early ++ [prev, frame]).rtake service.maxFrames.toNat)) := by
  by_cases frameless : ∀ frame ts, request.Accepted →
      brain.readFrame request.image = .ok frame → seconds ms ≠ .ok ts
  · obtain ⟨rejection, answered⟩ : ∃ rejection, ∀ arrival (stores : Stores α),
        (∀ command, arrival.fault command = none) →
          ((analyzeScreenshot brain service arrival request).run stores).1 = .error rejection :=
      answer_without_frame captured frameless
    rw [answered first stores faultless, answered second _ faultlessAlso]
    exact iff_of_true rfl fun frame ts accepted read scored =>
      (frameless frame ts accepted read scored).elim
  · obtain ⟨frame, ts, accepted, read, scored⟩ : ∃ frame ts, request.Accepted ∧
        brain.readFrame request.image = .ok frame ∧ seconds ms = .ok ts := by
      simpa only [not_forall, not_not, exists_prop] using frameless
    rw [retry_same_iff_of_read faultless faultlessAlso accepted read captured scored unexpired size
      apart (earlier ts scored)]
    constructor
    · intro condition other otherTs _ readAlso _
      cases read.symm.trans readAlso
      exact condition
    · exact fun condition => condition frame ts accepted read scored

end Twice

end Deliveries

/-! ## A signal that the retry loses -/

/-- The colours of the second frame of `sellHistory`. -/
def sellPoints : ColorPoints where
  band1 := [⟨0, 3⟩, ⟨1, 7⟩, ⟨2, 30⟩]
  band2 := [⟨0, 1⟩, ⟨1, 8⟩, ⟨2, 40⟩]
  ma4 := [⟨0, 5⟩]
  cci5 := [⟨0, 0⟩]
  rsi6 := [⟨0, 2⟩]
  band7 := some [⟨0, 2⟩, ⟨1, 20⟩, ⟨2, 40⟩]
  band8 := some [⟨0, 2⟩, ⟨1, 20⟩, ⟨2, 40⟩]
  bullish := [⟨0, 1⟩]
  bearish := []

def sellBrain : BrainCVService Unit ℚ :=
  ⟨⟨fun _ => some (), fun _ => .ok sellPoints⟩, OrderHom.id, ⟨12⟩⟩

theorem extract_sellPoints :
    Vision.extractFrameState (OrderHom.id : ℚ →o ℚ) sellPoints = sellHistory[1] := by
  decide +kernel

theorem unexpired_arrivals : (⟨60, 600⟩ : IndicatorHistoryService).Unexpired
    [(arrivalAt 2 "b").now, (arrivalAt 3 "c").now] :=
  List.isChain_pair.mpr ⟨by norm_num [arrivalAt], by norm_num [arrivalAt]⟩

theorem decisions_sellPoints :
    decision ((analyzeScreenshot sellBrain ⟨60, 600⟩ (arrivalAt 2 "b") upload).run
        (storedOne sellHistory[0])).1 = .ok ("SELL", "price_filter_sell") ∧
      decision ((analyzeScreenshot sellBrain ⟨60, 600⟩ (arrivalAt 3 "c") upload).run
        (redelivered sellBrain ⟨60, 600⟩ (arrivalAt 2 "b") upload (storedOne sellHistory[0]))).1 =
          .ok ("HOLD", "no_rule_matched") := by
  have read : sellBrain.readFrame upload.image = .ok sellHistory[1] :=
    congrArg Except.ok extract_sellPoints
  have stored : storedFrames (arrivalAt 2 "b") upload (storedOne sellHistory[0]) =
      [sellHistory[0]] := by
    rw [storedFrames_eq, entries_storedOne]
    rfl
  rw [decision_of_read (fun _ => rfl) accepted_upload read (ts_upload 2 "b"),
    decision_of_read (fun _ => rfl) accepted_upload read (ts_upload 3 "c"),
    history_redelivered (fun _ => rfl) accepted_upload read (ts_upload 2 "b"),
    frames_first (by decide) (rfl : (60 : ℤ).toNat = 58 + 2) (earlier_storedOne _ _),
    frames_second unexpired_arrivals (rfl : (60 : ℤ).toNat = 58 + 2) (by decide)
      (earlier_storedOne _ _), stored]
  constructor
  · have fires : (SignalRuleEngine.mk 12).evaluate sellHistory = .ok
        ⟨true, some .sell, "price_filter_sell",
          "cond1=True, cond2=True, cond3=True, cond4(price>#7/#8)=True"⟩ := by
      decide +kernel
    exact congrArg decisionOf fires
  · exact decision_twice fun bandless =>
      bandless ⟨⟨3, 7, 30⟩, ⟨1, 8, 40⟩, ⟨3, 7, 30⟩, ⟨1, 8, 40⟩⟩ ⟨rfl, rfl, rfl, rfl⟩

/-- The first answer is a SELL, and the second does not repeat it. -/
theorem not_retry_same_sellPoints :
    decision ((analyzeScreenshot sellBrain ⟨60, 600⟩ (arrivalAt 2 "b") upload).run
        (storedOne sellHistory[0])).1 = .ok ("SELL", "price_filter_sell") ∧
      decision ((analyzeScreenshot sellBrain ⟨60, 600⟩ (arrivalAt 3 "c") upload).run
        (redelivered sellBrain ⟨60, 600⟩ (arrivalAt 2 "b") upload (storedOne sellHistory[0]))).1 =
          .ok ("HOLD", "no_rule_matched") := decisions_sellPoints

/-- Some rule applies to the second frame behind the first. -/
theorem retry_same_iff_sellPoints :
    ¬ ∀ frame ts, upload.Accepted → sellBrain.readFrame upload.image = .ok frame →
      seconds (2 * 1000) = .ok ts →
        ∃ early prev, storedFrames (arrivalAt 2 "b") upload (storedOne sellHistory[0]) =
            early ++ [prev] ∧
          (Bandless frame ∨ Readable prev frame ∧ ∀ law ∈ sellBrain.ruleEngine.laws,
            ¬ law.Applies prev frame ((early ++ [prev, frame]).rtake 60)) := by
  have earlier : ∀ ts, seconds (2 * 1000) = .ok ts → Earlier
      (contents (arrivalAt 2 "b").now (storedOne sellHistory[0]).indicatorHistory
        upload.accountId) ts := by
    intro ts scored
    cases seconds_upload.symm.trans scored
    exact earlier_storedOne _ _
  intro condition
  have same : decision ((analyzeScreenshot sellBrain ⟨60, 600⟩ (arrivalAt 2 "b") upload).run
      (storedOne sellHistory[0])).1 = _ :=
    (retry_same_iff (fun _ => rfl) (fun _ => rfl) rfl unexpired_arrivals (by decide) (by decide)
      earlier).mpr condition
  rw [decisions_sellPoints.1, decisions_sellPoints.2] at same
  exact absurd (congrArg Prod.fst (Except.ok.inj same)) (by decide)

end Aegis.Vision
