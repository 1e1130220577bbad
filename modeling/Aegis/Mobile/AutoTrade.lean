import Mathlib.Algebra.GroupWithZero.Nat
import Mathlib.Algebra.Order.BigOperators.Group.List
import Mathlib.Algebra.Order.Group.Nat
import Mathlib.Data.Rat.Init
import Aegis.Lib.LiveData
import Aegis.Lib.Window
import Aegis.Mobile.Accessibility

/-!
# Automatic execution on the phone

`MainActivity` observes the signals of the results that `trySendOnce` posts.  For each it starts
a coroutine, which reads the settings, the confidence that the view model holds by then and the
state of the accessibility service, and may have MT5 clicked.  `lastExecutionTimeMs` spaces the
executions; the clock may jump.

`accepted_clicks_le` bounds the clicks on MT5 over any run, and `executions_sound` says what
stands behind each execution.
-/

namespace Aegis.Mobile

open Aegis.Lib

variable {F : Type}

structure AnalysisResponse (F : Type) where
  signal : String
  confidence : F

/-- What a coroutine of the observer finds when it goes on. -/
structure Glance where
  /-- `prefs[AUTO_EXECUTE]` -/
  autoExecute : Option Bool
  /-- `prefs[MIN_CONFIDENCE]` -/
  minConfidence : Option String
  /-- `ENABLED_ACCESSIBILITY_SERVICES` -/
  enabledServices : Option String
  /-- `instance` is set -/
  connected : Bool
  /-- `currentTimeMillis()` -/
  now : ℤ
  rootInActiveWindow : Option Node

/-- A call of `performMt5Click`, and what led to it. -/
structure Execution (F : Type) where
  signal : String
  confidence : F
  glance : Glance

/-- `MainActivity` and what it shares with the service. -/
structure Activity (F : Type) where
  latestResult : Feed (AnalysisResponse F)
  /-- `viewModel.confidence.value` -/
  confidence : Option F
  /-- the signals of the coroutines that wait for the settings -/
  waiting : List String
  lastExecutionTimeMs : ℤ
  executions : List (Execution F)
  /-- how often the activity was created anew -/
  recreations : ℕ

inductive ActivityEvent (F : Type) where
  | posted (response : AnalysisResponse F)
  /-- the main thread sets what was posted -/
  | mainThread (early : Option Glance)
  | lifecycle (active : Bool) (early : Option Glance)
  /-- the settings are there for a coroutine that waits -/
  | resumed (i : ℕ) (glance : Glance)
  /-- a new activity observes, with the old view model or a new one -/
  | recreated (retained : Bool)

def cooldownMs : ℤ := 60000

def isAccessibilityEnabled (glance : Glance) : Bool :=
  (glance.enabledServices.map fun services => decide (
    "com.aegis.mobile/com.aegis.mobile.automation.Mt5AccessibilityService".toList <:+:
      services.toList)) == some true

namespace Activity

/-- The app has just been started. -/
def start : Activity F := ⟨.start, none, [], 0, [], 0⟩

/-- `executeTrade`. -/
def executeTrade (activity : Activity F) (execution : Execution F) : Activity F :=
  if execution.glance.now - activity.lastExecutionTimeMs < cooldownMs then activity
  else if execution.glance.connected then
    { activity with
      lastExecutionTimeMs := execution.glance.now
      executions := activity.executions ++ [execution] }
  else activity

variable [LT F] [DecidableLT F] [OfScientific F] (toFloatOrNull : String → Option F)

/-- What `MIN_CONFIDENCE` stands for. -/
def minConf (glance : Glance) : F := (glance.minConfidence.bind toFloatOrNull).getD 0.70

/-- The rest of the coroutine once it has the settings. -/
def decideOn (activity : Activity F) (signal : String) (glance : Glance) : Activity F :=
  if (signal = "BUY" ∨ signal = "SELL") ∧ glance.autoExecute.getD false = true then
    if isAccessibilityEnabled glance then
      if activity.confidence.getD 0.0 < minConf toFloatOrNull glance then activity
      else activity.executeTrade ⟨signal, activity.confidence.getD 0.0, glance⟩
    else activity
  else activity

/-- The observers of the signal and the confidence, in their order.  The coroutine runs at once
when the settings are there. -/
def observed (activity : Activity F) (response : Option (AnalysisResponse F))
    (early : Option Glance) : Activity F :=
  match response with
  | none => activity
  | some response =>
      { (match early with
          | none => { activity with waiting := activity.waiting ++ [response.signal] }
          | some glance => activity.decideOn toFloatOrNull response.signal glance) with
        confidence := some response.confidence }

def step (activity : Activity F) : ActivityEvent F → Activity F
  | .posted response => { activity with latestResult := activity.latestResult.post response }
  | .mainThread early =>
      { activity with latestResult := activity.latestResult.flush.2 }.observed toFloatOrNull
        activity.latestResult.flush.1 early
  | .lifecycle active early =>
      { activity with latestResult := (activity.latestResult.setActive active).2 }.observed
        toFloatOrNull (activity.latestResult.setActive active).1 early
  | .resumed i glance =>
      match activity.waiting[i]? with
      | none => activity
      | some signal =>
          { activity with waiting := activity.waiting.eraseIdx i }.decideOn toFloatOrNull signal
            glance
  | .recreated retained =>
      { activity with
        latestResult := activity.latestResult.observe
        -- `map` of a new view model starts from the result that is there
        confidence :=
          if retained then activity.confidence
          else activity.latestResult.value.map (·.confidence)
        waiting := []
        recreations := activity.recreations + 1 }

/-- The results that were posted. -/
def responses (events : List (ActivityEvent F)) : List (AnalysisResponse F) :=
  events.filterMap fun
    | .posted response => some response
    | .mainThread _ | .lifecycle _ _ | .resumed _ _ | .recreated _ => none

def recreates : ActivityEvent F → Bool
  | .recreated _ => true
  | .posted _ | .mainThread _ | .lifecycle _ _ | .resumed _ _ => false

/-! ## What holds throughout -/

/-- What stands behind an execution. -/
structure Warranted (responses : List (AnalysisResponse F)) (execution : Execution F) : Prop where
  trades : execution.signal = "BUY" ∨ execution.signal = "SELL"
  signalled : ∃ response ∈ responses, response.signal = execution.signal
  confidence : execution.confidence = 0.0 ∨
    ∃ response ∈ responses, response.confidence = execution.confidence
  confident : ¬ execution.confidence < minConf toFloatOrNull execution.glance
  autoExecute : execution.glance.autoExecute = some true
  enabled : isAccessibilityEnabled execution.glance = true
  connected : execution.glance.connected = true

/-- The invariant, with so many coroutines about to decide. -/
structure Sound (deciding : ℕ) (activity : Activity F) : Prop where
  feed : activity.latestResult.Sound
  waiting : ∀ signal ∈ activity.waiting,
    ∃ response ∈ activity.latestResult.posted, response.signal = signal
  confidence : ∀ confidence, activity.confidence = some confidence →
    ∃ response ∈ activity.latestResult.posted, response.confidence = confidence
  apart : (activity.executions.map (·.glance.now)).Pairwise fun earlier later =>
    earlier + cooldownMs ≤ later
  past : ∀ execution ∈ activity.executions, execution.glance.now ≤ activity.lastExecutionTimeMs
  warranted : ∀ execution ∈ activity.executions,
    Warranted toFloatOrNull activity.latestResult.posted execution
  counted : activity.executions.length + activity.waiting.length + deciding +
    activity.latestResult.unseen ≤ activity.latestResult.settled.length + activity.recreations

variable {activity : Activity F} {toFloatOrNull} {deciding : ℕ} {signal : String}
  {glance : Glance}

omit [DecidableLT F] in
theorem Warranted.mono {responses more : List (AnalysisResponse F)} {execution : Execution F}
    (warranted : Warranted toFloatOrNull responses execution) (within : responses ⊆ more) :
    Warranted toFloatOrNull more execution where
  trades := warranted.trades
  signalled := warranted.signalled.imp fun _ found => ⟨within found.1, found.2⟩
  confidence := warranted.confidence.imp_right (·.imp fun _ found => ⟨within found.1, found.2⟩)
  confident := warranted.confident
  autoExecute := warranted.autoExecute
  enabled := warranted.enabled
  connected := warranted.connected

omit [DecidableLT F] in
theorem Sound.start : Sound toFloatOrNull 0 (start : Activity F) where
  feed := .start
  waiting := nofun
  confidence := nofun
  apart := .nil
  past := nofun
  warranted := nofun
  counted := Nat.le_refl _

omit [DecidableLT F] in
/-- A coroutine may end without an execution. -/
theorem Sound.ended (sound : Sound toFloatOrNull (deciding + 1) activity) :
    Sound toFloatOrNull deciding activity :=
  ⟨sound.feed, sound.waiting, sound.confidence, sound.apart, sound.past, sound.warranted, by
    have counted := sound.counted
    omega⟩

/-- **The decision.** -/
theorem Sound.decideOn (sound : Sound toFloatOrNull (deciding + 1) activity)
    (signalled : ∃ response ∈ activity.latestResult.posted, response.signal = signal) :
    Sound toFloatOrNull deciding (activity.decideOn toFloatOrNull signal glance) := by
  unfold Activity.decideOn
  split
  next wanted =>
    obtain ⟨trades, automatic⟩ := wanted
    split
    next enabled =>
      split
      next => exact sound.ended
      next confident =>
        unfold executeTrade
        split
        next => exact sound.ended
        next quick =>
          split
          next connected =>
            have autoExecute : glance.autoExecute = some true := by
              cases setting : glance.autoExecute with
              | none =>
                  rw [setting] at automatic
                  cases automatic
              | some value =>
                  rw [setting] at automatic
                  exact congrArg some automatic
            have confidence : activity.confidence.getD 0.0 = 0.0 ∨
                ∃ response ∈ activity.latestResult.posted,
                  response.confidence = activity.confidence.getD 0.0 := by
              cases held : activity.confidence with
              | none => exact .inl rfl
              | some value => exact .inr (sound.confidence value held)
            have late (other : Execution F) (member : other ∈ activity.executions) :
                other.glance.now + cooldownMs ≤ glance.now := by
              have past := sound.past other member
              dsimp only at quick
              omega
            refine ⟨sound.feed, sound.waiting, sound.confidence, ?_, ?_, ?_, ?_⟩
            · rw [List.map_append, List.pairwise_append]
              refine ⟨sound.apart, List.pairwise_singleton _ _, fun earlier old later new => ?_⟩
              obtain ⟨other, member, rfl⟩ := List.mem_map.mp old
              rw [List.mem_singleton.mp new]
              exact late other member
            · intro other member
              rcases List.mem_append.mp member with old | new
              · have gap := late other old
                have positive : 0 < cooldownMs := by decide
                dsimp only
                omega
              · rw [List.mem_singleton.mp new]
            · intro other member
              rcases List.mem_append.mp member with old | new
              · exact sound.warranted other old
              · rw [List.mem_singleton.mp new]
                exact ⟨trades, signalled, confidence, confident, autoExecute, enabled, connected⟩
            · have counted := sound.counted
              dsimp only
              rw [List.length_append, List.length_singleton]
              omega
          next => exact sound.ended
    next => exact sound.ended
  next => exact sound.ended

@[simp]
theorem latestResult_decideOn : (activity.decideOn toFloatOrNull signal glance).latestResult =
    activity.latestResult := by
  unfold Activity.decideOn executeTrade
  split_ifs <;> rfl

@[simp]
theorem recreations_decideOn : (activity.decideOn toFloatOrNull signal glance).recreations =
    activity.recreations := by
  unfold Activity.decideOn executeTrade
  split_ifs <;> rfl

theorem Sound.observed {response : Option (AnalysisResponse F)}
    (sound : Sound toFloatOrNull response.toList.length activity)
    (posted : ∀ told, response = some told → told ∈ activity.latestResult.posted)
    (early : Option Glance) :
    Sound toFloatOrNull 0 (activity.observed toFloatOrNull response early) := by
  unfold Activity.observed
  cases response with
  | none => exact sound
  | some told =>
      have member := posted told rfl
      have current : ∀ confidence, some told.confidence = some confidence →
          ∃ response ∈ activity.latestResult.posted, response.confidence = confidence :=
        fun confidence same => ⟨told, member, Option.some.inj same⟩
      cases early with
      | none =>
          refine ⟨sound.feed, fun signal among => ?_, current, sound.apart, sound.past,
            sound.warranted, ?_⟩
          · rcases List.mem_append.mp among with old | new
            · exact sound.waiting signal old
            · exact ⟨told, member, (List.mem_singleton.mp new).symm⟩
          · have counted := sound.counted
            dsimp only
            rw [Option.toList_some, List.length_singleton] at counted
            rw [List.length_append, List.length_singleton]
            omega
      | some glance =>
          have decided :
              Sound toFloatOrNull 0 (activity.decideOn toFloatOrNull told.signal glance) :=
            Sound.decideOn sound ⟨told, member, rfl⟩
          refine { decided with confidence := fun confidence same => ?_ }
          dsimp only
          rw [latestResult_decideOn]
          exact current confidence same

section Kept

variable {response : Option (AnalysisResponse F)} {early : Option Glance}

@[simp]
theorem latestResult_observed :
    (activity.observed toFloatOrNull response early).latestResult = activity.latestResult := by
  unfold observed
  split
  · rfl
  · split
    · rfl
    · exact latestResult_decideOn

@[simp]
theorem recreations_observed :
    (activity.observed toFloatOrNull response early).recreations = activity.recreations := by
  unfold observed
  split
  · rfl
  · split
    · rfl
    · exact recreations_decideOn

end Kept

/-- The state knows what was posted and how often the activity was created anew. -/
theorem ghosts_exec (toFloatOrNull : String → Option F) (events : List (ActivityEvent F)) :
    (exec (step toFloatOrNull) start events).latestResult.posted = responses events ∧
      (exec (step toFloatOrNull) start events).recreations = events.countP recreates := by
  refine exec_induction (fun events (activity : Activity F) =>
    activity.latestResult.posted = responses events ∧
      activity.recreations = events.countP recreates) ⟨rfl, rfl⟩ ?_ events
  intro early event held
  rcases held with ⟨posted, recreated⟩
  generalize exec (step toFloatOrNull) start early = activity at posted recreated
  have more : responses (early ++ [event]) = responses early ++ responses [event] :=
    List.filterMap_append
  rw [more, List.countP_append, ← posted, ← recreated]
  cases event with
  | posted response => exact ⟨rfl, rfl⟩
  | mainThread glance => simp [step, responses, recreates]
  | lifecycle active glance => simp [step, responses, recreates]
  | resumed i glance =>
      unfold step
      dsimp only
      split <;> simp [responses, recreates]
  | recreated retained => simp [step, responses, recreates, Feed.observe]

/-- **One step.** -/
theorem Sound.step (sound : Sound toFloatOrNull 0 activity) (event : ActivityEvent F) :
    Sound toFloatOrNull 0 (activity.step toFloatOrNull event) := by
  have counted := sound.counted
  cases event with
  | posted response =>
      have within : activity.latestResult.posted ⊆ activity.latestResult.posted ++ [response] :=
        List.subset_append_left _ _
      refine ⟨sound.feed.post response, fun signal member => ?_, fun confidence held => ?_,
        sound.apart, sound.past, fun execution member => ?_, counted⟩
      · exact (sound.waiting signal member).imp fun _ found => ⟨within found.1, found.2⟩
      · exact (sound.confidence confidence held).imp fun _ found => ⟨within found.1, found.2⟩
      · exact (sound.warranted execution member).mono within
  | mainThread early =>
      have told := activity.latestResult.unseen_flush
      refine Sound.observed ?_ ?_ early
      · refine ⟨sound.feed.flush, ?_, ?_, sound.apart, sound.past, ?_, ?_⟩
        · simpa using sound.waiting
        · simpa using sound.confidence
        · simpa using sound.warranted
        · dsimp only
          omega
      · simpa using fun _ => sound.feed.flush_mem_posted
  | lifecycle active early =>
      have told := activity.latestResult.unseen_setActive active
      refine Sound.observed ?_ ?_ early
      · refine ⟨sound.feed.setActive active, ?_, ?_, sound.apart, sound.past, ?_, ?_⟩
        · simpa using sound.waiting
        · simpa using sound.confidence
        · simpa using sound.warranted
        · dsimp only
          rw [Feed.settled_setActive]
          omega
      · simpa using fun _ => sound.feed.setActive_mem_posted
  | resumed i glance =>
      unfold Activity.step
      dsimp only
      split
      next => exact sound
      next signal found =>
        have bound := (List.getElem?_eq_some_iff.mp found).1
        have erased := List.length_eraseIdx_of_lt bound
        refine Sound.decideOn ⟨sound.feed, fun other member => ?_, sound.confidence, sound.apart,
          sound.past, sound.warranted, ?_⟩ (sound.waiting signal (List.mem_of_getElem? found))
        · exact sound.waiting other (List.mem_of_mem_eraseIdx member)
        · dsimp only
          omega
  | recreated retained =>
      refine ⟨sound.feed.observe, nofun, fun confidence held => ?_, sound.apart, sound.past,
        sound.warranted, ?_⟩
      · cases retained with
        | true => exact sound.confidence confidence held
        | false =>
            obtain ⟨response, value, same⟩ := Option.map_eq_some_iff.mp held
            exact ⟨response, sound.feed.value_mem_posted value, same⟩
      · have fresh := activity.latestResult.observe.unseen_le_one
        have settled : activity.latestResult.observe.settled = activity.latestResult.settled := rfl
        unfold Activity.step
        dsimp only
        rw [settled, List.length_nil]
        omega

theorem sound_exec (toFloatOrNull : String → Option F) (events : List (ActivityEvent F)) :
    Sound toFloatOrNull 0 (exec (step toFloatOrNull) start events) :=
  exec_inv .start (fun _ event sound => sound.step event) events

/-! ## Executions of a run -/

/-- The clicks of an execution that MT5 accepts. -/
def acceptedClicks (execution : Execution F) : ℕ :=
  (performMt5Click execution.signal execution.glance.rootInActiveWindow).countP Node.accepts

def executionsWithin (activity : Activity F) (low high : ℤ) : List (Execution F) :=
  activity.executions.filter fun execution =>
    low ≤ execution.glance.now ∧ execution.glance.now ≤ high

/-- **Cooldown.**  However results, coroutines and activities come and whatever the clock says,
MT5 accepts no more clicks in a stretch of time than it has minutes, and one. -/
theorem accepted_clicks_le (toFloatOrNull : String → Option F) (events : List (ActivityEvent F))
    {low high : ℤ} (stretch : low ≤ high) :
    ((((exec (step toFloatOrNull) start events).executionsWithin low high).map
      acceptedClicks).sum : ℤ) ≤ (high - low) / 60000 + 1 := by
  have sound := sound_exec toFloatOrNull events
  generalize exec (step toFloatOrNull) start events = activity at sound ⊢
  have few : ((activity.executionsWithin low high).map acceptedClicks).sum ≤
      (activity.executionsWithin low high).length := by
    have each := List.sum_le_card_nsmul ((activity.executionsWithin low high).map acceptedClicks) 1
      (fun clicks member => by
        obtain ⟨execution, _, rfl⟩ := List.mem_map.mp member
        exact accepted_performMt5Click _ _)
    simpa using each
  have apart : ((activity.executionsWithin low high).map (·.glance.now)).Pairwise
      fun earlier later => earlier + cooldownMs ≤ later :=
    sound.apart.sublist (List.filter_sublist.map _)
  have bound := length_le_of_cooldown (by decide) stretch apart (fun t member => by
    obtain ⟨execution, among, rfl⟩ := List.mem_map.mp member
    exact of_decide_eq_true (List.mem_filter.mp among).2)
  rw [List.length_map] at bound
  exact (Int.ofNat_le.mpr few).trans bound

/-- All is on, and MT5 shows its buttons. -/
def readyGlance (now : ℤ) : Glance where
  autoExecute := some true
  minConfidence := none
  enabledServices := some "com.aegis.mobile/com.aegis.mobile.automation.Mt5AccessibilityService"
  connected := true
  now := now
  rootInActiveWindow := some (.mk none false false [
    .mk (some "SELL by Market") true true [],
    .mk (some "BUY by Market") true true []])

/-- A BUY that is acted on when its successor has come. -/
def lateBuy : List (ActivityEvent ℚ) :=
  [.lifecycle true none, .posted ⟨"BUY", 0.6⟩, .mainThread none, .posted ⟨"HOLD", 0.9⟩,
    .mainThread none, .resumed 0 (readyGlance 100000), .resumed 0 (readyGlance 100001)]

theorem accepted_clicks_le_lateBuy :
    ((((exec (step fun _ => none) start lateBuy).executionsWithin 100000 130000).map
      acceptedClicks).sum : ℤ) ≤ (130000 - 100000) / 60000 + 1 :=
  accepted_clicks_le _ _ (by decide)

example : (exec (step fun _ => none) start lateBuy).executions.map
    (fun execution => (execution.signal, execution.confidence)) = [("BUY", 0.9)] := by
  decide +kernel

/-- **Warrant.**  Each execution is of a BUY or SELL that the server sent, with a confidence that
was sent too (or none was yet) and that the settings accept, and comes with automatic execution
and the service on.  No more are made than results have come and activities been created anew. -/
theorem executions_sound (toFloatOrNull : String → Option F) (events : List (ActivityEvent F)) :
    (∀ execution ∈ (exec (step toFloatOrNull) start events).executions,
      Warranted toFloatOrNull (responses events) execution) ∧
      (exec (step toFloatOrNull) start events).executions.length ≤
        (responses events).length + events.countP recreates := by
  have sound := sound_exec toFloatOrNull events
  obtain ⟨posted, recreated⟩ := ghosts_exec toFloatOrNull events
  rw [← posted, ← recreated]
  refine ⟨sound.warranted, ?_⟩
  have counted := sound.counted
  have settled := ((List.sublist_append_left _ _).trans sound.feed.settled).length_le
  omega

end Activity

end Aegis.Mobile
