import Mathlib.Data.Fintype.Basic
import Mathlib.Logic.Function.Basic
import Aegis.Lib.LiveData
import Aegis.Lib.Window

/-!
# The life of the capture service

`ScreenCaptureService` from `onCreate` to `onDestroy`: the start commands, the four loops that
it posts to the main thread's handler, and the callback of the media projection.  All of it runs
on the main thread, where time passes between the steps and while a loop's body runs.

`quiet_after_stop` is what the comments promise about stopping, and `loop_runs_le` bounds how
often each loop runs, whatever starts and stops there are.
-/

namespace Aegis.Mobile

open Aegis.Lib

/-- The runnables that post themselves again. -/
inductive Loop where
  | capture
  | heartbeat
  | cacheDrain
  | roiRefresh
  deriving DecidableEq

/-- `CAPTURE_INTERVAL` and the others, in milliseconds. -/
def Loop.interval : Loop → ℤ
  | capture => 3000
  | heartbeat => 60000
  | cacheDrain => 15000
  | roiRefresh => 21600000

theorem Loop.interval_pos (loop : Loop) : 0 < loop.interval := by
  cases loop <;> decide

/-- What a start command carries: `ACTION_STOP`, no grant of the user, or one, from which
`getMediaProjection` makes a projection or nothing. -/
inductive StartIntent where
  | stop
  | noToken
  | token (projection : Option ℕ)

/-- The service, and what it shares with the app. -/
structure CaptureService where
  /-- between `onCreate` and `onDestroy` -/
  alive : Bool
  /-- how many services were created, this one included -/
  created : ℕ
  mediaProjection : Option ℕ
  /-- the projection that the display shows -/
  virtualDisplay : Option ℕ
  imageReader : Bool
  /-- when the posted runnables are due -/
  callbacks : Loop → List ℤ
  /-- the services whose end was posted by the callback of a projection -/
  stops : List ℕ
  mediaProjectionActive : Feed Bool
  /-- `uptimeMillis()` -/
  clock : ℤ
  /-- which loops have run, and when -/
  ran : List (Loop × ℤ)

inductive ServiceEvent where
  | create
  | startCommand (intent : StartIntent)
  /-- a runnable that is due runs for some time -/
  | run (loop : Loop) (i : ℕ) (busy : ℕ)
  | projectionStopped (service : ℕ)
  /-- what the callback has posted runs -/
  | stopPosted (i : ℕ)
  /-- `MainActivity.stopCapture` -/
  | stopCapture
  /-- the main thread sets what was posted to `mediaProjectionActive` -/
  | flush
  | elapse (ms : ℕ)
  | destroy

/-- A start with a grant of the user. -/
def ServiceEvent.Grants : ServiceEvent → Bool
  | .startCommand (.token _) => true
  | .startCommand .stop | .startCommand .noToken | .create | .run _ _ _ | .projectionStopped _
  | .stopPosted _ | .stopCapture | .flush | .elapse _ | .destroy => false

namespace CaptureService

/-- The app has just been started. -/
def fresh : CaptureService :=
  ⟨false, 0, none, none, false, fun _ => [], [], .start, 0, []⟩

def post (service : CaptureService) (active : Bool) : CaptureService :=
  { service with mediaProjectionActive := service.mediaProjectionActive.post active }

def stopCaptureSession (service : CaptureService) : CaptureService :=
  { service with
    callbacks := fun _ => []
    virtualDisplay := none
    mediaProjection := none
    imageReader := false }.post false

/-- The rest of `onStartCommand` once there is a token. -/
def startSession (service : CaptureService) (projection : Option ℕ) : CaptureService :=
  { service.post true with
    mediaProjection := projection
    imageReader := true
    virtualDisplay := projection
    callbacks := fun loop => [service.clock + loop.interval] }

def onStartCommand (service : CaptureService) : StartIntent → CaptureService
  | .stop => service.stopCaptureSession
  | .noToken => service.post false
  | .token projection =>
      if service.mediaProjection.isSome ∧ service.mediaProjectionActive.value = some true then
        service
      else service.startSession projection

/-- A runnable runs and posts itself again. -/
def runLoop (service : CaptureService) (loop : Loop) (i busy : ℕ) : CaptureService :=
  match (service.callbacks loop)[i]? with
  | none => service
  | some due =>
      if due ≤ service.clock then
        { service with
          callbacks := Function.update service.callbacks loop
            ((service.callbacks loop).eraseIdx i ++ [service.clock + busy + loop.interval])
          clock := service.clock + busy
          ran := service.ran ++ [(loop, service.clock)] }
      else service

/-- The services of the app that there were before hold no session any more. -/
def runStop (service : CaptureService) (i : ℕ) : CaptureService :=
  match service.stops[i]? with
  | none => service
  | some stopped =>
      let rest := { service with stops := service.stops.eraseIdx i }
      if service.alive ∧ stopped = service.created then rest.stopCaptureSession
      else rest.post false

def step (service : CaptureService) : ServiceEvent → CaptureService
  | .create =>
      if service.alive then service
      else { service with alive := true, created := service.created + 1 }
  | .startCommand intent => if service.alive then service.onStartCommand intent else service
  | .run loop i busy => service.runLoop loop i busy
  | .projectionStopped stopped => { service with stops := service.stops ++ [stopped] }
  | .stopPosted i => service.runStop i
  | .stopCapture => service.post false
  | .flush => { service with mediaProjectionActive := service.mediaProjectionActive.flush.2 }
  | .elapse ms => { service with clock := service.clock + ms }
  | .destroy =>
      if service.alive then { service.stopCaptureSession with alive := false } else service

/-! ## What holds throughout -/

/-- The times at which a loop has run. -/
def times (service : CaptureService) (loop : Loop) : List ℤ :=
  (service.ran.filter fun run => run.1 = loop).map (·.2)

/-- A session posts each loop once, and without one there is nothing. -/
structure Sound (service : CaptureService) : Prop where
  session : service.imageReader = true →
    service.alive = true ∧ ∀ loop, ∃ due, service.callbacks loop = [due]
  closed : service.imageReader = false →
    service.mediaProjection = none ∧ ∀ loop, service.callbacks loop = []
  shown : service.virtualDisplay = service.mediaProjection
  apart : ∀ loop, (service.times loop).Pairwise fun earlier later =>
    earlier + loop.interval ≤ later
  past : ∀ loop, ∀ t ∈ service.times loop, t ≤ service.clock
  next : ∀ loop, ∀ due ∈ service.callbacks loop, ∀ t ∈ service.times loop,
    t + loop.interval ≤ due

variable {service : CaptureService}

theorem Sound.fresh : fresh.Sound where
  session := nofun
  closed _ := ⟨rfl, fun _ => rfl⟩
  shown := rfl
  apart _ := .nil
  past := nofun
  next := nofun

theorem Sound.post (sound : service.Sound) (active : Bool) : (service.post active).Sound :=
  ⟨sound.session, sound.closed, sound.shown, sound.apart, sound.past, sound.next⟩

theorem Sound.stopCaptureSession (sound : service.Sound) : service.stopCaptureSession.Sound where
  session := nofun
  closed _ := ⟨rfl, fun _ => rfl⟩
  shown := rfl
  apart := sound.apart
  past := sound.past
  next := nofun

theorem Sound.startSession (sound : service.Sound) (alive : service.alive = true)
    (projection : Option ℕ) : (service.startSession projection).Sound where
  session _ := ⟨alive, fun loop => ⟨_, rfl⟩⟩
  closed := nofun
  shown := rfl
  apart := sound.apart
  past := sound.past
  next loop due posted t member := by
    have before := sound.past loop t member
    rw [List.mem_singleton.mp posted]
    exact Int.add_le_add_right before _

theorem Sound.onStartCommand (sound : service.Sound) (alive : service.alive = true)
    (intent : StartIntent) : (service.onStartCommand intent).Sound := by
  cases intent with
  | stop => exact sound.stopCaptureSession
  | noToken => exact sound.post false
  | token projection =>
      unfold CaptureService.onStartCommand
      dsimp only
      split
      · exact sound
      · exact sound.startSession alive projection

/-- A loop that is posted belongs to a session. -/
theorem Sound.posted (sound : service.Sound) {loop : Loop} {i : ℕ} {due : ℤ}
    (posted : (service.callbacks loop)[i]? = some due) :
    service.imageReader = true ∧ service.callbacks loop = [due] := by
  cases opened : service.imageReader with
  | false =>
      rw [(sound.closed opened).2 loop] at posted
      cases posted
  | true =>
      obtain ⟨only, single⟩ := (sound.session opened).2 loop
      rw [single] at posted ⊢
      have member := List.mem_of_getElem? posted
      rw [List.mem_singleton.mp member]
      exact ⟨rfl, rfl⟩

theorem times_concat (service : CaptureService) (loop other : Loop) (now : ℤ) :
    ((service.ran ++ [(loop, now)]).filter fun run => run.1 = other).map (·.2) =
      service.times other ++ if loop = other then [now] else [] := by
  rw [List.filter_append, List.map_append, times]
  by_cases same : loop = other
  · simp [same]
  · simp [same]

/-- **One run of a loop.** -/
theorem Sound.runLoop (sound : service.Sound) (loop : Loop) (i busy : ℕ) :
    (service.runLoop loop i busy).Sound := by
  unfold CaptureService.runLoop
  split
  next => exact sound
  next due posted =>
    obtain ⟨opened, single⟩ := sound.posted posted
    have only : i = 0 := by
      have inside := (List.getElem?_eq_some_iff.mp posted).1
      rw [single, List.length_singleton] at inside
      omega
    split
    next late =>
      have before := sound.past loop
      have spaced : ∀ t ∈ service.times loop, t + loop.interval ≤ service.clock :=
        fun t member => (sound.next loop due (by simp [single]) t member).trans late
      refine ⟨fun _ => ⟨(sound.session opened).1, fun other => ?_⟩, fun closed => ?_, sound.shown,
        fun other => ?_, fun other t member => ?_, fun other due' posted' t member => ?_⟩
      · dsimp only
        by_cases same : other = loop
        · subst same
          rw [Function.update_self, single, only]
          exact ⟨_, rfl⟩
        · rw [Function.update_of_ne same]
          exact (sound.session opened).2 other
      · rw [opened] at closed
        cases closed
      · unfold times
        dsimp only
        rw [times_concat]
        split
        next same =>
          subst same
          refine List.pairwise_append.mpr ⟨sound.apart loop, List.pairwise_singleton _ _, ?_⟩
          intro t member last new
          rw [List.mem_singleton.mp new]
          exact spaced t member
        next =>
          rw [List.append_nil]
          exact sound.apart other
      · unfold times at member
        dsimp only at member ⊢
        rw [times_concat] at member
        rcases List.mem_append.mp member with old | new
        · have past := sound.past other t old
          omega
        · split at new
          · rw [List.mem_singleton.mp new]
            omega
          · cases new
      · unfold times at member
        dsimp only at member posted'
        rw [times_concat] at member
        by_cases same : other = loop
        · subst same
          rw [Function.update_self, single, only] at posted'
          rw [List.mem_singleton.mp posted']
          rcases List.mem_append.mp member with old | new
          · have past := sound.past other t old
            omega
          · rw [if_pos rfl] at new
            rw [List.mem_singleton.mp new]
            omega
        · rw [Function.update_of_ne same] at posted'
          rw [if_neg (Ne.symm same), List.append_nil] at member
          exact sound.next other due' posted' t member
    next => exact sound

theorem Sound.runStop (sound : service.Sound) (i : ℕ) : (service.runStop i).Sound := by
  unfold CaptureService.runStop
  split
  · exact sound
  · dsimp only
    split
    · exact Sound.stopCaptureSession ⟨sound.session, sound.closed, sound.shown, sound.apart,
        sound.past, sound.next⟩
    · refine Sound.post ?_ false
      exact ⟨sound.session, sound.closed, sound.shown, sound.apart, sound.past, sound.next⟩

theorem Sound.step (sound : service.Sound) (event : ServiceEvent) : (service.step event).Sound := by
  cases event with
  | create =>
      unfold CaptureService.step
      dsimp only
      split
      · exact sound
      next dead =>
        refine ⟨fun opened => absurd (sound.session opened).1 dead, sound.closed, sound.shown,
          sound.apart, sound.past, sound.next⟩
  | startCommand intent =>
      unfold CaptureService.step
      dsimp only
      split
      next alive => exact sound.onStartCommand alive intent
      next => exact sound
  | run loop i busy => exact sound.runLoop loop i busy
  | projectionStopped stopped =>
      exact ⟨sound.session, sound.closed, sound.shown, sound.apart, sound.past, sound.next⟩
  | stopPosted i => exact sound.runStop i
  | stopCapture => exact sound.post false
  | flush => exact ⟨sound.session, sound.closed, sound.shown, sound.apart, sound.past, sound.next⟩
  | elapse ms =>
      refine ⟨sound.session, sound.closed, sound.shown, sound.apart, fun loop t member => ?_,
        sound.next⟩
      have past := sound.past loop t member
      unfold CaptureService.step
      dsimp only
      omega
  | destroy =>
      unfold CaptureService.step
      dsimp only
      split
      · have stopped := sound.stopCaptureSession
        exact ⟨nofun, stopped.closed, stopped.shown, stopped.apart, stopped.past, stopped.next⟩
      · exact sound

theorem sound_exec (events : List ServiceEvent) : (exec step CaptureService.fresh events).Sound :=
  exec_inv .fresh (fun _ event sound => sound.step event) events

/-! ## Runs -/

/-- **Rate.**  Over any run, with whatever starts, grants, stops and new services, no loop runs
more often in a stretch of time than its interval allows. -/
theorem loop_runs_le (events : List ServiceEvent) (loop : Loop) {low high : ℤ}
    (stretch : low ≤ high) :
    ((((exec step CaptureService.fresh events).times loop).filter fun t =>
      low ≤ t ∧ t ≤ high).length : ℤ) ≤ (high - low) / loop.interval + 1 :=
  length_le_of_cooldown loop.interval_pos stretch
    (((sound_exec events).apart loop).sublist List.filter_sublist)
    fun _ member => of_decide_eq_true (List.mem_filter.mp member).2

def oneCapture : List ServiceEvent :=
  [.create, .startCommand (.token (some 1)), .elapse 3000, .run .capture 0 40]

theorem loop_runs_le_oneCapture :
    ((((exec step CaptureService.fresh oneCapture).times .capture).filter fun t =>
      3000 ≤ t ∧ t ≤ 9000).length : ℤ) ≤ (9000 - 3000) / Loop.capture.interval + 1 :=
  loop_runs_le _ .capture (by decide)

/-- Without a session and a grant nothing begins. -/
theorem quiet_step (sound : service.Sound) (closed : service.imageReader = false)
    {event : ServiceEvent} (ungranted : event.Grants = false) :
    (service.step event).imageReader = false ∧ (service.step event).ran = service.ran := by
  cases event with
  | create =>
      unfold CaptureService.step
      dsimp only
      split <;> exact ⟨closed, rfl⟩
  | startCommand intent =>
      unfold CaptureService.step onStartCommand
      cases intent with
      | stop =>
          dsimp only
          split
          · exact ⟨rfl, rfl⟩
          · exact ⟨closed, rfl⟩
      | noToken =>
          dsimp only
          split <;> exact ⟨closed, rfl⟩
      | token projection => cases ungranted
  | run loop i busy =>
      have unposted : (service.callbacks loop)[i]? = none := by
        rw [(sound.closed closed).2 loop]
        rfl
      unfold CaptureService.step CaptureService.runLoop
      dsimp only
      rw [unposted]
      exact ⟨closed, rfl⟩
  | projectionStopped stopped => exact ⟨closed, rfl⟩
  | stopPosted i =>
      unfold CaptureService.step CaptureService.runStop
      dsimp only
      split
      · exact ⟨closed, rfl⟩
      · split
        · exact ⟨rfl, rfl⟩
        · exact ⟨closed, rfl⟩
  | stopCapture => exact ⟨closed, rfl⟩
  | flush => exact ⟨closed, rfl⟩
  | elapse ms => exact ⟨closed, rfl⟩
  | destroy =>
      unfold CaptureService.step
      dsimp only
      split
      · exact ⟨rfl, rfl⟩
      · exact ⟨closed, rfl⟩

theorem quiet_exec (sound : service.Sound) (closed : service.imageReader = false)
    {events : List ServiceEvent} (ungranted : ∀ event ∈ events, event.Grants = false) :
    (exec step service events).imageReader = false ∧
      (exec step service events).ran = service.ran := by
  induction events generalizing service with
  | nil => exact ⟨closed, rfl⟩
  | cons event rest ih =>
      obtain ⟨first, ungranted⟩ := List.forall_mem_cons.mp ungranted
      obtain ⟨closedNext, same⟩ := quiet_step sound closed first
      obtain ⟨closedLast, sameLast⟩ := ih (sound.step event) closedNext ungranted
      exact ⟨closedLast, sameLast.trans same⟩

theorem closed_stop (sound : service.Sound) :
    (service.step (.startCommand .stop)).imageReader = false := by
  unfold CaptureService.step
  dsimp only
  split
  · rfl
  next dead =>
    cases opened : service.imageReader with
    | false => rfl
    | true => exact absurd (sound.session opened).1 dead

/-- **Stopped.**  After a stop nothing of the service runs, whatever timers and callbacks of
projections were on their way and however the system restarts it, until the user grants a
capture again. -/
theorem quiet_after_stop (early late : List ServiceEvent)
    (ungranted : ∀ event ∈ late, event.Grants = false) :
    let stopped := exec step CaptureService.fresh (early ++ [.startCommand .stop])
    (exec step stopped late).imageReader = false ∧
      (exec step stopped late).mediaProjection = none ∧
      (∀ loop, (exec step stopped late).callbacks loop = []) ∧
      (exec step stopped late).ran = stopped.ran := by
  intro stopped
  have sound : stopped.Sound := sound_exec _
  have closed : stopped.imageReader = false := by
    have last : stopped = (exec step CaptureService.fresh early).step (.startCommand .stop) :=
      exec_concat early _
    rw [last]
    exact closed_stop (sound_exec early)
  obtain ⟨closedLate, same⟩ := quiet_exec sound closed ungranted
  have soundLate : (exec step stopped late).Sound :=
    exec_inv sound (fun _ event sound => sound.step event) late
  obtain ⟨released, unposted⟩ := soundLate.closed closedLate
  exact ⟨closedLate, released, unposted, same⟩

/-- A timer, a callback and a restart that come after the stop. -/
def strays : List ServiceEvent :=
  [.elapse 60000, .run .heartbeat 0 0, .projectionStopped 1, .stopPosted 0, .destroy, .create,
    .startCommand .noToken]

theorem quiet_after_stop_strays :
    (exec step (exec step CaptureService.fresh (oneCapture ++ [.startCommand .stop])) strays).ran =
      (exec step CaptureService.fresh (oneCapture ++ [.startCommand .stop])).ran :=
  (quiet_after_stop oneCapture strays (by decide)).2.2.2

end CaptureService

end Aegis.Mobile
