import Aegis.Lib.Run

/-!
# The temp file of the screen captures

`captureAndSend` starts a coroutine for each capture, and all of them write, upload and delete
one `live_capture_tmp.jpg`.  The coroutines take their steps in any order; an upload reads the
file when its attempt begins and is answered at any later time.

An upload is paired (`Paired`) when its picture was taken at its time.  `uploads_paired` says
what this takes: a capture is written to the file only while no other coroutine may still read
it (`Clear`).  The screenshots of `ScreenshotCacheManager` have a file each, and are always
paired.
-/

namespace Aegis.Mobile

open Aegis.Lib

/-- A picture with its time and its account. -/
structure Capture (Image : Type) where
  capturedAtMs : ℤ
  accountId : String
  /-- the JPEG of `croppedBitmap` -/
  image : Image
  deriving DecidableEq

/-- The attempts of `trySend`. -/
inductive Attempt where
  | first
  | second
  deriving DecidableEq

/-- Where the coroutine of a capture stands. -/
inductive SendPhase (ι : Type) where
  | launched
  /-- about to read the file -/
  | sending (attempt : Attempt)
  /-- the request carries the picture that this capture wrote to the file -/
  | uploading (attempt : Attempt) (writer : ι)
  /-- `delay(2_500)` -/
  | delaying
  | unsent
  /-- about to delete the file -/
  | finishing
  | finished
  deriving DecidableEq

/-- The coroutine may still read the file. -/
def SendPhase.Reads {ι : Type} : SendPhase ι → Prop
  | sending _ | delaying | uploading .first _ => True
  | launched | uploading .second _ | unsent | finishing | finished => False

/-- What comes of an upload: its response is lost when the server has accepted it and the phone
sees a failure. -/
inductive Reply where
  | success
  | lost
  | failure
  deriving DecidableEq

def Reply.accepted : Reply → Bool
  | success | lost => true
  | failure => false

/-- What `trySendOnce` returns. -/
def Reply.ok : Reply → Bool
  | success => true
  | lost | failure => false

/-- A step of a capture's coroutine, the reply to its upload, or an upload of `drainCache`. -/
inductive SendEvent (ι : Type) where
  | run (i : ι)
  | reply (i : ι) (reply : Reply)
  | drain (capturedAtMs : ℤ) (accountId : String) (reply : Reply)

/-- The files of the app, its coroutines, and the uploads that the server has accepted. -/
structure Phone (ι Image : Type) where
  /-- the capture whose picture `live_capture_tmp.jpg` holds -/
  tempFile : Option ι
  /-- `pending_screenshots`, by the parts of the name -/
  pending : ℤ × String → Option Image
  phases : ι → SendPhase ι
  accepted : List (Capture Image)

/-- Where a failed attempt leaves the coroutine. -/
def Attempt.failed {ι : Type} : Attempt → SendPhase ι
  | first => .delaying
  | second => .unsent

namespace Phone

variable {ι Image : Type} [DecidableEq ι]

/-- No capture has been taken. -/
def start : Phone ι Image := ⟨none, fun _ => none, fun _ => .launched, []⟩

def move (phone : Phone ι Image) (i : ι) (phase : SendPhase ι) : Phone ι Image :=
  { phone with phases := Function.update phone.phases i phase }

def accept (phone : Phone ι Image) (upload : Capture Image) (reply : Reply) : Phone ι Image :=
  if reply.accepted then { phone with accepted := phone.accepted ++ [upload] } else phone

/-- The next step of the coroutine, up to its upload or its delay. -/
def runStep (captures : ι → Capture Image) (phone : Phone ι Image) (i : ι) : Phone ι Image :=
  match phone.phases i with
  | .launched => { phone.move i (.sending .first) with tempFile := some i }
  | .sending attempt =>
      match phone.tempFile with
      | none => phone.move i attempt.failed
      | some writer => phone.move i (.uploading attempt writer)
  | .delaying => phone.move i (.sending .second)
  | .unsent =>
      { phone.move i .finishing with
        pending := Function.update phone.pending
          ((captures i).capturedAtMs, (captures i).accountId) (some (captures i).image) }
  | .finishing => { phone.move i .finished with tempFile := none }
  | .uploading _ _ | .finished => phone

def replyStep (captures : ι → Capture Image) (phone : Phone ι Image) (i : ι) (reply : Reply) :
    Phone ι Image :=
  match phone.phases i with
  | .uploading attempt writer =>
      (phone.accept { captures i with image := (captures writer).image } reply).move i
        (if reply.ok then .finishing else attempt.failed)
  | .launched | .sending _ | .delaying | .unsent | .finishing | .finished => phone

/-- `drainCache` sends a file and removes it once it is sent. -/
def drainStep (phone : Phone ι Image) (capturedAtMs : ℤ) (accountId : String) (reply : Reply) :
    Phone ι Image :=
  match phone.pending (capturedAtMs, accountId) with
  | none => phone
  | some image =>
      let after := phone.accept ⟨capturedAtMs, accountId, image⟩ reply
      if reply.ok then
        { after with pending := Function.update after.pending (capturedAtMs, accountId) none }
      else after

def step (captures : ι → Capture Image) (phone : Phone ι Image) : SendEvent ι → Phone ι Image
  | .run i => phone.runStep captures i
  | .reply i reply => phone.replyStep captures i reply
  | .drain capturedAtMs accountId reply => phone.drainStep capturedAtMs accountId reply

end Phone

namespace Phone

variable {ι Image : Type}

/-- Each upload's picture was taken at its time. -/
def Paired (captures : ι → Capture Image) (phone : Phone ι Image) : Prop :=
  ∀ upload ∈ phone.accepted, ∃ j,
    (captures j).capturedAtMs = upload.capturedAtMs ∧ (captures j).image = upload.image

/-- Some capture of `i`'s time shows what the writer's shows. -/
def Alike (captures : ι → Capture Image) (writer i : ι) : Prop :=
  ∃ j, (captures j).capturedAtMs = (captures i).capturedAtMs ∧
    (captures j).image = (captures writer).image

/-- A capture is written to the file only while no other coroutine may still read it, or none to
which the picture does not belong. -/
def Clear (captures : ι → Capture Image) (phone : Phone ι Image) : SendEvent ι → Prop
  | .run i => phone.phases i = .launched → ∀ j, (phone.phases j).Reads → Alike captures i j
  | .reply _ _ | .drain _ _ _ => True

/-- No capture is written to the file. -/
def Quiet (phone : Phone ι Image) : SendEvent ι → Prop
  | .run i => phone.phases i ≠ .launched
  | .reply _ _ | .drain _ _ _ => True

/-- The screenshots that wait are named after the capture that they show. -/
def Filed (captures : ι → Capture Image) (phone : Phone ι Image) : Prop :=
  ∀ key image, phone.pending key = some image → ∃ j, captures j = ⟨key.1, key.2, image⟩

variable [DecidableEq ι] {captures : ι → Capture Image} {phone : Phone ι Image}
  {upload : Capture Image} {reply : Reply} {i : ι}

@[simp] theorem accepted_move (phase : SendPhase ι) :
    (phone.move i phase).accepted = phone.accepted := rfl

@[simp] theorem pending_move (phase : SendPhase ι) :
    (phone.move i phase).pending = phone.pending := rfl

omit [DecidableEq ι] in
@[simp] theorem pending_accept : (phone.accept upload reply).pending = phone.pending := by
  unfold accept
  split <;> rfl

omit [DecidableEq ι] in
@[simp] theorem phases_accept : (phone.accept upload reply).phases = phone.phases := by
  unfold accept
  split <;> rfl

omit [DecidableEq ι] in
@[simp] theorem tempFile_accept : (phone.accept upload reply).tempFile = phone.tempFile := by
  unfold accept
  split <;> rfl

/-! ## What a step stores -/

theorem accepted_runStep : (phone.runStep captures i).accepted = phone.accepted := by
  unfold runStep
  split
  next => rfl
  next attempt _ => split <;> rfl
  next => rfl
  next => rfl
  next => rfl
  next => rfl
  next => rfl

omit [DecidableEq ι] in
theorem paired_accept (paired : phone.Paired captures) :
    (phone.accept upload reply).Paired captures ↔ (reply.accepted → ∃ j,
      (captures j).capturedAtMs = upload.capturedAtMs ∧
        (captures j).image = upload.image) := by
  unfold accept
  split
  next accepted =>
    constructor
    · intro after _
      exact after upload (List.mem_append_right _ (List.mem_singleton_self _))
    · intro shown other member
      rcases List.mem_append.mp member with old | new
      · exact paired other old
      · rw [List.mem_singleton] at new
        exact new ▸ shown accepted
  next refused => exact iff_of_true paired fun accepted => absurd accepted refused

theorem paired_replyStep (paired : phone.Paired captures)
    (own : ∀ attempt writer, phone.phases i = .uploading attempt writer → Alike captures writer i) :
    (phone.replyStep captures i reply).Paired captures := by
  unfold replyStep
  split
  next attempt writer at_ =>
    have stored : (phone.accept { captures i with image := (captures writer).image } reply).Paired
        captures := (paired_accept paired).mpr fun _ => own attempt writer at_
    exact stored
  all_goals exact paired

omit [DecidableEq ι] in
/-- What waits is sent under its own time. -/
theorem paired_drainStep (filed : phone.Filed captures) (paired : phone.Paired captures)
    (capturedAtMs : ℤ) (accountId : String) :
    (phone.drainStep capturedAtMs accountId reply).Paired captures := by
  unfold drainStep
  split
  next => exact paired
  next image waiting =>
    obtain ⟨j, shown⟩ := filed _ _ waiting
    have after : (phone.accept ⟨capturedAtMs, accountId, image⟩ reply).Paired captures :=
      (paired_accept paired).mpr fun _ => ⟨j, by rw [shown], by rw [shown]⟩
    dsimp only
    split
    · exact after
    · exact after

/-! ## The screenshots that wait -/

omit [DecidableEq ι] in
theorem filed_start : (start : Phone ι Image).Filed captures := nofun

theorem Filed.runStep (filed : phone.Filed captures) :
    (phone.runStep captures i).Filed captures := by
  unfold Phone.runStep
  split
  next => exact filed
  next attempt _ => split <;> exact filed
  next => exact filed
  next =>
    intro key image waiting
    rcases update_eq_cases waiting with ⟨shown, rfl⟩ | ⟨before, _⟩
    · exact ⟨i, by rw [Option.some.inj shown]⟩
    · exact filed key image before
  next => exact filed
  next => exact filed
  next => exact filed

theorem Filed.replyStep (filed : phone.Filed captures) :
    (phone.replyStep captures i reply).Filed captures := by
  unfold Phone.replyStep
  split
  next attempt writer _ =>
    intro key image waiting
    rw [pending_move, pending_accept] at waiting
    exact filed key image waiting
  all_goals exact filed

omit [DecidableEq ι] in
theorem Filed.drainStep (filed : phone.Filed captures) (capturedAtMs : ℤ) (accountId : String) :
    (phone.drainStep capturedAtMs accountId reply).Filed captures := by
  unfold Phone.drainStep
  split
  next => exact filed
  next shown _ =>
    dsimp only
    intro key image waiting
    split at waiting
    · rcases update_eq_cases waiting with ⟨removed, _⟩ | ⟨kept, _⟩
      · cases removed
      · rw [pending_accept] at kept
        exact filed key image kept
    · rw [pending_accept] at waiting
      exact filed key image waiting

theorem Filed.step (filed : phone.Filed captures) (event : SendEvent ι) :
    (phone.step captures event).Filed captures := by
  cases event with
  | run i => exact filed.runStep
  | reply i reply => exact filed.replyStep
  | drain capturedAtMs accountId reply => exact filed.drainStep capturedAtMs accountId

/-! ## Who wrote what is read -/

/-- How the phase of a coroutine changes while the file holds the picture of `tempFile`. -/
inductive Next (tempFile : Option ι) : SendPhase ι → SendPhase ι → Prop
  | write : Next tempFile .launched (.sending .first)
  | read {attempt : Attempt} {writer : ι} (holds : tempFile = some writer) :
      Next tempFile (.sending attempt) (.uploading attempt writer)
  | missing (attempt : Attempt) : Next tempFile (.sending attempt) attempt.failed
  | sent (attempt : Attempt) (writer : ι) : Next tempFile (.uploading attempt writer) .finishing
  | fail (attempt : Attempt) (writer : ι) :
      Next tempFile (.uploading attempt writer) attempt.failed
  | wake : Next tempFile .delaying (.sending .second)
  | cache : Next tempFile .unsent .finishing
  | delete : Next tempFile .finishing .finished

omit [DecidableEq ι] in
/-- A coroutine that may read has been one that may, unless it has just written the file. -/
theorem Next.reads {tempFile : Option ι} {before after : SendPhase ι}
    (next : Next tempFile before after) (reads : after.Reads) :
    before.Reads ∨ before = .launched := by
  cases next with
  | write => exact .inr rfl
  | read _ | missing _ | wake => exact .inl trivial
  | fail attempt _ =>
      cases attempt with
      | first => exact .inl trivial
      | second => exact reads.elim
  | sent | cache | delete => exact reads.elim

omit [DecidableEq ι] in
/-- What an upload carries has been in the file. -/
theorem Next.read_of_uploading {tempFile : Option ι} {before : SendPhase ι} {attempt : Attempt}
    {writer : ι} (next : Next tempFile before (.uploading attempt writer)) :
    tempFile = some writer ∧ before = .sending attempt := by
  generalize target : SendPhase.uploading attempt writer = after at next
  cases next with
  | read holds => cases target; exact ⟨holds, rfl⟩
  | missing attempt' => cases attempt' <;> cases target
  | fail attempt' _ => cases attempt' <;> cases target
  | write | sent | wake | cache | delete => cases target

/-- What a step does to the coroutines and to the file. -/
structure Turn (phone : Phone ι Image) (event : SendEvent ι) (after : Phone ι Image) : Prop where
  phases : ∀ j, after.phases j = phone.phases j ∨
    Next phone.tempFile (phone.phases j) (after.phases j)
  tempFile : ∀ writer, after.tempFile = some writer →
    phone.tempFile = some writer ∨ event = .run writer ∧ phone.phases writer = .launched
  written : ∀ j, phone.phases j = .launched → after.phases j ≠ .launched →
    event = .run j ∧ after.tempFile = some j

omit [DecidableEq ι] in
theorem turn_self {event : SendEvent ι} {after : Phone ι Image}
    (phases : after.phases = phone.phases) (tempFile : after.tempFile = phone.tempFile) :
    Turn phone event after := by
  refine ⟨fun j => .inl (by rw [phases]), fun writer holds => .inl (tempFile ▸ holds), ?_⟩
  intro j launched left
  rw [phases] at left
  exact absurd launched left

theorem turn_move {event : SendEvent ι} {after : Phone ι Image} {before later : SendPhase ι}
    (at_ : phone.phases i = before) (next : Next phone.tempFile before later)
    (phases : after.phases = Function.update phone.phases i later)
    (tempFile : ∀ writer, after.tempFile = some writer →
      phone.tempFile = some writer ∨ event = .run writer ∧ phone.phases writer = .launched)
    (written : before = .launched → event = .run i ∧ after.tempFile = some i) :
    Turn phone event after := by
  refine ⟨fun j => ?_, tempFile, fun j launched left => ?_⟩
  all_goals by_cases same : j = i
  · subst same
    rw [phases, Function.update_self, at_]
    exact .inr next
  · exact .inl (by rw [phases, Function.update_of_ne same])
  · subst same
    exact written (at_.symm.trans launched)
  · rw [phases, Function.update_of_ne same] at left
    exact absurd launched left

theorem turn_runStep : Turn phone (.run i) (phone.runStep captures i) := by
  unfold runStep
  split
  next at_ =>
    refine turn_move at_ .write rfl ?_ fun _ => ⟨rfl, rfl⟩
    intro writer holds
    cases holds
    exact .inr ⟨rfl, at_⟩
  next attempt at_ =>
    split
    next => exact turn_move at_ (.missing attempt) rfl (fun _ => .inl) nofun
    next writer holds => exact turn_move at_ (.read holds) rfl (fun _ => .inl) nofun
  next at_ => exact turn_move at_ .wake rfl (fun _ => .inl) nofun
  next at_ => exact turn_move at_ .cache rfl (fun _ => .inl) nofun
  next at_ => exact turn_move at_ .delete rfl nofun nofun
  next => exact turn_self rfl rfl
  next => exact turn_self rfl rfl

theorem turn_replyStep : Turn phone (.reply i reply) (phone.replyStep captures i reply) := by
  unfold replyStep
  split
  next attempt writer at_ =>
    have next : Next phone.tempFile (.uploading attempt writer)
        (if reply.ok then .finishing else attempt.failed) := by
      split
      · exact .sent attempt writer
      · exact .fail attempt writer
    refine turn_move at_ next ?_ (fun other holds => .inl ?_) nofun
    · rw [move, phases_accept]
    · exact tempFile_accept.symm.trans holds
  all_goals exact turn_self rfl rfl

theorem turn_step (captures : ι → Capture Image) (phone : Phone ι Image) (event : SendEvent ι) :
    Turn phone event (phone.step captures event) := by
  cases event with
  | run i => exact turn_runStep
  | reply i reply => exact turn_replyStep
  | drain capturedAtMs accountId reply =>
      rw [step, drainStep]
      split
      next => exact turn_self rfl rfl
      next =>
        dsimp only
        split
        · exact turn_self phases_accept tempFile_accept
        · exact turn_self phases_accept tempFile_accept

/-! ## Runs that are clear -/

/-- What is read from the file belongs to the capture that reads it. -/
structure Matched (captures : ι → Capture Image) (phone : Phone ι Image) : Prop where
  file : ∀ writer, phone.tempFile = some writer → ∀ j, (phone.phases j).Reads →
    Alike captures writer j
  uploads : ∀ j attempt writer, phone.phases j = .uploading attempt writer →
    Alike captures writer j

omit [DecidableEq ι] in
theorem Matched.turn {event : SendEvent ι} {after : Phone ι Image}
    (matched : phone.Matched captures) (turn : Turn phone event after)
    (clear : phone.Clear captures event) : after.Matched captures := by
  constructor
  · intro writer holds j reads
    have before : (phone.phases j).Reads ∨ phone.phases j = .launched := by
      rcases turn.phases j with same | next
      · exact .inl (same ▸ reads)
      · exact next.reads reads
    rcases before with before | launched
    · rcases turn.tempFile writer holds with held | ⟨rfl, launched⟩
      · exact matched.file writer held j before
      · exact clear launched j before
    · have left : after.phases j ≠ .launched := by
        intro still
        rw [still] at reads
        exact reads
      obtain ⟨_, written⟩ := turn.written j launched left
      cases holds.symm.trans written
      exact ⟨writer, rfl, rfl⟩
  · intro j attempt writer at_
    rcases turn.phases j with same | next
    · exact matched.uploads j attempt writer (same.symm.trans at_)
    · rw [at_] at next
      obtain ⟨holds, sending⟩ := next.read_of_uploading
      refine matched.file writer holds j ?_
      rw [sending]
      trivial

/-- What a clear run keeps. -/
structure Sound (captures : ι → Capture Image) (phone : Phone ι Image) : Prop where
  matched : phone.Matched captures
  filed : phone.Filed captures
  paired : phone.Paired captures

omit [DecidableEq ι] in
theorem sound_start : (start : Phone ι Image).Sound captures :=
  ⟨⟨nofun, nofun⟩, filed_start, nofun⟩

/-- **One step** that is clear. -/
theorem Sound.next (sound : phone.Sound captures) {event : SendEvent ι}
    (clear : phone.Clear captures event) : (phone.step captures event).Sound captures := by
  refine ⟨sound.matched.turn (turn_step captures phone event) clear, sound.filed.step event, ?_⟩
  cases event with
  | run i =>
      intro upload member
      rw [Phone.step, accepted_runStep] at member
      exact sound.paired upload member
  | reply i reply => exact paired_replyStep sound.paired (sound.matched.uploads i)
  | drain capturedAtMs accountId reply =>
      exact paired_drainStep sound.filed sound.paired capturedAtMs accountId

/-! ## Runs that are not -/

/-- The coroutines in flight can go on so that a picture is sent under a time that it does not
belong to. -/
def Spoilt (captures : ι → Capture Image) (phone : Phone ι Image) : Prop :=
  ∃ more, EachStep (step captures) Quiet phone more ∧
    ¬ (exec (step captures) phone more).Paired captures

theorem Spoilt.of_step (event : SendEvent ι) (quiet : phone.Quiet event)
    (spoilt : (phone.step captures event).Spoilt captures) : phone.Spoilt captures := by
  obtain ⟨more, still, unpaired⟩ := spoilt
  exact ⟨event :: more, ⟨quiet, still⟩, unpaired⟩

theorem spoilt_of_sending {attempt : Attempt} {writer : ι} (holds : phone.tempFile = some writer)
    (at_ : phone.phases i = .sending attempt) (other : ¬ Alike captures writer i) :
    phone.Spoilt captures := by
  have read : phone.step captures (.run i) = phone.move i (.uploading attempt writer) := by
    simp only [step, runStep, at_, holds]
  have carries : (phone.move i (.uploading attempt writer)).phases i = .uploading attempt writer :=
    Function.update_self ..
  refine .of_step (.run i) (by rw [Quiet, at_]; nofun)
    ⟨[.reply i .success], ⟨trivial, trivial⟩, fun paired => other ?_⟩
  refine paired { captures i with image := (captures writer).image } ?_
  rw [read]
  change _ ∈ ((phone.move i (.uploading attempt writer)).replyStep captures i .success).accepted
  rw [replyStep, carries]
  exact List.mem_append_right _ (List.mem_singleton_self _)

theorem spoilt_of_delaying {writer : ι} (holds : phone.tempFile = some writer)
    (at_ : phone.phases i = .delaying) (other : ¬ Alike captures writer i) :
    phone.Spoilt captures := by
  have woken : phone.step captures (.run i) = phone.move i (.sending .second) := by
    simp only [step, runStep, at_]
  refine .of_step (.run i) (by rw [Quiet, at_]; nofun) ?_
  rw [woken]
  exact spoilt_of_sending holds (Function.update_self ..) other

/-- A picture that is written while a coroutine may still read the file can reach the server
under the other's time. -/
theorem spoilt_of_reads {writer : ι} (holds : phone.tempFile = some writer)
    (reads : (phone.phases i).Reads) (other : ¬ Alike captures writer i) :
    phone.Spoilt captures := by
  cases at_ : phone.phases i with
  | sending attempt => exact spoilt_of_sending holds at_ other
  | delaying => exact spoilt_of_delaying holds at_ other
  | uploading attempt carried =>
      rw [at_] at reads
      cases attempt with
      | second => exact reads.elim
      | first =>
          have failed : phone.step captures (.reply i .failure) =
              phone.move i .delaying := by
            simp [step, replyStep, at_, accept, Reply.accepted, Reply.ok, Attempt.failed]
          refine .of_step (.reply i .failure) trivial ?_
          rw [failed]
          exact spoilt_of_delaying holds (Function.update_self ..) other
  | launched | unsent | finishing | finished =>
      rw [at_] at reads
      exact reads.elim

theorem spoilt_of_unclear {event : SendEvent ι} (unclear : ¬ phone.Clear captures event) :
    (phone.step captures event).Spoilt captures := by
  cases event with
  | reply i reply => exact absurd trivial unclear
  | drain capturedAtMs accountId reply => exact absurd trivial unclear
  | run i =>
      rw [Clear] at unclear
      push Not at unclear
      obtain ⟨launched, j, reads, other⟩ := unclear
      have apart : j ≠ i := by
        intro same
        rcases same with rfl
        rw [launched] at reads
        exact reads
      have written : phone.step captures (.run i) =
          { phone.move i (.sending .first) with tempFile := some i } := by
        simp only [step, runStep, launched]
      rw [written]
      refine spoilt_of_reads rfl ?_ other
      dsimp only [move]
      rwa [Function.update_of_ne apart]

theorem Sound.not_spoilt (sound : phone.Sound captures) : ¬ phone.Spoilt captures := by
  intro held
  rcases held with ⟨more, quiet, unpaired⟩
  have clear : EachStep (step captures) (Clear captures) phone more := by
    refine .of_inv (I := fun _ => True) trivial (fun _ _ _ _ => trivial) ?_ quiet
    intro phone event _ quiet
    cases event with
    | run i => exact fun launched => absurd launched quiet
    | reply _ _ | drain _ _ _ => trivial
  exact unpaired (exec_inv_of_eachStep sound (fun _ _ sound clear => sound.next clear) clear).paired

/-- **Uploads are paired** in a run whose captures are written while no other coroutine may read
the file.  The condition is exact: after a step that does not meet it, and only then, the
coroutines in flight can go on so that an upload is not paired. -/
theorem uploads_paired (captures : ι → Capture Image) (events : List (SendEvent ι)) :
    (EachStep (step captures) (Clear captures) start events →
      Throughout (step captures) (Paired captures) start events) ∧
    (EachStep (step captures) (Clear captures) start events ↔
      ∀ early, early <+: events → ¬ (exec (step captures) start early).Spoilt captures) := by
  have always (clear : EachStep (step captures) (Clear captures) start events) :
      Throughout (step captures) (Sound captures) start events :=
    .of_inv sound_start (fun _ _ sound clear => sound.next clear) clear
  refine ⟨fun clear => (always clear).mono fun _ sound => sound.paired, fun clear => ?_, ?_⟩
  · intro early within
    exact (throughout_iff.mp (always clear) early within).not_spoilt
  · intro unspoilt
    refine eachStep_iff.mpr fun early event within => ?_
    by_contra unclear
    refine unspoilt (early ++ [event]) within ?_
    rw [exec_concat]
    exact spoilt_of_unclear unclear

/-- The second capture is written before the first one deletes the file, which it does not find
then, and is sent from the cache. -/
theorem uploads_paired_deleted :
    let captures (i : Bool) : Capture Bool := ⟨if i then 4000 else 1000, "1", i⟩
    let deleted : List (SendEvent Bool) :=
      [.run false, .run false, .reply false .success, .run true, .run false, .run true, .run true,
        .run true, .run true, .drain 4000 "1" .success]
    (exec (step captures) start deleted).accepted = [⟨1000, "1", false⟩, ⟨4000, "1", true⟩] ∧
      Throughout (step captures) (Paired captures) start deleted := by
  intro captures deleted
  refine ⟨by decide, (uploads_paired captures deleted).1 ⟨fun _ _ reads => reads.elim, ?_, trivial,
    fun _ j reads => ?_, ?_, ?_, ?_, ?_, ?_, trivial, trivial⟩⟩
  case refine_2 => cases j <;> exact reads.elim
  all_goals exact fun launched => by cases launched

/-- The second attempt of a capture whose first one failed sends the picture of the next capture
under the time of the first. -/
theorem not_uploads_paired :
    let captures (i : Bool) : Capture Bool := ⟨if i then 4000 else 1000, "1", i⟩
    let overlapping : List (SendEvent Bool) :=
      [.run false, .run false, .reply false .failure, .run false, .run true, .run false,
        .reply false .success]
    (exec (step captures) start overlapping).accepted = [⟨1000, "1", true⟩] ∧
      ¬ Throughout (step captures) (Paired captures) start overlapping := by
  intro captures overlapping
  have stored : (exec (step captures) start overlapping).accepted = [⟨1000, "1", true⟩] := by
    decide
  refine ⟨stored, fun always => ?_⟩
  have last := throughout_iff.mp always overlapping (List.prefix_refl _)
  obtain ⟨j, time, image⟩ := last ⟨1000, "1", true⟩ (stored ▸ List.mem_singleton_self _)
  cases j with
  | false => cases image
  | true => exact absurd time (by decide)

end Phone

end Aegis.Mobile
