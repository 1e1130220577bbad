import Aegis.Lib.Tally
import Aegis.Subscriptions.State

/-!
# Download tokens under concurrent requests

Requests of `GET /api/download/apk` with one token, statement by statement, on a database that
isolates transactions as READ COMMITTED does.  `consume_download_token` selects the row, counts
the use in Python and writes back an absolute value; the file is looked for once the use is
stored.  What `FileResponse` and the server then make of it is not in this repository: they send
the file, or something else.

A token is kept (`Kept`) while it serves no more than `max_uses` requests and has no use that
served nobody.  `token_kept` says what this takes: every commit finds the uses as its request
selected them, and no request fails after its commit.
-/

namespace Aegis.Api

open Aegis.Lib Aegis.Subscriptions

/-- A row of `download_tokens`. -/
structure DownloadToken where
  accountId : String
  plan : String
  maxUses : ℤ
  uses : ℤ
  expiresAt : Option ℤ
  revoked : Bool
  deriving DecidableEq

/-- The row that `issue_download_token` adds. -/
def issueDownloadToken (now : ℤ) (accountId plan : String) (maxUses ttlHours : ℤ) :
    DownloadToken where
  accountId := accountId
  plan := plan
  maxUses := maxUses
  uses := 0
  expiresAt := some (now + seconds (3600 * ttlHours))
  revoked := false

/-- What a request ends with, other than the file. -/
inductive DownloadFault where
  | httpException (statusCode : ℕ) (detail : String)
  /-- what `audit.record` raises -/
  | audit
  /-- what is sent or raised in place of the file -/
  | response
  deriving DecidableEq

def invalidToken : DownloadFault :=
  .httpException 403
    ("Invalid, expired, revoked, or already-used download token. "
      ++ "Subscribe or request a new link.")

def apkNotFound : DownloadFault :=
  .httpException 500 "APK file not found on server — build and place it at APK_FILE_PATH."

/-- The checks of `consume_download_token`, with the uses of a row that passes. -/
def consumable (now : ℤ) : Option DownloadToken → Option ℤ
  | none => none
  | some row =>
      if row.revoked then none
      else if row.expiresAt.any (· ≤ now) then none
      else if row.uses ≥ row.maxUses then none
      else some row.uses

/-- Where a request stands. -/
inductive DownloadPhase where
  | start
  /-- the row has been selected, and has passed the checks -/
  | loaded (uses : ℤ)
  /-- the `UPDATE` has been sent, and holds the row -/
  | flushed (uses : ℤ)
  /-- the use is stored -/
  | consumed
  /-- `apk_path.exists()` -/
  | found
  /-- the response is being sent -/
  | audited
  | served
  | refused (fault : DownloadFault)
  | failed (fault : DownloadFault)
  deriving DecidableEq

/-- A turn of a request, and what it meets: whether the file is there, whether the audit event
can be stored, and whether the response is sent with the file. -/
structure DownloadTurn (ι : Type) where
  request : ι
  apkThere : Bool
  audit : Bool
  sent : Bool

/-- The row of the token, and the requests. -/
structure Downloads (ι : Type) where
  row : DownloadToken
  /-- the request whose uncommitted `UPDATE` keeps others waiting -/
  writer : Option ι
  phases : ι → DownloadPhase

namespace Downloads

variable {ι : Type} [DecidableEq ι]

/-- The token has been issued, and no request has begun. -/
def start (issued : DownloadToken) : Downloads ι := ⟨issued, none, fun _ => .start⟩

def move (downloads : Downloads ι) (i : ι) (phase : DownloadPhase) : Downloads ι :=
  { downloads with phases := Function.update downloads.phases i phase }

/-- The next statement of a request, which reads the clock at `now`; one that has to wait for
the row leaves everything as it is. -/
def step (now : ι → ℤ) (downloads : Downloads ι) (turn : DownloadTurn ι) : Downloads ι :=
  let i := turn.request
  match downloads.phases i with
  | .start =>
      match consumable (now i) (some downloads.row) with
      | none => downloads.move i (.refused invalidToken)
      | some uses => downloads.move i (.loaded uses)
  | .loaded uses =>
      if downloads.writer.isSome then downloads
      else { downloads.move i (.flushed uses) with writer := some i }
  | .flushed uses =>
      { downloads.move i .consumed with
        row := { downloads.row with uses := uses + 1 }
        writer := none }
  | .consumed => downloads.move i (if turn.apkThere then .found else .failed apkNotFound)
  | .found => downloads.move i (if turn.audit then .audited else .failed .audit)
  | .audited => downloads.move i (if turn.sent then .served else .failed .response)
  | .served | .refused _ | .failed _ => downloads

end Downloads

/-- The request has stored its use. -/
def DownloadPhase.Committed : DownloadPhase → Prop
  | consumed | found | audited | served | failed _ => True
  | start | loaded _ | flushed _ | refused _ => False

def DownloadPhase.Failed : DownloadPhase → Prop
  | failed _ => True
  | start | loaded _ | flushed _ | consumed | found | audited | served
  | refused _ => False

/-- The request has been answered. -/
def DownloadPhase.Ended : DownloadPhase → Prop
  | served | refused _ | failed _ => True
  | start | loaded _ | flushed _ | consumed | found | audited => False

instance : DecidablePred DownloadPhase.Committed := fun phase =>
  match phase with
  | .consumed | .found | .audited | .served | .failed _ => .isTrue trivial
  | .start | .loaded _ | .flushed _ | .refused _ => .isFalse id

/-- The uses that the request has selected and not yet written back. -/
def DownloadPhase.selection : DownloadPhase → Option ℤ
  | loaded uses | flushed uses => some uses
  | start | consumed | found | audited | served | refused _ | failed _ => none

/-- What the request writes back in its turn. -/
def DownloadPhase.writes : DownloadPhase → Option ℤ
  | flushed uses => some uses
  | start | loaded _ | consumed | found | audited | served | refused _
  | failed _ => none

section Phases

variable {phase : DownloadPhase}

theorem DownloadPhase.Failed.committed (failed : phase.Failed) : phase.Committed := by
  cases phase <;> trivial

theorem DownloadPhase.Ended.served_iff (ended : phase.Ended) (not : ¬ phase.Failed) :
    phase = .served ↔ phase.Committed := by
  cases phase with
  | served => exact iff_of_true rfl trivial
  | refused _ => exact iff_of_false nofun id
  | failed _ => exact absurd trivial not
  | start | loaded _ | flushed _ | consumed | found | audited => exact ended.elim

theorem DownloadPhase.writes_eq_some {uses : ℤ} :
    phase.writes = some uses ↔ phase = .flushed uses := by
  cases phase <;> simp [DownloadPhase.writes]

end Phases

namespace Downloads

variable {ι : Type}

/-- The number of requests answered with the file. -/
def served [Fintype ι] (downloads : Downloads ι) : ℕ :=
  (Finset.univ.filter fun i => downloads.phases i = .served).card

/-- The number of requests that have stored their use. -/
def committed [Fintype ι] (downloads : Downloads ι) : ℕ :=
  (Finset.univ.filter fun i => (downloads.phases i).Committed).card

def Finished (downloads : Downloads ι) : Prop := ∀ i, (downloads.phases i).Ended

/-- No more requests are served than the token allows, and once all have ended its uses are
those served. -/
def Kept [Fintype ι] (downloads : Downloads ι) : Prop :=
  (downloads.served : ℤ) ≤ downloads.row.maxUses ∧
    (downloads.Finished → downloads.row.uses = downloads.served)

/-- A commit finds the uses as its request selected them. -/
def Undisturbed (downloads : Downloads ι) (turn : DownloadTurn ι) : Prop :=
  ∀ uses, downloads.phases turn.request = .flushed uses → downloads.row.uses = uses

/-- A request that has stored its use does not fail: the file is there, the event can be stored
and the response is sent with the file. -/
def Serves (downloads : Downloads ι) (turn : DownloadTurn ι) : Prop :=
  (match downloads.phases turn.request with
    | .consumed => turn.apkThere
    | .found => turn.audit
    | .audited => turn.sent
    | .start | .loaded _ | .flushed _ | .served | .refused _ | .failed _ => true) = true

instance (downloads : Downloads ι) (turn : DownloadTurn ι) :
    Decidable (downloads.Undisturbed turn) :=
  match at_ : downloads.phases turn.request with
  | .flushed uses =>
      decidable_of_iff (downloads.row.uses = uses)
        ⟨fun same _ now => same.trans (DownloadPhase.flushed.inj (at_.symm.trans now)),
          fun all => all uses at_⟩
  | .start | .loaded _ | .consumed | .found | .audited | .served | .refused _
  | .failed _ => .isTrue fun _ now => nomatch at_.symm.trans now

instance (downloads : Downloads ι) (turn : DownloadTurn ι) : Decidable (downloads.Serves turn) :=
  inferInstanceAs (Decidable (_ = true))

/-! ## What a turn does -/

variable [DecidableEq ι] {now : ι → ℤ} {downloads after : Downloads ι} {turn : DownloadTurn ι}
  {i j : ι} {phase : DownloadPhase}

/-- The request moves on to the phase, and stores nothing. -/
structure Moves (downloads : Downloads ι) (turn : DownloadTurn ι) (phase : DownloadPhase)
    (after : Downloads ι) : Prop where
  row : after.row = downloads.row
  phases : after.phases = Function.update downloads.phases turn.request phase
  unsent : (downloads.phases turn.request).writes = none
  committed : phase.Committed ↔ (downloads.phases turn.request).Committed
  selects : ∀ uses, phase.selection = some uses →
    (downloads.phases turn.request).selection = some uses ∨
      uses = downloads.row.uses ∧ uses < downloads.row.maxUses
  failed : phase.Failed ↔ (downloads.phases turn.request).Failed ∨ ¬ downloads.Serves turn

/-- The request stores its use. -/
structure Commits (downloads : Downloads ι) (turn : DownloadTurn ι) (uses : ℤ)
    (after : Downloads ι) : Prop where
  flushed : downloads.phases turn.request = .flushed uses
  row : after.row = { downloads.row with uses := uses + 1 }
  phases : after.phases = Function.update downloads.phases turn.request .consumed

omit [DecidableEq ι] in
theorem consumable_some {now uses : ℤ} {row : DownloadToken}
    (passes : consumable now (some row) = some uses) : uses = row.uses ∧ uses < row.maxUses := by
  unfold consumable at passes
  dsimp only at passes
  split at passes
  · cases passes
  split at passes
  · cases passes
  split at passes
  · cases passes
  next below =>
    cases passes
    exact ⟨rfl, not_le.mp below⟩

theorem moves_move (at_ : downloads.phases turn.request = phase) {later : DownloadPhase}
    (unsent : phase.writes = none) (committed : later.Committed ↔ phase.Committed)
    (selects : ∀ uses, later.selection = some uses → phase.selection = some uses ∨
      uses = downloads.row.uses ∧ uses < downloads.row.maxUses)
    (failed : later.Failed ↔ phase.Failed ∨ ¬ downloads.Serves turn) :
    Moves downloads turn later (downloads.move turn.request later) :=
  ⟨rfl, rfl, at_ ▸ unsent, at_ ▸ committed, at_ ▸ selects, at_ ▸ failed⟩

/-- A turn that leaves everything as it is. -/
theorem moves_self (unsent : (downloads.phases turn.request).writes = none)
    (serves : downloads.Serves turn) :
    Moves downloads turn (downloads.phases turn.request) downloads :=
  ⟨rfl, (Function.update_eq_self _ _).symm, unsent, Iff.rfl, fun _ => .inl,
    (or_iff_left (not_not.mpr serves)).symm⟩

/-- A check after the commit: the request goes on, or it fails. -/
theorem moves_check {later : DownloadPhase} {fault : DownloadFault} {passes : Bool}
    (at_ : downloads.phases turn.request = phase) (serves : downloads.Serves turn ↔ passes = true)
    (before : phase.Committed ∧ phase.writes = none ∧ ¬ phase.Failed)
    (goes : later.Committed ∧ later.selection = none ∧ ¬ later.Failed) :
    Moves downloads turn (if passes then later else .failed fault)
      (downloads.move turn.request (if passes then later else .failed fault)) := by
  cases passes with
  | true =>
      refine moves_move at_ before.2.1 (iff_of_true goes.1 before.1) ?_ ?_
      · intro uses selected
        exact nomatch goes.2.1.symm.trans selected
      · exact iff_of_false goes.2.2 (not_or_intro before.2.2 (not_not.mpr (serves.mpr rfl)))
  | false =>
      refine moves_move at_ before.2.1 (iff_of_true trivial before.1) nofun ?_
      exact iff_of_true trivial (.inr fun holds => Bool.false_ne_true (serves.mp holds))

theorem moves_or_commits (now : ι → ℤ) (downloads : Downloads ι) (turn : DownloadTurn ι) :
    (∃ phase, Moves downloads turn phase (step now downloads turn)) ∨
      ∃ uses, Commits downloads turn uses (step now downloads turn) := by
  unfold step
  dsimp only
  split
  next at_ =>
    left
    have serves : downloads.Serves turn := by rw [Serves, at_]
    have steady {later : DownloadPhase} (not : ¬ later.Failed) :
        later.Failed ↔ DownloadPhase.start.Failed ∨ ¬ downloads.Serves turn :=
      iff_of_false not (not_or_intro id (not_not.mpr serves))
    split
    next => exact ⟨_, moves_move at_ rfl Iff.rfl nofun (steady id)⟩
    next uses passes =>
      refine ⟨_, moves_move at_ rfl Iff.rfl ?_ (steady id)⟩
      intro other selected
      cases selected
      exact .inr (consumable_some passes)
  next uses at_ =>
    left
    have serves : downloads.Serves turn := by rw [Serves, at_]
    split
    next => exact ⟨_, moves_self (by rw [at_]; rfl) serves⟩
    next =>
      have moved : Moves downloads turn (.flushed uses)
          (downloads.move turn.request (.flushed uses)) :=
        moves_move at_ rfl Iff.rfl (fun _ => .inl)
          (iff_of_false id (not_or_intro id (not_not.mpr serves)))
      exact ⟨_, moved.row, moved.phases, moved.unsent, moved.committed, moved.selects,
        moved.failed⟩
  next uses at_ => exact .inr ⟨uses, at_, rfl, rfl⟩
  next at_ =>
    exact .inl ⟨_, moves_check at_ (by rw [Serves, at_]) ⟨trivial, rfl, id⟩ ⟨trivial, rfl, id⟩⟩
  next at_ =>
    exact .inl ⟨_, moves_check at_ (by rw [Serves, at_]) ⟨trivial, rfl, id⟩ ⟨trivial, rfl, id⟩⟩
  next at_ =>
    exact .inl ⟨_, moves_check at_ (by rw [Serves, at_]) ⟨trivial, rfl, id⟩ ⟨trivial, rfl, id⟩⟩
  next at_ => exact .inl ⟨_, moves_self (by rw [at_]; rfl) (by rw [Serves, at_])⟩
  next at_ => exact .inl ⟨_, moves_self (by rw [at_]; rfl) (by rw [Serves, at_])⟩
  next at_ => exact .inl ⟨_, moves_self (by rw [at_]; rfl) (by rw [Serves, at_])⟩

/-! ## Invariants -/

/-- What the checks keep. -/
structure Sound (downloads : Downloads ι) : Prop where
  within : downloads.row.uses ≤ downloads.row.maxUses
  selected : ∀ i uses, (downloads.phases i).selection = some uses → uses < downloads.row.maxUses

theorem Moves.selected (moves : Moves downloads turn phase after) {uses : ℤ}
    (selected : (after.phases i).selection = some uses) :
    (downloads.phases i).selection = some uses ∨
      uses = downloads.row.uses ∧ uses < downloads.row.maxUses := by
  rw [moves.phases] at selected
  by_cases own : i = turn.request
  · subst own
    rw [Function.update_self] at selected
    exact moves.selects uses selected
  · rw [Function.update_of_ne own] at selected
    exact .inl selected

theorem Commits.selected {stored uses : ℤ} (commits : Commits downloads turn stored after)
    (selected : (after.phases i).selection = some uses) :
    (downloads.phases i).selection = some uses := by
  rw [commits.phases] at selected
  by_cases own : i = turn.request
  · subst own
    rw [Function.update_self] at selected
    cases selected
  · rwa [Function.update_of_ne own] at selected

theorem Moves.sound (moves : Moves downloads turn phase after) (sound : Sound downloads) :
    Sound after := by
  constructor
  · rw [moves.row]
    exact sound.within
  · intro i uses selected
    rw [moves.row]
    rcases moves.selected selected with before | ⟨_, below⟩
    · exact sound.selected i uses before
    · exact below

theorem Commits.sound {uses : ℤ} (commits : Commits downloads turn uses after)
    (sound : Sound downloads) : Sound after := by
  have below := sound.selected turn.request uses (by rw [commits.flushed]; rfl)
  constructor
  · rw [commits.row]
    exact below
  · intro i other selected
    rw [commits.row]
    exact sound.selected i other (commits.selected selected)

/-- **One turn** keeps the checks. -/
theorem sound_step (now : ι → ℤ) (downloads : Downloads ι) (turn : DownloadTurn ι)
    (sound : Sound downloads) : Sound (step now downloads turn) := by
  rcases moves_or_commits now downloads turn with ⟨phase, moves⟩ | ⟨uses, commits⟩
  · exact moves.sound sound
  · exact commits.sound sound

omit [DecidableEq ι] in
theorem sound_start {issued : DownloadToken} (within : issued.uses ≤ issued.maxUses) :
    Sound (start issued : Downloads ι) := ⟨within, nofun⟩

section Counts

variable [Fintype ι]

theorem Moves.committed_eq (moves : Moves downloads turn phase after) :
    after.committed = downloads.committed := by
  unfold Downloads.committed
  rw [moves.phases]
  exact card_update_of_iff moves.committed

theorem Commits.committed_eq {uses : ℤ} (commits : Commits downloads turn uses after) :
    after.committed = downloads.committed + 1 := by
  unfold Downloads.committed
  rw [commits.phases]
  refine card_update_of_new ?_ trivial
  rw [commits.flushed]
  exact id

omit [DecidableEq ι] in
theorem served_subset_committed (downloads : Downloads ι) :
    (Finset.univ.filter fun i => downloads.phases i = .served) ⊆
      Finset.univ.filter fun i => (downloads.phases i).Committed := by
  intro i
  simp only [Finset.mem_filter]
  intro held
  rcases held with ⟨member, served⟩
  refine ⟨member, ?_⟩
  rw [served]
  trivial

omit [DecidableEq ι] in
/-- Once all have ended, those that stored a use were served or have failed. -/
theorem served_eq_committed_iff (finished : downloads.Finished) :
    downloads.served = downloads.committed ↔ ∀ i, ¬ (downloads.phases i).Failed := by
  constructor
  · intro equal i failed
    have same := Finset.eq_of_subset_of_card_le (served_subset_committed downloads) equal.ge
    have stored : (downloads.phases i).Committed := failed.committed
    have served : i ∈ Finset.univ.filter fun i => downloads.phases i = .served := by
      rw [same]
      exact Finset.mem_filter.mpr ⟨Finset.mem_univ i, stored⟩
    rw [(Finset.mem_filter.mp served).2] at failed
    exact failed
  · intro none
    unfold served committed
    congr 1
    exact Finset.filter_congr fun i _ => (finished i).served_iff (none i)

/-- The uses of the token, as a number that requests increase by one. -/
def useTally (now : ι → ℤ) : Tally (step now) (Sound (ι := ι)) where
  stored downloads := downloads.row.uses
  written := committed
  Selected downloads uses := ∃ i, (downloads.phases i).selection = some uses
  writes downloads turn := (downloads.phases turn.request).writes
  keeps := sound_step now
  selects downloads turn _ uses selected := by
    obtain ⟨i, selected⟩ := selected
    rcases moves_or_commits now downloads turn with ⟨phase, moves⟩ | ⟨stored, commits⟩
    · exact (moves.selected selected).imp (⟨i, ·⟩) And.left
    · exact .inl ⟨i, commits.selected selected⟩
  quiet downloads turn _ unsent := by
    rcases moves_or_commits now downloads turn with ⟨phase, moves⟩ | ⟨stored, commits⟩
    · exact ⟨congrArg DownloadToken.uses moves.row, moves.committed_eq⟩
    · rw [commits.flushed] at unsent
      cases unsent
  write downloads turn uses _ sends := by
    rcases moves_or_commits now downloads turn with ⟨phase, moves⟩ | ⟨stored, commits⟩
    · exact nomatch moves.unsent.symm.trans sends
    · rw [commits.flushed] at sends
      cases sends
      refine ⟨⟨turn.request, by rw [commits.flushed]; rfl⟩, ?_, commits.committed_eq⟩
      exact congrArg DownloadToken.uses commits.row

end Counts

/-! ## Failures -/

section Failures

theorem failed_step (now : ι → ℤ) (downloads : Downloads ι) (turn : DownloadTurn ι) (i : ι)
    (failed : (downloads.phases i).Failed) : ((step now downloads turn).phases i).Failed := by
  rcases moves_or_commits now downloads turn with ⟨phase, moves⟩ | ⟨uses, commits⟩
  · rw [moves.phases]
    by_cases own : i = turn.request
    · subst own
      rw [Function.update_self]
      exact moves.failed.mpr (.inl failed)
    · rwa [Function.update_of_ne own]
  · rw [commits.phases]
    by_cases own : i = turn.request
    · subst own
      rw [commits.flushed] at failed
      exact failed.elim
    · rwa [Function.update_of_ne own]

theorem unfailed_step (now : ι → ℤ) (downloads : Downloads ι) (turn : DownloadTurn ι)
    (none : ∀ i, ¬ (downloads.phases i).Failed) :
    (∀ i, ¬ ((step now downloads turn).phases i).Failed) ↔ downloads.Serves turn := by
  rcases moves_or_commits now downloads turn with ⟨phase, moves⟩ | ⟨uses, commits⟩
  · have own : phase.Failed ↔ ¬ downloads.Serves turn :=
      moves.failed.trans (or_iff_right (none turn.request))
    rw [moves.phases, Function.forall_update_iff downloads.phases fun _ phase => ¬ phase.Failed,
      own, not_not]
    exact and_iff_left fun i _ => none i
  · rw [commits.phases, Function.forall_update_iff downloads.phases fun _ phase => ¬ phase.Failed]
    exact iff_of_true ⟨id, fun i _ => none i⟩ (by rw [Serves, commits.flushed])

/-- No request that has stored its use has failed. -/
def Unfailed (downloads : Downloads ι) : Prop := ∀ i, ¬ (downloads.phases i).Failed

theorem throughout_unfailed_iff (now : ι → ℤ) (issued : DownloadToken)
    (turns : List (DownloadTurn ι)) :
    Throughout (step now) Unfailed (start issued) turns ↔
      EachStep (step now) Serves (start issued) turns :=
  throughout_iff_eachStep (I := fun _ => True) trivial (fun _ => id) (fun _ _ _ => trivial)
    fun downloads turn _ => unfailed_step now downloads turn

/-- A failure stays. -/
theorem throughout_unfailed_of_exec {now : ι → ℤ} {turns : List (DownloadTurn ι)}
    (last : Unfailed (exec (step now) downloads turns)) :
    Throughout (step now) Unfailed downloads turns := by
  rw [throughout_iff]
  intro early held
  rcases held with ⟨rest, rfl⟩
  intro i failed
  refine last i ?_
  rw [exec_append]
  exact exec_inv (I := fun downloads => (downloads.phases i).Failed) failed
    (fun downloads turn => failed_step now downloads turn i) rest

end Failures

/-! ## Runs -/

section Runs

variable [Fintype ι] (now : ι → ℤ)

theorem undisturbed_iff (turns : List (DownloadTurn ι)) :
    EachStep (step now) (useTally now).Undisturbed downloads turns ↔
      EachStep (step now) Undisturbed downloads turns :=
  eachStep_congr fun _ _ => forall_congr' fun _ =>
    imp_congr_left DownloadPhase.writes_eq_some

omit [DecidableEq ι] in
theorem committed_start (issued : DownloadToken) :
    (start issued : Downloads ι).committed = 0 :=
  Finset.card_eq_zero.mpr (Finset.filter_eq_empty_iff.mpr fun _ _ => id)

theorem level_start {issued : DownloadToken} (unused : issued.uses = 0) :
    (useTally now).Level (start issued) := by
  have none : (useTally now).written (start issued) = 0 := committed_start issued
  have stored : (useTally now).stored (start issued) = 0 := unused
  refine ⟨by rw [stored, none]; rfl, ?_⟩
  rw [none]
  exact ⟨stored.le, nofun⟩

variable (issuedAt : ℤ) (accountId plan : String) (maxUses ttlHours : ℤ)

/-- **Download tokens.**  However the requests interleave and whatever they meet, a token is
kept if every commit finds the uses as its request selected them and no request fails after its
commit.  In a run that keeps the token until all requests have ended neither happens without the
other. -/
theorem token_kept (allows : 0 ≤ maxUses) (turns : List (DownloadTurn ι)) :
    let first : Downloads ι := start (issueDownloadToken issuedAt accountId plan maxUses ttlHours)
    (EachStep (step now) Undisturbed first turns → EachStep (step now) Serves first turns →
      Throughout (step now) Kept first turns) ∧
    ((exec (step now) first turns).Finished → Throughout (step now) Kept first turns →
      (EachStep (step now) Undisturbed first turns ↔ EachStep (step now) Serves first turns)) := by
  intro first
  have sound : Sound first := sound_start allows
  have level : (useTally now).Level first := level_start now rfl
  constructor
  · intro undisturbed serves
    have levels := (Tally.throughout_level_iff sound level turns).mpr
      ((undisturbed_iff now turns).mpr undisturbed)
    have unfailed := (throughout_unfailed_iff now _ turns).mpr serves
    rw [throughout_iff] at levels unfailed ⊢
    intro early within
    have counted : (exec (step now) first early).row.uses =
        (exec (step now) first early).committed := (levels early within).stored
    have bounded := (Tally.level_or_behind sound level early).1.within
    have fewer := Finset.card_le_card (served_subset_committed (exec (step now) first early))
    constructor
    · calc ((exec (step now) first early).served : ℤ)
          ≤ (exec (step now) first early).committed := Int.ofNat_le.mpr fewer
        _ = (exec (step now) first early).row.uses := counted.symm
        _ ≤ (exec (step now) first early).row.maxUses := bounded
    · intro finished
      rw [counted, (served_eq_committed_iff finished).mpr (unfailed early within)]
  · intro finished always
    have right := (throughout_iff.mp always turns (List.prefix_refl turns)).2 finished
    rw [← undisturbed_iff, ← throughout_unfailed_iff,
      ← Tally.throughout_level_iff sound level turns]
    constructor
    · intro levels
      have counted : (exec (step now) first turns).row.uses =
          (exec (step now) first turns).committed :=
        (throughout_iff.mp levels turns (List.prefix_refl turns)).stored
      rw [counted] at right
      exact throughout_unfailed_of_exec
        ((served_eq_committed_iff finished).mp (by exact_mod_cast right.symm))
    · intro unfailed
      have all := (served_eq_committed_iff finished).mpr
        (throughout_iff.mp unfailed turns (List.prefix_refl turns))
      rw [all] at right
      exact Tally.throughout_level_of_exec sound level right

end Runs

/-- A turn that meets the file, can store the event and sends the response with the file. -/
def smooth {ι : Type} (i : ι) : DownloadTurn ι := ⟨i, true, true, true⟩

/-- Three requests with a token that allows two: the second one comes between the commit of the
first and its answer. -/
def twoDownloads : List (DownloadTurn (Fin 3)) :=
  [0, 0, 0, 1, 0, 1, 1, 0, 1, 2, 1, 0, 1].map smooth

theorem token_kept_twoDownloads :
    let first : Downloads (Fin 3) := start (issueDownloadToken 0 "1" "starter" 2 24)
    Throughout (step fun _ => 0) Kept first twoDownloads :=
  (token_kept (fun _ => 0) 0 "1" "starter" 2 24 (by decide) twoDownloads).1 (by decide) (by decide)

/-- Two requests that both select the unused token are both served, and a request that does not
find the file uses the token up. -/
theorem not_token_kept :
    let first {ι : Type} : Downloads ι := start (issueDownloadToken 0 "1" "starter" 1 24)
    let overlapping := [true, false, true, true, true, true, true, false, false, false, false,
      false].map smooth
    (exec (step fun _ => 0) first overlapping).served = 2 ∧
      ¬ Throughout (step fun _ => 0) Kept first overlapping ∧
      ¬ Throughout (step fun _ => 0) Kept first
        [smooth (), smooth (), smooth (), ⟨(), false, true, true⟩] := by
  intro first overlapping
  have two : (exec (step fun _ => 0) first overlapping).served = 2 := by decide
  refine ⟨two, fun always => ?_, fun always => ?_⟩
  · have last := throughout_iff.mp always overlapping (List.prefix_refl _)
    have within := last.1
    rw [two] at within
    exact absurd within (by decide)
  · have last := throughout_iff.mp always _ (List.prefix_refl _)
    have ended := last.2 fun _ => trivial
    exact absurd ended (by decide)

end Downloads

end Aegis.Api
