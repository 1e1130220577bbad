import Aegis.Workers.Capacity
import Aegis.Workers.Truth

/-!
# One process for an account

`stop_worker` takes a process out of `_workers` before it asks Redis for anything, and a Redis
command that raises leaves the call there: the process runs on, and nobody knows of it.
`onePerAccount_iff` says which commands may raise.

There is one instance here, and `stop_all` is the calls of `stop_worker` that it makes.
-/

namespace Aegis.Workers

open Aegis.Lib Aegis.Trading

/-- An event, or a Redis command that raises. -/
inductive Incident (ι : Type) where
  | event (event : Event ι)
  | raise (i : ι) (reached : Bool) (jobId : String)

/-- The process is that of the `stop_worker` under way. -/
def Turn.Dismisses (accountId : String) (pid : ℕ) : Turn → Prop
  | removing other (some process) | stopping other (some process) | waiting other process _ =>
      other = accountId ∧ process = pid
  | _ => False

/-- The call is at a Redis command. -/
def Turn.Commands : Turn → Prop
  | stashing _ _ | registering _ | removing _ _ | stopping _ _ => True
  | idle | spawning _ | waiting _ _ _ => False

/-- The instance has the process in `_workers`, or is about to take it down. -/
def Instance.Has (held : Instance) (accountId : String) (pid : ℕ) : Prop :=
  held.workers.lookup accountId = some pid ∨ held.turn.Dismisses accountId pid

/-- The call has taken the account's entry out, and has put no other in. -/
def Turn.Vacates (accountId : String) : Turn → Prop
  | stashing other _ | spawning other | removing other _ | stopping other _ | waiting other _ _ =>
      other = accountId
  | idle | registering _ => False

namespace Floor

variable {ι : Type} [DecidableEq ι]

/-- The Redis command that the holder of the lock is at raises, and the call with it.  The command
may have `reached` Redis all the same. -/
def raise (s : Floor ι) (i : ι) (reached : Bool) (jobId : String) : Floor ι :=
  match (s.instances i).turn with
  | .stashing _ _ => (if reached then s.stashWorkerCredentials i else s).setTurn i .idle
  | .registering _ => (if reached then s.registrySet i else s).setTurn i .idle
  | .removing _ _ => (if reached then s.registryRemove i else s).setTurn i .idle
  | .stopping _ _ => (if reached then s.submitStop i jobId else s).setTurn i .idle
  | _ => s

def meet (s : Floor ι) : Incident ι → Floor ι
  | .event event => s.step event
  | .raise i reached jobId => s.raise i reached jobId

/-- The instance has every live process. -/
def Tracked (i : ι) (s : Floor ι) : Prop :=
  ∀ accountId pid, s.aliveFor accountId pid = true → (s.instances i).Has accountId pid

/-- No account has two live processes, and none is lost. -/
structure OnePerAccount (s : Floor Unit) : Prop where
  single : ∀ accountId pid other, s.aliveFor accountId pid = true →
    s.aliveFor accountId other = true → pid = other
  tracked : s.Tracked ()

/-- A command of `stop_worker` that raises finds its process gone. -/
def RaisesLate (s : Floor Unit) : Incident Unit → Prop
  | .event _ => True
  | .raise () _ _ => ∀ accountId pid, (s.instances ()).turn = .removing accountId (some pid) ∨
      (s.instances ()).turn = .stopping accountId (some pid) → s.aliveFor accountId pid = false

end Floor

/-! ## Entries and turns -/

theorem Turn.vacates_of_dismisses {turn : Turn} {accountId : String} {pid : ℕ}
    (dismisses : turn.Dismisses accountId pid) : turn.Vacates accountId := by
  unfold Dismisses at dismisses
  split at dismisses
  · exact dismisses.1
  · exact dismisses.1
  · exact dismisses.1
  · exact dismisses.elim

theorem Turn.dismisses_unique {turn : Turn} {accountId : String} {pid other : ℕ}
    (dismisses : turn.Dismisses accountId pid) (also : turn.Dismisses accountId other) :
    pid = other := by
  unfold Dismisses at dismisses also
  split at dismisses
  · exact dismisses.2.symm.trans also.2
  · exact dismisses.2.symm.trans also.2
  · exact dismisses.2.symm.trans also.2
  · exact dismisses.elim

/-- A `stop_worker` that is at a Redis command. -/
theorem Turn.stops_of_dismisses {turn : Turn} {accountId : String} {pid : ℕ}
    (dismisses : turn.Dismisses accountId pid) (commands : turn.Commands) :
    turn = .removing accountId (some pid) ∨ turn = .stopping accountId (some pid) := by
  unfold Dismisses at dismisses
  split at dismisses
  · rw [dismisses.1, dismisses.2]
    exact .inl rfl
  · rw [dismisses.1, dismisses.2]
    exact .inr rfl
  · exact commands.elim
  · exact dismisses.elim

/-- An account that the call is about to spawn for, or stops, has no entry. -/
def Instance.Vacant (held : Instance) : Prop :=
  ∀ accountId, held.turn.Vacates accountId → held.workers.lookup accountId = none

theorem Instance.Vacant.unique {held : Instance} {accountId : String} {pid other : ℕ}
    (vacant : held.Vacant) (has : held.Has accountId pid) (also : held.Has accountId other) :
    pid = other := by
  rcases has with first | first <;> rcases also with second | second
  · exact Option.some.inj (first.symm.trans second)
  · have missing := vacant accountId (Turn.vacates_of_dismisses second)
    rw [missing] at first
    cases first
  · have missing := vacant accountId (Turn.vacates_of_dismisses first)
    rw [missing] at second
    cases second
  · exact Turn.dismisses_unique first second

namespace Floor

def Vacant {ι : Type} (i : ι) (s : Floor ι) : Prop := (s.instances i).Vacant

section Anywhere

variable {ι : Type} [DecidableEq ι] {s after : Floor ι} {i : ι} {accountId : String} {pid : ℕ}

/-- A live process was alive before, or has just been spawned. -/
theorem Steps.aliveFor {event : Event ι} (steps : Steps s event after)
    (alive : after.aliveFor accountId pid = true) :
    s.aliveFor accountId pid = true ∨ ∃ i, event = .manager i .spawn ∧
      (s.instances i).turn = .spawning accountId ∧ pid = s.processes.length := by
  obtain ⟨phase, process, lives⟩ := aliveFor_iff.mp alive
  rcases steps.process process with old | ⟨earlier, old, follows⟩ | ⟨i, call, turn, last, _⟩
  · exact .inl (aliveFor_iff.mpr ⟨phase, old, lives⟩)
  · exact .inl (aliveFor_iff.mpr ⟨earlier, old, follows.alive lives⟩)
  · exact .inr ⟨i, call, turn, last⟩

theorem Manages.vacant {event : ManagerEvent} (manages : Manages s i event after)
    (vacant : s.Vacant i) : after.Vacant i := by
  have held {turn : Turn} (kept : ∀ accountId, turn.Vacates accountId →
      (s.instances i).turn.Vacates accountId) :
      Instance.Vacant ⟨(s.instances i).workers, turn⟩ :=
    fun accountId vacates => vacant accountId (kept accountId vacates)
  have update {next : Instance} (own : next.Vacant)
      (instances : after.instances = Function.update s.instances i next) :
      after.Vacant i := by
    unfold Vacant
    rw [instances, Function.update_self]
    exact own
  cases manages with
  | full turn => exact update (fun _ => False.elim) rfl
  | ensureWorker turn =>
      refine update ?_ rfl
      intro _ same
      rcases same with rfl
      exact AList.lookup_erase _ _
  | stash turn => exact update (held fun _ vacates => by rw [turn]; exact vacates) rfl
  | spawn turn => exact update (fun _ => False.elim) rfl
  | stopWorker turn =>
      refine update ?_ rfl
      intro _ same
      rcases same with rfl
      exact AList.lookup_erase _ _
  | remove turn | await turn =>
      exact update (held fun _ vacates => by rw [turn]; exact vacates) rfl
  | register | release | gone | kill => exact update (fun _ => False.elim) rfl

theorem Manages.tracked {event : ManagerEvent} (manages : Manages s i event after)
    (later : ∀ accountId credentials, event ≠ .ensureWorker accountId credentials)
    (vacant : s.Vacant i) (tracked : s.Tracked i) : after.Tracked i := by
  intro account worker alive
  have update {next : Instance}
      (instances : after.instances = Function.update s.instances i next)
      (has : next.Has account worker) : (after.instances i).Has account worker := by
    rw [instances, Function.update_self]
    exact has
  -- the entries stay, and what was in hand stays so or is dead
  have turned {turn : Turn}
      (instances : after.instances =
        Function.update s.instances i ⟨(s.instances i).workers, turn⟩)
      (old : s.aliveFor account worker = true)
      (keeps : (s.instances i).turn.Dismisses account worker → turn.Dismisses account worker) :
      (after.instances i).Has account worker :=
    update instances ((tracked account worker old).imp_right keeps)
  cases manages with
  | full | ensureWorker => exact (later _ _ rfl).elim
  | stash turn | register turn | release turn | await turn =>
      refine turned rfl alive fun dismisses => ?_
      rw [turn] at dismisses
      exact dismisses
  | @remove accountId process turn =>
      refine turned rfl alive fun dismisses => ?_
      rw [turn] at dismisses
      cases process with
      | none => exact dismisses
      | some pid => exact dismisses
  | gone turn dead =>
      refine turned rfl alive fun dismisses => ?_
      rw [turn] at dismisses
      obtain ⟨rfl, rfl⟩ := dismisses
      exact absurd alive (Bool.eq_false_iff.mp dead)
  | kill turn living late =>
      obtain ⟨spared, old⟩ := (aliveFor_setPhase_exited rfl).mp alive
      refine turned rfl old fun dismisses => ?_
      rw [turn] at dismisses
      exact absurd dismisses.2.symm spared
  | @spawn accountId turn =>
      rcases (aliveFor_append rfl).mp alive with old | ⟨rfl, rfl⟩
      · rcases tracked account worker old with found | dismisses
        · have other : account ≠ accountId := by
            intro same
            rcases same with rfl
            rw [vacant account (by rw [turn]; rfl)] at found
            cases found
          exact update rfl (.inl ((AList.lookup_insert_ne other).trans found))
        · rw [turn] at dismisses
          exact dismisses.elim
      · exact update rfl (.inl (AList.lookup_insert _))
  | @stopWorker accountId turn =>
      rcases tracked account worker alive with found | dismisses
      · by_cases own : account = accountId
        · subst own
          refine update rfl (.inr ?_)
          rw [found]
          exact ⟨rfl, rfl⟩
        · exact update rfl (.inl ((AList.lookup_erase_ne own).trans found))
      · rw [turn] at dismisses
        exact dismisses.elim

/-- The entry that `ensure_worker` drops is not that of a live process. -/
theorem Tracked.dropped {turn : Turn} (tracked : s.Tracked i)
    (idle : (s.instances i).turn = .idle) (free : ¬ s.holds i accountId = true) :
    (s.setInstance i ⟨(s.instances i).workers.erase accountId, turn⟩).Tracked i := by
  intro account worker alive
  rw [instances_setInstance]
  rcases tracked account worker alive with found | dismisses
  · have other : account ≠ accountId := by
      intro same
      rcases same with rfl
      unfold holds at free
      rw [found] at free
      exact free alive
    exact .inl ((AList.lookup_erase_ne other).trans found)
  · rw [idle] at dismisses
    exact dismisses.elim

theorem instances_setTurn_setTurn (s : Floor ι) (i : ι) (turn next : Turn) :
    ((s.setTurn i turn).setTurn i next).instances =
      Function.update s.instances i ⟨(s.instances i).workers, next⟩ := by
  change Function.update (Function.update s.instances i _) i
    ⟨((s.setTurn i turn).instances i).workers, next⟩ = _
  rw [Function.update_idem, setTurn, instances_setInstance]

/-- A command that raises frees the lock, and touches neither processes nor entries. -/
theorem raise_of {P : Floor ι → Prop} {reached : Bool} {jobId : String}
    (same : ¬ (s.instances i).turn.Commands → P s)
    (raised : (s.instances i).turn.Commands → ∀ after : Floor ι, after.processes = s.processes →
      after.instances = Function.update s.instances i ⟨(s.instances i).workers, .idle⟩ → P after) :
    P (s.raise i reached jobId) := by
  have freed {turn : Turn} (now : (s.instances i).turn = turn) (commands : turn.Commands) :
      P (s.setTurn i .idle) := raised (now ▸ commands) _ rfl rfl
  have either {turn : Turn} (now : (s.instances i).turn = turn) (commands : turn.Commands)
      (between : Floor ι) (next : Turn) (processes : between.processes = s.processes)
      (instances : between.instances = s.instances) :
      P ((if reached then between.setTurn i next else s).setTurn i .idle) := by
    cases reached with
    | false => exact freed now commands
    | true =>
        refine raised (now ▸ commands) _ processes ?_
        rw [if_pos rfl, instances_setTurn_setTurn, instances]
  unfold raise
  split
  · next turn =>
      rw [stashWorkerCredentials, turn]
      exact either turn trivial _ _ rfl rfl
  · next turn =>
      rw [registrySet, turn]
      exact either turn trivial _ _ rfl rfl
  · next turn =>
      rw [registryRemove, turn]
      exact either turn trivial _ _ rfl rfl
  · next turn =>
      rw [submitStop, turn]
      dsimp only
      by_cases drawn : jobId ∈ s.drawn
      · rw [if_pos drawn, ite_self]
        exact freed turn trivial
      · rw [if_neg drawn]
        exact either turn trivial _ _ rfl rfl
  · next stashing registering removing stopping =>
      refine same ?_
      cases turn : (s.instances i).turn with
      | stashing accountId credentials => exact (stashing _ _ turn).elim
      | registering accountId => exact (registering _ turn).elim
      | removing accountId process => exact (removing _ _ turn).elim
      | stopping accountId process => exact (stopping _ _ turn).elim
      | idle | spawning _ | waiting _ _ _ => exact id

end Anywhere

variable {s : Floor Unit}

theorem vacant_step (vacant : s.Vacant ()) (event : Event Unit) :
    (s.step event).Vacant () := by
  apply step_of vacant
  intro after steps
  cases steps with
  | pass => exact vacant
  | caller calls => cases calls <;> exact vacant
  | manager manages => exact manages.vacant vacant
  | worker process works => cases works <;> exact vacant

theorem tracked_step (vacant : s.Vacant ()) (tracked : s.Tracked ()) (event : Event Unit) :
    (s.step event).Tracked () := by
  refine step_of_guarded tracked (fun _ accountId idle free => tracked.dropped idle free)
    (fun _ accountId credentials idle free _ => tracked.dropped idle free)
    fun after steps later => ?_
  cases steps with
  | pass => exact tracked
  | caller calls => cases calls <;> exact tracked
  | manager manages =>
      refine manages.tracked (fun accountId credentials own => ?_) vacant tracked
      exact later _ accountId credentials (congrArg _ own)
  | worker process works =>
      intro accountId pid lives
      have old := (Steps.aliveFor (.worker process works) lives).resolve_right nofun
      have has := tracked accountId pid old
      cases works <;> exact has

theorem vacant_meet (vacant : s.Vacant ()) (incident : Incident Unit) :
    (s.meet incident).Vacant () := by
  cases incident with
  | event event => exact vacant_step vacant event
  | raise i reached jobId =>
      refine raise_of (fun _ => vacant) fun _ after _ instances => ?_
      unfold Vacant
      rw [instances, Function.update_self]
      exact fun _ => False.elim

theorem tracked_raise_iff (vacant : s.Vacant ()) (tracked : s.Tracked ())
    {reached : Bool} {jobId : String} :
    (s.raise () reached jobId).Tracked () ↔ s.RaisesLate (.raise () reached jobId) := by
  refine raise_of (P := fun after => after.Tracked () ↔ s.RaisesLate (.raise () reached jobId))
    (fun calm => ?_) fun commands after processes instances => ?_
  · refine iff_of_true tracked fun accountId pid stops => ?_
    rcases stops with turn | turn
    · rw [turn] at calm
      exact (calm trivial).elim
    · rw [turn] at calm
      exact (calm trivial).elim
  · have alike (accountId : String) (pid : ℕ) :
        after.aliveFor accountId pid = s.aliveFor accountId pid := by
      rw [aliveFor, aliveFor, processes]
    have left : after.Tracked () ↔ ∀ accountId pid, s.aliveFor accountId pid = true →
        (s.instances ()).workers.lookup accountId = some pid := by
      refine forall_congr' fun accountId => forall_congr' fun pid => ?_
      rw [alike, instances, Function.update_self]
      exact imp_congr_right fun _ => or_iff_left id
    rw [left]
    constructor
    · intro entered accountId pid stops
      have missing : (s.instances ()).workers.lookup accountId = none := by
        refine vacant accountId ?_
        rcases stops with turn | turn
        · rw [turn]
          rfl
        · rw [turn]
          rfl
      by_contra living
      have found := entered accountId pid (Bool.not_eq_false _ ▸ living)
      rw [missing] at found
      cases found
    · intro late accountId pid alive
      refine (tracked accountId pid alive).resolve_right fun dismisses => ?_
      have dead := late accountId pid (Turn.stops_of_dismisses dismisses commands)
      rw [alive] at dead
      cases dead

theorem onePerAccount_meet_iff (vacant : s.Vacant ()) (one : s.OnePerAccount)
    {incident : Incident Unit} : (s.meet incident).OnePerAccount ↔ s.RaisesLate incident := by
  have later := vacant_meet vacant incident
  have whole : (s.meet incident).OnePerAccount ↔ (s.meet incident).Tracked () := by
    refine ⟨(·.tracked), fun tracked => ⟨?_, tracked⟩⟩
    intro accountId pid other first second
    exact later.unique (tracked accountId pid first) (tracked accountId other second)
  rw [whole]
  cases incident with
  | event event => exact iff_of_true (tracked_step vacant one.tracked event) trivial
  | raise i reached jobId => exact tracked_raise_iff vacant one.tracked

end Floor

open Floor

/-- **One process for an account**, as long as no Redis command of a `stop_worker` raises while
the process that it stops is alive. -/
theorem onePerAccount_iff {now : ℤ} {incidents : List (Incident Unit)} :
    Throughout meet OnePerAccount (opening Unit now) incidents ↔
      EachStep meet RaisesLate (opening Unit now) incidents := by
  apply throughout_iff_eachStep (I := Vacant ())
  · exact fun _ => False.elim
  · exact ⟨nofun, nofun⟩
  · exact fun _ incident vacant => vacant_meet vacant incident
  · exact fun _ _ vacant one => onePerAccount_meet_iff vacant one

/-- The registry cannot be reached when the account is disconnected, and it connects again. -/
theorem not_onePerAccount_twoWorkers :
    ¬ Throughout meet OnePerAccount (opening Unit 0)
      ((hire () "acc" ⟨"12345678", "secret", "ICMarketsSC-Demo"⟩).map .event ++
        [.event (.manager () (.stopWorker "acc")), .raise () false "stop"] ++
        (hire () "acc" ⟨"12345678", "secret", "ICMarketsSC-Demo"⟩).map .event) := by
  intro always
  have last := throughout_iff.mp always _ (List.prefix_refl _)
  have same := last.single "acc" 0 1 (by decide +kernel) (by decide +kernel)
  cases same

end Aegis.Workers
