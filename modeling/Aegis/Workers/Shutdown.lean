import Aegis.Workers.Orphans

/-!
# Shutting down

`stop_all` takes the list of the accounts in `_workers` and calls `stop_worker` for one after the
other; each call waits for the lock, which other calls may take in between, and a Redis command
that raises ends the loop.  `stopAll_ends_old` says which workers are left at each point of it:
of those that were alive when it began, the ones whose account is still ahead in the list, and
the one that a call under way is stopping.
-/

namespace Aegis.Workers

open Aegis.Lib Aegis.Trading

/-- Where `stop_all` is, with the accounts that it has yet to come to. -/
inductive StopAll where
  | notBegun
  /-- before the `stop_worker` of the first of them -/
  | next (rest : List String)
  /-- its `stop_worker` for the account has the lock -/
  | within (accountId : String) (rest : List String)
  | returned
  | raised (rest : List String)

namespace StopAll

def pending : StopAll → List String
  | next rest | within _ rest | raised rest => rest
  | notBegun | returned => []

/-- What has become of the `stop_worker` of the loop, by the lock. -/
def follow (incident : Incident Unit) (turn : Turn) : StopAll → StopAll
  | within accountId rest =>
      match turn, incident with
      | .idle, .event _ => next rest
      | .idle, .raise _ _ _ => raised rest
      | _, _ => within accountId rest
  | other => other

end StopAll

/-- An instance, and its `stop_all`. -/
structure Shutdown where
  floor : Floor Unit
  stopAll : StopAll

inductive ShutdownEvent where
  /-- what goes on beside the loop, and inside the calls -/
  | incident (incident : Incident Unit)
  /-- `list(self._workers.keys())` -/
  | begins
  /-- the next `stop_worker` gets the lock, or there is none -/
  | proceeds

namespace Shutdown

def opening (now : ℤ) : Shutdown := ⟨Floor.opening Unit now, .notBegun⟩

/-- The keys of `_workers`, the oldest first. -/
def accounts (s : Shutdown) : List String := (s.floor.instances ()).workers.keys.reverse

def step (s : Shutdown) : ShutdownEvent → Shutdown
  | .incident incident =>
      let floor := s.floor.meet incident
      ⟨floor, s.stopAll.follow incident (floor.instances ()).turn⟩
  | .begins =>
      match s.stopAll with
      | .notBegun => ⟨s.floor, .next s.accounts⟩
      | _ => s
  | .proceeds =>
      match s.stopAll, (s.floor.instances ()).turn with
      | .next [], _ => ⟨s.floor, .returned⟩
      | .next (accountId :: rest), .idle =>
          ⟨s.floor.meet (.event (.manager () (.stopWorker accountId))), .within accountId rest⟩
      | _, _ => s

/-- A command of `stop_worker` that raises finds its process gone. -/
def RaisesLate (s : Shutdown) : ShutdownEvent → Prop
  | .incident incident => s.floor.RaisesLate incident
  | .begins | .proceeds => True

end Shutdown

namespace Floor

/-- Entries come in with new processes only. -/
structure Grown (s after : Floor Unit) : Prop where
  spawned : s.processes.length ≤ after.processes.length
  entries : ∀ accountId pid, (after.instances ()).workers.lookup accountId = some pid →
    (s.instances ()).workers.lookup accountId = some pid ∨ s.processes.length ≤ pid

variable {s after : Floor Unit}

theorem Grown.refl (s : Floor Unit) : Grown s s := ⟨le_rfl, fun _ _ => .inl⟩

theorem Grown.of_same (length : after.processes.length = s.processes.length)
    (workers : (after.instances ()).workers = (s.instances ()).workers) : Grown s after := by
  refine ⟨length.ge, fun accountId pid found => .inl ?_⟩
  rwa [workers] at found

/-- The entry of an account is taken out. -/
theorem Grown.of_erase {accountId : String} {turn : Turn}
    (processes : after.processes = s.processes)
    (instances : after.instances =
      Function.update s.instances () ⟨(s.instances ()).workers.erase accountId, turn⟩) :
    Grown s after := by
  refine ⟨by rw [processes], fun other pid found => .inl ?_⟩
  rw [instances, Function.update_self] at found
  exact lookup_of_erase found

theorem Manages.grown {event : ManagerEvent} (manages : Manages s () event after) :
    Grown s after := by
  have kept {turn : Turn} (processes : after.processes.length = s.processes.length)
      (instances : after.instances =
        Function.update s.instances () ⟨(s.instances ()).workers, turn⟩) : Grown s after := by
    refine .of_same processes ?_
    rw [instances, Function.update_self]
  cases manages with
  | full turn | ensureWorker turn | stopWorker turn => exact .of_erase rfl rfl
  | stash turn | register turn | remove turn | release turn | await turn | gone turn =>
      exact kept rfl rfl
  | kill turn living late => exact kept (List.length_modify _ _ _) rfl
  | @spawn accountId turn =>
      constructor
      · exact List.length_append.symm ▸ Nat.le_add_right _ _
      · intro other pid found
        change ((s.instances ()).workers.insert accountId s.processes.length).lookup other =
          some pid at found
        by_cases own : other = accountId
        · subst own
          rw [AList.lookup_insert] at found
          exact .inr (Option.some.inj found).le
        · rw [AList.lookup_insert_ne own] at found
          exact .inl found

theorem grown_step (event : Event Unit) : Grown s (s.step event) := by
  apply step_of (Grown.refl s)
  intro after steps
  cases steps with
  | pass => exact .of_same rfl rfl
  | caller calls => cases calls <;> exact .of_same rfl rfl
  | manager manages => exact manages.grown
  | worker process works =>
      refine .of_same ?_ (by cases works <;> rfl)
      cases works <;> first | rfl | exact List.length_modify _ _ _

theorem grown_meet (incident : Incident Unit) : Grown s (s.meet incident) := by
  cases incident with
  | event event => exact grown_step event
  | raise i reached jobId =>
      refine raise_of (fun _ => Grown.refl s) fun _ after processes instances => ?_
      refine .of_same (by rw [processes]) ?_
      rw [instances, Function.update_self]

/-- With the lock, `stop_worker` takes the entry out. -/
theorem lookup_stopWorker (accountId : String) (idle : (s.instances ()).turn = .idle) :
    ((s.meet (.event (.manager () (.stopWorker accountId)))).instances ()).workers.lookup
      accountId = none := by
  change ((s.stopWorker () accountId).instances ()).workers.lookup accountId = none
  rw [stopWorker, idle]
  exact AList.lookup_erase _ _

end Floor

open Floor

namespace Shutdown

/-- The floor moves as it does without the loop, or not at all. -/
theorem floor_step {P : Floor Unit → Prop} {s : Shutdown} {event : ShutdownEvent}
    (late : s.RaisesLate event) (same : P s.floor)
    (meets : ∀ incident, s.floor.RaisesLate incident → P (s.floor.meet incident)) :
    P (s.step event).floor := by
  cases event with
  | incident incident => exact meets incident late
  | begins =>
      unfold step
      dsimp only
      split
      · exact same
      · exact same
  | proceeds =>
      unfold step
      dsimp only
      split
      · exact same
      · next accountId rest _ _ =>
          exact meets (.event (.manager () (.stopWorker accountId))) trivial
      · exact same

/-- No process of the floor is lost. -/
structure Sound (s : Shutdown) : Prop where
  vacant : s.floor.Vacant ()
  tracked : s.floor.Tracked ()

theorem Sound.opening (now : ℤ) : (opening now).Sound := ⟨fun _ => False.elim, nofun⟩

theorem Sound.step {s : Shutdown} {event : ShutdownEvent} (sound : s.Sound)
    (late : s.RaisesLate event) : (s.step event).Sound := by
  refine floor_step (P := fun floor => (⟨floor, (s.step event).stopAll⟩ : Shutdown).Sound) late
    ⟨sound.vacant, sound.tracked⟩ fun incident late => ⟨vacant_meet sound.vacant incident, ?_⟩
  cases incident with
  | event event => exact tracked_step sound.vacant sound.tracked event
  | raise i reached jobId => exact (tracked_raise_iff sound.vacant sound.tracked).mpr late

/-- The loop has begun, with `count` processes spawned, and the entries of these are of accounts
that are still ahead in its list. -/
structure Closing (count : ℕ) (s : Shutdown) : Prop where
  sound : s.Sound
  spawned : count ≤ s.floor.processes.length
  begun : s.stopAll ≠ .notBegun
  ahead : ∀ accountId pid, (s.floor.instances ()).workers.lookup accountId = some pid →
    pid < count → accountId ∈ s.stopAll.pending

theorem Closing.begins {s : Shutdown} (sound : s.Sound) (unbegun : s.stopAll = .notBegun) :
    Closing s.floor.processes.length (s.step .begins) := by
  unfold step
  rw [unbegun]
  refine ⟨⟨sound.vacant, sound.tracked⟩, le_rfl, nofun, fun accountId pid found _ => ?_⟩
  refine List.mem_reverse.mpr (AList.mem_keys.mp ?_)
  rw [← AList.lookup_isSome, found]
  rfl

theorem pending_follow (incident : Incident Unit) (turn : Turn) (stopAll : StopAll) :
    (stopAll.follow incident turn).pending = stopAll.pending := by
  cases stopAll with
  | within accountId rest =>
      unfold StopAll.follow
      dsimp only
      split <;> rfl
  | notBegun | next | returned | raised => rfl

theorem follow_ne_notBegun {incident : Incident Unit} {turn : Turn} {stopAll : StopAll}
    (begun : stopAll ≠ .notBegun) : stopAll.follow incident turn ≠ .notBegun := by
  cases stopAll with
  | within accountId rest =>
      unfold StopAll.follow
      dsimp only
      split <;> nofun
  | notBegun => exact begun
  | next | returned | raised => nofun

/-- Old entries stay where they are, or go. -/
theorem Closing.entries {count : ℕ} {s : Shutdown} (closing : s.Closing count)
    {after : Floor Unit} (grown : Grown s.floor after) {accountId : String} {pid : ℕ}
    (found : (after.instances ()).workers.lookup accountId = some pid) (old : pid < count) :
    (s.floor.instances ()).workers.lookup accountId = some pid := by
  rcases grown.entries accountId pid found with before | new
  · exact before
  · have spawned := closing.spawned
    omega

/-- **Step lemma.** -/
theorem Closing.step {count : ℕ} {s : Shutdown} {event : ShutdownEvent}
    (closing : s.Closing count) (late : s.RaisesLate event) : (s.step event).Closing count := by
  have sound := closing.sound.step late
  cases event with
  | incident incident =>
      have grown : Grown s.floor (s.floor.meet incident) := grown_meet incident
      refine ⟨sound, closing.spawned.trans grown.spawned, follow_ne_notBegun closing.begun, ?_⟩
      intro accountId pid found old
      have listed := closing.ahead accountId pid (closing.entries grown found old) old
      exact (pending_follow _ _ _).symm ▸ listed
  | begins =>
      have still : s.step .begins = s := by
        unfold Shutdown.step
        dsimp only
        split
        · next unbegun => exact absurd unbegun closing.begun
        · rfl
      rwa [still]
  | proceeds =>
      have ahead := closing.ahead
      revert sound
      unfold Shutdown.step
      dsimp only
      split
      · next stopAll =>
          intro sound
          refine ⟨sound, closing.spawned, nofun, fun accountId pid found old => ?_⟩
          have listed := ahead accountId pid found old
          rw [stopAll] at listed
          exact listed
      · next first rest stopAll idle =>
          intro sound
          have grown : Grown s.floor (s.floor.meet (.event (.manager () (.stopWorker first)))) :=
            grown_meet _
          refine ⟨sound, closing.spawned.trans grown.spawned, nofun, fun other pid found old => ?_⟩
          have listed := ahead other pid (closing.entries grown found old) old
          rw [stopAll] at listed
          -- the account itself has no entry any more
          refine (List.mem_cons.mp listed).resolve_left fun same => ?_
          rw [same, lookup_stopWorker first idle] at found
          cases found
      · intro _
        exact closing

/-- A worker that was alive when the loop began has its account ahead, or is being stopped. -/
theorem Closing.left {count : ℕ} {s : Shutdown} (closing : s.Closing count) {accountId : String}
    {pid : ℕ} (alive : s.floor.aliveFor accountId pid = true) (old : pid < count) :
    accountId ∈ s.stopAll.pending ∨ (s.floor.instances ()).turn.Dismisses accountId pid :=
  (closing.sound.tracked accountId pid alive).imp_left fun found =>
    closing.ahead accountId pid found old

end Shutdown

open Shutdown

/-- **Shutting down.**  Whatever other calls, workers and Redis do in the meantime, of the
processes that were there when `stop_all` began only those are alive whose account is still ahead
in its list, or that a call under way is stopping; it returns with nothing ahead. -/
theorem stopAll_ends_old {now : ℤ} {early late : List ShutdownEvent} {accountId : String} {pid : ℕ}
    (raises : EachStep Shutdown.step RaisesLate (opening now) (early ++ .begins :: late))
    (begins : (exec Shutdown.step (opening now) early).stopAll = .notBegun)
    (old : pid < (exec Shutdown.step (opening now) early).floor.processes.length)
    (alive : (exec Shutdown.step (opening now) (early ++ .begins :: late)).floor.aliveFor
      accountId pid = true) :
    accountId ∈ (exec Shutdown.step (opening now) (early ++ .begins :: late)).stopAll.pending ∨
      ((exec Shutdown.step (opening now) (early ++ .begins :: late)).floor.instances
        ()).turn.Dismisses accountId pid := by
  rw [eachStep_append] at raises
  obtain ⟨before, -, after⟩ := raises
  have sound : (exec Shutdown.step (opening now) early).Sound :=
    exec_inv_of_eachStep (Sound.opening now) (fun _ _ => Sound.step) before
  have closing := exec_inv_of_eachStep (Closing.begins sound begins)
    (fun _ _ => Closing.step) after
  rw [exec_append] at alive ⊢
  exact closing.left alive old

/-- Two accounts are connected. -/
def twoHired : List ShutdownEvent :=
  (hire () "acc" ⟨"12345678", "secret", "ICMarketsSC-Demo"⟩ ++
    hire () "other" ⟨"87654321", "secret", "ICMarketsSC-Demo"⟩).map fun event =>
      .incident (.event event)

/-- The worker of the first is gone when the `STOP` job for it raises, which ends the loop. -/
def raisedLate : List ShutdownEvent :=
  [.proceeds, .incident (.event (.manager () .registryRemove)),
    .incident (.event (.worker 0 .crash)), .incident (.raise () false "stop")]

theorem stopAll_ends_old_raisedLate :
    let after := exec Shutdown.step (opening 0) (twoHired ++ .begins :: raisedLate)
    after.stopAll = .raised ["other"] ∧ after.floor.aliveFor "acc" 0 = false ∧
      after.floor.aliveFor "other" 1 = true ∧
      ("other" ∈ after.stopAll.pending ∨
        (after.floor.instances ()).turn.Dismisses "other" 1) := by
  intro after
  have alive : after.floor.aliveFor "other" 1 = true := by decide +kernel
  have raises : EachStep Shutdown.step RaisesLate (opening 0)
      (twoHired ++ .begins :: raisedLate) := by
    refine ⟨trivial, trivial, trivial, trivial, trivial, trivial, trivial, trivial, trivial,
      trivial, trivial, trivial, ?_, trivial⟩
    intro accountId pid either
    rcases either with removing | stopping
    · cases removing
    · cases stopping
      rfl
  exact ⟨rfl, rfl, alive, stopAll_ends_old raises rfl (by decide +kernel) alive⟩

end Aegis.Workers
