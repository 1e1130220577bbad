import Aegis.Workers.Abandoned

/-!
# The `STOP` sentinel

`stop_worker` queues a `STOP` job in every branch, also when nobody is left to read it, and
`ensure_worker` spawns whatever the queue holds.  `ownStops_of_spawnsClean` says which
spawns are harmless.
-/

namespace Aegis.Workers

open Aegis.Lib Aegis.Subscriptions

variable {ι : Type}

namespace Floor

/-- The job was submitted while the process was alive. -/
def SubmittedTo (s : Floor ι) (pid : ℕ) (accountId : String) (job : Job) : Prop :=
  ∃ alive, Entry.submitted accountId job alive ∈ s.trace ∧ pid ∈ alive

/-- A process that leaves its loop on a `STOP` job now was alive when it was submitted. -/
def OwnStops (s : Floor ι) : Event ι → Prop
  | .worker pid .popJob => ∀ accountId since job rest,
      s.processes[pid]? = some ⟨accountId, .ready since⟩ →
        Fifo.brpop (s.queues accountId) = some (job, rest) → job.jobType = "STOP" →
          s.SubmittedTo pid accountId job
  | _ => True

/-- A process that is spawned now finds no `STOP` job in its queue. -/
def SpawnsClean (s : Floor ι) : Event ι → Prop
  | .manager i .spawn => ∀ accountId, (s.instances i).turn = .spawning accountId →
      ∀ job ∈ s.queues accountId, job.jobType ≠ "STOP"
  | _ => True

/-- The `STOP` jobs in the queue of a live process were all submitted to it. -/
def Addressed (s : Floor ι) : Prop :=
  ∀ pid accountId phase, s.processes[pid]? = some ⟨accountId, phase⟩ → phase.alive = true →
    ∀ job ∈ s.queues accountId, job.jobType = "STOP" → s.SubmittedTo pid accountId job

variable {s after : Floor ι} {event : Event ι}

theorem mem_alivePids {pid : ℕ} {accountId : String} {phase : Phase}
    (process : s.processes[pid]? = some ⟨accountId, phase⟩) (alive : phase.alive = true) :
    pid ∈ s.alivePids accountId := by
  have within : pid < s.processes.length := (List.getElem?_eq_some_iff.mp process).1
  exact List.mem_filter.mpr ⟨List.mem_range.mpr within, aliveFor_iff.mpr ⟨phase, process, alive⟩⟩

theorem Addressed.opening (now : ℤ) : (opening ι now).Addressed := by
  intro pid accountId phase process
  cases process

theorem Addressed.ownStops (addressed : s.Addressed) : s.OwnStops event := by
  unfold OwnStops
  split
  · intro accountId since job rest process popped stop
    refine addressed _ accountId _ process rfl job ?_ stop
    exact (Fifo.mem_of_brpop popped).mpr (.inl rfl)
  · trivial

variable [DecidableEq ι]

theorem Steps.still_submittedTo (steps : Steps s event after) {pid : ℕ} {accountId : String}
    {job : Job} (submitted : s.SubmittedTo pid accountId job) :
    after.SubmittedTo pid accountId job := by
  obtain ⟨alive, logged, member⟩ := submitted
  exact ⟨alive, steps.mem_trace logged, member⟩

/-- **Step lemma.** -/
theorem Addressed.step (addressed : s.Addressed) (clean : s.SpawnsClean event) :
    (s.step event).Addressed := by
  apply step_of addressed
  intro after steps pid accountId next process living job queued stop
  -- a process that was alive before is on the record of every job that comes in now
  have before {phase : Phase} (was : s.processes[pid]? = some ⟨accountId, phase⟩)
      (alive : phase.alive = true) : after.SubmittedTo pid accountId job := by
    rcases steps.queued queued with old | ⟨_, logged⟩
    · exact steps.still_submittedTo (addressed pid accountId phase was alive job old stop)
    · exact ⟨_, logged, mem_alivePids was alive⟩
  rcases steps.process process with same | ⟨phase, was, follows⟩ | ⟨i, rfl, turn, _, _⟩
  · exact before same living
  · exact before was (follows.alive living)
  · cases steps with
    | manager manages =>
        cases manages with
        | spawn => exact (clean accountId turn job queued stop).elim

end Floor

open Floor

/-- **Every `STOP` is read by a process that it was meant for**, in a run whose spawns are
all clean. -/
theorem ownStops_of_spawnsClean [DecidableEq ι] {now : ℤ} {events : List (Event ι)}
    (each : EachStep step SpawnsClean (opening ι now) events) :
    EachStep step OwnStops (opening ι now) events :=
  EachStep.of_inv (Addressed.opening now) (fun _ _ addressed clean => addressed.step clean)
    (fun _ _ addressed _ => addressed.ownStops) each

/-- A worker is stopped, and another one started. -/
def restart : List (Event Unit) :=
  hire () "acc" sampleCredentials ++ logIn 0 ++ dismiss () "acc" "j1" ++
    [.worker 0 .popJob, .worker 0 .exit, .manager () .waited] ++
    hire () "acc" sampleCredentials ++ logIn 1 ++ dismiss () "acc" "j2" ++ [.worker 1 .popJob]

theorem ownStops_of_spawnsClean_restart :
    EachStep step SpawnsClean (opening Unit 0) restart ∧
      EachStep step OwnStops (opening Unit 0) restart := by
  have clean : EachStep step SpawnsClean (opening Unit 0) restart := by
    refine ⟨trivial, trivial, ?_, trivial, trivial, trivial, trivial, trivial, trivial, trivial,
      trivial, trivial, trivial, trivial, trivial, ?_, trivial, trivial, trivial, trivial,
      trivial, trivial, trivial, trivial, trivial⟩
    · intro accountId turn job queued
      cases turn
      cases queued
    · intro accountId turn job queued
      cases turn
      cases queued
  exact ⟨clean, ownStops_of_spawnsClean clean⟩

/-- A worker idles out, the account is disconnected and connected again. -/
def staleStop : List (Event Unit) :=
  hire () "acc" sampleCredentials ++ logIn 0 ++
    [.pass 900000000, .worker 0 .idleOut, .worker 0 .exit] ++ dismiss () "acc" "j" ++
    [.manager () .waited] ++ hire () "acc" sampleCredentials ++ logIn 1

theorem not_ownStops_staleStop :
    ¬ EachStep step OwnStops (opening Unit 0) (staleStop ++ [.worker 1 .popJob]) := by
  intro each
  have last := eachStep_iff.mp each staleStop _ (List.prefix_refl _)
  obtain ⟨alive, logged, member⟩ := last "acc" 900000000 ⟨"j", "STOP", .dict []⟩ [] rfl rfl rfl
  have record : (exec step (opening Unit 0) staleStop).trace =
      [.submitted "acc" ⟨"j", "STOP", .dict []⟩ []] := rfl
  rw [record] at logged
  cases List.mem_singleton.mp logged
  cases member

end Aegis.Workers
