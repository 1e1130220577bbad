import Aegis.Trading.Exposure
import Aegis.Workers.Frames

/-!
# Orders whose submitter was told that they failed

`submit_and_wait` gives up after `WORKER_JOB_TIMEOUT_SECONDS` and leaves its job where it
is: in a queue that has no expiry and outlives the worker, or with a worker that is slow.
`noLateOrder_of_timesOutClean` says which timeouts are harmless.
-/

namespace Aegis.Workers

open Aegis.Lib Aegis.Subscriptions Aegis.Trading

variable {ι : Type}

namespace Floor

/-- The job waits in a queue, or a worker has it and has not executed it yet. -/
def Pending (s : Floor ι) (job : Job) : Prop :=
  (∃ accountId, job ∈ s.queues accountId) ∨
    ∃ (pid : ℕ) (accountId : String), s.processes[pid]? = some ⟨accountId, .handling job⟩

/-- `submit_and_wait` returned `None`. -/
def Abandoned (s : Floor ι) (jobId : String) : Prop := s.callers jobId = some (.returned none)

/-- An order that is executed now was not given up before. -/
def NoLateOrder (s : Floor ι) : Event ι → Prop
  | .worker pid (.handle _) => ∀ accountId job,
      s.processes[pid]? = some ⟨accountId, .handling job⟩ → OpensExposure job →
        ¬ s.Abandoned job.jobId
  | _ => True

/-- A wait for an order that runs out now finds the order gone from the queues and from
the hands of the workers. -/
def TimesOutClean (s : Floor ι) : Event ι → Prop
  | .caller jobId .giveUp => ∀ deadline,
      s.callers jobId = some (.waiting deadline) → deadline ≤ s.now →
        ∀ job, job.jobId = jobId → OpensExposure job → ¬ s.Pending job
  | _ => True

/-- No order is pending that was given up, and callers go by drawn ids. -/
structure Forgotten (s : Floor ι) : Prop where
  known : ∀ jobId, (s.callers jobId).isSome → jobId ∈ s.drawn
  gone : ∀ job, OpensExposure job → s.Abandoned job.jobId → ¬ s.Pending job

variable {s after : Floor ι} {event : Event ι}

theorem Forgotten.opening (now : ℤ) : (opening ι now).Forgotten := by
  constructor
  · nofun
  · nofun

theorem Forgotten.noLateOrder (forgotten : s.Forgotten) : s.NoLateOrder event := by
  unfold NoLateOrder
  split
  · intro accountId job process opens abandoned
    exact forgotten.gone job opens abandoned (.inr ⟨_, accountId, process⟩)
  · trivial

variable [DecidableEq ι]

/-- A pending job was pending before, or its id is new. -/
theorem Steps.pending (steps : Steps s event after) {job : Job} (pending : after.Pending job) :
    s.Pending job ∨ job.jobId ∉ s.drawn := by
  rcases pending with ⟨accountId, queued⟩ | ⟨pid, accountId, process⟩
  · rcases steps.queued queued with old | ⟨fresh, _⟩
    · exact .inl (.inl ⟨accountId, old⟩)
    · exact .inr fresh
  · rcases steps.process process with old | ⟨phase, _, follows⟩ | ⟨_, _, _, _, starting⟩
    · exact .inl (.inr ⟨pid, accountId, old⟩)
    · exact .inl (.inl ⟨accountId, (follows.handling job rfl).1⟩)
    · cases starting

/-- **Step lemma.** -/
theorem Forgotten.step (forgotten : s.Forgotten) (clean : s.TimesOutClean event) :
    (s.step event).Forgotten := by
  apply step_of forgotten
  intro after steps
  constructor
  · exact fun jobId => steps.known (forgotten.known jobId)
  · intro job opens abandoned pending
    rcases steps.abandoned abandoned with before | ⟨rfl, deadline, waiting, late⟩
    · rcases steps.pending pending with old | fresh
      · exact forgotten.gone job opens before old
      · exact fresh (forgotten.known _ (by rw [before]; rfl))
    · rcases steps.pending pending with old | fresh
      · exact clean deadline waiting late job rfl opens old
      · exact fresh (forgotten.known _ (by rw [waiting]; rfl))

end Floor

open Floor

/-- **No late orders**, whatever happens to the workers, in a run whose timeouts are all
clean. -/
theorem noLateOrder_of_timesOutClean [DecidableEq ι] {now : ℤ} {events : List (Event ι)}
    (each : EachStep step TimesOutClean (opening ι now) events) :
    EachStep step NoLateOrder (opening ι now) events :=
  EachStep.of_inv (Forgotten.opening now) (fun _ _ forgotten clean => forgotten.step clean)
    (fun _ _ forgotten _ => forgotten.noLateOrder) each

def sampleCredentials : Credentials := ⟨"12345678", "secret", "ICMarketsSC-Demo"⟩

def samplePendingOrder : PendingOrderRequest :=
  ⟨"EURUSD", "0.1", "BUY_LIMIT", "1.1", none, none, "acc"⟩

/-- An order is submitted while the worker logs in. -/
def orderAtLogin : List (Event Unit) :=
  hire () "acc" sampleCredentials ++
    [.worker 0 .getWorkerCreds, .worker 0 .deleteWorkerCreds,
      .caller "j" (.submit "acc" "pending_order" samplePendingOrder.modelDump none),
      .caller "j" .awaitResult]

/-- The login takes longer than the caller waits. -/
def lateOrder : List (Event Unit) :=
  orderAtLogin ++
    [.pass 30000000, .caller "j" .giveUp, .worker 0 (.connect true), .worker 0 .popJob]

/-- The order is executed in time, but its caller does not wait for the answer; the next order
is executed by the same worker. -/
def answeredLate : List (Event Unit) :=
  orderAtLogin ++
    [.worker 0 (.connect true), .worker 0 .popJob,
      .worker 0 (.handle (.ok (.one (.plain (.ok (.dict [])))))), .pass 30000000,
      .caller "j" .giveUp, .worker 0 .pushResult, .worker 0 .expireResult,
      .caller "k" (.submit "acc" "pending_order" samplePendingOrder.modelDump none),
      .worker 0 .popJob, .worker 0 (.handle (.ok (.one (.plain (.ok (.dict []))))))]

theorem noLateOrder_of_timesOutClean_answeredLate :
    (exec step (opening Unit 0) answeredLate).Abandoned "j" ∧
      (∃ result, (exec step (opening Unit 0) answeredLate).processes =
        [⟨"acc", .publishing "k" result⟩]) ∧
      EachStep step NoLateOrder (opening Unit 0) answeredLate := by
  have clean : EachStep step TimesOutClean (opening Unit 0) answeredLate := by
    refine ⟨trivial, trivial, trivial, trivial, trivial, trivial, trivial, trivial, trivial,
      trivial, trivial, trivial, ?_, trivial, trivial, trivial, trivial, trivial, trivial⟩
    intro deadline _ _ job _ _ either
    rcases either with ⟨accountId, queued⟩ | ⟨pid, accountId, process⟩
    · change job ∈ Function.update (Function.update (fun _ => []) "acc" [_]) "acc" [] accountId
        at queued
      by_cases same : accountId = "acc" <;> simp [same] at queued
    · change ([⟨"acc", .publishing "j" _⟩] : List Process)[pid]? = _ at process
      cases pid <;> simp at process
  exact ⟨rfl, ⟨_, rfl⟩, noLateOrder_of_timesOutClean clean⟩

theorem not_noLateOrder_late : ¬ EachStep step NoLateOrder (opening Unit 0)
    (lateOrder ++ [.worker 0 (.handle (.ok (.one (.plain (.ok (.dict []))))))]) := by
  intro each
  have last := eachStep_iff.mp each lateOrder _ (List.prefix_refl _)
  refine last "acc" ⟨"j", "pending_order", samplePendingOrder.modelDump⟩ ?_ (.inr rfl) ?_
  · rfl
  · rfl

end Aegis.Workers
