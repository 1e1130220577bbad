import Aegis.Workers.Frames

/-!
# Whose result it is

In every run, whatever workers come and go, what `submit_and_wait` returns is the result
of handling the job that was submitted under its id.
-/

namespace Aegis.Workers.Floor

open Aegis.Lib Aegis.Subscriptions

variable {ι : Type} {s after : Floor ι} {event : Event ι}

def Submitted (s : Floor ι) (accountId : String) (job : Job) : Prop :=
  ∃ alive, Entry.submitted accountId job alive ∈ s.trace

/-- The result is that of a call of `handle_job` by the process. -/
def Produced (s : Floor ι) (pid : ℕ) (jobId : String) (result : JobResult) : Prop :=
  ∃ job outcome, jobId = job.jobId ∧ result = handleJob job outcome ∧
    Entry.handled pid job outcome ∈ s.trace

def Published (s : Floor ι) (jobId : String) (result : JobResult) : Prop :=
  ∃ pid, Entry.published pid jobId result ∈ s.trace

/-- Every job was submitted under an id of its own, every result produced, and every answer
published. -/
structure Honest (s : Floor ι) : Prop where
  drawn : ∀ accountId job, s.Submitted accountId job → job.jobId ∈ s.drawn
  unique : ∀ accountId job, s.Submitted accountId job → ∀ account other,
    s.Submitted account other → other.jobId = job.jobId → account = accountId ∧ other = job
  queued : ∀ accountId, ∀ job ∈ s.queues accountId, s.Submitted accountId job
  handling : ∀ (pid : ℕ) accountId job, s.processes[pid]? = some ⟨accountId, .handling job⟩ →
    s.Submitted accountId job
  handled : ∀ pid job outcome, Entry.handled pid job outcome ∈ s.trace →
    ∃ accountId, s.Submitted accountId job
  publishing : ∀ (pid : ℕ) accountId jobId result,
    s.processes[pid]? = some ⟨accountId, .publishing jobId result⟩ → s.Produced pid jobId result
  published : ∀ pid jobId result, Entry.published pid jobId result ∈ s.trace →
    s.Produced pid jobId result
  stored : ∀ jobId result, s.Stored jobId result → s.Published jobId result
  returned : ∀ jobId result, Entry.returned jobId (some result) ∈ s.trace →
    s.Published jobId result

theorem Honest.opening (now : ℤ) : (opening ι now).Honest where
  drawn := fun _ _ submitted => nomatch submitted.choose_spec
  unique := fun _ _ submitted => nomatch submitted.choose_spec
  queued := nofun
  handling := nofun
  handled := nofun
  publishing := nofun
  published := nofun
  stored := nofun
  returned := nofun

/-- The result was published, for the one job that was submitted under the id. -/
def OwnResult (s : Floor ι) (jobId : String) (result : JobResult) : Prop :=
  ∃ pid accountId job outcome, jobId = job.jobId ∧ result = handleJob job outcome ∧
    s.Submitted accountId job ∧ Entry.handled pid job outcome ∈ s.trace ∧
      Entry.published pid jobId result ∈ s.trace ∧
        ∀ account other, s.Submitted account other → other.jobId = jobId →
          account = accountId ∧ other = job

theorem Honest.own (honest : s.Honest) {jobId : String} {result : JobResult}
    (returned : Entry.returned jobId (some result) ∈ s.trace) : s.OwnResult jobId result := by
  obtain ⟨pid, published⟩ := honest.returned jobId result returned
  obtain ⟨job, outcome, rfl, same, handled⟩ := honest.published pid jobId result published
  obtain ⟨accountId, submitted⟩ := honest.handled pid job outcome handled
  exact ⟨pid, accountId, job, outcome, rfl, same, submitted, handled, published,
    honest.unique accountId job submitted⟩

variable [DecidableEq ι]

namespace Steps

theorem submitted (steps : Steps s event after) {accountId : String} {job : Job}
    (submitted : s.Submitted accountId job) : after.Submitted accountId job := by
  obtain ⟨alive, logged⟩ := submitted
  exact ⟨alive, steps.mem_trace logged⟩

theorem produced (steps : Steps s event after) {pid : ℕ} {jobId : String} {result : JobResult}
    (produced : s.Produced pid jobId result) : after.Produced pid jobId result := by
  obtain ⟨job, outcome, own, same, logged⟩ := produced
  exact ⟨job, outcome, own, same, steps.mem_trace logged⟩

theorem stays (steps : Steps s event after) {jobId : String} {result : JobResult}
    (published : s.Published jobId result) : after.Published jobId result := by
  obtain ⟨pid, logged⟩ := published
  exact ⟨pid, steps.mem_trace logged⟩

end Steps

/-- **Step lemma.** -/
theorem Honest.step (honest : s.Honest) (event : Event ι) : (s.step event).Honest := by
  apply step_of honest
  intro after steps
  constructor
  · intro accountId job submitted
    obtain ⟨alive, entry⟩ := submitted
    rcases steps.submissions with old | ⟨_, _, _, drawn, only⟩
    · exact steps.drawn (honest.drawn accountId job ⟨alive, old accountId job alive entry⟩)
    · rcases only accountId job alive entry with old | ⟨_, rfl⟩
      · exact steps.drawn (honest.drawn accountId job ⟨alive, old⟩)
      · exact drawn
  · intro accountId job ⟨alive, entry⟩ account other ⟨living, record⟩ same
    rcases steps.submissions with old | ⟨_, new, fresh, _, only⟩
    · exact honest.unique accountId job ⟨alive, old _ _ _ entry⟩ account other
        ⟨living, old _ _ _ record⟩ same
    · rcases only _ _ _ entry with old | ⟨rfl, rfl⟩
      · rcases only _ _ _ record with older | ⟨rfl, rfl⟩
        · exact honest.unique accountId job ⟨alive, old⟩ account other ⟨living, older⟩ same
        · rw [same] at fresh
          exact (fresh (honest.drawn accountId job ⟨alive, old⟩)).elim
      · rcases only _ _ _ record with older | ⟨rfl, rfl⟩
        · rw [← same] at fresh
          exact (fresh (honest.drawn account other ⟨living, older⟩)).elim
        · exact ⟨rfl, rfl⟩
  · intro accountId job queued
    rcases steps.queued queued with old | ⟨_, logged⟩
    · exact steps.submitted (honest.queued accountId job old)
    · exact ⟨_, logged⟩
  · intro pid accountId job process
    rcases steps.process process with old | ⟨_, _, follows⟩ | ⟨_, _, _, _, starting⟩
    · exact steps.submitted (honest.handling pid accountId job old)
    · exact steps.submitted (honest.queued accountId job (follows.handling job rfl).1)
    · cases starting
  · intro pid job outcome entry
    rcases steps.handled entry with old | ⟨_, accountId, process⟩
    · obtain ⟨accountId, submitted⟩ := honest.handled pid job outcome old
      exact ⟨accountId, steps.submitted submitted⟩
    · exact ⟨accountId, steps.submitted (honest.handling pid accountId job process)⟩
  · intro pid accountId jobId result process
    rcases steps.process process with old | ⟨_, _, follows⟩ | ⟨_, _, _, _, starting⟩
    · exact steps.produced (honest.publishing pid accountId jobId result old)
    · obtain ⟨job, outcome, _, own, same, logged⟩ := follows.publishing jobId result rfl
      exact ⟨job, outcome, own, same, logged⟩
    · cases starting
  · intro pid jobId result entry
    rcases steps.published entry with old | ⟨accountId, process⟩
    · exact steps.produced (honest.published pid jobId result old)
    · exact steps.produced (honest.publishing pid accountId jobId result process)
  · intro jobId result stored
    rcases steps.stored stored with old | published
    · exact steps.stays (honest.stored jobId result old)
    · exact published
  · intro jobId result entry
    rcases steps.returned entry with old | stored | published
    · exact steps.stays (honest.returned jobId result old)
    · exact steps.stays (honest.stored jobId result stored)
    · exact published

end Aegis.Workers.Floor
