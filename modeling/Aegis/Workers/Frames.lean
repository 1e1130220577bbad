import Aegis.Workers.Steps

/-!
# What a step leaves alone

Where the queued jobs, the processes, the history and the callers after a step come from.
-/

namespace Aegis.Workers.Floor

open Aegis.Lib Aegis.Payments Aegis.Subscriptions

attribute [local simp] setPhase setInstance setTurn setCaller setQueue setResults setWorkerCreds
  log answer submitJob

variable {ι : Type} {s after : Floor ι}

/-! ## Queues -/

theorem queued_of_submitJob {accountId other : String} {job added : Job}
    (queued : job ∈ (s.submitJob other added).queues accountId) :
    job ∈ s.queues accountId ∨ job = added ∧
      Entry.submitted accountId job (s.alivePids accountId) ∈
        (s.submitJob other added).trace := by
  by_cases own : accountId = other
  · subst own
    have here : job ∈ Fifo.lpush added (s.queues accountId) := by simpa using queued
    rcases Fifo.mem_lpush.mp here with rfl | old
    · exact .inr ⟨rfl, by simp⟩
    · exact .inl old
  · left
    simpa [Function.update_of_ne own] using queued

theorem queued_of_brpop {accountId other : String} {job popped : Job} {rest : List Job}
    (pop : Fifo.brpop (s.queues other) = some (popped, rest))
    (queued : job ∈ (s.setQueue other rest).queues accountId) : job ∈ s.queues accountId := by
  by_cases own : accountId = other
  · subst own
    have here : job ∈ rest := by simpa using queued
    exact (Fifo.mem_of_brpop pop).mpr (.inr here)
  · simpa [Function.update_of_ne own] using queued

/-! ## Processes -/

theorem processes_setPhase (s : Floor ι) (pid other : ℕ) (phase : Phase) :
    (s.setPhase pid phase).processes[other]? =
      if pid = other then s.processes[other]?.map fun process => { process with phase := phase }
      else s.processes[other]? := by
  rw [setPhase, List.getElem?_modify]
  split
  · rfl
  · exact Option.map_id'

theorem aliveFor_iff {accountId : String} {pid : ℕ} :
    s.aliveFor accountId pid = true ↔
      ∃ phase, s.processes[pid]? = some ⟨accountId, phase⟩ ∧ phase.alive = true := by
  unfold aliveFor
  cases found : s.processes[pid]? with
  | none => simp
  | some process =>
      obtain ⟨account, phase⟩ := process
      simp only [Option.any_some, Bool.and_eq_true, decide_eq_true_eq, Option.some.injEq,
        Process.mk.injEq]
      constructor
      · intro both
        exact ⟨phase, ⟨both.1, rfl⟩, both.2⟩
      · intro held
        rcases held with ⟨_, ⟨own, rfl⟩, alive⟩
        exact ⟨own, alive⟩

/-- What a process may turn to. -/
structure Follows (s after : Floor ι) (pid : ℕ) (accountId : String) (phase next : Phase) :
    Prop where
  alive : next.alive = true → phase.alive = true
  handling : ∀ job, next = .handling job → job ∈ s.queues accountId ∧ job.jobType ≠ "STOP"
  publishing : ∀ jobId result, next = .publishing jobId result → ∃ job outcome,
    phase = .handling job ∧ jobId = job.jobId ∧ result = handleJob job outcome ∧
      Entry.handled pid job outcome ∈ after.trace

theorem Works.follows {pid : ℕ} {accountId : String} {phase : Phase} {event : WorkerEvent}
    (works : Works s pid accountId phase event after) :
    ∃ next, after.processes = (s.setPhase pid next).processes ∧
      Follows s after pid accountId phase next := by
  cases works with
  | take popped other =>
      refine ⟨_, rfl, fun _ => rfl, fun job same => ?_, nofun⟩
      cases same
      exact ⟨(Fifo.mem_of_brpop popped).mpr (.inl rfl), other⟩
  | handle =>
      refine ⟨_, rfl, fun _ => rfl, nofun, fun jobId result same => ?_⟩
      cases same
      exact ⟨_, _, rfl, rfl, rfl, by simp⟩
  | exit | crash => exact ⟨_, rfl, nofun, nofun, nofun⟩
  | _ => exact ⟨_, rfl, fun _ => rfl, nofun, nofun⟩

variable [DecidableEq ι] {event : Event ι}

namespace Steps

theorem queued (steps : Steps s event after) {accountId : String} {job : Job}
    (queued : job ∈ after.queues accountId) :
    job ∈ s.queues accountId ∨ job.jobId ∉ s.drawn ∧
      Entry.submitted accountId job (s.alivePids accountId) ∈ after.trace := by
  cases steps with
  | pass => exact .inl queued
  | caller calls =>
      cases calls with
      | submit fresh =>
          rcases queued_of_submitJob queued with old | ⟨rfl, logged⟩
          · exact .inl old
          · exact .inr ⟨fresh, logged⟩
      | served | wait | giveUp => exact .inl queued
  | manager manages =>
      cases manages with
      | release _ fresh | await _ fresh =>
          rcases queued_of_submitJob queued with old | ⟨rfl, logged⟩
          · exact .inl old
          · exact .inr ⟨fresh, logged⟩
      | _ => exact .inl queued
  | worker process works =>
      cases works with
      | stop popped | take popped => exact .inl (queued_of_brpop popped queued)
      | _ => exact .inl queued

theorem process (steps : Steps s event after) {pid : ℕ} {accountId : String} {next : Phase}
    (found : after.processes[pid]? = some ⟨accountId, next⟩) :
    s.processes[pid]? = some ⟨accountId, next⟩ ∨
      (∃ phase, s.processes[pid]? = some ⟨accountId, phase⟩ ∧
        Follows s after pid accountId phase next) ∨
      ∃ i, event = .manager i .spawn ∧ (s.instances i).turn = .spawning accountId ∧
        pid = s.processes.length ∧ next = .starting := by
  cases steps with
  | pass => exact .inl found
  | caller calls => cases calls <;> exact .inl found
  | manager manages =>
      cases manages with
      | spawn turn =>
          simp only [setInstance, List.getElem?_append] at found
          split at found
          · exact .inl found
          · next beyond =>
              have last : pid - s.processes.length = 0 := by
                by_contra more
                simp [List.getElem?_eq_none, Nat.one_le_iff_ne_zero.mpr more] at found
              rw [last] at found
              cases found
              exact .inr (.inr ⟨_, rfl, turn, by omega, rfl⟩)
      | kill turn alive late =>
          change (s.setPhase _ _).processes[pid]? = _ at found
          rw [processes_setPhase] at found
          split at found
          · obtain ⟨⟨account, phase⟩, before, same⟩ := Option.map_eq_some_iff.mp found
            cases same
            exact .inr (.inl ⟨phase, before, nofun, nofun, nofun⟩)
          · exact .inl found
      | _ => exact .inl found
  | @worker worker account phase _ _ process works =>
      obtain ⟨turned, processes, follows⟩ := works.follows
      rw [processes, processes_setPhase] at found
      split at found
      · next own =>
          subst own
          rw [process] at found
          cases found
          exact .inr (.inl ⟨phase, process, follows⟩)
      · exact .inl found

/-! ## The history -/

theorem trace_prefix (steps : Steps s event after) : s.trace <+: after.trace := by
  cases steps with
  | pass => exact List.prefix_refl _
  | caller calls => cases calls <;> simp
  | manager manages => cases manages <;> simp
  | worker process works => cases works <;> simp

theorem mem_trace (steps : Steps s event after) {entry : Entry} (old : entry ∈ s.trace) :
    entry ∈ after.trace :=
  steps.trace_prefix.subset old

/-- At most one job is submitted, under a new id. -/
theorem submissions (steps : Steps s event after) :
    (∀ accountId job alive, Entry.submitted accountId job alive ∈ after.trace →
      Entry.submitted accountId job alive ∈ s.trace) ∨
    ∃ account new, new.jobId ∉ s.drawn ∧ new.jobId ∈ after.drawn ∧
      ∀ accountId job alive, Entry.submitted accountId job alive ∈ after.trace →
        Entry.submitted accountId job alive ∈ s.trace ∨ accountId = account ∧ job = new := by
  cases steps with
  | pass => exact .inl fun _ _ _ entry => entry
  | caller calls =>
      cases calls with
      | @submit account jobType payload _ fresh =>
          refine .inr ⟨account, ⟨_, jobType, payload⟩, fresh, by simp, ?_⟩
          intro accountId job alive entry
          rcases List.mem_append.mp entry with old | new
          · exact .inl old
          · cases List.mem_singleton.mp new
            exact .inr ⟨rfl, rfl⟩
      | served | wait | giveUp =>
          left
          intro accountId job alive entry
          simpa using entry
  | manager manages =>
      cases manages with
      | @release account _ _ fresh | @await account _ _ _ fresh =>
          refine .inr ⟨account, ⟨_, "STOP", .dict []⟩, fresh, by simp, ?_⟩
          intro accountId job alive entry
          rcases List.mem_append.mp entry with old | new
          · exact .inl old
          · cases List.mem_singleton.mp new
            exact .inr ⟨rfl, rfl⟩
      | _ => exact .inl fun _ _ _ entry => entry
  | worker process works =>
      left
      intro accountId job alive entry
      cases works <;> simpa using entry

theorem handled (steps : Steps s event after) {pid : ℕ} {job : Job} {outcome : Outcome}
    (entry : Entry.handled pid job outcome ∈ after.trace) :
    Entry.handled pid job outcome ∈ s.trace ∨ event = .worker pid (.handle outcome) ∧
      ∃ accountId, s.processes[pid]? = some ⟨accountId, .handling job⟩ := by
  cases steps with
  | pass => exact .inl entry
  | caller calls => left; cases calls <;> simpa using entry
  | manager manages => left; cases manages <;> simpa using entry
  | worker process works =>
      cases works with
      | handle =>
          rcases List.mem_append.mp entry with old | new
          · exact .inl old
          · cases List.mem_singleton.mp new
            exact .inr ⟨rfl, _, process⟩
      | _ => left; simpa using entry

theorem published (steps : Steps s event after) {pid : ℕ} {jobId : String} {result : JobResult}
    (entry : Entry.published pid jobId result ∈ after.trace) :
    Entry.published pid jobId result ∈ s.trace ∨
      ∃ accountId, s.processes[pid]? = some ⟨accountId, .publishing jobId result⟩ := by
  cases steps with
  | pass => exact .inl entry
  | caller calls => left; cases calls <;> simpa using entry
  | manager manages => left; cases manages <;> simpa using entry
  | worker process works =>
      cases works with
      | serve | push =>
          simp only [log, answer, setResults, setCaller, setPhase, List.mem_append,
            List.mem_singleton, reduceCtorEq, or_false] at entry
          rcases entry with old | new
          · exact .inl old
          · cases new
            exact .inr ⟨_, process⟩
      | _ => left; simpa using entry

end Steps

/-- The key holds the result, whether its time has come or not. -/
def Stored (s : Floor ι) (jobId : String) (result : JobResult) : Prop :=
  ∃ key, s.results jobId = some key ∧ result ∈ key.value

namespace Steps

theorem returned (steps : Steps s event after) {jobId : String} {result : JobResult}
    (entry : Entry.returned jobId (some result) ∈ after.trace) :
    Entry.returned jobId (some result) ∈ s.trace ∨ s.Stored jobId result ∨
      ∃ pid, Entry.published pid jobId result ∈ after.trace := by
  cases steps with
  | pass => exact .inl entry
  | caller calls =>
      cases calls with
      | served caller found =>
          rcases List.mem_append.mp entry with old | new
          · exact .inl old
          · cases List.mem_singleton.mp new
            obtain ⟨key, stored, value⟩ := Expiring.value_of_read found
            exact .inr (.inl ⟨key, stored, by rw [value]; exact List.mem_cons_self⟩)
      | submit | wait | giveUp => left; simpa using entry
  | manager manages => left; cases manages <;> simpa using entry
  | @worker pid _ _ _ _ process works =>
      cases works with
      | serve =>
          rcases List.mem_append.mp entry with old | new
          · left; simpa using old
          · cases List.mem_singleton.mp new
            exact .inr (.inr ⟨pid, by simp⟩)
      | _ => left; simpa using entry

theorem stored (steps : Steps s event after) {jobId : String} {result : JobResult}
    (stored : after.Stored jobId result) :
    s.Stored jobId result ∨ ∃ pid, Entry.published pid jobId result ∈ after.trace := by
  obtain ⟨key, found, held⟩ := stored
  have unchanged (same : after.results jobId = s.results jobId) : s.Stored jobId result :=
    ⟨key, by rw [← same]; exact found, held⟩
  cases steps with
  | pass => exact .inl (unchanged rfl)
  | @caller other _ _ calls =>
      left
      cases calls with
      | served caller read =>
          by_cases own : jobId = other
          · subst own
            have popped : Expiring.modify s.now Fifo.blpopRest (s.results jobId) = some key := by
              simpa using found
            obtain ⟨before, stored, left⟩ := Expiring.value_of_modify popped
            exact ⟨before, stored, Fifo.mem_of_blpopRest left held⟩
          · exact unchanged (Function.update_of_ne own _ _)
      | submit | wait | giveUp => exact unchanged rfl
  | manager manages => left; cases manages <;> exact unchanged rfl
  | @worker pid _ _ _ _ process works =>
      cases works with
      | @push other pushed =>
          by_cases own : jobId = other
          · subst own
            have wrote : Expiring.write s.now [] (Fifo.lpush pushed) (s.results jobId) =
                some key := by
              simpa using found
            rcases Expiring.value_of_write wrote with alone | ⟨before, stored, value⟩
            · rw [alone] at held
              rcases Fifo.mem_lpush.mp held with rfl | none
              · exact .inr ⟨pid, by simp⟩
              · cases none
            · rw [value] at held
              rcases Fifo.mem_lpush.mp held with rfl | old
              · exact .inr ⟨pid, by simp⟩
              · exact .inl ⟨before, stored, old⟩
          · exact .inl (unchanged (Function.update_of_ne own _ _))
      | @expire other =>
          left
          by_cases own : jobId = other
          · subst own
            have expired : Expiring.expire s.now (seconds resultKeyTtlSeconds)
                (s.results jobId) = some key := by
              simpa using found
            obtain ⟨before, stored, value⟩ := Expiring.value_of_expire expired
            exact ⟨before, stored, by rw [value]; exact held⟩
          · exact unchanged (Function.update_of_ne own _ _)
      | _ => exact .inl (unchanged rfl)

end Steps

/-! ## Callers -/

theorem Steps.abandoned (steps : Steps s event after) {jobId : String}
    (abandoned : after.callers jobId = some (.returned none)) :
    s.callers jobId = some (.returned none) ∨ event = .caller jobId .giveUp ∧
      ∃ deadline, s.callers jobId = some (.waiting deadline) ∧ deadline ≤ s.now := by
  cases steps with
  | pass => exact .inl abandoned
  | @caller other _ _ calls =>
      by_cases own : jobId = other
      · subst own
        cases calls with
        | giveUp caller late => exact .inr ⟨rfl, _, caller, late⟩
        | submit | served | wait => simp at abandoned
      · left
        cases calls <;> simpa [Function.update_of_ne own] using abandoned
  | manager manages => left; cases manages <;> exact abandoned
  | worker process works =>
      left
      cases works with
      | @serve served _ _ caller =>
          by_cases own : jobId = served
          · subst own
            simp at abandoned
          · simpa [Function.update_of_ne own] using abandoned
      | _ => exact abandoned

theorem Steps.drawn (steps : Steps s event after) : s.drawn ⊆ after.drawn := by
  cases steps with
  | pass => exact subset_rfl
  | caller calls => cases calls <;> simp
  | manager manages => cases manages <;> simp
  | worker process works => cases works <;> simp

theorem Steps.known (steps : Steps s event after) {jobId : String}
    (before : (s.callers jobId).isSome → jobId ∈ s.drawn)
    (caller : (after.callers jobId).isSome) : jobId ∈ after.drawn := by
  cases steps with
  | pass => exact before caller
  | @caller other _ _ calls =>
      by_cases own : jobId = other
      · subst own
        cases calls with
        | submit => simp
        | served known | wait known | giveUp known => exact before (by rw [known]; rfl)
      · have earlier : (s.callers jobId).isSome := by
          cases calls <;> simpa [Function.update_of_ne own] using caller
        exact Steps.drawn (.caller calls) (before earlier)
  | manager manages =>
      have earlier : (s.callers jobId).isSome := by cases manages <;> exact caller
      exact Steps.drawn (.manager manages) (before earlier)
  | worker process works =>
      refine Steps.drawn (.worker process works) (before ?_)
      cases works with
      | @serve served _ _ known =>
          by_cases own : jobId = served
          · subst own
            rw [known]
            rfl
          · simpa [Function.update_of_ne own] using caller
      | _ => exact caller

end Aegis.Workers.Floor
