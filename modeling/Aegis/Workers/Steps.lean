import Aegis.Workers.Floor

/-!
# What one step can do

`Floor.Calls`, `Floor.Manages` and `Floor.Works` list the steps that change something,
with what they find and what they leave; `step_of` says that there are no others.  The
invariants of the floor are proved from these lists.
-/

namespace Aegis.Workers.Floor

open Aegis.Lib Aegis.Payments Aegis.Subscriptions

variable {ι : Type}

inductive Calls (s : Floor ι) (jobId : String) : CallerEvent → Floor ι → Prop
  | submit {accountId jobType : String} {payload : Json} {timeoutSeconds : Option ℕ}
      (fresh : jobId ∉ s.drawn) :
      Calls s jobId (.submit accountId jobType payload timeoutSeconds)
        ((s.submitJob accountId ⟨jobId, jobType, payload⟩).setCaller jobId
          (.submitted timeoutSeconds))
  | served {timeoutSeconds : Option ℕ} {result : JobResult} {rest : List JobResult}
      (caller : s.callers jobId = some (.submitted timeoutSeconds))
      (found : Expiring.read s.now (s.results jobId) = some (result :: rest)) :
      Calls s jobId .awaitResult
        ((s.setResults jobId
          (Expiring.modify s.now Fifo.blpopRest (s.results jobId))).answer jobId (some result))
  | wait {timeoutSeconds : Option ℕ} (caller : s.callers jobId = some (.submitted timeoutSeconds)) :
      Calls s jobId .awaitResult
        (s.setCaller jobId (.waiting (s.now + seconds (timeoutOr timeoutSeconds))))
  | giveUp {deadline : ℤ} (caller : s.callers jobId = some (.waiting deadline))
      (late : deadline ≤ s.now) :
      Calls s jobId .giveUp (s.answer jobId none)

/-- The steps of a process, by the account it works for and the phase that it is in. -/
inductive Works (s : Floor ι) (pid : ℕ) (accountId : String) :
    Phase → WorkerEvent → Floor ι → Prop
  | missing (found : Expiring.read s.now (s.workerCreds accountId) = none) :
      Works s pid accountId .starting .getWorkerCreds (s.setPhase pid .leaving)
  | get {credentials : Credentials}
      (found : Expiring.read s.now (s.workerCreds accountId) = some credentials) :
      Works s pid accountId .starting .getWorkerCreds (s.setPhase pid (.fetched credentials))
  | delete {credentials : Credentials} :
      Works s pid accountId (.fetched credentials) .deleteWorkerCreds
        ((s.setWorkerCreds accountId none).setPhase pid (.connecting credentials))
  | connected {credentials : Credentials} {answer : Bool}
      (accepted : connects credentials answer = true) :
      Works s pid accountId (.connecting credentials) (.connect answer)
        (s.setPhase pid (.ready s.now))
  | refused {credentials : Credentials} {answer : Bool}
      (refused : connects credentials answer = false) :
      Works s pid accountId (.connecting credentials) (.connect answer)
        (s.setPhase pid .leaving)
  | stop {since : ℤ} {job : Job} {rest : List Job}
      (popped : Fifo.brpop (s.queues accountId) = some (job, rest)) (stop : job.jobType = "STOP") :
      Works s pid accountId (.ready since) .popJob
        ((s.setQueue accountId rest).setPhase pid .leaving)
  | take {since : ℤ} {job : Job} {rest : List Job}
      (popped : Fifo.brpop (s.queues accountId) = some (job, rest)) (other : job.jobType ≠ "STOP") :
      Works s pid accountId (.ready since) .popJob
        ((s.setQueue accountId rest).setPhase pid (.handling job))
  | idleOut {since : ℤ} (empty : s.queues accountId = [])
      (late : since + seconds workerIdleTimeoutSeconds ≤ s.now) :
      Works s pid accountId (.ready since) .idleOut (s.setPhase pid .leaving)
  | handle {job : Job} {outcome : Outcome} :
      Works s pid accountId (.handling job) (.handle outcome)
        ((s.setPhase pid (.publishing job.jobId (handleJob job outcome))).log
          (.handled pid job outcome))
  | serve {jobId : String} {result : JobResult} {deadline : ℤ}
      (caller : s.callers jobId = some (.waiting deadline)) :
      Works s pid accountId (.publishing jobId result) .pushResult
        (((s.setPhase pid (.expiring jobId)).log (.published pid jobId result)).answer jobId
          (some result))
  | push {jobId : String} {result : JobResult} :
      Works s pid accountId (.publishing jobId result) .pushResult
        (((s.setPhase pid (.expiring jobId)).log (.published pid jobId result)).setResults jobId
          (Expiring.write s.now [] (Fifo.lpush result) (s.results jobId)))
  | expire {jobId : String} :
      Works s pid accountId (.expiring jobId) .expireResult
        ((s.setResults jobId (Expiring.expire s.now (seconds resultKeyTtlSeconds)
          (s.results jobId))).setPhase pid (.ready s.now))
  | exit : Works s pid accountId .leaving .exit (s.setPhase pid .exited)
  | crash {phase : Phase} : Works s pid accountId phase .crash (s.setPhase pid .exited)

variable {s : Floor ι} {P : Floor ι → Prop}

theorem callerStep_of {jobId : String} {event : CallerEvent} (same : P s)
    (calls : ∀ after, Calls s jobId event after → P after) : P (s.callerStep jobId event) := by
  cases event with
  | submit accountId jobType payload timeoutSeconds =>
      change P (s.submit accountId ⟨jobId, jobType, payload⟩ timeoutSeconds)
      unfold submit
      split
      · exact same
      · next fresh => exact calls _ (.submit fresh)
  | awaitResult =>
      change P (s.awaitResult jobId)
      unfold awaitResult
      split
      · next caller =>
          split
          · next found => exact calls _ (.served caller found)
          · exact calls _ (.wait caller)
      · exact same
  | giveUp =>
      change P (s.giveUp jobId)
      unfold giveUp
      split
      · next caller =>
          split
          · next late => exact calls _ (.giveUp caller late)
          · exact same
      · exact same

theorem workerStep_of {pid : ℕ} {event : WorkerEvent} (same : P s)
    (works : ∀ accountId phase after, s.processes[pid]? = some ⟨accountId, phase⟩ →
      Works s pid accountId phase event after → P after) : P (s.workerStep pid event) := by
  cases event with
  | getWorkerCreds =>
      change P (s.getWorkerCreds pid)
      unfold getWorkerCreds
      split
      · next process =>
          split
          · next found => exact works _ _ _ process (.missing found)
          · next found => exact works _ _ _ process (.get found)
      · exact same
  | deleteWorkerCreds =>
      change P (s.deleteWorkerCreds pid)
      unfold deleteWorkerCreds
      split
      · next process => exact works _ _ _ process .delete
      · exact same
  | connect answer =>
      change P (s.connect pid answer)
      unfold connect
      split
      · next process =>
          split
          · next accepted => exact works _ _ _ process (.connected accepted)
          · next refused => exact works _ _ _ process (.refused (by simpa using refused))
      · exact same
  | popJob =>
      change P (s.popJob pid)
      unfold popJob
      split
      · next process =>
          split
          · next popped =>
              split
              · next stop => exact works _ _ _ process (.stop popped stop)
              · next other => exact works _ _ _ process (.take popped other)
          · exact same
      · exact same
  | idleOut =>
      change P (s.idleOut pid)
      unfold idleOut
      split
      · next process =>
          split
          · next late =>
              exact works _ _ _ process (.idleOut (List.isEmpty_iff.mp late.1) late.2)
          · exact same
      · exact same
  | handle outcome =>
      change P (s.handle pid outcome)
      unfold handle
      split
      · next process => exact works _ _ _ process .handle
      · exact same
  | pushResult =>
      change P (s.pushResult pid)
      unfold pushResult
      split
      · next process =>
          dsimp only
          split
          · next caller => exact works _ _ _ process (.serve caller)
          · exact works _ _ _ process .push
      · exact same
  | expireResult =>
      change P (s.expireResult pid)
      unfold expireResult
      split
      · next process => exact works _ _ _ process .expire
      · exact same
  | exit =>
      change P (s.exit pid)
      unfold exit
      split
      · next process => exact works _ _ _ process .exit
      · exact same
  | crash =>
      change P (s.crash pid)
      unfold crash
      cases process : s.processes[pid]? with
      | some process' => exact works _ _ _ process .crash
      | none =>
          have unchanged : s.setPhase pid .exited = s := by
            unfold setPhase
            rw [List.modify_eq_self (List.getElem?_eq_none_iff.mp process)]
          rw [unchanged]
          exact same

section Manager

variable [DecidableEq ι]

inductive Manages (s : Floor ι) (i : ι) : ManagerEvent → Floor ι → Prop
  | full {accountId : String} {credentials : Credentials} (turn : (s.instances i).turn = .idle) :
      Manages s i (.ensureWorker accountId credentials)
        (s.setInstance i ⟨(s.instances i).workers.erase accountId, .idle⟩)
  | ensureWorker {accountId : String} {credentials : Credentials}
      (turn : (s.instances i).turn = .idle) :
      Manages s i (.ensureWorker accountId credentials)
        (s.setInstance i
          ⟨(s.instances i).workers.erase accountId, .stashing accountId credentials⟩)
  | stash {accountId : String} {credentials : Credentials}
      (turn : (s.instances i).turn = .stashing accountId credentials) :
      Manages s i .stashWorkerCredentials
        ((s.setWorkerCreds accountId (some ⟨credentials, some (s.now + seconds 60)⟩)).setTurn i
          (.spawning accountId))
  | spawn {accountId : String} (turn : (s.instances i).turn = .spawning accountId) :
      Manages s i .spawn
        (({ s with processes := s.processes ++ [⟨accountId, .starting⟩] } : Floor ι).setInstance i
          ⟨(s.instances i).workers.insert accountId s.processes.length, .registering accountId⟩)
  | register {accountId : String} (turn : (s.instances i).turn = .registering accountId) :
      Manages s i .registrySet
        (({ s with workerRegistry := insert accountId s.workerRegistry } : Floor ι).setTurn i
          .idle)
  | stopWorker {accountId : String} (turn : (s.instances i).turn = .idle) :
      Manages s i (.stopWorker accountId)
        (s.setInstance i ⟨(s.instances i).workers.erase accountId,
          .removing accountId ((s.instances i).workers.lookup accountId)⟩)
  | remove {accountId : String} {process : Option ℕ}
      (turn : (s.instances i).turn = .removing accountId process) :
      Manages s i .registryRemove
        (({ s with workerRegistry := s.workerRegistry.erase accountId } : Floor ι).setTurn i
          (.stopping accountId process))
  | release {accountId jobId : String} (turn : (s.instances i).turn = .stopping accountId none)
      (fresh : jobId ∉ s.drawn) :
      Manages s i (.submitStop jobId)
        ((s.submitJob accountId ⟨jobId, "STOP", .dict []⟩).setTurn i .idle)
  | await {accountId jobId : String} {pid : ℕ}
      (turn : (s.instances i).turn = .stopping accountId (some pid)) (fresh : jobId ∉ s.drawn) :
      Manages s i (.submitStop jobId)
        ((s.submitJob accountId ⟨jobId, "STOP", .dict []⟩).setTurn i
          (.waiting accountId pid s.now))
  | gone {accountId : String} {pid : ℕ} {since : ℤ}
      (turn : (s.instances i).turn = .waiting accountId pid since)
      (dead : s.aliveFor accountId pid = false) :
      Manages s i .waited (s.setTurn i .idle)
  | kill {accountId : String} {pid : ℕ} {since : ℤ}
      (turn : (s.instances i).turn = .waiting accountId pid since)
      (alive : s.aliveFor accountId pid = true) (late : since + seconds 5 ≤ s.now) :
      Manages s i .waited ((s.setPhase pid .exited).setTurn i .idle)

inductive Steps (s : Floor ι) : Event ι → Floor ι → Prop
  | pass (microseconds : ℕ) :
      Steps s (.pass microseconds) { s with now := s.now + microseconds }
  | caller {jobId : String} {event : CallerEvent} {after : Floor ι}
      (calls : Calls s jobId event after) : Steps s (.caller jobId event) after
  | manager {i : ι} {event : ManagerEvent} {after : Floor ι}
      (manages : Manages s i event after) : Steps s (.manager i event) after
  | worker {pid : ℕ} {accountId : String} {phase : Phase} {event : WorkerEvent} {after : Floor ι}
      (process : s.processes[pid]? = some ⟨accountId, phase⟩)
      (works : Works s pid accountId phase event after) : Steps s (.worker pid event) after

/-- `ensure_worker` up to its first `await`, with the conditions that its branches check. -/
theorem ensureWorker_of {i : ι} {accountId : String} {credentials : Credentials}
    (same : P s)
    (full : (s.instances i).turn = .idle →
      ¬ ((s.instances i).workers.lookup accountId).any (s.aliveFor accountId) = true →
        P (s.setInstance i ⟨(s.instances i).workers.erase accountId, .idle⟩))
    (hires : (s.instances i).turn = .idle →
      ¬ ((s.instances i).workers.lookup accountId).any (s.aliveFor accountId) = true →
        ((s.instances i).workers.erase accountId).entries.length < Trading.maxConcurrentWorkers →
          P (s.setInstance i
            ⟨(s.instances i).workers.erase accountId, .stashing accountId credentials⟩)) :
    P (s.ensureWorker i accountId credentials) := by
  unfold ensureWorker
  split
  · next turn =>
      dsimp only
      split
      · exact same
      · next free =>
          split
          · exact full turn free
          · next room => exact hires turn free (not_le.mp room)
  · exact same

theorem managerStep_of {i : ι} {event : ManagerEvent} (same : P s)
    (manages : ∀ after, Manages s i event after → P after) : P (s.managerStep i event) := by
  cases event with
  | ensureWorker accountId credentials =>
      exact ensureWorker_of same (fun turn _ => manages _ (.full turn))
        fun turn _ _ => manages _ (.ensureWorker turn)
  | stashWorkerCredentials =>
      change P (s.stashWorkerCredentials i)
      unfold stashWorkerCredentials
      split
      · next turn => exact manages _ (.stash turn)
      · exact same
  | spawn =>
      change P (s.spawn i)
      unfold spawn
      split
      · next turn => exact manages _ (.spawn turn)
      · exact same
  | registrySet =>
      change P (s.registrySet i)
      unfold registrySet
      split
      · next turn => exact manages _ (.register turn)
      · exact same
  | stopWorker accountId =>
      change P (s.stopWorker i accountId)
      unfold stopWorker
      split
      · next turn => exact manages _ (.stopWorker turn)
      · exact same
  | registryRemove =>
      change P (s.registryRemove i)
      unfold registryRemove
      split
      · next turn => exact manages _ (.remove turn)
      · exact same
  | submitStop jobId =>
      change P (s.submitStop i jobId)
      unfold submitStop
      split
      · next process turn =>
          split
          · exact same
          · next fresh =>
              cases process with
              | none => exact manages _ (.release turn fresh)
              | some pid => exact manages _ (.await turn fresh)
      · exact same
  | waited =>
      change P (s.waited i)
      unfold waited
      split
      · next turn =>
          split
          · next dead => exact manages _ (.gone turn (by simpa using dead))
          · next alive =>
              split
              · next late => exact manages _ (.kill turn (by simpa using alive) late)
              · exact same
      · exact same

/-- **One step** changes nothing or is on the list. -/
theorem step_of {event : Event ι} (same : P s) (steps : ∀ after, Steps s event after → P after) :
    P (s.step event) := by
  cases event with
  | pass microseconds => exact steps _ (.pass microseconds)
  | caller jobId event => exact callerStep_of same fun after calls => steps after (.caller calls)
  | manager i event => exact managerStep_of same fun after manages => steps after (.manager manages)
  | worker pid event =>
      exact workerStep_of same fun _ _ after process works => steps after (.worker process works)

end Manager

end Aegis.Workers.Floor
