import Mathlib.Algebra.Order.Group.Int
import Mathlib.Data.List.Infix
import Mathlib.Data.List.Range
import Aegis.Lib.Fifo
import Aegis.Lib.Run
import Aegis.Trading.Desk

/-!
# The worker floor

API instances, worker processes and callers of `submit_and_wait` over one Redis:
`JobQueueService`, `WorkerPoolManager` and `run_worker`, one Redis command or one piece of
code without `await` at a time.  An event that is not possible in a state leaves it as it
is, so that a run is any sequence of events.

Processes are numbered as they are spawned, and a call of `submit_and_wait` goes by the id
that it draws.  `Floor.trace` is a history variable.
-/

namespace Aegis.Workers

open Aegis.Lib Aegis.Payments Aegis.Subscriptions

/-! ## Processes, instances, callers -/

/-- The credentials that `connect` hands to `ensure_worker`. -/
structure Credentials where
  login : String
  password : String
  server : String
  deriving DecidableEq

/-- Where a worker process is in `run_worker`. -/
inductive Phase where
  /-- before the `GET` of `fetch_worker_credentials` -/
  | starting
  /-- before its `DEL` -/
  | fetched (credentials : Credentials)
  /-- in `MT5ExecutionService.connect` -/
  | connecting (credentials : Credentials)
  /-- in `pop_job`, since the time -/
  | ready (since : ℤ)
  /-- in the method that `handle_job` calls -/
  | handling (job : Job)
  /-- before the `LPUSH` of `push_result` -/
  | publishing (jobId : String) (result : JobResult)
  /-- before its `EXPIRE` -/
  | expiring (jobId : String)
  /-- past `run_worker`, or in its `finally` -/
  | leaving
  | exited

/-- `poll() is None`. -/
def Phase.alive : Phase → Bool
  | exited => false
  | _ => true

structure Process where
  accountId : String
  phase : Phase

/-- What the holder of an instance's `_lock` does next. -/
inductive Turn where
  /-- the lock is free -/
  | idle
  /-- the `SET` of `stash_worker_credentials` -/
  | stashing (accountId : String) (credentials : Credentials)
  /-- `subprocess.Popen` -/
  | spawning (accountId : String)
  /-- `_registry_set` -/
  | registering (accountId : String)
  /-- `_registry_remove` -/
  | removing (accountId : String) (process : Option ℕ)
  /-- the `submit_job` of the `STOP` job -/
  | stopping (accountId : String) (process : Option ℕ)
  /-- `process.wait(timeout=5)`, since the time -/
  | waiting (accountId : String) (pid : ℕ) (since : ℤ)

/-- A `WorkerPoolManager`. -/
structure Instance where
  /-- `_workers` -/
  workers : AList fun _ : String => ℕ
  turn : Turn

/-- Where a call of `submit_and_wait` is. -/
inductive Caller where
  | submitted (timeoutSeconds : Option ℕ)
  /-- in the `BLPOP` of `await_result` -/
  | waiting (deadline : ℤ)
  | returned (result : Option JobResult)

/-- What the history variable records. -/
inductive Entry where
  /-- `submit_job`, with the processes of the account that were alive -/
  | submitted (accountId : String) (job : Job) (alive : List ℕ)
  /-- a call of `handle_job` that came to the outcome -/
  | handled (pid : ℕ) (job : Job) (outcome : Outcome)
  | published (pid : ℕ) (jobId : String) (result : JobResult)
  /-- what `submit_and_wait` returned -/
  | returned (jobId : String) (result : Option JobResult)

structure Floor (ι : Type) where
  now : ℤ
  /-- `queue:account:{account_id}` -/
  queues : String → List Job
  /-- `result:{job_id}` -/
  results : String → Option (Expiring ℤ (List JobResult))
  /-- `worker_creds:{account_id}` -/
  workerCreds : String → Option (Expiring ℤ Credentials)
  /-- the fields of `worker_registry` -/
  workerRegistry : Finset String
  instances : ι → Instance
  processes : List Process
  callers : String → Option Caller
  /-- the ids that `uuid4` has drawn -/
  drawn : Finset String
  trace : List Entry

/-- `WORKER_IDLE_TIMEOUT_SECONDS`. -/
def workerIdleTimeoutSeconds : ℤ := 900

/-- `WORKER_JOB_TIMEOUT_SECONDS`. -/
def workerJobTimeoutSeconds : ℤ := 30

/-- `RESULT_KEY_TTL_SECONDS`. -/
def resultKeyTtlSeconds : ℤ := 60

/-- `timeout_seconds or settings.WORKER_JOB_TIMEOUT_SECONDS`. -/
def timeoutOr : Option ℕ → ℤ
  | none | some 0 => workerJobTimeoutSeconds
  | some timeout => timeout

namespace Floor

variable {ι : Type} [DecidableEq ι]

/-- An empty Redis at the time, and instances without workers. -/
def opening (ι : Type) (now : ℤ) : Floor ι where
  now := now
  queues := fun _ => []
  results := fun _ => none
  workerCreds := fun _ => none
  workerRegistry := ∅
  instances := fun _ => ⟨∅, .idle⟩
  processes := []
  callers := fun _ => none
  drawn := ∅
  trace := []

variable (s : Floor ι)

def log (entry : Entry) : Floor ι := { s with trace := s.trace ++ [entry] }

/-- The process, once spawned, is of the account and has not exited. -/
def aliveFor (accountId : String) (pid : ℕ) : Bool :=
  s.processes[pid]?.any fun process => process.accountId = accountId && process.phase.alive

def alivePids (accountId : String) : List ℕ :=
  (List.range s.processes.length).filter (s.aliveFor accountId)

def setPhase (pid : ℕ) (phase : Phase) : Floor ι :=
  { s with processes := s.processes.modify pid fun process => { process with phase := phase } }

def setInstance (i : ι) (held : Instance) : Floor ι :=
  { s with instances := Function.update s.instances i held }

def setTurn (i : ι) (turn : Turn) : Floor ι :=
  s.setInstance i { s.instances i with turn := turn }

def setCaller (jobId : String) (caller : Caller) : Floor ι :=
  { s with callers := Function.update s.callers jobId (some caller) }

def setQueue (accountId : String) (jobs : List Job) : Floor ι :=
  { s with queues := Function.update s.queues accountId jobs }

def setResults (jobId : String) (key : Option (Expiring ℤ (List JobResult))) : Floor ι :=
  { s with results := Function.update s.results jobId key }

def setWorkerCreds (accountId : String) (key : Option (Expiring ℤ Credentials)) : Floor ι :=
  { s with workerCreds := Function.update s.workerCreds accountId key }

/-! ## Callers -/

/-- `submit_job`. -/
def submitJob (accountId : String) (job : Job) : Floor ι :=
  { s.setQueue accountId (Fifo.lpush job (s.queues accountId)) with
    drawn := insert job.jobId s.drawn }.log (.submitted accountId job (s.alivePids accountId))

/-- The first half of `submit_and_wait`.  `uuid4` never draws an id twice. -/
def submit (accountId : String) (job : Job) (timeoutSeconds : Option ℕ) : Floor ι :=
  if job.jobId ∈ s.drawn then s
  else (s.submitJob accountId job).setCaller job.jobId (.submitted timeoutSeconds)

/-- `submit_and_wait` returns. -/
def answer (jobId : String) (result : Option JobResult) : Floor ι :=
  (s.setCaller jobId (.returned result)).log (.returned jobId result)

/-- `BLPOP result:{job_id}` as it is issued. -/
def awaitResult (jobId : String) : Floor ι :=
  match s.callers jobId with
  | some (.submitted timeoutSeconds) =>
      match Expiring.read s.now (s.results jobId) with
      | some (result :: _) =>
          (s.setResults jobId
            (Expiring.modify s.now Fifo.blpopRest (s.results jobId))).answer jobId (some result)
      | _ => s.setCaller jobId (.waiting (s.now + seconds (timeoutOr timeoutSeconds)))
  | _ => s

/-- The `BLPOP` runs out. -/
def giveUp (jobId : String) : Floor ι :=
  match s.callers jobId with
  | some (.waiting deadline) => if deadline ≤ s.now then s.answer jobId none else s
  | _ => s

/-! ## Instances -/

/-- `ensure_worker` up to its first `await`. -/
def ensureWorker (i : ι) (accountId : String) (credentials : Credentials) : Floor ι :=
  match (s.instances i).turn with
  | .idle =>
      let workers := (s.instances i).workers
      if (workers.lookup accountId).any (s.aliveFor accountId) then s
      else if (workers.erase accountId).entries.length ≥ Trading.maxConcurrentWorkers then
        s.setInstance i ⟨workers.erase accountId, .idle⟩
      else s.setInstance i ⟨workers.erase accountId, .stashing accountId credentials⟩
  | _ => s

/-- `SET worker_creds:{account_id} ... EX 60`. -/
def stashWorkerCredentials (i : ι) : Floor ι :=
  match (s.instances i).turn with
  | .stashing accountId credentials =>
      (s.setWorkerCreds accountId (some ⟨credentials, some (s.now + seconds 60)⟩)).setTurn i
        (.spawning accountId)
  | _ => s

def spawn (i : ι) : Floor ι :=
  match (s.instances i).turn with
  | .spawning accountId =>
      ({ s with processes := s.processes ++ [⟨accountId, .starting⟩] } : Floor ι).setInstance i
        ⟨(s.instances i).workers.insert accountId s.processes.length, .registering accountId⟩
  | _ => s

/-- `_registry_set`. -/
def registrySet (i : ι) : Floor ι :=
  match (s.instances i).turn with
  | .registering accountId =>
      { s with workerRegistry := insert accountId s.workerRegistry }.setTurn i .idle
  | _ => s

/-- `stop_worker` up to its first `await`. -/
def stopWorker (i : ι) (accountId : String) : Floor ι :=
  match (s.instances i).turn with
  | .idle =>
      let workers := (s.instances i).workers
      s.setInstance i ⟨workers.erase accountId, .removing accountId (workers.lookup accountId)⟩
  | _ => s

/-- `_registry_remove`. -/
def registryRemove (i : ι) : Floor ι :=
  match (s.instances i).turn with
  | .removing accountId process =>
      { s with workerRegistry := s.workerRegistry.erase accountId }.setTurn i
        (.stopping accountId process)
  | _ => s

/-- The `STOP` job.  Without a process of its own the instance is done. -/
def submitStop (i : ι) (jobId : String) : Floor ι :=
  match (s.instances i).turn with
  | .stopping accountId process =>
      if jobId ∈ s.drawn then s
      else (s.submitJob accountId ⟨jobId, "STOP", .dict []⟩).setTurn i
        (match process with
          | none => .idle
          | some pid => .waiting accountId pid s.now)
  | _ => s

/-- `process.wait(timeout=5)` returns, or `process.kill()` follows. -/
def waited (i : ι) : Floor ι :=
  match (s.instances i).turn with
  | .waiting accountId pid since =>
      if !s.aliveFor accountId pid then s.setTurn i .idle
      else if since + seconds 5 ≤ s.now then (s.setPhase pid .exited).setTurn i .idle
      else s
  | _ => s

/-! ## Worker processes -/

/-- The `GET` of `fetch_worker_credentials`. -/
def getWorkerCreds (pid : ℕ) : Floor ι :=
  match s.processes[pid]? with
  | some ⟨accountId, .starting⟩ =>
      match Expiring.read s.now (s.workerCreds accountId) with
      | none => s.setPhase pid .leaving
      | some credentials => s.setPhase pid (.fetched credentials)
  | _ => s

/-- Its `DEL`. -/
def deleteWorkerCreds (pid : ℕ) : Floor ι :=
  match s.processes[pid]? with
  | some ⟨accountId, .fetched credentials⟩ =>
      (s.setWorkerCreds accountId none).setPhase pid (.connecting credentials)
  | _ => s

end Floor

/-- `MT5ExecutionService.connect` with `DEMO_ONLY`, given the answer of the adapter. -/
def connects (credentials : Credentials) (answer : Bool) : Bool :=
  let server := (lower credentials.server).toList
  if ¬ "demo".toList <:+: server ∧ ¬ "practice".toList <:+: server then false else answer

namespace Floor

variable {ι : Type} [DecidableEq ι] (s : Floor ι)

def connect (pid : ℕ) (answer : Bool) : Floor ι :=
  match s.processes[pid]? with
  | some ⟨_, .connecting credentials⟩ =>
      s.setPhase pid (if connects credentials answer then .ready s.now else .leaving)
  | _ => s

/-- `BRPOP queue:account:{account_id}` returns a job, and the loop goes on with it. -/
def popJob (pid : ℕ) : Floor ι :=
  match s.processes[pid]? with
  | some ⟨accountId, .ready _⟩ =>
      match Fifo.brpop (s.queues accountId) with
      | some (job, rest) =>
          (s.setQueue accountId rest).setPhase pid
            (if job.jobType = "STOP" then .leaving else .handling job)
      | none => s
  | _ => s

/-- The `BRPOP` runs out. -/
def idleOut (pid : ℕ) : Floor ι :=
  match s.processes[pid]? with
  | some ⟨accountId, .ready since⟩ =>
      if (s.queues accountId).isEmpty ∧ since + seconds workerIdleTimeoutSeconds ≤ s.now then
        s.setPhase pid .leaving
      else s
  | _ => s

/-- `handle_job` up to the result that it pushes. -/
def handle (pid : ℕ) (outcome : Outcome) : Floor ι :=
  match s.processes[pid]? with
  | some ⟨_, .handling job⟩ =>
      (s.setPhase pid (.publishing job.jobId (handleJob job outcome))).log
        (.handled pid job outcome)
  | _ => s

/-- `LPUSH result:{job_id}`: a caller that waits for the key is served at once. -/
def pushResult (pid : ℕ) : Floor ι :=
  match s.processes[pid]? with
  | some ⟨_, .publishing jobId result⟩ =>
      let pushed := (s.setPhase pid (.expiring jobId)).log (.published pid jobId result)
      match s.callers jobId with
      | some (.waiting _) => pushed.answer jobId (some result)
      | _ => pushed.setResults jobId
          (Expiring.write s.now [] (Fifo.lpush result) (s.results jobId))
  | _ => s

/-- `EXPIRE result:{job_id} 60`. -/
def expireResult (pid : ℕ) : Floor ι :=
  match s.processes[pid]? with
  | some ⟨_, .expiring jobId⟩ =>
      (s.setResults jobId (Expiring.expire s.now (seconds resultKeyTtlSeconds)
        (s.results jobId))).setPhase pid (.ready s.now)
  | _ => s

def exit (pid : ℕ) : Floor ι :=
  match s.processes[pid]? with
  | some ⟨_, .leaving⟩ => s.setPhase pid .exited
  | _ => s

def crash (pid : ℕ) : Floor ι := s.setPhase pid .exited

end Floor

/-! ## Events -/

/-- What a call of `submit_and_wait` does. -/
inductive CallerEvent where
  | submit (accountId jobType : String) (payload : Json) (timeoutSeconds : Option ℕ)
  | awaitResult
  | giveUp

inductive ManagerEvent where
  | ensureWorker (accountId : String) (credentials : Credentials)
  | stashWorkerCredentials
  | spawn
  | registrySet
  | stopWorker (accountId : String)
  | registryRemove
  | submitStop (jobId : String)
  | waited

inductive WorkerEvent where
  | getWorkerCreds
  | deleteWorkerCreds
  | connect (answer : Bool)
  | popJob
  | idleOut
  | handle (outcome : Outcome)
  | pushResult
  | expireResult
  | exit
  | crash

inductive Event (ι : Type) where
  | pass (microseconds : ℕ)
  | caller (jobId : String) (event : CallerEvent)
  | manager (i : ι) (event : ManagerEvent)
  | worker (pid : ℕ) (event : WorkerEvent)

namespace Floor

variable {ι : Type} [DecidableEq ι] (s : Floor ι)

def callerStep (jobId : String) : CallerEvent → Floor ι
  | .submit accountId jobType payload timeoutSeconds =>
      s.submit accountId ⟨jobId, jobType, payload⟩ timeoutSeconds
  | .awaitResult => s.awaitResult jobId
  | .giveUp => s.giveUp jobId

def managerStep (i : ι) : ManagerEvent → Floor ι
  | .ensureWorker accountId credentials => s.ensureWorker i accountId credentials
  | .stashWorkerCredentials => s.stashWorkerCredentials i
  | .spawn => s.spawn i
  | .registrySet => s.registrySet i
  | .stopWorker accountId => s.stopWorker i accountId
  | .registryRemove => s.registryRemove i
  | .submitStop jobId => s.submitStop i jobId
  | .waited => s.waited i

def workerStep (pid : ℕ) : WorkerEvent → Floor ι
  | .getWorkerCreds => s.getWorkerCreds pid
  | .deleteWorkerCreds => s.deleteWorkerCreds pid
  | .connect answer => s.connect pid answer
  | .popJob => s.popJob pid
  | .idleOut => s.idleOut pid
  | .handle outcome => s.handle pid outcome
  | .pushResult => s.pushResult pid
  | .expireResult => s.expireResult pid
  | .exit => s.exit pid
  | .crash => s.crash pid

def step : Event ι → Floor ι
  | .pass microseconds => { s with now := s.now + microseconds }
  | .caller jobId event => s.callerStep jobId event
  | .manager i event => s.managerStep i event
  | .worker pid event => s.workerStep pid event

end Floor

/-! ## Scripts -/

/-- An `ensure_worker` that spawns. -/
def hire {ι : Type} (i : ι) (accountId : String) (credentials : Credentials) : List (Event ι) :=
  [.manager i (.ensureWorker accountId credentials), .manager i .stashWorkerCredentials,
    .manager i .spawn, .manager i .registrySet]

/-- A process comes up and connects. -/
def logIn {ι : Type} (pid : ℕ) : List (Event ι) :=
  [.worker pid .getWorkerCreds, .worker pid .deleteWorkerCreds, .worker pid (.connect true)]

/-- A `stop_worker` up to its wait. -/
def dismiss {ι : Type} (i : ι) (accountId jobId : String) : List (Event ι) :=
  [.manager i (.stopWorker accountId), .manager i .registryRemove,
    .manager i (.submitStop jobId)]

end Aegis.Workers
