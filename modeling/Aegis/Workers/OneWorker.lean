import Aegis.Lib.Line
import Aegis.Workers.Results

/-!
# One worker and its queue

An account with one worker is a line with one server: its jobs are handled in the order in
which they are submitted, and each call of `handle_job` publishes one result.
-/

namespace Aegis.Workers

open Aegis.Lib Aegis.Subscriptions

/-! ## The history of an account and of a process -/

namespace Entry

def submittedTo (accountId : String) : Entry → Option Job
  | submitted other job _ => if other = accountId then some job else none
  | _ => none

def handledBy (pid : ℕ) : Entry → Option (Job × Outcome)
  | handled other job outcome => if other = pid then some (job, outcome) else none
  | _ => none

def publishedBy (pid : ℕ) : Entry → Option (String × JobResult)
  | published other jobId result => if other = pid then some (jobId, result) else none
  | _ => none

end Entry

def Phase.station : Phase → Station Job (String × JobResult)
  | .handling job => .busy job
  | .publishing jobId result => .done (jobId, result)
  | .leaving | .exited => .gone
  | _ => .free

/-- The result that is pushed for a call of `handle_job`. -/
def resultOf (call : Job × Outcome) : String × JobResult :=
  (call.1.jobId, handleJob call.1 call.2)

namespace Floor

variable {ι : Type}

/-- The jobs that were submitted for the account, in order. -/
def submittedTo (s : Floor ι) (accountId : String) : List Job :=
  s.trace.filterMap (Entry.submittedTo accountId)

/-- The calls of `handle_job` by the process, with what they came to. -/
def handledBy (s : Floor ι) (pid : ℕ) : List (Job × Outcome) :=
  s.trace.filterMap (Entry.handledBy pid)

def publishedBy (s : Floor ι) (pid : ℕ) : List (String × JobResult) :=
  s.trace.filterMap (Entry.publishedBy pid)

/-- A process that is not there yet is free. -/
def stationOf (s : Floor ι) (pid : ℕ) : Station Job (String × JobResult) :=
  s.processes[pid]?.elim .free (·.phase.station)

def line (s : Floor ι) (accountId : String) (pid : ℕ) :
    Line Job Outcome (String × JobResult) where
  station := s.stationOf pid
  waiting := Fifo.waiting (s.queues accountId)
  submitted := s.submittedTo accountId
  handled := s.handledBy pid
  published := s.publishedBy pid

/-- The account has one worker, number `pid`, that neither crashes nor is killed. -/
def Alone (accountId : String) (pid : ℕ) (s : Floor ι) : Event ι → Prop
  | .manager i .spawn => ∀ other, (s.instances i).turn = .spawning other →
      (other = accountId ↔ s.processes.length = pid)
  | .manager i .waited => ∀ since, (s.instances i).turn = .waiting accountId pid since →
      s.aliveFor accountId pid = true → s.now < since + seconds 5
  | .worker other .crash => other ≠ pid
  | _ => True

/-- A method that returns a value that can be published, or raises. -/
def Publishable (outcome : Outcome) : Prop := ∀ value, outcome = .ok value → value.Serialisable

variable {s after : Floor ι} {accountId : String} {pid : ℕ}

/-! ## The floor as a line -/

section Simulation

attribute [local simp] setPhase setInstance setTurn setCaller setQueue setResults setWorkerCreds
  log answer submitJob submittedTo handledBy publishedBy Entry.submittedTo Entry.handledBy
  Entry.publishedBy line stationOf Phase.station

/-- As before, or after a move. -/
def Moves (s after : Floor ι) (accountId : String) (pid : ℕ) : Prop :=
  after.line accountId pid = s.line accountId pid ∨
    Line.Move resultOf (s.line accountId pid) (after.line accountId pid)

theorem Moves.of_eq {line : Line Job Outcome (String × JobResult)}
    (move : Line.Move resultOf (s.line accountId pid) line)
    (same : after.line accountId pid = line) : s.Moves after accountId pid := by
  rw [← same] at move
  exact .inr move

theorem moves_submitJob {other : String} {job : Job}
    (same : after.line accountId pid = (s.submitJob other job).line accountId pid) :
    s.Moves after accountId pid := by
  by_cases own : other = accountId
  · subst own
    refine .of_eq (.submit job) (same.trans ?_)
    simp [Fifo.waiting_lpush]
  · refine .inl (same.trans ?_)
    simp [own, Ne.symm own, Function.update_of_ne]

theorem Calls.moves {jobId : String} {event : CallerEvent} (calls : Calls s jobId event after) :
    s.Moves after accountId pid := by
  cases calls with
  | submit fresh => exact moves_submitJob rfl
  | wait => exact .inl rfl
  | served | giveUp => exact .inl (by simp)

theorem stationOf_setPhase {account : String} {phase next : Phase}
    (process : s.processes[pid]? = some ⟨account, phase⟩)
    (turned : after.processes = (s.setPhase pid next).processes) :
    after.stationOf pid = next.station := by
  rw [stationOf, turned, processes_setPhase, if_pos rfl, process]
  rfl

/-- A move of the line that the process makes by turning to its next phase. -/
theorem Moves.of_turned {account : String} {phase next : Phase} {jobs : List Job}
    {line : Line Job Outcome (String × JobResult)}
    (move : Line.Move resultOf (s.line accountId pid) line)
    (process : s.processes[pid]? = some ⟨account, phase⟩)
    (turned : after.processes = (s.setPhase pid next).processes)
    (queue : after.queues accountId = jobs)
    (same : ⟨next.station, Fifo.waiting jobs, after.submittedTo accountId, after.handledBy pid,
      after.publishedBy pid⟩ = line) : s.Moves after accountId pid := by
  refine .of_eq move (Eq.trans ?_ same)
  rw [Floor.line, stationOf_setPhase process turned, queue]

/-- A phase that stands for the same station. -/
theorem moves_of_station (station : after.stationOf pid = s.stationOf pid)
    (queue : after.queues accountId = s.queues accountId) (trace : after.trace = s.trace) :
    s.Moves after accountId pid := by
  left
  rw [line, station, queue, submittedTo, handledBy, publishedBy, trace]
  rfl

/-- The worker of the account itself. -/
theorem Works.moves {phase : Phase} {event : WorkerEvent}
    (process : s.processes[pid]? = some ⟨accountId, phase⟩)
    (works : Works s pid accountId phase event after) (sound : event ≠ .crash) :
    s.Moves after accountId pid := by
  have station : s.stationOf pid = phase.station := by
    rw [stationOf, process]
    rfl
  cases works with
  | missing | refused | idleOut =>
      exact .of_turned (.leave station (s.line accountId pid).waiting) process rfl rfl rfl
  | get | delete | connected | expire | exit =>
      exact moves_of_station ((stationOf_setPhase process rfl).trans station.symm) rfl rfl
  | @stop _ _ rest popped stop =>
      exact .of_turned (.leave station (Fifo.waiting rest)) process rfl
        (Function.update_self _ _ _) rfl
  | take popped other =>
      exact .of_turned (.take station (Fifo.waiting_of_brpop popped)) process rfl
        (Function.update_self _ _ _) rfl
  | @handle job outcome =>
      exact .of_turned (.finish outcome station) process rfl rfl (by simp [resultOf])
  | serve | push => exact .of_turned (.publish station) process rfl rfl (by simp)
  | crash => exact (sound rfl).elim

/-- A worker of another account. -/
theorem Works.moves_other {worker : ℕ} {other : String} {phase : Phase} {event : WorkerEvent}
    (works : Works s worker other phase event after) (apart : worker ≠ pid)
    (elsewhere : other ≠ accountId) : s.Moves after accountId pid := by
  have station : after.stationOf pid = s.stationOf pid := by
    obtain ⟨next, processes, _⟩ := works.follows
    rw [stationOf, processes, processes_setPhase, if_neg apart, stationOf]
  cases works with
  | stop | take =>
      exact moves_of_station station (Function.update_of_ne (Ne.symm elsewhere) _ _) rfl
  | handle | serve | push =>
      left
      rw [line, station]
      simp [apart]
  | _ => exact moves_of_station station rfl rfl

/-- A new process is free, as one that is not there yet. -/
theorem stationOf_append {other : String}
    (processes : after.processes = s.processes ++ [⟨other, .starting⟩]) :
    after.stationOf pid = s.stationOf pid := by
  unfold stationOf
  rw [processes, List.getElem?_append]
  by_cases within : pid < s.processes.length
  · rw [if_pos within]
  · rw [if_neg within, List.getElem?_eq_none (not_lt.mp within)]
    cases pid - s.processes.length with
    | zero => rfl
    | succ more => rfl

theorem Manages.moves [DecidableEq ι] {i : ι} {event : ManagerEvent}
    (manages : Manages s i event after)
    (ours : ∀ other phase, s.processes[pid]? = some ⟨other, phase⟩ → other = accountId)
    (alone : s.Alone accountId pid (.manager i event)) : s.Moves after accountId pid := by
  cases manages with
  | release | await => exact moves_submitJob rfl
  | spawn turn =>
      left
      rw [line, stationOf_append rfl]
      rfl
  | @kill other victim since turn alive late =>
      have spared : victim ≠ pid := by
        intro same
        rcases same with rfl
        obtain ⟨phase, process, _⟩ := aliveFor_iff.mp alive
        rw [ours other phase process] at turn alive
        exact absurd (alone since turn alive) (not_lt.mpr late)
      left
      simp [spared]
  | _ => exact .inl rfl

theorem submittedTo_submitJob {other : String} {job : Job} (fresh : job.jobId ∉ s.drawn)
    (drawn : job.jobId ∈ after.drawn)
    (same : after.submittedTo accountId = (s.submitJob other job).submittedTo accountId) :
    after.submittedTo accountId = s.submittedTo accountId ∨
      ∃ job, job.jobId ∉ s.drawn ∧ job.jobId ∈ after.drawn ∧
        after.submittedTo accountId = s.submittedTo accountId ++ [job] := by
  by_cases own : other = accountId
  · subst own
    exact .inr ⟨job, fresh, drawn, same.trans (by simp)⟩
  · exact .inl (same.trans (by simp [own]))

variable [DecidableEq ι] {event : Event ι}

/-- Jobs are submitted one at a time, under new ids. -/
theorem Steps.submittedTo (steps : Steps s event after) (accountId : String) :
    after.submittedTo accountId = s.submittedTo accountId ∨
      ∃ job, job.jobId ∉ s.drawn ∧ job.jobId ∈ after.drawn ∧
        after.submittedTo accountId = s.submittedTo accountId ++ [job] := by
  cases steps with
  | pass => exact .inl rfl
  | caller calls =>
      cases calls with
      | submit fresh => exact submittedTo_submitJob fresh (by simp) rfl
      | wait => exact .inl rfl
      | served | giveUp => exact .inl (by simp)
  | manager manages =>
      cases manages with
      | release _ fresh | await _ fresh => exact submittedTo_submitJob fresh (by simp) rfl
      | _ => exact .inl rfl
  | worker process works =>
      cases works with
      | handle | serve | push => exact .inl (by simp)
      | _ => exact .inl rfl

end Simulation

theorem mem_handledBy {job : Job} {outcome : Outcome} :
    (job, outcome) ∈ s.handledBy pid ↔ Entry.handled pid job outcome ∈ s.trace := by
  unfold handledBy
  rw [List.mem_filterMap]
  constructor
  · intro held
    rcases held with ⟨entry, logged, same⟩
    cases entry with
    | handled other _ _ =>
        rw [Entry.handledBy] at same
        split at same
        · next own =>
            subst own
            cases same
            exact logged
        · cases same
    | submitted | published | returned => cases same
  · exact fun logged => ⟨_, logged, if_pos rfl⟩

/-! ## The invariant -/

/-- The account's worker is number `pid`, and the floor with it is a sound line. -/
structure Serving (accountId : String) (pid : ℕ) (s : Floor ι) : Prop where
  only : ∀ (other : ℕ) phase, s.processes[other]? = some ⟨accountId, phase⟩ → other = pid
  ours : ∀ other phase, s.processes[pid]? = some ⟨other, phase⟩ → other = accountId
  sober : ∀ other job, s.processes[pid]? = some ⟨other, .handling job⟩ → job.jobType ≠ "STOP"
  sound : (s.line accountId pid).Sound resultOf
  drawn : ∀ job ∈ s.submittedTo accountId, job.jobId ∈ s.drawn
  unique : ((s.submittedTo accountId).map (·.jobId)).Nodup
  proper : ∀ job outcome, Entry.handled pid job outcome ∈ s.trace → job.jobType ≠ "STOP"

theorem Serving.opening (now : ℤ) : Serving accountId pid (opening ι now) where
  only := nofun
  ours := nofun
  sober := nofun
  sound := ⟨rfl, rfl⟩
  drawn := nofun
  unique := List.nodup_nil
  proper := nofun

section Step

variable [DecidableEq ι] {event : Event ι}

theorem Steps.moves (steps : Steps s event after) (serving : Serving accountId pid s)
    (alone : s.Alone accountId pid event) : s.Moves after accountId pid := by
  cases steps with
  | pass => exact .inl rfl
  | caller calls => exact calls.moves
  | manager manages => exact manages.moves serving.ours alone
  | @worker worker account phase event _ process works =>
      by_cases own : worker = pid
      · subst own
        obtain rfl := serving.ours account phase process
        refine works.moves process ?_
        intro same
        rcases same with rfl
        exact alone rfl
      · refine works.moves_other own ?_
        intro same
        rcases same with rfl
        exact own (serving.only worker phase process)

/-- **Step lemma.** -/
theorem Serving.step (serving : Serving accountId pid s) (alone : s.Alone accountId pid event) :
    Serving accountId pid (s.step event) := by
  apply step_of serving
  intro after steps
  constructor
  · intro other next process
    rcases steps.process process with old | ⟨phase, old, _⟩ | ⟨i, rfl, turn, rfl, _⟩
    · exact serving.only other next old
    · exact serving.only other phase old
    · exact (alone accountId turn).mp rfl
  · intro other next process
    rcases steps.process process with old | ⟨phase, old, _⟩ | ⟨i, rfl, turn, same, _⟩
    · exact serving.ours other next old
    · exact serving.ours other phase old
    · exact (alone other turn).mpr same.symm
  · intro other job process
    rcases steps.process process with old | ⟨_, _, follows⟩ | ⟨_, _, _, _, starting⟩
    · exact serving.sober other job old
    · exact (follows.handling job rfl).2
    · cases starting
  · rcases steps.moves serving alone with same | move
    · rw [same]
      exact serving.sound
    · exact serving.sound.move move
  · intro job submitted
    rcases steps.submittedTo accountId with same | ⟨new, _, drawn, more⟩
    · rw [same] at submitted
      exact steps.drawn (serving.drawn job submitted)
    · rw [more] at submitted
      rcases List.mem_append.mp submitted with old | new
      · exact steps.drawn (serving.drawn job old)
      · rw [List.mem_singleton.mp new]
        exact drawn
  · rcases steps.submittedTo accountId with same | ⟨new, fresh, _, more⟩
    · rw [same]
      exact serving.unique
    · rw [more, List.map_append, List.map_singleton]
      refine serving.unique.append (List.nodup_singleton _) ?_
      rw [List.disjoint_singleton]
      intro known
      obtain ⟨job, old, same⟩ := List.mem_map.mp known
      rw [← same] at fresh
      exact fresh (serving.drawn job old)
  · intro job outcome entry
    rcases steps.handled entry with old | ⟨rfl, account, process⟩
    · exact serving.proper job outcome old
    · exact serving.sober account job process

end Step

/-! ## What callers may rely on -/

/-- The result has been pushed: the call that was waiting has returned it, or it is the next to
be read from its key. -/
structure Delivers (after s : Floor ι) (pid : ℕ) (jobId : String) (result : JobResult) : Prop where
  published : after.publishedBy pid = s.publishedBy pid ++ [(jobId, result)]
  served : ∀ deadline, s.callers jobId = some (.waiting deadline) →
    after.callers jobId = some (.returned (some result))
  stored : (∀ deadline, s.callers jobId ≠ some (.waiting deadline)) →
    ∃ older, Expiring.read after.now (after.results jobId) = some (result :: older)

/-- What one worker makes of the jobs of its account, and `submit_and_wait` of the results. -/
structure Orderly [DecidableEq ι] (accountId : String) (pid : ℕ) (s : Floor ι) : Prop where
  /-- jobs are handled as they were submitted, and in that order -/
  inOrder : (s.handledBy pid).map Prod.fst <+: s.submittedTo accountId
  /-- and each at most once -/
  once : ((s.handledBy pid).map fun call => call.1.jobId).Nodup
  /-- each call pushes its result and nothing else, the last one perhaps not yet -/
  answered : s.publishedBy pid ++ (s.line accountId pid).unpublished =
    (s.handledBy pid).map resultOf
  /-- no `STOP` job is handled -/
  proper : ∀ call ∈ s.handledBy pid, call.1.jobType ≠ "STOP"
  /-- the flag of a result says whether the method returned -/
  flagged : ∀ call ∈ s.handledBy pid, Publishable call.2 →
    ((handleJob call.1 call.2).isSuccess = true ↔ Returned call.1 call.2)
  /-- a result that is returned was pushed, for the job that was submitted under its id -/
  own : ∀ jobId result, Entry.returned jobId (some result) ∈ s.trace → s.OwnResult jobId result
  /-- what is left to be pushed reaches the call that waits for it, or else its key -/
  delivered : ∀ other jobId result, s.processes[pid]? = some ⟨other, .publishing jobId result⟩ →
    (s.step (.worker pid .pushResult)).Delivers s pid jobId result

variable [DecidableEq ι]

theorem delivers_pushResult {other jobId : String} {result : JobResult}
    (process : s.processes[pid]? = some ⟨other, .publishing jobId result⟩) :
    (s.step (.worker pid .pushResult)).Delivers s pid jobId result := by
  change (s.pushResult pid).Delivers s pid jobId result
  unfold pushResult
  rw [process]
  dsimp only
  split
  next deadline waits =>
    refine ⟨by simp [publishedBy, Entry.publishedBy, log, setPhase, answer, setCaller], ?_, ?_⟩
    · exact fun _ _ => Function.update_self ..
    · exact fun none => absurd waits (none deadline)
  next idle =>
    refine ⟨by simp [publishedBy, Entry.publishedBy, log, setPhase, setResults], ?_, ?_⟩
    · exact fun deadline waits => absurd waits (idle deadline)
    · refine fun _ => ⟨(Expiring.read s.now (s.results jobId)).getD [], ?_⟩
      change Expiring.read s.now (Function.update s.results jobId _ jobId) = _
      rw [Function.update_self, Expiring.read_write]
      rfl

theorem Serving.orderly (serving : Serving accountId pid s) (honest : s.Honest) :
    Orderly accountId pid s where
  inOrder := serving.sound.accounted.inOrder
  once := serving.sound.accounted.once serving.unique
  answered := serving.sound.answered
  proper := fun _ handled => serving.proper _ _ (mem_handledBy.mp handled)
  flagged := fun _ _ publishable => isSuccess_handleJob_iff publishable
  own := fun _ _ returned => honest.own returned
  delivered := fun _ _ _ process => delivers_pushResult process

end Floor

open Floor

/-- **One worker is orderly**, whatever callers, instances and the workers of other accounts
do. -/
theorem orderly_of_alone {ι : Type} [DecidableEq ι] {now : ℤ} {accountId : String} {pid : ℕ}
    {events : List (Event ι)} (each : EachStep step (Alone accountId pid) (opening ι now) events) :
    Throughout step (Orderly accountId pid) (opening ι now) events := by
  have always : Throughout step (fun s => Serving accountId pid s ∧ s.Honest) (opening ι now)
      events :=
    Throughout.of_inv ⟨Serving.opening now, Honest.opening now⟩
      (fun _ event both alone => ⟨both.1.step alone, both.2.step event⟩) each
  exact always.mono fun _ both => both.1.orderly both.2

/-- Two callers; the method that the second one asks for raises. -/
def twoCallers : List (Event Unit) :=
  hire () "acc" ⟨"12345678", "secret", "ICMarketsSC-Demo"⟩ ++ logIn 0 ++
    [.caller "j1" (.submit "acc" "get_symbol" (.dict [("symbol", .str "EURUSD")]) none),
      .caller "j2" (.submit "acc" "get_account" (.dict []) none),
      .caller "j1" .awaitResult, .worker 0 .popJob,
      .worker 0 (.handle (.ok (.one (.model (.ok (.dict [])))))), .worker 0 .pushResult,
      .worker 0 .expireResult, .worker 0 .popJob, .worker 0 (.handle (.error "No connection")),
      .worker 0 .pushResult, .caller "j2" .awaitResult]

theorem orderly_of_alone_twoCallers :
    let s := exec step (opening Unit 0) twoCallers
    Throughout step (Orderly "acc" 0) (opening Unit 0) twoCallers ∧
      (s.handledBy 0).map (·.1.jobId) = ["j1", "j2"] ∧
      s.callers "j1" = some (.returned (some (.success (.dict [])))) ∧
      s.callers "j2" = some (.returned (some (.failure "No connection"))) := by
  have alone : EachStep step (Alone "acc" 0) (opening Unit 0) twoCallers := by
    refine ⟨trivial, trivial, ?_, trivial, trivial, trivial, trivial, trivial, trivial, trivial,
      trivial, trivial, trivial, trivial, trivial, trivial, trivial, trivial, trivial⟩
    intro other turn
    cases turn
    exact ⟨fun _ => rfl, fun _ => rfl⟩
  exact ⟨orderly_of_alone alone, rfl, rfl, rfl⟩

end Aegis.Workers
