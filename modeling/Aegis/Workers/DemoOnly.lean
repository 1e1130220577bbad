import Aegis.Workers.Execution

/-!
# Demo servers only

`demoOnly_runWorker`: a worker that meets whatever it may, with whatever broker, connects to
demo and practice servers only, and calls the broker only between a connection that has
succeeded and the next connection or disconnection.

A run leaves a trace of one shape (`Shape`): at most one connection, then calls, then at most
one disconnection.  The guard is in `connectService` alone; no job type leads there
(`dispatch_calls`).

The last section compares the worker with the one of the floor.
-/

namespace Aegis.Workers

open Aegis.Lib Aegis.Payments Aegis.Subscriptions

/-- The event is a call on orders, positions or data. -/
def BrokerEvent.IsCall : BrokerEvent → Prop
  | call _ _ => True
  | connect _ _ | disconnect _ => False

/-- The server name of the credentials, in lower case, contains `demo` or `practice`. -/
def DemoServer (env : Surroundings) (credentials : Json) : Prop :=
  ∃ server, serverName env credentials = .ok server ∧
    (occursIn "demo" server = true ∨ occursIn "practice" server = true)

/-- Connections are to demo servers, and a call comes after one that has succeeded, with only
calls in between. -/
structure DemoOnly (env : Surroundings) (trace : List BrokerEvent) : Prop where
  connects : ∀ credentials answer, .connect credentials answer ∈ trace →
    DemoServer env credentials
  calls : ∀ early call answer late, trace = early ++ .call call answer :: late →
    ∃ before credentials between, early = before ++ .connect credentials (.ok true) :: between ∧
      DemoServer env credentials ∧ ∀ event ∈ between, event.IsCall

/-- What a run can leave behind. -/
inductive Shape (env : Surroundings) : List BrokerEvent → Prop
  | idle : Shape env []
  | refused {credentials : Json} {answer : Except Raised Bool} (demo : DemoServer env credentials) :
      Shape env [.connect credentials answer]
  | worked {credentials : Json} {calls : List BrokerEvent} {last : List BrokerEvent}
      (demo : DemoServer env credentials) (called : ∀ event ∈ calls, event.IsCall)
      (ends : ∀ event ∈ last, ∃ answer, event = .disconnect answer) :
      Shape env (.connect credentials (.ok true) :: calls ++ last)

theorem Shape.demoOnly {env : Surroundings} {trace : List BrokerEvent} (shape : Shape env trace) :
    DemoOnly env trace := by
  cases shape with
  | idle => exact ⟨nofun, fun early call answer late same => by simp at same⟩
  | refused demo =>
      refine ⟨fun credentials answer member => ?_, fun early call answer late same => ?_⟩
      · cases List.mem_singleton.mp member
        exact demo
      · have member : BrokerEvent.call call answer ∈ early ++ .call call answer :: late :=
          List.mem_append_right _ List.mem_cons_self
        rw [← same] at member
        cases List.mem_singleton.mp member
  | @worked credentials calls last demo called ends =>
      constructor
      · intro other answer member
        rw [List.cons_append, List.mem_cons, List.mem_append] at member
        rcases member with same | among | among
        · cases same
          exact demo
        · exact (called _ among).elim
        · obtain ⟨_, same⟩ := ends _ among
          cases same
      · intro early call answer late same
        cases early with
        | nil => cases same
        | cons first between =>
            rw [List.cons_append, List.cons_append, List.cons.injEq] at same
            obtain ⟨rfl, rest⟩ := same
            refine ⟨[], credentials, between, rfl, demo, ?_⟩
            rcases List.append_eq_append_iff.mp rest with ⟨more, _, over_⟩ | ⟨more, inside, _⟩
            · have among : BrokerEvent.call call answer ∈ last := by
                rw [over_]
                exact List.mem_append_right _ List.mem_cons_self
              obtain ⟨_, same⟩ := ends _ among
              cases same
            · rw [inside] at called
              exact fun event member => called event (List.mem_append_left _ member)

/-! ## Jobs -/

section Jobs

variable {env : Surroundings} {session : Session}

/-- Only calls have been added. -/
def OnlyCalls (before after : Session) : Prop :=
  ∃ calls, after.trace = before.trace ++ calls ∧ ∀ event ∈ calls, event.IsCall

theorem OnlyCalls.refl (session : Session) : OnlyCalls session session :=
  ⟨[], (List.append_nil _).symm, List.forall_mem_nil _⟩

theorem OnlyCalls.trans {first second third : Session} (early : OnlyCalls first second)
    (late : OnlyCalls second third) : OnlyCalls first third := by
  obtain ⟨calls, grown, called⟩ := early
  obtain ⟨more, grows, calledToo⟩ := late
  refine ⟨calls ++ more, by rw [grows, grown, List.append_assoc], fun event member => ?_⟩
  exact (List.mem_append.mp member).elim (called event) (calledToo event)

theorem guarantees_callBroker (call : BrokerCall) :
    (callBroker env call).Guarantees OnlyCalls := by
  refine .bind (Prog.guarantees_act fun session => ?_) fun _ => trivial
  exact ⟨[_], rfl, List.forall_mem_singleton.mpr trivial⟩

theorem guarantees_pushResult (push : Push) (jobId : Json) (result : JobResult) :
    (pushResult push jobId result).Guarantees OnlyCalls := by
  refine .bind (Prog.guarantees_modify fun session => ?_) fun _ => trivial
  split
  · exact ⟨[], (List.append_nil _).symm, List.forall_mem_nil _⟩
  · exact OnlyCalls.refl session

/-- The method is not about the connection. -/
def ServiceMethod.Trades (method : ServiceMethod) : Prop :=
  method ≠ .connect ∧ method ≠ .disconnect

instance : DecidablePred ServiceMethod.Trades := fun _ => inferInstanceAs (Decidable (_ ∧ _))

theorem mem_jobDispatch {jobType : String} {schema : Option Schema} {methodName : String}
    (found : jobDispatch.lookup jobType = some (schema, methodName)) :
    (jobType, schema, methodName) ∈ jobDispatch := by
  obtain ⟨early, late, split, _⟩ := List.lookup_eq_some_iff.mp found
  rw [split]
  exact List.mem_append_right _ List.mem_cons_self

/-- **No job type reconnects.** -/
theorem dispatch_trades {jobType : String} {schema : Option Schema} {methodName : String}
    {method : ServiceMethod} (found : jobDispatch.lookup jobType = some (schema, methodName))
    (named : ServiceMethod.ofName methodName = some method) : method.Trades := by
  have all : ∀ entry ∈ jobDispatch, ∀ method ∈ ServiceMethod.ofName entry.2.2, method.Trades := by
    decide
  exact all _ (mem_jobDispatch found) method named

theorem lookup_of_dispatch {jobType : Json} {schema : Option Schema} {methodName : String}
    (found : dispatch env jobType = .ok (some (schema, methodName))) :
    ∃ text, jobDispatch.lookup text = some (schema, methodName) := by
  cases jobType with
  | str text => exact ⟨text, Except.ok.inj found⟩
  | none | bool _ | int _ | float _ | list _ | dict _ => cases found

theorem guarantees_apply {method : ServiceMethod} (trades : method.Trades)
    (arguments : List Json) : (method.apply env arguments).Guarantees OnlyCalls := by
  unfold ServiceMethod.apply
  split
  · exact absurd rfl trades.1
  · exact absurd rfl trades.2
  all_goals first | exact guarantees_callBroker _ | trivial

theorem guarantees_tryMethod {method : ServiceMethod} (trades : method.Trades) (first second : Push)
    (jobId : Json) (arguments : Arguments) :
    (tryMethod env first second jobId method arguments).Guarantees OnlyCalls := by
  refine .catchWith (.bind (.bind trivial fun bound => ?_) fun value => ?_) fun raised => ?_
  · exact guarantees_apply trades bound
  · exact .bind trivial fun result => guarantees_pushResult first jobId _
  · cases raised with
    | exception text => exact guarantees_pushResult second jobId _
    | baseException => trivial

theorem guarantees_handleQueued (first second : Push) (job : Json) :
    (handleQueued env first second job).Guarantees OnlyCalls := by
  refine .bind trivial fun jobId => .bind trivial fun jobType => .bind trivial fun payload => ?_
  cases found : dispatch env jobType with
  | error raised => trivial
  | ok entry =>
      rcases entry with _ | ⟨schema, methodName⟩
      · exact guarantees_pushResult first jobId _
      · obtain ⟨text, listed⟩ := lookup_of_dispatch found
        rw [Prog.ofExcept_ok_bind]
        dsimp only
        split
        next => trivial
        next method named => exact guarantees_tryMethod (dispatch_trades listed named) _ _ _ _

theorem guarantees_jobLoop (env : Surroundings) (pops : List Pop) :
    (jobLoop env pops).Guarantees OnlyCalls := by
  induction pops with
  | nil => trivial
  | cons pop rest ih =>
      cases pop with
      | nothing | raises _ => trivial
      | job job first second =>
          refine .bind trivial fun jobType => ?_
          split
          · trivial
          · exact .bind (guarantees_handleQueued first second job) fun _ => ih

end Jobs

/-! ## Runs -/

section Runs

variable {env : Surroundings} {meets : Meets} {credentials : Json} {session : Session}

theorem connectService_of_ok {server : String} (named : serverName env credentials = .ok server) :
    connectService env credentials =
      if demoOnly && !occursIn "demo" server && !occursIn "practice" server then return false
      else callConnect env credentials := by
  unfold connectService
  rw [named]
  rfl

/-- The guard: the adapter is not asked, or the server is a demo server. -/
theorem run_connectService (env : Surroundings) (credentials : Json) (session : Session) :
    let after := (connectService env credentials).run session
    after.2 = session ∧ after.1 ≠ .ok true ∨
      DemoServer env credentials ∧ ∃ answer, after.1 = answer ∧
        after.2.trace = session.trace ++ [.connect credentials answer] := by
  cases named : serverName env credentials with
  | error raised =>
      unfold connectService
      rw [named]
      exact .inl ⟨rfl, nofun⟩
  | ok server =>
      rw [connectService_of_ok named]
      by_cases live : (demoOnly && !occursIn "demo" server && !occursIn "practice" server) = true
      · rw [if_pos live]
        exact .inl ⟨rfl, nofun⟩
      · rw [if_neg live]
        refine .inr ⟨⟨server, named, ?_⟩, _, rfl, rfl⟩
        by_contra neither
        rw [not_or, Bool.not_eq_true, Bool.not_eq_true] at neither
        rw [neither.1, neither.2] at live
        exact live rfl

/-- Only disconnections have been added. -/
def OnlyEnds (before after : Session) : Prop :=
  ∃ last, after.trace = before.trace ++ last ∧ ∀ event ∈ last, ∃ answer, event = .disconnect answer

theorem onlyEnds_shutDown (env : Surroundings) (meets : Meets) (session : Session) :
    OnlyEnds session ((shutDown env meets).run session).2 := by
  unfold shutDown
  rw [Prog.run_bind_ofExcept]
  exact ⟨[_], rfl, List.forall_mem_singleton.mpr ⟨_, rfl⟩⟩

theorem run_workJobs (env : Surroundings) (meets : Meets) (session : Session) :
    ∃ between, OnlyCalls session between ∧
      OnlyEnds between ((workJobs env meets).run session).2 := by
  have called := (guarantees_jobLoop env meets.pops).run OnlyCalls.refl OnlyCalls.trans session
  unfold workJobs
  rw [Prog.run_bind, Prog.run_catchWith]
  generalize (jobLoop env meets.pops).run session = ran at called ⊢
  rcases ran with ⟨outcome, between⟩
  refine ⟨between, called, ?_⟩
  cases outcome with
  | error raised =>
      have ended := onlyEnds_shutDown env meets between
      dsimp only
      rw [Prog.run_bind]
      generalize (shutDown env meets).run between = closed at ended ⊢
      rcases closed with ⟨outcome, after⟩
      cases outcome <;> exact ended
  | ok ended =>
      cases ended with
      | true => exact onlyEnds_shutDown env meets between
      | false => exact ⟨[], (List.append_nil _).symm, List.forall_mem_nil _⟩

theorem shape_connectAndWork (env : Surroundings) (meets : Meets) (credentials : Json) :
    Shape env ((connectAndWork env meets credentials).run ⟨[], []⟩).2.trace := by
  unfold connectAndWork
  rw [Prog.run_bind, Prog.run_ofExcept]
  cases env.adapter.create with
  | error raised => exact .idle
  | ok _ =>
      dsimp only
      rw [Prog.run_bind]
      have guarded := run_connectService env credentials ⟨[], []⟩
      generalize (connectService env credentials).run ⟨[], []⟩ = ran at guarded ⊢
      rcases ran with ⟨outcome, after⟩
      rcases guarded with ⟨rfl, refused⟩ | ⟨demo, answer, rfl, grown⟩
      · rcases outcome with raised | _ | _
        · exact .idle
        · exact .idle
        · exact absurd rfl refused
      · have refusal : Shape env after.trace := by
          rw [grown]
          exact .refused demo
        rcases outcome with raised | _ | _
        · exact refusal
        · exact refusal
        · obtain ⟨between, ⟨calls, called, onlyCalls⟩, last, ended, onlyEnds⟩ :=
            run_workJobs env meets after
          change Shape env ((workJobs env meets).run after).2.trace
          rw [ended, called, grown]
          exact .worked demo onlyCalls onlyEnds

/-- **One run** leaves a trace of the shape. -/
theorem shape_runWorker (env : Surroundings) (meets : Meets) :
    Shape env ((runWorker env meets).run ⟨[], []⟩).2.trace := by
  unfold runWorker
  rw [Prog.run_bind, Prog.run_ofExcept]
  cases meets.queueConnect with
  | error raised => exact .idle
  | ok _ =>
      dsimp only
      split
      · exact .idle
      · exact .idle
      · exact .idle
      · exact shape_connectAndWork env meets _

/-- **Demo servers only**, whatever is in Redis, whatever jobs there are and however the broker
answers. -/
theorem demoOnly_runWorker (env : Surroundings) (meets : Meets) :
    DemoOnly env ((runWorker env meets).run ⟨[], []⟩).2.trace :=
  (shape_runWorker env meets).demoOnly

/-- A worker with one order on a demo server. -/
example :
    let adapter : BrokerAdapter :=
      ⟨.ok (), fun _ _ => .ok true, fun _ => .ok true, fun _ _ => .ok (boolValue true)⟩
    let env : Surroundings := ⟨adapter, fun _ _ => none, fun _ => "", fun _ _ => ""⟩
    let credentials := Json.dict [("server", .str "MetaQuotes-Demo")]
    let order := Json.dict [("job_id", .str "1"), ("job_type", .str "market_order")]
    let pops : List Pop := [.job order ⟨true, .ok ()⟩ ⟨true, .ok ()⟩, .nothing]
    ((runWorker env ⟨.ok (), some (some credentials), pops, .ok ()⟩).run ⟨[], []⟩).2.trace =
      [.connect credentials (.ok true),
        .call (.placeMarketOrder (.dict [])) (.ok (boolValue true)), .disconnect (.ok true)] := rfl

end Runs

/-! ## The worker of the floor -/

section Bridge

variable {env : Surroundings} {session : Session}

/-- What `connect` hands to `ensure_worker`. -/
def Credentials.toJson (credentials : Credentials) : Json :=
  .dict [("login", .str credentials.login), ("password", .str credentials.password),
    ("server", .str credentials.server)]

/-- What `submit_and_wait` queues. -/
def jobJson (job : Job) : Json :=
  .dict [("job_id", .str job.jobId), ("job_type", .str job.jobType), ("payload", job.payload)]

/-- A push that meets no trouble. -/
def delivered : Push := ⟨true, .ok ()⟩

theorem guard_iff {live paper : Prop} [Decidable live] [Decidable paper] :
    (true && !decide live && !decide paper) = true ↔ ¬ live ∧ ¬ paper := by
  simp

/-- The floor's worker connects when this one does. -/
theorem run_connectService_toJson {credentials : Credentials} {answer : Bool}
    (answers : env.adapter.connect session.trace credentials.toJson = .ok answer) :
    ((connectService env credentials.toJson).run session).1 =
      .ok (connects credentials answer) := by
  have named : serverName env credentials.toJson = .ok (lower credentials.server) := rfl
  have called : ((callConnect env credentials.toJson).run session).1 = .ok answer := answers
  rw [connectService_of_ok named]
  by_cases live : (demoOnly && !occursIn "demo" (lower credentials.server) &&
      !occursIn "practice" (lower credentials.server)) = true
  · rw [if_pos live]
    exact congrArg Except.ok (if_pos (guard_iff.mp live)).symm
  · rw [if_neg live, called]
    exact congrArg Except.ok (if_neg fun both => live (guard_iff.mpr both)).symm

/-- No result has been pushed. -/
def SameResults (before after : Session) : Prop := after.results = before.results

theorem SameResults.refl (session : Session) : SameResults session session := rfl

theorem SameResults.trans {first second third : Session} (early : SameResults first second)
    (late : SameResults second third) : SameResults first third := Eq.trans late early

theorem guarantees_callMethod (env : Surroundings) (method : ServiceMethod)
    (arguments : Arguments) :
    (callMethod env method arguments).Guarantees SameResults := by
  have broker (call : BrokerCall) : (callBroker env call).Guarantees SameResults :=
    .bind (Prog.guarantees_act fun _ => rfl) fun _ => trivial
  refine .bind trivial fun bound => ?_
  unfold ServiceMethod.apply
  split
  next credentials =>
    refine .map _ (.bind trivial fun server => .ite trivial ?_)
    exact .bind (Prog.guarantees_act fun _ => rfl) fun _ => trivial
  · exact .map _ (.bind (Prog.guarantees_act fun _ => rfl) fun _ => trivial)
  all_goals first | exact broker _ | trivial

theorem ofName_of_lookup {jobType : String} {schema : Option Schema} {methodName : String}
    (found : jobDispatch.lookup jobType = some (schema, methodName)) :
    (ServiceMethod.ofName methodName).isSome := by
  have all : ∀ entry ∈ jobDispatch, (ServiceMethod.ofName entry.2.2).isSome := by decide
  exact all _ (mem_jobDispatch found)

theorem Job.call_of_none {job : Job} (found : jobDispatch.lookup job.jobType = none) :
    Job.call job = none := by
  unfold Job.call
  rw [found]

theorem Job.call_of_some {job : Job} {schema : Option Schema} {methodName : String}
    (found : jobDispatch.lookup job.jobType = some (schema, methodName)) :
    Job.call job = some (methodName, argumentsFor schema job.payload) := by
  unfold Job.call
  rw [found]
  cases schema <;> rfl

/-- What the call in the `try` block comes to for the job. -/
def ComesTo (env : Surroundings) (session : Session) (job : Job) (outcome : Outcome) : Prop :=
  ∀ methodName arguments method, Job.call job = some (methodName, arguments) →
    ServiceMethod.ofName methodName = some method →
      ((callMethod env method arguments).run session).1 = outcome.mapError .exception

theorem handleQueued_jobJson (first second : Push) (job : Job) :
    handleQueued env first second (jobJson job) =
      match jobDispatch.lookup job.jobType with
      | none => pushResult first (.str job.jobId) (.failure s!"Unknown job_type: {job.jobType}")
      | some (schema, methodName) =>
          match ServiceMethod.ofName methodName with
          | none => Prog.ofExcept (pyRaise env .attributeError (.str methodName))
          | some method =>
              tryMethod env first second (.str job.jobId) method
                (argumentsFor schema job.payload) := rfl

theorem results_tryMethod {jobId : Json} {method : ServiceMethod} {arguments : Arguments}
    {outcome : Outcome}
    (comes : ((callMethod env method arguments).run session).1 = outcome.mapError .exception) :
    ((tryMethod env delivered delivered jobId method arguments).run session).2.results =
      session.results ++ [(jobId, match attempt outcome with
        | .ok result => .success result
        | .error message => .failure message)] := by
  have kept := (guarantees_callMethod env method arguments).run SameResults.refl
    SameResults.trans session
  unfold SameResults at kept
  unfold tryMethod
  rw [Prog.run_catchWith, Prog.run_bind]
  generalize (callMethod env method arguments).run session = ran at comes kept ⊢
  rcases ran with ⟨_, after⟩
  cases comes
  rw [← kept]
  cases outcome with
  | error message => rfl
  | ok value =>
      dsimp only [Except.mapError]
      rw [Prog.run_bind, Prog.run_ofExcept]
      cases attempt (.ok value) <;> rfl

/-- The floor's worker publishes what this one does. -/
theorem results_handleQueued {job : Job} {outcome : Outcome}
    (comes : ComesTo env session job outcome) :
    ((handleQueued env delivered delivered (jobJson job)).run session).2.results =
      session.results ++ [(.str job.jobId, handleJob job outcome)] := by
  rw [handleQueued_jobJson]
  unfold handleJob
  cases found : jobDispatch.lookup job.jobType with
  | none =>
      rw [Job.call_of_none found]
      rfl
  | some entry =>
      obtain ⟨schema, methodName⟩ := entry
      have call := Job.call_of_some found
      obtain ⟨method, named⟩ := Option.isSome_iff_exists.mp (ofName_of_lookup found)
      dsimp only
      rw [named, call]
      exact results_tryMethod (comes _ _ method call named)

end Bridge

end Aegis.Workers
