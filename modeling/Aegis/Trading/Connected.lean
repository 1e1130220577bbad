import Aegis.Lib.Run
import Aegis.Subscriptions.Registry
import Aegis.Trading.Router

/-!
# Who stays connected

`_subscription_sweep_loop` is the background task that ends the access of lapsed accounts;
the webhook, the cancellation and the plan assignment take access away as well.
`sweepsClean_of_calm` says under which conditions a sweep leaves nobody connected whose
subscription is not active.
-/

namespace Aegis.Trading

open Aegis.Lib Aegis.Subscriptions

structure Timed where
  now : ℤ
  desk : Desk

/-- What can happen to subscriptions and connections. -/
inductive Operation where
  | wait (microseconds : ℕ)
  | webhook (event : PaymentEvent) (draws : Draws)
  | connect (alive : Bool) (auth : AuthContext) (request : CredentialCreateRequest)
  | disconnect (link : Link) (auth : AuthContext) (accountId : String)
  | cancelSubscription (auth : AuthContext) (jobId accountId : String) (confirmed : Bool)
  | setTenantPlan (auth : AuthContext) (body : SetPlanRequest)
  | demoSignup (draws : SignupDraws) (body : DemoSignupRequest)
  /-- an iteration of the sweep, from the reading of the clock to its end -/
  | sweep (jobIds : String → String) (suspendedAt : String → ℤ) (microseconds : ℕ)

/-- A handler that works on the tables and keys only. -/
def Timed.onWorld {α : Type} (timed : Timed) (p : Prog Failure World α) : Timed :=
  { timed with desk := { timed.desk with world := (p.run timed.desk.world).2 } }

def Operation.take (env : Env) (timed : Timed) : Operation → Timed
  | wait microseconds => { timed with now := timed.now + microseconds }
  | webhook event draws => timed.onWorld (handleEvent env ⟨event, timed.now, draws⟩)
  | connect alive auth request =>
      { timed with desk := ((Trading.connect alive auth request).run timed.desk).2 }
  | disconnect link auth accountId =>
      { timed with desk := ((Trading.disconnect link auth accountId).run timed.desk).2 }
  | cancelSubscription auth jobId accountId confirmed =>
      timed.onWorld (Subscriptions.cancelSubscription timed.now auth jobId accountId confirmed)
  | setTenantPlan auth body => timed.onWorld (Subscriptions.setTenantPlan timed.now auth body)
  | demoSignup draws body => timed.onWorld (Subscriptions.demoSignup env timed.now draws body)
  | sweep jobIds suspendedAt microseconds =>
      { timed.onWorld (sweepOnce ⟨timed.now, suspendedAt, jobIds⟩) with
        now := timed.now + microseconds }

/-- After a sweep every account in the registry is active. -/
def Operation.SweepsClean (env : Env) (timed : Timed) (operation : Operation) : Prop :=
  match operation with
  | sweep _ _ _ =>
      ∀ accountId, (operation.take env timed).desk.Running accountId →
        (operation.take env timed).desk.world.isActive (operation.take env timed).now accountId =
          true
  | wait _ | webhook _ _ | connect _ _ _ | disconnect _ _ _ | cancelSubscription _ _ _ _
  | setTenantPlan _ _ | demoSignup _ _ => True

/-! ## Connecting -/

/-- `ensure_worker` starts a process. -/
def Spawns (alive : Bool) (accountId : String) (world : World) : Prop :=
  ¬ (accountId ∈ world.workers ∧ alive = true) ∧
    (world.workers.erase accountId).card < maxConcurrentWorkers

/-- The request gets past every check of `connect`, and a process is started. -/
def Connects (alive : Bool) (auth : AuthContext) (request : CredentialCreateRequest)
    (desk : Desk) : Prop :=
  requireAccountMatch auth request.accountId = .ok () ∧
    planGate (desk.world.planOf request.accountId) = .ok () ∧
      request.executionEnabled = true ∧ Spawns alive request.accountId desk.world

section Connect

variable {alive : Bool} {auth : AuthContext} {request : CredentialCreateRequest} {desk : Desk}
  {world : World} {accountId : String} {link : Link}

theorem run_ensureWorker (alive : Bool) (accountId : String) (world : World) :
    ((ensureWorker alive accountId).run world).2.subscriptions = world.subscriptions ∧
      ∀ other, other ∈ ((ensureWorker alive accountId).run world).2.workerRegistry →
        other ∈ world.workerRegistry ∨ other = accountId ∧ Spawns alive accountId world := by
  unfold ensureWorker
  rw [Prog.run_bind_ok (Prog.run_read _ _)]
  by_cases held : accountId ∈ world.workers ∧ alive = true
  · simp only [held, decide_true, Bool.and_self, if_true]
    exact ⟨rfl, fun _ listed => .inl listed⟩
  · have free : (decide (accountId ∈ world.workers) && alive) = false := by simpa using held
    simp only [free, Bool.false_eq_true, if_false]
    rw [Prog.run_bind_ok (Prog.run_modify _ _), Prog.run_bind_ok (Prog.run_read _ _)]
    by_cases full : (world.workers.erase accountId).card ≥ maxConcurrentWorkers
    · rw [if_pos full]
      exact ⟨rfl, fun _ listed => .inl listed⟩
    · rw [if_neg full, Prog.run_bind_ok (Prog.run_modify _ _),
        Prog.run_bind_ok (Prog.run_modify _ _)]
      refine ⟨rfl, fun other listed => ?_⟩
      rcases Finset.mem_insert.mp listed with same | before
      · exact .inr ⟨same, held, not_le.mp full⟩
      · exact .inl before

/-- `connect` changes no row, and registers its account only when it connects. -/
theorem run_connect (alive : Bool) (auth : AuthContext) (request : CredentialCreateRequest)
    (desk : Desk) :
    ((connect alive auth request).run desk).2.world.subscriptions = desk.world.subscriptions ∧
      ∀ other, ((connect alive auth request).run desk).2.Running other →
        desk.Running other ∨ other = request.accountId ∧ Connects alive auth request desk := by
  have same : desk.world.subscriptions = desk.world.subscriptions ∧
      ∀ other, desk.Running other →
        desk.Running other ∨ other = request.accountId ∧ Connects alive auth request desk :=
    ⟨rfl, fun _ => .inl⟩
  unfold connect getPlan Prog.ofExcept
  rcases requireAccountMatch_cases auth request.accountId with matched | ⟨detail, other⟩
  · rw [matched, Prog.run_bind_ok rfl, Prog.run_bind_ok (Desk.run_onWorld_ok (Prog.run_read _ _))]
    rcases planGate_cases (desk.world.planOf request.accountId) with passed | ⟨detail, refused⟩
    · rw [passed, Prog.run_bind_ok rfl, startWorker, saveCredentials,
        Prog.run_bind_ok (Prog.run_modify _ _), getCredentialsByAccount,
        Prog.run_bind_ok (Prog.run_read _ _)]
      have stored : (Function.update desk.vault request.credential.accountId
          (some request.credential) request.accountId).any (·.executionEnabled) =
            request.executionEnabled := by
        have saved : Function.update desk.vault request.credential.accountId
            (some request.credential) request.accountId = some request.credential :=
          Function.update_self _ _ _
        rw [saved]
        rfl
      by_cases enabled : request.executionEnabled = true
      · simp only [stored, enabled, Bool.not_true, Bool.false_eq_true, if_false]
        obtain ⟨rows, registry⟩ := run_ensureWorker alive request.accountId desk.world
        have listed : ∀ other, other ∈
            ((ensureWorker alive request.accountId).run desk.world).2.workerRegistry →
              desk.Running other ∨ other = request.accountId ∧ Connects alive auth request desk :=
          fun other listed => (registry other listed).imp_right fun spawned =>
            ⟨spawned.1, matched, passed, enabled, spawned.2⟩
        rw [Prog.run_bind, Desk.run_onWorld]
        dsimp only
        cases ran : (ensureWorker alive request.accountId).run desk.world with
        | mk outcome after =>
            rw [ran] at rows listed
            cases outcome with
            | error e => exact ⟨rows, listed⟩
            | ok started => cases started <;> exact ⟨rows, listed⟩
      · simp only [stored, enabled, Bool.not_false, if_true]
        exact same
    · rw [refused, Prog.run_bind_error rfl]
      exact same
  · rw [other, Prog.run_bind_error rfl]
    exact same

/-- `disconnect` keeps the registry supervised. -/
theorem supervised_disconnect (inv : desk.world.Supervised) :
    ((disconnect link auth accountId).run desk).2.world.Supervised := by
  unfold disconnect Prog.ofExcept
  rcases requireAccountMatch_cases auth accountId with matched | ⟨detail, other⟩
  · rw [matched, Prog.run_bind_ok rfl, Prog.run_bind_ok (Desk.run_onWorld_ok run_stopWorker)]
    refine inv.touch accountId ?_ ?_ ?_
    · exact fun _ _ => rfl
    · exact fun _ _ listed => Finset.mem_of_mem_erase listed
    · exact fun listed => (Finset.notMem_erase _ _ listed).elim
  · rw [other, Prog.run_bind_error rfl]
    exact inv

/-- `connect` keeps the registry supervised when it connects supervised accounts only. -/
theorem supervised_connect (inv : desk.world.Supervised)
    (kept : Connects alive auth request desk →
      ∃ row, desk.world.subscription request.accountId = some row ∧ row.Supervised) :
    ((connect alive auth request).run desk).2.world.Supervised := by
  obtain ⟨rows, registry⟩ := run_connect alive auth request desk
  intro other listed
  rw [World.subscription, rows]
  rcases registry other listed with before | ⟨rfl, connects⟩
  · exact inv other before
  · exact kept connects

end Connect

/-! ## Runs -/

/-- The step leaves the sweep in charge: `connect` connects accounts whose row is active or
past due with a deadline, `set_tenant_plan` leaves registered accounts such rows, and no
registered account's grace period ends while the sweep runs. -/
def Operation.Calm (timed : Timed) : Operation → Prop
  | connect alive auth request => Connects alive auth request timed.desk →
      ∃ row, timed.desk.world.subscription request.accountId = some row ∧ row.Supervised
  | setTenantPlan auth body => auth.isAdmin = true → timed.desk.Running body.accountId →
      (tenantRow timed.now body (timed.desk.world.subscription body.accountId)).Supervised
  | sweep jobIds suspendedAt microseconds =>
      timed.desk.world.NotLapsing ⟨timed.now, suspendedAt, jobIds⟩ (timed.now + microseconds)
  | wait _ | webhook _ _ | disconnect _ _ _ | cancelSubscription _ _ _ _ | demoSignup _ _ => True

section Runs

variable {env : Env} {timed : Timed} {operation : Operation}

/-- **Step lemma.** -/
theorem supervised_take (inv : timed.desk.world.Supervised) (calm : operation.Calm timed) :
    (operation.take env timed).desk.world.Supervised := by
  cases operation with
  | wait microseconds => exact inv
  | webhook event draws => exact inv.handleEvent _
  | connect alive auth request => exact supervised_connect inv calm
  | disconnect link auth accountId => exact supervised_disconnect inv
  | cancelSubscription auth jobId accountId confirmed =>
      exact inv.cancelSubscription auth jobId accountId confirmed
  | setTenantPlan auth body => exact inv.setTenantPlan calm
  | demoSignup draws body => exact inv.demoSignup draws body
  | sweep jobIds suspendedAt microseconds => exact inv.sweepOnce

/-- One sweep leaves active accounts only, exactly when it found a supervised registry and
no grace period ended while it ran. -/
theorem sweepsClean_iff {jobIds : String → String} {suspendedAt : String → ℤ}
    {microseconds : ℕ} :
    (Operation.sweep jobIds suspendedAt microseconds).SweepsClean env timed ↔
      timed.desk.world.Supervised ∧
        (Operation.sweep jobIds suspendedAt microseconds).Calm timed :=
  sweepOnce_isActive_iff

/-- **Nobody stays connected past the next sweep**, in every run from an empty registry
whose steps leave the sweep in charge. -/
theorem sweepsClean_of_calm {start : Timed} (idle : start.desk.world.workerRegistry = ∅)
    (operations : List Operation)
    (calm : EachStep (Operation.take env) Operation.Calm start operations) :
    EachStep (Operation.take env) (Operation.SweepsClean env) start operations := by
  have bare : start.desk.world.Supervised := by
    intro accountId listed
    rw [idle] at listed
    exact absurd listed (Finset.notMem_empty _)
  refine EachStep.of_inv (I := fun timed : Timed => timed.desk.world.Supervised) bare
    (fun timed operation inv calm => supervised_take inv calm) ?_ calm
  intro timed operation inv calm
  cases operation with
  | sweep jobIds suspendedAt microseconds => exact sweepsClean_iff.mpr ⟨inv, calm⟩
  | wait _ | webhook _ _ | connect _ _ _ | disconnect _ _ _ | cancelSubscription _ _ _ _
  | setTenantPlan _ _ | demoSignup _ _ => trivial

/-- A demo account connects. -/
def demoConnects : List Operation :=
  [.demoSignup { sampleDraws 1 with hexDigits := "", downloadToken := "" } ⟨some "acc", ""⟩,
    .connect true ⟨some "acc", false, none, none, false, none, none⟩
      ⟨"acc", "MetaTrader5", "ICMarketsSC-Demo", "12345678", "secret", none, true⟩]

/-- A sweep that takes a second. -/
def sampleSweep : Operation := .sweep (fun _ => "job") (fun _ => 0) 1000000

/-- An administrator. -/
def sampleAdmin : AuthContext := ⟨none, true, none, none, false, none, none⟩

theorem sweepsClean_of_calm_demo :
    EachStep (Operation.take sampleEnv) (Operation.SweepsClean sampleEnv) ⟨0, .empty⟩
      (demoConnects ++ [sampleSweep]) := by
  refine sweepsClean_of_calm rfl _ ⟨trivial, fun _ => ⟨_, rfl, .inl rfl⟩, ?_, trivial⟩
  intro accountId listed row present pastDue
  cases Finset.mem_singleton.mp listed
  cases present
  exact absurd pastDue (by decide)

/-- A connected account that an administrator suspends. -/
theorem not_sweepsClean_setTenantPlan :
    ¬ EachStep (Operation.take sampleEnv) (Operation.SweepsClean sampleEnv) ⟨0, .empty⟩
      (demoConnects ++ [.setTenantPlan sampleAdmin ⟨"acc", "pro", some "suspended"⟩,
        sampleSweep]) := by
  intro clean
  have active := clean.2.2.2.1 "acc" (by decide)
  exact absurd active (by decide)

end Runs

end Aegis.Trading
