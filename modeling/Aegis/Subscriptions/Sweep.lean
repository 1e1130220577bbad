import Aegis.Subscriptions.Effects
import Aegis.Subscriptions.Webhook

/-!
# The sweep against the webhooks

`_subscription_sweep_loop` reads the accounts whose grace period has ended and then
suspends them one by one, after stopping their workers, without looking at their rows
again.  So an account that pays in between is suspended all the same.
`sweep_active_iff` says exactly when that does not happen.

Each method of `SubscriptionService` is one atomic step here.
-/

namespace Aegis.Subscriptions

open Aegis.Lib

/-- The clock readings and the draws of one iteration. -/
structure Sweep where
  now : ℤ
  suspendedAt : String → ℤ
  jobIds : String → String

/-- The loop over the lapsed accounts. -/
def suspendAll (sweep : Sweep) : List String → Prog Failure World Unit
  | [] => return ()
  | accountId :: rest => do
      if ← isRunning accountId then
        let _ ← stopWorker (sweep.jobIds accountId) accountId
      markSuspended (sweep.suspendedAt accountId) accountId
      suspendAll sweep rest

/-- One iteration of `_subscription_sweep_loop`. -/
def sweepOnce (sweep : Sweep) : Prog Failure World Unit := do
  let lapsed ← getLapsedAccounts sweep.now
  suspendAll sweep lapsed

/-- `receive_webhook` with `apply_event` as one step. -/
def handleEventAtomically (env : Env) (delivery : Delivery) : Prog Failure World Response := do
  if ← alreadyProcessed delivery.event.provider delivery.event.providerEventId then
    return .alreadyProcessed
  let newlyIssued ← (applyEvent env delivery).atomically
  finish delivery newlyIssued

/-- One sweep, as thread `none`, and the handlers of any number of deliveries. -/
def sweepPool {ι : Type} (env : Env) (sweep : Sweep) (deliveries : ι → Delivery)
    (world : World) : Pool (Option ι) Failure World Unit where
  shared := world
  threads
    | none => sweepOnce sweep
    | some i => do
        let _ ← handleEventAtomically env (deliveries i)

/-! ## The status as a replay of the history -/

def World.status (world : World) (accountId : String) : Option String :=
  (world.subscription accountId).map (·.status)

/-- What an entry of the history does to the status of an account. -/
def Act.onStatus (accountId : String) (before : Option String) : Act → Option String
  | .applied event =>
      if event.accountId = accountId then
        match event.eventType with
        | .paymentSucceeded => some "active"
        | .paymentFailed => before.map fun _ => "past_due"
        | .subscriptionCanceled => before.map fun _ => "canceled"
        | .unknown => before
      else before
  | .suspended other => if other = accountId then before.map fun _ => "suspended" else before
  | .stashed _ _ | .lapsed _ => before

def replay (accountId : String) (acts : List Act) (before : Option String) : Option String :=
  acts.foldl (Act.onStatus accountId) before

theorem replay_cons (accountId : String) (act : Act) (rest : List Act)
    (before : Option String) :
    replay accountId (act :: rest) before =
      replay accountId rest (act.onStatus accountId before) := rfl

theorem replay_append (accountId : String) (early late : List Act) (before : Option String) :
    replay accountId (early ++ late) before =
      replay accountId late (replay accountId early before) := List.foldl_append

/-- The history has grown by entries in `P`, and the statuses are their replay. -/
def Follows (P : Act → Prop) (before after : World) : Prop :=
  ∃ added, after.trace = before.trace ++ added ∧ (∀ act ∈ added, P act) ∧
    ∀ accountId, after.status accountId = replay accountId added (before.status accountId)

section Follow

variable {P : Act → Prop} {before between after : World} {accountId : String}

theorem Follows.refl (world : World) : Follows P world world :=
  ⟨[], (List.append_nil _).symm, nofun, fun _ => rfl⟩

theorem Follows.trans (first : Follows P before between) (second : Follows P between after) :
    Follows P before after := by
  rcases first with ⟨earlier, trace, allowed, status⟩
  rcases second with ⟨later, trace', allowed', status'⟩
  refine ⟨earlier ++ later, by rw [trace', trace, List.append_assoc], ?_, fun accountId => ?_⟩
  · intro act member
    rcases List.mem_append.mp member with old | new
    · exact allowed act old
    · exact allowed' act new
  · rw [status', status, replay_append]

theorem follows_of_same (trace : after.trace = before.trace)
    (rows : after.subscriptions = before.subscriptions) : Follows P before after := by
  refine ⟨[], by rw [trace, List.append_nil], nofun, fun accountId => ?_⟩
  rw [World.status, World.subscription, rows]
  rfl

theorem follows_log {act : Act} (allowed : P act) (trace : after.trace = before.trace ++ [act])
    (status : ∀ accountId, after.status accountId =
      act.onStatus accountId (before.status accountId)) : Follows P before after :=
  ⟨[act], trace, fun other member => by cases List.mem_singleton.mp member; exact allowed,
    status⟩

theorem status_congr (same : after.subscription accountId = before.subscription accountId) :
    after.status accountId = before.status accountId := congrArg (Option.map _) same

theorem status_updateRow {f : Subscription → Subscription} {status : String}
    (sets : ∀ row, (f row).status = status) :
    (updateRow accountId f before).status accountId =
      (before.status accountId).map fun _ => status := by
  rw [World.status, World.status, subscription_updateRow, Option.map_map, Option.map_map]
  exact congrFun (congrArg Option.map (funext sets)) _

theorem status_applyToRow (env : Env) (delivery : Delivery)
    (other : delivery.event.eventType ≠ .paymentSucceeded) :
    (applyToRow env delivery before).status delivery.event.accountId =
      (Act.applied delivery.event).onStatus delivery.event.accountId
        (before.status delivery.event.accountId) := by
  rw [Act.onStatus, if_pos rfl]
  cases kind : delivery.event.eventType with
  | paymentSucceeded => exact (other kind).elim
  | paymentFailed =>
      simp only [applyToRow, kind]
      exact status_updateRow fun _ => rfl
  | subscriptionCanceled =>
      simp only [applyToRow, kind]
      exact status_updateRow fun _ => rfl
  | unknown => simp only [applyToRow, kind]

/-- The effect of an event on the status is the replay of its entry. -/
theorem Effect.follows {env : Env} {delivery : Delivery}
    (effect : Effect env delivery before after) (allowed : ∀ event, P (.applied event)) :
    Follows P before after := by
  have elsewhere : ∀ accountId, accountId ≠ delivery.event.accountId →
      after.status accountId =
        (Act.applied delivery.event).onStatus accountId (before.status accountId) := by
    intro accountId apart
    rw [Act.onStatus, if_neg (Ne.symm apart)]
    exact status_congr (effect.subscription_ne apart)
  cases effect with
  | unchanged => exact .refl _
  | paid token payment rows trace =>
      refine follows_log (allowed _) trace fun accountId => ?_
      by_cases own : accountId = delivery.event.accountId
      · subst own
        rw [World.status, Effect.subscription_paid token rows, Act.onStatus, if_pos rfl, payment]
        cases before.subscription delivery.event.accountId <;> rfl
      · exact elsewhere accountId own
  | updated named other unseen =>
      refine follows_log (allowed delivery.event) ?_ fun accountId => ?_
      · rw [trace_addRecord, World.trace_log, trace_applyToRow]
      · by_cases own : accountId = delivery.event.accountId
        · subst own
          exact status_applyToRow env delivery other
        · exact elsewhere accountId own

end Follow

/-! ## What the threads do -/

/-- The entries of the sweep. -/
def Act.BySweep : Act → Prop
  | .lapsed _ | .suspended _ => True
  | .applied _ | .stashed _ _ => False

instance : DecidablePred Act.BySweep
  | .lapsed _ | .suspended _ => .isTrue trivial
  | .applied _ | .stashed _ _ => .isFalse id

@[simp]
theorem bySweep_lapsed (accounts : List String) : (Act.lapsed accounts).BySweep := trivial

@[simp]
theorem bySweep_suspended (accountId : String) : (Act.suspended accountId).BySweep := trivial

@[simp]
theorem not_bySweep_applied (event : PaymentEvent) : ¬ (Act.applied event).BySweep := id

/-- The part of the history that the sweep wrote. -/
def World.sweepLog (world : World) : List Act := world.trace.filter (·.BySweep)

section Threads

variable {env : Env} {delivery : Delivery} {sweep : Sweep}

theorem follows_workers {P : Act → Prop} : AllowsWorkers (Follows P) :=
  fun _ _ _ _ => follows_of_same rfl rfl

theorem follows_finish {P : Act → Prop} (allowed : ∀ now credentials, P (.stashed now credentials))
    (delivery : Delivery) (newlyIssued : Option NewlyIssued) :
    (finish delivery newlyIssued).Guarantees (Follows P) :=
  guarantees_finish follows_workers
    (fun now credentials _ => follows_log (allowed now credentials) rfl fun _ => rfl) delivery
    newlyIssued

/-- A handler appends its own entries only. -/
theorem follows_handleEventAtomically (env : Env) (delivery : Delivery) :
    (handleEventAtomically env delivery).Guarantees (Follows fun act => ¬ act.BySweep) := by
  unfold handleEventAtomically
  apply Prog.Guarantees.bind
  · exact Prog.guarantees_read .refl _
  · intro seen
    split
    · exact Prog.guarantees_pure _
    · apply Prog.Guarantees.bind
      · exact Prog.guarantees_atomically fun world =>
          (effect_applyEvent env delivery world).follows fun _ => id
      · exact fun newlyIssued => follows_finish (fun _ _ => id) delivery newlyIssued

theorem follows_markSuspended {P : Act → Prop} (now : ℤ) (accountId : String)
    (allowed : P (.suspended accountId)) :
    (markSuspended now accountId).Guarantees (Follows P) := by
  refine Prog.guarantees_modify fun world => follows_log allowed ?_ fun other => ?_
  · rw [World.trace_log, trace_updateRow]
  · by_cases own : accountId = other
    · subst own
      rw [Act.onStatus, if_pos rfl]
      exact status_updateRow fun _ => rfl
    · rw [Act.onStatus, if_neg own]
      exact status_congr (subscription_updateRow_ne (Ne.symm own))

theorem follows_suspendAll (sweep : Sweep) (accounts : List String) :
    (suspendAll sweep accounts).Guarantees (Follows fun _ => True) := by
  induction accounts with
  | nil => exact Prog.guarantees_pure _
  | cons accountId rest ih =>
      have mark : (markSuspended (sweep.suspendedAt accountId) accountId >>= fun _ =>
          suspendAll sweep rest).Guarantees (Follows fun _ => True) :=
        (follows_markSuspended _ _ trivial).bind fun _ => ih
      rw [suspendAll]
      apply Prog.Guarantees.bind
      · exact Prog.guarantees_read .refl _
      · intro running
        split
        · exact (guarantees_stopWorker follows_workers _ _).bind fun _ => mark
        · exact mark

/-- The sweep of a list suspends each of its accounts, once and in order. -/
theorem emits_suspendAll (sweep : Sweep) (accounts : List String) :
    (suspendAll sweep accounts).Emits World.sweepLog
      (· = accounts.map .suspended) := by
  induction accounts with
  | nil => rfl
  | cons accountId rest ih =>
      have mark : (markSuspended (sweep.suspendedAt accountId) accountId >>= fun _ =>
          suspendAll sweep rest).Emits World.sweepLog
            (· = (accountId :: rest).map .suspended) := by
        refine fun world => ⟨[.suspended accountId], ?_, ?_⟩
        · rw [World.sweepLog, World.trace_log, trace_updateRow, List.filter_append]
          rfl
        · simp only [List.map_cons, List.singleton_append, List.cons.injEq, true_and]
          exact ih
      have stop : (stopWorker (sweep.jobIds accountId) accountId).Silent World.sweepLog :=
        Prog.Silent.bind (fun _ => ⟨rfl, trivial⟩) fun _ =>
          Prog.Silent.bind (fun _ => ⟨rfl, trivial⟩) fun _ => trivial
      have check : (isRunning accountId).Silent World.sweepLog := fun _ => ⟨rfl, trivial⟩
      refine Prog.Emits.silent_bind check fun running => ?_
      split
      · exact Prog.Emits.silent_bind stop fun _ => mark
      · exact mark

theorem follows_sweepOnce (sweep : Sweep) :
    (sweepOnce sweep).Guarantees (Follows fun _ => True) :=
  Prog.Guarantees.bind
    (Prog.guarantees_act fun _ => follows_log trivial rfl fun _ => rfl)
    fun lapsed => follows_suspendAll sweep lapsed

/-- Entries of other threads do not show in the log of the sweep. -/
theorem sweepLog_of_follows {before after : World}
    (follows : Follows (fun act => ¬ act.BySweep) before after) :
    after.sweepLog = before.sweepLog := by
  rcases follows with ⟨added, trace, others, _⟩
  have none : added.filter (·.BySweep) = [] :=
    List.filter_eq_nil_iff.mpr fun act member swept =>
      others act member (of_decide_eq_true swept)
  rw [World.sweepLog, trace, List.filter_append, none, List.append_nil]
  rfl

end Threads

/-! ## The end of a run -/

section Runs

variable {ι : Type} {env : Env} {sweep : Sweep} {deliveries : ι → Delivery}
  {world : World} {accountId : String}

theorem follows_sweepPool (i : Option ι) :
    ((sweepPool env sweep deliveries world).threads i).Guarantees (Follows fun _ => True) := by
  cases i with
  | none => exact follows_sweepOnce sweep
  | some i =>
      refine Prog.Guarantees.bind ?_ fun _ => Prog.guarantees_pure _
      refine (follows_handleEventAtomically env (deliveries i)).mono fun before after follows => ?_
      rcases follows with ⟨added, trace, _, status⟩
      exact ⟨added, trace, fun _ _ => trivial, status⟩

theorem follows_handlers (i : ι) :
    ((sweepPool env sweep deliveries world).threads (some i)).Guarantees
      (Follows fun act => ¬ act.BySweep) :=
  (follows_handleEventAtomically env (deliveries i)).bind fun _ => Prog.guarantees_pure _

/-- After the last event of an account only a suspension changes its status. -/
theorem replay_late {late : List Act} {status : String}
    (last : ∀ event, .applied event ∈ late → event.accountId ≠ accountId) :
    replay accountId late (some status) =
      some (if .suspended accountId ∈ late then "suspended" else status) := by
  induction late generalizing status with
  | nil => rfl
  | cons act rest ih =>
      have later : ∀ event, .applied event ∈ rest → event.accountId ≠ accountId :=
        fun event member => last event (List.mem_cons_of_mem _ member)
      rw [replay_cons]
      cases act with
      | applied event =>
          have apart : event.accountId ≠ accountId := last event List.mem_cons_self
          rw [Act.onStatus, if_neg apart]
          simpa using ih later
      | suspended other =>
          by_cases own : other = accountId
          · subst own
            rw [Act.onStatus, if_pos rfl, if_pos List.mem_cons_self]
            exact (ih later).trans (by rw [ite_self])
          · rw [Act.onStatus, if_neg own]
            simpa [Ne.symm own] using ih later
      | stashed _ _ | lapsed _ => simpa [Act.onStatus] using ih later

theorem nodup_lapsedAccounts (world : World) (now : ℤ) : (world.lapsedAccounts now).Nodup :=
  (List.filter_sublist.map _).nodup world.subscriptions.nodupKeys

section FromRead

variable [DecidableEq ι] {pool : Pool (Option ι) Failure World Unit}
  {after : List (Option ι)} {outcome : Except Failure Unit} {middle late : List Act}
  {event : PaymentEvent}

/-- From its first turn on the sweep writes the list it read and suspends the accounts on
it. -/
theorem sweepLog_exec (reads : pool.threads none = sweepOnce sweep)
    (handlers : ∀ i, (pool.threads (some i)).Guarantees (Follows fun act => ¬ act.BySweep))
    (finished : (pool.exec (none :: after)).threads none = .halt outcome) :
    (pool.exec (none :: after)).shared.sweepLog = pool.shared.sweepLog ++
      .lapsed (pool.shared.lapsedAccounts sweep.now) ::
        (pool.shared.lapsedAccounts sweep.now).map .suspended := by
  have first : sweepOnce sweep = .step
      (fun world => world.log (.lapsed (world.lapsedAccounts sweep.now)))
      fun world => suspendAll sweep (world.lapsedAccounts sweep.now) := rfl
  have thread : (pool.step none).threads none =
      suspendAll sweep (pool.shared.lapsedAccounts sweep.now) := by
    simp only [Pool.step, reads, first, Function.update_self]
  have shared : (pool.step none).shared =
      pool.shared.log (.lapsed (pool.shared.lapsedAccounts sweep.now)) := by
    simp only [Pool.step, reads, first]
  have emits := emits_suspendAll sweep (pool.shared.lapsedAccounts sweep.now)
  rw [← thread] at emits
  have others : ∀ i, i ≠ none →
      ((pool.step none).threads i).Guarantees fun s t => t.sweepLog = s.sweepLog := by
    intro i handler
    cases i with
    | none => exact (handler rfl).elim
    | some i =>
        exact (Pool.guarantees_step none (some i) (handlers i)).mono fun _ _ =>
          sweepLog_of_follows
  rw [Pool.exec_cons] at finished ⊢
  obtain ⟨added, grown, rfl⟩ := Pool.exec_emits emits others finished
  rw [grown, shared, World.sweepLog, World.trace_log, List.filter_append, List.append_assoc]
  rfl

/-- Of an account that pays after the read, the sweep's suspension comes last exactly
when the account was on the list and its suspension did not come first. -/
theorem suspended_late_iff (reads : pool.threads none = sweepOnce sweep)
    (handlers : ∀ i, (pool.threads (some i)).Guarantees (Follows fun act => ¬ act.BySweep))
    (finished : (pool.exec (none :: after)).threads none = .halt outcome)
    (history : (pool.exec (none :: after)).shared.trace = pool.shared.trace ++
      .lapsed (pool.shared.lapsedAccounts sweep.now) :: (middle ++ .applied event :: late)) :
    .suspended accountId ∉ late ↔
      accountId ∉ pool.shared.lapsedAccounts sweep.now ∨ .suspended accountId ∈ middle := by
  have split : middle.filter (·.BySweep) ++ late.filter (·.BySweep) =
      (pool.shared.lapsedAccounts sweep.now).map Act.suspended := by
    have written := sweepLog_exec reads handlers finished
    rw [World.sweepLog, history, List.filter_append, World.sweepLog] at written
    simpa using List.append_cancel_left written
  have swept : ∀ acts : List Act, .suspended accountId ∈ acts.filter (·.BySweep) ↔
      .suspended accountId ∈ acts := by
    simp
  have owed : .suspended accountId ∈ middle ∨ .suspended accountId ∈ late ↔
      accountId ∈ pool.shared.lapsedAccounts sweep.now := by
    rw [← swept middle, ← swept late, ← List.mem_append, split]
    simp
  have once : .suspended accountId ∈ middle → .suspended accountId ∉ late := by
    have nodup : ((pool.shared.lapsedAccounts sweep.now).map Act.suspended).Nodup :=
      (nodup_lapsedAccounts _ _).map fun _ _ same => Act.suspended.inj same
    rw [← split] at nodup
    rw [← swept middle, ← swept late]
    exact fun early again => List.disjoint_of_nodup_append nodup early again
  tauto

/-- The account's status when the sweep has ended is active exactly when no suspension
came after its payment. -/
theorem status_exec_iff (guarantees : ∀ i, (pool.threads i).Guarantees (Follows fun _ => True))
    (history : (pool.exec (none :: after)).shared.trace = pool.shared.trace ++
      .lapsed (pool.shared.lapsedAccounts sweep.now) :: (middle ++ .applied event :: late))
    (own : event.accountId = accountId) (payment : event.eventType = .paymentSucceeded)
    (last : ∀ other, .applied other ∈ late → other.accountId ≠ accountId) :
    (pool.exec (none :: after)).shared.status accountId = some "active" ↔
      .suspended accountId ∉ late := by
  obtain ⟨added, trace, _, status⟩ := Pool.exec_guarantee Follows.refl
    (fun first second => first.trans second) guarantees (none :: after)
  obtain rfl := List.append_cancel_left (history.symm.trans trace)
  have paid : (Act.applied event).onStatus accountId
      (replay accountId middle (pool.shared.status accountId)) = some "active" := by
    rw [Act.onStatus, if_pos own, payment]
  have entry : (Act.lapsed (pool.shared.lapsedAccounts sweep.now)).onStatus accountId
      (pool.shared.status accountId) = pool.shared.status accountId := rfl
  rw [status, replay_cons, entry, replay_append, replay_cons, paid, replay_late last]
  by_cases suspended : .suspended accountId ∈ late
  · simp [suspended]
  · simp [suspended]

end FromRead

/-- **The sweep.**  A sweep reads its list of lapsed accounts, a payment for an account
is applied after that, and no later event of the account is.  When the sweep has ended the
account is active exactly when it was not lapsed at the read or the sweep had suspended
it before it paid. -/
theorem sweep_active_iff [DecidableEq ι] (before after : List (Option ι))
    (middle late : List Act) {event : PaymentEvent} {outcome : Except Failure Unit}
    (unread : none ∉ before)
    (finished : ((sweepPool env sweep deliveries world).exec (before ++ none :: after)).threads
      none = .halt outcome)
    (history :
      ((sweepPool env sweep deliveries world).exec (before ++ none :: after)).shared.trace =
      ((sweepPool env sweep deliveries world).exec before).shared.trace ++
        .lapsed (((sweepPool env sweep deliveries world).exec before).shared.lapsedAccounts
          sweep.now) :: (middle ++ .applied event :: late))
    (own : event.accountId = accountId) (payment : event.eventType = .paymentSucceeded)
    (last : ∀ other, .applied other ∈ late → other.accountId ≠ accountId) :
    ((sweepPool env sweep deliveries world).exec (before ++ none :: after)).shared.status
        accountId = some "active" ↔
      accountId ∉ ((sweepPool env sweep deliveries world).exec before).shared.lapsedAccounts
        sweep.now ∨ .suspended accountId ∈ middle := by
  have reads : ((sweepPool env sweep deliveries world).exec before).threads none =
      sweepOnce sweep := Pool.threads_exec_of_not_mem unread
  rw [Pool.exec_append] at finished history ⊢
  rw [status_exec_iff (fun i => Pool.guarantees_exec (follows_sweepPool i) before) history own
    payment last]
  exact suspended_late_iff reads (fun i => Pool.guarantees_exec (follows_handlers i) before)
    finished history

end Runs

/-! ## A sample sweep -/

/-- The account `acc` at the end of its grace period. -/
def lapsedWorld : World :=
  World.empty.setSubscription "acc"
    { provider := some "paystack"
      providerCustomerId := none
      providerSubscriptionId := none
      status := "past_due"
      currentPeriodEnd := none
      gracePeriodEndsAt := some 5
      portalToken := some "portal"
      updatedAt := 0 }

/-- One sweep and one payment of `acc`. -/
def sweepAndPayment : Pool (Option Unit) Failure World Unit :=
  sweepPool sampleEnv ⟨10, fun _ => 30, fun _ => "job"⟩
    (fun _ => ⟨sampleEvent .paymentSucceeded "e1", 20, sampleDraws 1⟩) lapsedWorld

/-- The payment is applied between the read and the suspension. -/
theorem sweepAndPayment_suspended :
    (sweepAndPayment.exec [none, some (), some (), none, none]).Finished ∧
    (sweepAndPayment.exec [none, some (), some (), none, none]).shared.trace =
      [.lapsed ["acc"], .applied (sampleEvent .paymentSucceeded "e1"), .suspended "acc"] ∧
    (sweepAndPayment.exec [none, some (), some (), none, none]).shared.status "acc" ≠
      some "active" := by
  refine ⟨fun i => ?_, by decide +kernel, by decide +kernel⟩
  cases i
  · exact ⟨.ok (), rfl⟩
  · exact ⟨.ok (), rfl⟩

/-- The payment is applied after the suspension. -/
theorem sweep_active_iff_sampled :
    (sweepAndPayment.exec [none, none, none, some (), some ()]).shared.status "acc" =
      some "active" := by
  have history : (sweepAndPayment.exec [none, none, none, some (), some ()]).shared.trace =
      [.lapsed ["acc"], .suspended "acc", .applied (sampleEvent .paymentSucceeded "e1")] := by
    decide +kernel
  exact (sweep_active_iff [] [none, none, some (), some ()] [.suspended "acc"] []
    List.not_mem_nil rfl history rfl rfl nofun).mpr (.inr List.mem_cons_self)

end Aegis.Subscriptions
