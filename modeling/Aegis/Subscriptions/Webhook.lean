import Aegis.Subscriptions.Service

/-!
# The webhook handler

`receive_webhook` from the point where the signature is checked and the body parsed,
with the parts of `CredentialRevealService` and `WorkerPoolManager` it calls.  Redis
commands are steps of their own.
-/

namespace Aegis.Subscriptions

open Aegis.Lib

/-- `PENDING_CREDENTIALS_TTL_SECONDS`. -/
def pendingCredentialsTtlSeconds : ℤ := 60 * 60

/-- `SET pending_credentials:{account_id} ... EX 3600`. -/
def stashed (now : ℤ) (credentials : PendingCredentials) (world : World) : World :=
  { world with
    pendingCredentials := Function.update world.pendingCredentials credentials.accountId
      (some ⟨credentials, some (now + seconds pendingCredentialsTtlSeconds)⟩) }.log
    (.stashed now credentials)

def stashCredentials (now : ℤ) (accountId portalToken mobileApiKey : String) :
    Prog Failure World Unit :=
  Prog.modify (stashed now ⟨portalToken, mobileApiKey, accountId⟩)

def isRunning (accountId : String) : Prog Failure World Bool :=
  Prog.read fun world => decide (accountId ∈ world.workerRegistry)

/-- `stop_worker`: drop the process and its registry field, then queue the `STOP` job.
A process of this instance is waited for, or killed after five seconds; either way it
is gone, and the handle with it. -/
def stopWorker (jobId accountId : String) : Prog Failure World Bool := do
  Prog.modify fun world =>
    { world with
      workers := world.workers.erase accountId
      workerRegistry := world.workerRegistry.erase accountId }
  Prog.modify fun world =>
    { world with
      queues := Function.update world.queues accountId
        (⟨jobId, "STOP", .dict []⟩ :: world.queues accountId) }
  return true

inductive Response where
  | alreadyProcessed
  | processed
  deriving DecidableEq

/-- `event_type.name in ("PAYMENT_FAILED", "SUBSCRIPTION_CANCELED")`. -/
def PaymentEventType.disconnects : PaymentEventType → Bool
  | .paymentFailed | .subscriptionCanceled => true
  | .paymentSucceeded | .unknown => false

/-- Disconnect the worker of an account that just lost its subscription. -/
def disconnect (delivery : Delivery) : Prog Failure World Unit := do
  let event := delivery.event
  if event.accountId ≠ "" && event.eventType.disconnects then
    if ← isRunning event.accountId then
      if !(← isActive delivery.now event.accountId) then
        let _ ← stopWorker delivery.draws.jobId event.accountId

/-- Stage the credentials of a first activation. -/
def stashIssued (delivery : Delivery) : Option NewlyIssued → Prog Failure World Unit
  | some issued =>
      stashCredentials delivery.now issued.accountId issued.portalToken issued.mobileApiKey
  | none => pure ()

/-- The handler after `apply_event`. -/
def finish (delivery : Delivery) (newlyIssued : Option NewlyIssued) :
    Prog Failure World Response := do
  stashIssued delivery newlyIssued
  disconnect delivery
  return .processed

def handleEvent (env : Env) (delivery : Delivery) : Prog Failure World Response := do
  if ← alreadyProcessed delivery.event.provider delivery.event.providerEventId then
    return .alreadyProcessed
  let newlyIssued ← applyEvent env delivery
  finish delivery newlyIssued

/-! ## What a whole run does -/

section Run

variable {env : Env} {delivery : Delivery} {world : World}

/-- The run of a handler whose event is on record changes nothing. -/
theorem run_handleEvent_of_processed
    (seen : world.Processed delivery.event.provider delivery.event.providerEventId) :
    (handleEvent env delivery).run world = (.ok .alreadyProcessed, world) := by
  simp only [handleEvent, alreadyProcessed, Prog.run_bind, Prog.run_read, seen, decide_true]
  rfl

theorem run_handleEvent_of_unseen
    (unseen : ¬ world.Processed delivery.event.provider delivery.event.providerEventId) :
    (handleEvent env delivery).run world =
      (applyEvent env delivery >>= finish delivery).run world := by
  simp only [handleEvent, alreadyProcessed]
  rw [Prog.run_bind_ok (Prog.run_read _ _)]
  simp only [unseen, decide_false, Bool.false_eq_true, if_false]

/-- The run of a handler whose event names no account changes nothing. -/
theorem run_handleEvent_of_anonymous (anonymous : delivery.event.accountId = "") :
    ((handleEvent env delivery).run world).2 = world := by
  by_cases seen : world.Processed delivery.event.provider delivery.event.providerEventId
  · rw [run_handleEvent_of_processed seen]
  · simp only [handleEvent, alreadyProcessed, Prog.run_bind, Prog.run_read, seen,
      decide_false, applyEvent, anonymous]
    simp [finish, stashIssued, disconnect, anonymous]

end Run

/-! ## What the handler's own steps keep -/

section Keeps

variable {R : World → World → Prop}

/-- The relation lets the workers and their queues change. -/
def AllowsWorkers (R : World → World → Prop) : Prop :=
  ∀ (world : World) (registry workers : Finset String) (queues : String → List Job),
    R world { world with workerRegistry := registry, workers := workers, queues := queues }

theorem AllowsWorkers.refl (allows : AllowsWorkers R) (world : World) : R world world :=
  allows world world.workerRegistry world.workers world.queues

theorem guarantees_stopWorker (allows : AllowsWorkers R) (jobId accountId : String) :
    (stopWorker jobId accountId).Guarantees R := by
  unfold stopWorker
  apply Prog.Guarantees.bind
  · exact Prog.guarantees_modify fun world => allows world _ _ world.queues
  · intro _
    apply Prog.Guarantees.bind
    · exact Prog.guarantees_modify fun world => allows world world.workerRegistry world.workers _
    · exact fun _ => Prog.guarantees_pure _

theorem guarantees_disconnect (allows : AllowsWorkers R) (delivery : Delivery) :
    (disconnect delivery).Guarantees R := by
  unfold disconnect
  dsimp only
  split
  · refine (Prog.guarantees_read allows.refl _).bind fun running => ?_
    split
    · refine (Prog.guarantees_read allows.refl _).bind fun active => ?_
      split
      · exact (guarantees_stopWorker allows _ _).bind fun _ => Prog.guarantees_pure _
      · exact Prog.guarantees_pure _
    · exact Prog.guarantees_pure _
  · exact Prog.guarantees_pure _

/-- After `apply_event` the handler stages credentials and touches workers. -/
theorem guarantees_finish (allows : AllowsWorkers R)
    (stash : ∀ now credentials world, R world (stashed now credentials world))
    (delivery : Delivery) (newlyIssued : Option NewlyIssued) :
    (finish delivery newlyIssued).Guarantees R := by
  unfold finish
  apply Prog.Guarantees.bind
  · cases newlyIssued with
    | none => exact Prog.guarantees_pure _
    | some issued => exact Prog.guarantees_modify fun world => stash _ _ world
  · intro _
    exact (guarantees_disconnect allows delivery).bind fun _ => Prog.guarantees_pure _

end Keeps

/-! ## What the handler raises -/

/-- An exception that is not an answer of the handler's own. -/
def Crash (e : Failure) : Prop := ∀ statusCode detail, e ≠ .httpException statusCode detail

theorem crash_recordProcessed {now : ℤ} {event : PaymentEvent} {world : World} {e : Failure}
    (raised : recordProcessed now event world = .error e) : Crash e := by
  unfold recordProcessed at raised
  split at raised
  · cases raised
    exact nofun
  · cases raised

theorem crash_insertKey {env : Env} {now : ℤ} {rawKey : String} {request : KeyRequest}
    {world : World} {e : Failure} (raised : insertKey env now rawKey request world = .error e) :
    Crash e := by
  unfold insertKey at raised
  split at raised
  · cases raised
  · cases raised
    exact nofun

theorem raises_issueCredentials (env : Env) (delivery : Delivery) (portalToken : String) :
    (issueCredentials env delivery portalToken).Raises Crash := by
  unfold issueCredentials issueApiKey
  apply Prog.Raises.bind
  · apply Prog.Raises.bind
    · exact Prog.raises_commit fun _ _ => crash_insertKey
    · exact fun _ => trivial
  · intro mobileApiKey
    apply Prog.Raises.bind
    · exact Prog.raises_commit fun _ _ => crash_recordProcessed
    · exact fun _ => trivial

theorem raises_activate (env : Env) (delivery : Delivery) (existing : Option Subscription) :
    (activate env delivery existing).Raises Crash := by
  cases existing with
  | none =>
      apply Prog.Raises.bind
      · exact fun _ => trivial
      · exact fun _ => raises_issueCredentials env delivery _
  | some row =>
      apply Prog.Raises.bind
      · exact Prog.raises_commit fun _ _ => crash_recordProcessed
      · exact fun _ => trivial

theorem raises_applyEvent (env : Env) (delivery : Delivery) :
    (applyEvent env delivery).Raises Crash := by
  unfold applyEvent
  dsimp only
  split
  · trivial
  · split
    · exact Prog.Raises.bind (fun _ => trivial) fun existing =>
        raises_activate env delivery existing
    all_goals
      exact Prog.Raises.bind (Prog.raises_commit fun _ _ => crash_recordProcessed)
        fun _ => trivial

theorem raises_disconnect (delivery : Delivery) : (disconnect delivery).Raises Crash := by
  unfold disconnect
  dsimp only
  split
  · apply Prog.Raises.bind
    · exact fun _ => trivial
    · intro running
      split
      · apply Prog.Raises.bind
        · exact fun _ => trivial
        · intro active
          split
          · exact fun _ => fun _ => trivial
          · trivial
      · trivial
  · trivial

theorem raises_finish (delivery : Delivery) (newlyIssued : Option NewlyIssued) :
    (finish delivery newlyIssued).Raises Crash := by
  unfold finish
  apply Prog.Raises.bind
  · cases newlyIssued with
    | none => trivial
    | some issued => exact fun _ => trivial
  · exact fun _ => (raises_disconnect delivery).bind fun _ => trivial

theorem raises_handleEvent (env : Env) (delivery : Delivery) :
    (handleEvent env delivery).Raises Crash := by
  unfold handleEvent
  apply Prog.Raises.bind
  · exact fun _ => trivial
  · intro seen
    split
    · trivial
    · exact (raises_applyEvent env delivery).bind fun newlyIssued =>
        raises_finish delivery newlyIssued

/-! ## A sample account -/

/-- An event of the account `acc`. -/
def sampleEvent (eventType : PaymentEventType) (providerEventId : String) : PaymentEvent :=
  ⟨"paystack", providerEventId, eventType, "acc", none, none, none⟩

/-- Draws that are told apart by their number. -/
def sampleDraws (n : ℕ) : Draws where
  portalToken := "portal" ++ String.ofList (List.replicate n 'i')
  mobileApiKey := "key" ++ String.ofList (List.replicate n 'i')
  jobId := "job"
  portalToken_ne := by simp

/-- The default settings; keys are their own hashes. -/
def sampleEnv : Env := { hashKey := id }

end Aegis.Subscriptions
