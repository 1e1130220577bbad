import Aegis.Subscriptions.Webhook

/-!
# The payment handler, point by point

The handler of a `PAYMENT_SUCCEEDED` event for a named account stands between two of
its steps at one of a few points.  `paymentControl` lays the handler out by these points, so
that interleavings and interruptions can be argued about point by point.
-/

namespace Aegis.Subscriptions

open Aegis.Lib

/-- Where a payment's handler stands. -/
inductive Point where
  /-- before `already_processed` -/
  | start
  /-- before `session.get` -/
  | checked
  /-- before the upsert, with what `session.get` returned -/
  | fetched (existing : Option Subscription)
  /-- after the upsert of a first activation, before `issue_api_key` -/
  | activated
  /-- before the event is recorded -/
  | issued
  /-- before `stash_credentials` -/
  | recorded
  | halted (outcome : Except Failure Response)

section Payment

variable (env : Env) (delivery : Delivery)

/-- The result of a first activation. -/
def Delivery.credentials : NewlyIssued :=
  ⟨delivery.event.accountId, delivery.draws.portalToken, delivery.draws.mobileApiKey⟩

/-- What a first activation stages. -/
def Delivery.pending : PendingCredentials :=
  ⟨delivery.draws.portalToken, delivery.draws.mobileApiKey, delivery.event.accountId⟩

/-- The upsert and the record of a renewal. -/
def renewed (row : Subscription) (world : World) : Except Failure World :=
  recordProcessed delivery.now delivery.event
    (upsertActive delivery.now delivery.event
      (portalTokenFor (some row) delivery.draws.portalToken) world)

/-- What is left to run at a point. -/
def Point.prog : Point → Prog Failure World Response
  | start => handleEvent env delivery
  | checked => applyEvent env delivery >>= finish delivery
  | fetched existing => activate env delivery existing >>= finish delivery
  | activated => issueCredentials env delivery delivery.draws.portalToken >>= finish delivery
  | issued =>
      Prog.commit (recordProcessed delivery.now delivery.event) >>= fun _ =>
        finish delivery (some delivery.credentials)
  | recorded => finish delivery (some delivery.credentials)
  | halted outcome => .halt outcome

/-- What the next step does to the world. -/
def Point.effect : Point → World → World
  | start | checked | halted _ => id
  | fetched none => upsertActive delivery.now delivery.event delivery.draws.portalToken
  | fetched (some row) => Prog.committed (renewed delivery row)
  | activated =>
      Prog.committed
        (insertKey env delivery.now delivery.draws.mobileApiKey delivery.event.keyRequest)
  | issued => Prog.committed (recordProcessed delivery.now delivery.event)
  | recorded => stashed delivery.now delivery.pending

/-- The point the next step leads to. -/
def Point.next : Point → World → Point
  | start, world =>
      if world.Processed delivery.event.provider delivery.event.providerEventId then
        .halted (.ok .alreadyProcessed)
      else .checked
  | checked, world => .fetched (world.subscription delivery.event.accountId)
  | fetched none, _ => .activated
  | fetched (some row), world =>
      match renewed delivery row world with
      | .ok _ => .halted (.ok .processed)
      | .error e => .halted (.error e)
  | activated, world =>
      match insertKey env delivery.now delivery.draws.mobileApiKey delivery.event.keyRequest
          world with
      | .ok _ => .issued
      | .error e => .halted (.error e)
  | issued, world =>
      match recordProcessed delivery.now delivery.event world with
      | .ok _ => .recorded
      | .error e => .halted (.error e)
  | recorded, _ => .halted (.ok .processed)
  | halted outcome, _ => .halted outcome

variable {env delivery}

/-! ## What a step does -/

theorem recordProcessed_cases (now : ℤ) (event : PaymentEvent) (world : World) :
    recordProcessed now event world = .ok (addRecord now event world) ∨
      ∃ e, recordProcessed now event world = .error e := by
  unfold recordProcessed
  split
  · exact Or.inr ⟨_, rfl⟩
  · exact Or.inl rfl

/-- A renewal commits its upsert with its record, or neither. -/
theorem Point.step_renewal (row : Subscription) (world : World) :
    ((fetched (some row)).next env delivery world = .halted (.ok .processed) ∧
      (fetched (some row)).effect env delivery world =
        addRecord delivery.now delivery.event
          (upsertActive delivery.now delivery.event
            (portalTokenFor (some row) delivery.draws.portalToken) world)) ∨
    ∃ e, (fetched (some row)).next env delivery world = .halted (.error e) ∧
      (fetched (some row)).effect env delivery world = world := by
  rcases recordProcessed_cases delivery.now delivery.event
    (upsertActive delivery.now delivery.event
      (portalTokenFor (some row) delivery.draws.portalToken) world) with done | ⟨e, raised⟩
  · refine Or.inl ?_
    simp only [next, effect, Prog.committed, renewed, done, and_self]
  · refine Or.inr ⟨e, ?_⟩
    simp only [next, effect, Prog.committed, renewed, raised, and_self]

theorem Point.step_activated {world : World}
    (fresh : world.FreshKey env delivery.draws.mobileApiKey) :
    activated.next env delivery world = .issued ∧
      activated.effect env delivery world =
        addKey env delivery.now delivery.draws.mobileApiKey delivery.event.keyRequest world := by
  have done : insertKey env delivery.now delivery.draws.mobileApiKey
      delivery.event.keyRequest world = .ok _ := insertKey_of_fresh fresh
  simp only [next, effect, Prog.committed, done, and_self]

theorem Point.step_issued (world : World) :
    (issued.next env delivery world = .recorded ∧
      issued.effect env delivery world = addRecord delivery.now delivery.event world) ∨
    ∃ e, issued.next env delivery world = .halted (.error e) ∧
      issued.effect env delivery world = world := by
  rcases recordProcessed_cases delivery.now delivery.event world with done | ⟨e, raised⟩
  · refine Or.inl ?_
    simp only [next, effect, Prog.committed, done, and_self]
  · refine Or.inr ⟨e, ?_⟩
    simp only [next, effect, Prog.committed, raised, and_self]

/-! ## The points lay out the handler -/

theorem finish_payment (payment : delivery.event.eventType = .paymentSucceeded)
    (newlyIssued : Option NewlyIssued) :
    finish delivery newlyIssued = stashIssued delivery newlyIssued >>= fun _ =>
      .halt (.ok .processed) := by
  simp only [finish, disconnect, payment, PaymentEventType.disconnects, Bool.and_false,
    Bool.false_eq_true, if_false]
  rfl

theorem Point.prog_renewal (row : Subscription) :
    (fetched (some row)).prog env delivery =
      Prog.commit (renewed delivery row) >>= fun _ => finish delivery none :=
  bind_assoc (Prog.commit (renewed delivery row)) (fun _ => pure none) (finish delivery)

theorem Point.prog_activated :
    activated.prog env delivery =
      Prog.commit (insertKey env delivery.now delivery.draws.mobileApiKey
        delivery.event.keyRequest) >>= fun _ => issued.prog env delivery := by
  simp only [Point.prog, issueCredentials, issueApiKey, bind_assoc]
  rfl

/-- Each point goes on to the next. -/
theorem Point.prog_running (named : delivery.event.accountId ≠ "")
    (payment : delivery.event.eventType = .paymentSucceeded) {p : Point}
    (running : ∀ outcome, p ≠ .halted outcome) :
    p.prog env delivery = .step (p.effect env delivery) fun world =>
      (p.next env delivery world).prog env delivery := by
  cases p with
  | halted outcome => exact (running outcome rfl).elim
  | start =>
      refine congrArg (Prog.step id) (funext fun world => ?_)
      by_cases seen : world.Processed delivery.event.provider delivery.event.providerEventId
      · simp only [Point.next, seen, decide_true, if_true]
        rfl
      · simp only [Point.next, seen, decide_false, if_false]
        rfl
  | checked =>
      simp only [Point.prog, applyEvent, named, if_false, payment]
      rfl
  | fetched existing =>
      cases existing with
      | none => rfl
      | some row =>
          rw [Point.prog_renewal, Prog.commit_bind]
          refine congrArg (Prog.step _) (funext fun world => ?_)
          rw [Point.next]
          cases renewed delivery row world with
          | ok after => exact finish_payment payment none
          | error e => rfl
  | activated =>
      rw [Point.prog_activated, Prog.commit_bind]
      refine congrArg (Prog.step _) (funext fun world => ?_)
      rw [Point.next]
      cases insertKey env delivery.now delivery.draws.mobileApiKey delivery.event.keyRequest
        world <;> rfl
  | issued =>
      rw [Point.prog, Prog.commit_bind]
      refine congrArg (Prog.step _) (funext fun world => ?_)
      rw [Point.next]
      cases recordProcessed delivery.now delivery.event world <;> rfl
  | recorded =>
      simp only [Point.prog, finish_payment payment]
      rfl

theorem Point.eq_halted_of_prog (named : delivery.event.accountId ≠ "")
    (payment : delivery.event.eventType = .paymentSucceeded) {p : Point}
    {outcome : Except Failure Response} (ended : p.prog env delivery = .halt outcome) :
    p = .halted outcome := by
  by_cases running : ∀ other, p ≠ .halted other
  · rw [Point.prog_running named payment running] at ended
    cases ended
  · simp only [not_forall, not_not] at running
    rcases running with ⟨other, rfl⟩
    cases ended
    rfl

variable (env) in
/-- The handler of a payment for a named account. -/
def paymentControl (delivery : Delivery) (named : delivery.event.accountId ≠ "")
    (payment : delivery.event.eventType = .paymentSucceeded) :
    Control Failure World Response Point where
  prog := Point.prog env delivery
  effect := Point.effect env delivery
  next := Point.next env delivery
  law p := by
    by_cases running : ∀ outcome, p ≠ .halted outcome
    · exact Or.inr (Point.prog_running named payment running)
    · simp only [not_forall, not_not] at running
      rcases running with ⟨outcome, rfl⟩
      exact Or.inl ⟨outcome, rfl, fun _ => ⟨rfl, rfl⟩⟩

end Payment

end Aegis.Subscriptions
