import Aegis.Subscriptions.Activation

/-!
# Payments that are interrupted and delivered again

The handler of a first activation commits the subscription, then the key, then the
record of the event, and stages the credentials last, while the next handler tells a
first activation by the missing row.  So an attempt that an exception ends between the
first of these effects and the last leaves a row behind, and no later attempt stages
anything.  `redelivered_staged_iff` says exactly when the credentials do arrive.
-/

namespace Aegis.Subscriptions

open Aegis.Lib

/-- One handling of a delivery, which an exception ends after `steps` steps. -/
structure Attempt where
  delivery : Delivery
  steps : ℕ

/-- A handling that nothing ends: the handler of a payment takes at most six steps. -/
def Attempt.complete (delivery : Delivery) : Attempt := ⟨delivery, 6⟩

/-- What an attempt leaves behind. -/
def Attempt.leave (env : Env) (attempt : Attempt) (world : World) : World :=
  (handleEvent env attempt.delivery).crash attempt.steps world

/-- What attempts one after another leave behind. -/
def leaveAll (env : Env) (attempts : List Attempt) (world : World) : World :=
  attempts.foldl (fun now attempt => attempt.leave env now) world

/-- The attempt commits its upsert, when it starts from `world`: the event is not on record
and the exception comes after the third step. -/
def Attempt.Commits (world : World) (attempt : Attempt) : Prop :=
  ¬ world.Processed attempt.delivery.event.provider attempt.delivery.event.providerEventId ∧
    3 ≤ attempt.steps

instance (world : World) (attempt : Attempt) : Decidable (attempt.Commits world) :=
  instDecidableAnd

/-- Attempts at payments of the account, with keys that are not in the table. -/
structure Redelivered (env : Env) (accountId : String) (attempts : List Attempt)
    (world : World) : Prop where
  named : accountId ≠ ""
  account : ∀ attempt ∈ attempts, attempt.delivery.event.accountId = accountId
  payment : ∀ attempt ∈ attempts, attempt.delivery.event.eventType = .paymentSucceeded
  fresh : ∀ attempt ∈ attempts, world.FreshKey env attempt.delivery.draws.mobileApiKey

/-- Between `before` and `after` a key was staged for the account that opens it, together
with the stored portal token. -/
def Staged (env : Env) (accountId : String) (before after : World) : Prop :=
  ∃ now credentials, .stashed now credentials ∈ after.trace.drop before.trace.length ∧
    credentials.accountId = accountId ∧
    after.Opens env now credentials.mobileApiKey accountId ∧
    ∃ row, after.subscription accountId = some row ∧
      row.portalToken = some credentials.portalToken

/-! ## One attempt -/

section Walk

variable {env : Env} {delivery : Delivery} (named : delivery.event.accountId ≠ "")
  (payment : delivery.event.eventType = .paymentSucceeded) {world : World}

theorem walk_succ (n : ℕ) (p : Point) :
    (paymentControl env delivery named payment).walk (n + 1) p world =
      (paymentControl env delivery named payment).walk n (p.next env delivery world)
        (p.effect env delivery world) := rfl

theorem walk_halted (n : ℕ) (outcome : Except Failure Response) :
    (paymentControl env delivery named payment).walk n (.halted outcome) world =
      (.halted outcome, world) :=
  Control.walk_idle (fun _ => ⟨rfl, rfl⟩) n world

/-- The handler of an event on record stops after its first step. -/
theorem walk_processed
    (seen : world.Processed delivery.event.provider delivery.event.providerEventId) (n : ℕ) :
    (paymentControl env delivery named payment).walk (n + 1) .start world =
      (.halted (.ok .alreadyProcessed), world) := by
  rw [walk_succ, Point.next, if_pos seen]
  exact walk_halted named payment n _

/-- The first two steps read. -/
theorem walk_fetched
    (unseen : ¬ world.Processed delivery.event.provider delivery.event.providerEventId)
    (n : ℕ) :
    (paymentControl env delivery named payment).walk (n + 2) .start world =
      (paymentControl env delivery named payment).walk n
        (.fetched (world.subscription delivery.event.accountId)) world := by
  rw [walk_succ, Point.next, if_neg unseen]
  rfl

/-- A renewal ends with its third step. -/
theorem walk_renewal {row : Subscription}
    (unseen : ¬ world.Processed delivery.event.provider delivery.event.providerEventId)
    (present : world.subscription delivery.event.accountId = some row) (n : ℕ) :
    (paymentControl env delivery named payment).walk (n + 3) .start world =
      (.halted (.ok .processed), addRecord delivery.now delivery.event
        (upsertActive delivery.now delivery.event
          (portalTokenFor (some row) delivery.draws.portalToken) world)) := by
  have done : renewed delivery row world = .ok (addRecord delivery.now delivery.event
      (upsertActive delivery.now delivery.event
        (portalTokenFor (some row) delivery.draws.portalToken) world)) :=
    recordProcessed_of_unseen unseen
  rw [walk_fetched named payment unseen, present, walk_succ]
  simp only [Point.next, Point.effect, Prog.committed, done]
  exact walk_halted named payment n _

/-- A first activation commits its upsert with its third step. -/
theorem walk_activated
    (unseen : ¬ world.Processed delivery.event.provider delivery.event.providerEventId)
    (absent : world.subscription delivery.event.accountId = none) (n : ℕ) :
    (paymentControl env delivery named payment).walk (n + 3) .start world =
      (paymentControl env delivery named payment).walk n .activated
        (upsertActive delivery.now delivery.event delivery.draws.portalToken world) := by
  rw [walk_fetched named payment unseen, absent]
  rfl

theorem walk_issued (fresh : world.FreshKey env delivery.draws.mobileApiKey) (n : ℕ) :
    (paymentControl env delivery named payment).walk (n + 1) .activated world =
      (paymentControl env delivery named payment).walk n .issued
        (addKey env delivery.now delivery.draws.mobileApiKey delivery.event.keyRequest
          world) := by
  rw [walk_succ, (Point.step_activated fresh).1, (Point.step_activated fresh).2]

theorem walk_recorded (fresh : world.FreshKey env delivery.draws.mobileApiKey)
    (unseen : ¬ world.Processed delivery.event.provider delivery.event.providerEventId)
    (n : ℕ) :
    (paymentControl env delivery named payment).walk (n + 2) .activated world =
      (paymentControl env delivery named payment).walk n .recorded
        (addRecord delivery.now delivery.event
          (addKey env delivery.now delivery.draws.mobileApiKey delivery.event.keyRequest
            world)) := by
  have done : recordProcessed delivery.now delivery.event
      (addKey env delivery.now delivery.draws.mobileApiKey delivery.event.keyRequest world) =
        .ok _ := recordProcessed_of_unseen unseen
  rw [walk_issued named payment fresh (n + 1), walk_succ]
  simp only [Point.next, Point.effect, Prog.committed, done]

/-- The credentials are staged with the sixth step. -/
theorem walk_stashed (n : ℕ) :
    (paymentControl env delivery named payment).walk (n + 1) .recorded world =
      (.halted (.ok .processed), stashed delivery.now delivery.pending world) := by
  rw [walk_succ]
  exact walk_halted named payment n _

variable (env delivery world) in
/-- The four effects of a first activation. -/
def activation : World :=
  stashed delivery.now delivery.pending
    (addRecord delivery.now delivery.event
      (addKey env delivery.now delivery.draws.mobileApiKey delivery.event.keyRequest
        (upsertActive delivery.now delivery.event delivery.draws.portalToken world)))

/-- A first activation ends with its sixth step. -/
theorem walk_activation
    (unseen : ¬ world.Processed delivery.event.provider delivery.event.providerEventId)
    (absent : world.subscription delivery.event.accountId = none)
    (fresh : world.FreshKey env delivery.draws.mobileApiKey) (n : ℕ) :
    (paymentControl env delivery named payment).walk (n + 6) .start world =
      (.halted (.ok .processed), activation env delivery world) := by
  have freshAfter : (upsertActive delivery.now delivery.event delivery.draws.portalToken
    world).FreshKey env delivery.draws.mobileApiKey := fresh
  rw [walk_activated named payment unseen absent (n + 3),
    walk_recorded named payment freshAfter unseen (n + 1)]
  exact walk_stashed named payment n

end Walk

/-! ## What an attempt leaves behind -/

/-- Nothing was staged between `before` and `after`. -/
def NothingStaged (before after : World) : Prop :=
  ∃ added, after.trace = before.trace ++ added ∧
    ∀ now credentials, Act.stashed now credentials ∉ added

theorem NothingStaged.refl (world : World) : NothingStaged world world :=
  ⟨[], (List.append_nil _).symm, nofun⟩

theorem NothingStaged.trans {before between after : World}
    (first : NothingStaged before between) (second : NothingStaged between after) :
    NothingStaged before after := by
  rcases first with ⟨earlier, trace, quiet⟩
  rcases second with ⟨later, trace', quiet'⟩
  refine ⟨earlier ++ later, by rw [trace', trace, List.append_assoc], ?_⟩
  intro now credentials member
  rcases List.mem_append.mp member with old | new
  · exact quiet now credentials old
  · exact quiet' now credentials new

theorem NothingStaged.of_applied {before after : World} {event : PaymentEvent}
    (trace : after.trace = before.trace ++ [.applied event]) : NothingStaged before after :=
  ⟨[.applied event], trace, by simp⟩

theorem NothingStaged.not_staged {env : Env} {accountId : String} {before after : World}
    (nothing : NothingStaged before after) : ¬ Staged env accountId before after := by
  rcases nothing with ⟨added, trace, quiet⟩
  intro staged
  rcases staged with ⟨now, credentials, member, _⟩
  rw [trace, List.drop_left] at member
  exact quiet now credentials member

/-- What attempts do to an account that has a row: its portal token stays, no key is
issued and nothing is staged. -/
structure Renews (accountId : String) (before after : World) : Prop where
  row : ∀ row, before.subscription accountId = some row →
    ∃ renewed, after.subscription accountId = some renewed ∧
      ∀ token, token ≠ "" → row.portalToken = some token → renewed.portalToken = some token
  keys : after.apiKeys = before.apiKeys
  trace : NothingStaged before after

theorem Renews.refl (accountId : String) (world : World) : Renews accountId world world :=
  ⟨fun row present => ⟨row, present, fun _ _ stored => stored⟩, rfl, .refl world⟩

theorem Renews.trans {accountId : String} {before between after : World}
    (first : Renews accountId before between) (second : Renews accountId between after) :
    Renews accountId before after := by
  refine ⟨fun row present => ?_, second.keys.trans first.keys, first.trace.trans second.trace⟩
  obtain ⟨middle, stored, kept⟩ := first.row row present
  obtain ⟨last, stored', kept'⟩ := second.row middle stored
  exact ⟨last, stored', fun token full held => kept' token full (kept token full held)⟩

section Leave

variable {env : Env} {attempt : Attempt} {world : World}

theorem leave_eq_walk (named : attempt.delivery.event.accountId ≠ "")
    (payment : attempt.delivery.event.eventType = .paymentSucceeded) :
    attempt.leave env world =
      ((paymentControl env attempt.delivery named payment).walk attempt.steps .start world).2 := by
  rw [← Control.crash_prog]
  rfl

/-- An attempt that does not get to its commit changes nothing. -/
theorem leave_of_not_commits (named : attempt.delivery.event.accountId ≠ "")
    (payment : attempt.delivery.event.eventType = .paymentSucceeded)
    (idle : ¬ attempt.Commits world) : attempt.leave env world = world := by
  rw [leave_eq_walk named payment]
  rcases attempt.steps.eq_zero_or_eq_succ_pred with none | some
  · rw [none]
    rfl
  · rw [some]
    by_cases seen : world.Processed attempt.delivery.event.provider
      attempt.delivery.event.providerEventId
    · rw [walk_processed named payment seen]
    · have few : attempt.steps.pred = 0 ∨ attempt.steps.pred = 1 := by
        have short : ¬ 3 ≤ attempt.steps := fun three => idle ⟨seen, three⟩
        rw [Nat.pred_eq_sub_one]
        omega
      rcases few with zero | one
      · rw [zero]
        rfl
      · rw [one, walk_fetched named payment seen 0]
        rfl

theorem leave_renews (named : attempt.delivery.event.accountId ≠ "")
    (payment : attempt.delivery.event.eventType = .paymentSucceeded) {row : Subscription}
    (present : world.subscription attempt.delivery.event.accountId = some row) :
    Renews attempt.delivery.event.accountId world (attempt.leave env world) := by
  by_cases commits : attempt.Commits world
  · rcases commits with ⟨unseen, three⟩
    obtain ⟨more, steps⟩ := Nat.exists_eq_add_of_le' three
    rw [leave_eq_walk named payment, steps, walk_renewal named payment unseen present]
    refine ⟨fun old stored => ⟨_, subscription_upsertActive, fun token full held => ?_⟩, rfl,
      .of_applied rfl⟩
    obtain rfl : row = old := Option.some.inj (present.symm.trans stored)
    rw [portalToken_activeRow, portalTokenFor, held]
    exact congrArg some (if_neg full)
  · rw [leave_of_not_commits named payment commits]
    exact .refl _ world

/-- The attempt that commits a first activation and is ended before it stages anything. -/
theorem leave_activation_short (named : attempt.delivery.event.accountId ≠ "")
    (payment : attempt.delivery.event.eventType = .paymentSucceeded)
    (absent : world.subscription attempt.delivery.event.accountId = none)
    (fresh : world.FreshKey env attempt.delivery.draws.mobileApiKey)
    (commits : attempt.Commits world) (short : attempt.steps < 6) :
    (∃ row, (attempt.leave env world).subscription attempt.delivery.event.accountId =
      some row) ∧ NothingStaged world (attempt.leave env world) := by
  rcases commits with ⟨unseen, three⟩
  have reach : attempt.steps = 0 + 3 ∨ attempt.steps = 1 + 3 ∨ attempt.steps = 2 + 3 := by
    omega
  have freshAfter : (upsertActive attempt.delivery.now attempt.delivery.event
    attempt.delivery.draws.portalToken world).FreshKey env
      attempt.delivery.draws.mobileApiKey := fresh
  rw [leave_eq_walk named payment]
  rcases reach with steps | steps | steps
  · rw [steps, walk_activated named payment unseen absent]
    exact ⟨⟨_, subscription_upsertActive⟩, .of_applied rfl⟩
  · rw [steps, walk_activated named payment unseen absent,
      walk_issued named payment freshAfter 0]
    exact ⟨⟨_, subscription_upsertActive⟩, .of_applied rfl⟩
  · rw [steps, walk_activated named payment unseen absent,
      walk_recorded named payment freshAfter unseen 0]
    exact ⟨⟨_, subscription_upsertActive⟩, .of_applied rfl⟩

/-- The attempt that goes through a first activation. -/
theorem leave_activation (named : attempt.delivery.event.accountId ≠ "")
    (payment : attempt.delivery.event.eventType = .paymentSucceeded)
    (absent : world.subscription attempt.delivery.event.accountId = none)
    (fresh : world.FreshKey env attempt.delivery.draws.mobileApiKey)
    (commits : attempt.Commits world) (six : 6 ≤ attempt.steps) :
    attempt.leave env world = activation env attempt.delivery world := by
  rcases commits with ⟨unseen, _⟩
  obtain ⟨more, steps⟩ := Nat.exists_eq_add_of_le' six
  rw [leave_eq_walk named payment, steps, walk_activation named payment unseen absent fresh]

/-- A complete attempt is a run, and it is answered. -/
theorem run_handleEvent_payment (delivery : Delivery) (named : delivery.event.accountId ≠ "")
    (payment : delivery.event.eventType = .paymentSucceeded)
    (fresh : world.subscription delivery.event.accountId = none →
      world.FreshKey env delivery.draws.mobileApiKey) :
    ∃ response, (handleEvent env delivery).run world =
      (.ok response, (Attempt.complete delivery).leave env world) := by
  have ends : ∃ response, ((paymentControl env delivery named payment).walk 6 .start world).1 =
      .halted (.ok response) := by
    by_cases seen : world.Processed delivery.event.provider delivery.event.providerEventId
    · exact ⟨_, congrArg Prod.fst (walk_processed named payment seen 5)⟩
    · cases found : world.subscription delivery.event.accountId with
      | some row => exact ⟨_, congrArg Prod.fst (walk_renewal named payment seen found 3)⟩
      | none =>
          exact ⟨_, congrArg Prod.fst (walk_activation named payment seen found (fresh found) 0)⟩
  rcases ends with ⟨response, ended⟩
  have leaves : (Attempt.complete delivery).leave env world =
      ((paymentControl env delivery named payment).walk 6 .start world).2 :=
    leave_eq_walk named payment
  refine ⟨response, ?_⟩
  have halts : (paymentControl env delivery named payment).prog
      ((paymentControl env delivery named payment).walk 6 .start world).1 =
        .halt (.ok response) := congrArg (Point.prog env delivery) ended
  rw [leaves]
  exact Control.run_prog halts

end Leave

/-! ## Attempts one after another -/

section Attempts

variable {env : Env} {accountId : String} {attempts : List Attempt} {world : World}

theorem leaveAll_append (early late : List Attempt) :
    leaveAll env (early ++ late) world = leaveAll env late (leaveAll env early world) :=
  List.foldl_append

theorem Redelivered.subset {some : List Attempt}
    (redelivered : Redelivered env accountId attempts world) (within : some ⊆ attempts) :
    Redelivered env accountId some world :=
  ⟨redelivered.named, fun attempt member => redelivered.account attempt (within member),
    fun attempt member => redelivered.payment attempt (within member),
    fun attempt member => redelivered.fresh attempt (within member)⟩

theorem Redelivered.named_of_mem (redelivered : Redelivered env accountId attempts world)
    {attempt : Attempt} (member : attempt ∈ attempts) :
    attempt.delivery.event.accountId ≠ "" := by
  rw [redelivered.account attempt member]
  exact redelivered.named

/-- As long as no attempt commits nothing changes. -/
theorem Redelivered.leaveAll_idle (redelivered : Redelivered env accountId attempts world)
    (idle : ∀ attempt ∈ attempts, ¬ attempt.Commits world) :
    leaveAll env attempts world = world := by
  induction attempts with
  | nil => rfl
  | cons attempt late ih =>
      have head : attempt ∈ attempt :: late := List.mem_cons_self
      have unchanged : attempt.leave env world = world :=
        leave_of_not_commits (redelivered.named_of_mem head)
          (redelivered.payment attempt head) (idle attempt head)
      rw [leaveAll, List.foldl_cons, unchanged]
      exact ih (redelivered.subset (List.subset_cons_self _ _)) fun other member =>
        idle other (List.mem_cons_of_mem _ member)

/-- Once the account has a row every attempt is a renewal at most. -/
theorem leaveAll_renews (named : accountId ≠ "")
    (account : ∀ attempt ∈ attempts, attempt.delivery.event.accountId = accountId)
    (payment : ∀ attempt ∈ attempts, attempt.delivery.event.eventType = .paymentSucceeded)
    {row : Subscription} (present : world.subscription accountId = some row) :
    Renews accountId world (leaveAll env attempts world) := by
  induction attempts generalizing world row with
  | nil => exact .refl _ world
  | cons attempt late ih =>
      have head : attempt ∈ attempt :: late := List.mem_cons_self
      obtain rfl := account attempt head
      have once : Renews attempt.delivery.event.accountId world (attempt.leave env world) :=
        leave_renews named (payment attempt head) present
      obtain ⟨after, stored, _⟩ := once.row row present
      exact once.trans (ih (fun other member => account other (List.mem_cons_of_mem _ member))
        (fun other member => payment other (List.mem_cons_of_mem _ member)) stored)

/-- Attempts without a row at the start, up to the one that commits. -/
theorem Redelivered.leaveAll_commits (redelivered : Redelivered env accountId attempts world)
    {first : Attempt} (found : attempts.find? (·.Commits world) = some first) :
    first ∈ attempts ∧ first.Commits world ∧
      ∃ late, late ⊆ attempts ∧
        leaveAll env attempts world = leaveAll env late (first.leave env world) := by
  obtain ⟨commits, early, late, split, idle⟩ := List.find?_eq_some_iff_append.mp found
  have unchanged : leaveAll env early world = world := by
    refine Redelivered.leaveAll_idle (redelivered.subset ?_) fun attempt member => ?_
    · rw [split]
      exact List.subset_append_left _ _
    · simpa using idle attempt member
  refine ⟨List.mem_of_find?_eq_some found, of_decide_eq_true commits, late, ?_, ?_⟩
  · rw [split]
    exact List.Subset.trans (List.subset_cons_self _ _) (List.subset_append_right _ _)
  · rw [split, leaveAll_append, unchanged]
    rfl

/-- The credentials of a first activation are staged. -/
theorem staged_activation {delivery : Delivery}
    (fresh : world.FreshKey env delivery.draws.mobileApiKey) {after : World}
    (renews : Renews delivery.event.accountId (activation env delivery world) after) :
    Staged env delivery.event.accountId world after := by
  obtain ⟨row, stored, kept⟩ := renews.row _ subscription_upsertActive
  rcases renews.trace with ⟨added, trace, _⟩
  refine ⟨delivery.now, delivery.pending, ?_, rfl, ?_, row, stored,
    kept _ delivery.draws.portalToken_ne portalToken_activeRow⟩
  · have whole : (activation env delivery world).trace =
        world.trace ++ [.applied delivery.event, .stashed delivery.now delivery.pending] := by
      simp [activation, stashed]
    rw [trace, whole, List.append_assoc, List.drop_left]
    simp
  · have freshAfter : (upsertActive delivery.now delivery.event delivery.draws.portalToken
      world).FreshKey env delivery.draws.mobileApiKey := fresh
    have opens : (addKey env delivery.now delivery.draws.mobileApiKey delivery.event.keyRequest
        (upsertActive delivery.now delivery.event delivery.draws.portalToken world)).Opens env
          delivery.now delivery.draws.mobileApiKey delivery.event.accountId :=
      opens_addKey freshAfter rfl
    have keys : after.apiKeys = (addKey env delivery.now delivery.draws.mobileApiKey
      delivery.event.keyRequest (upsertActive delivery.now delivery.event
        delivery.draws.portalToken world)).apiKeys := renews.keys
    exact (opens_congr keys).mpr opens

/-- Whether attempts without a row at the start stage anything is up to the first of them
that commits. -/
theorem Redelivered.staged_iff_first (redelivered : Redelivered env accountId attempts world)
    (absent : world.subscription accountId = none) {first : Attempt}
    (found : attempts.find? (·.Commits world) = some first) :
    (∃ row, (leaveAll env attempts world).subscription accountId = some row) ∧
      (Staged env accountId world (leaveAll env attempts world) ↔ 6 ≤ first.steps) := by
  obtain ⟨member, commits, late, within, rest⟩ := redelivered.leaveAll_commits found
  have named := redelivered.named_of_mem member
  have payment := redelivered.payment first member
  have fresh := redelivered.fresh first member
  obtain rfl := redelivered.account first member
  have later {row : Subscription} {start : World}
      (present : start.subscription first.delivery.event.accountId = some row) :
      Renews first.delivery.event.accountId start (leaveAll env late start) :=
    leaveAll_renews named (fun other inLate => redelivered.account other (within inLate))
      (fun other inLate => redelivered.payment other (within inLate)) present
  rw [rest]
  rcases Nat.lt_or_ge first.steps 6 with short | six
  · obtain ⟨⟨row, stored⟩, nothing⟩ :=
      leave_activation_short named payment absent fresh commits short
    obtain ⟨last, present, _⟩ := (later stored).row row stored
    refine ⟨⟨last, present⟩, fun staged => ?_, fun six => ?_⟩
    · exact ((nothing.trans (later stored).trace).not_staged staged).elim
    · omega
  · rw [leave_activation named payment absent fresh commits six]
    have renews : Renews first.delivery.event.accountId (activation env first.delivery world) _ :=
      later subscription_upsertActive
    obtain ⟨last, present, _⟩ := renews.row _ subscription_upsertActive
    exact ⟨⟨last, present⟩, fun _ => six, fun _ => staged_activation fresh renews⟩

theorem not_commits_of_find? (found : attempts.find? (·.Commits world) = none) :
    ∀ attempt ∈ attempts, ¬ attempt.Commits world := fun attempt member commits =>
  List.find?_eq_none.mp found attempt member (decide_eq_true commits)

/-- Attempts that leave the account without a row have done nothing. -/
theorem Redelivered.leaveAll_absent (redelivered : Redelivered env accountId attempts world)
    (absent : (leaveAll env attempts world).subscription accountId = none) :
    leaveAll env attempts world = world := by
  cases before : world.subscription accountId with
  | some row =>
      have renews : Renews accountId world (leaveAll env attempts world) :=
        leaveAll_renews redelivered.named redelivered.account redelivered.payment before
      obtain ⟨last, present, _⟩ := renews.row row before
      rw [present] at absent
      cases absent
  | none =>
      cases found : attempts.find? (·.Commits world) with
      | none => exact redelivered.leaveAll_idle (not_commits_of_find? found)
      | some first =>
          obtain ⟨⟨last, present⟩, _⟩ := redelivered.staged_iff_first before found
          rw [present] at absent
          cases absent

/-- **Interrupted payments.**  Attempts at a payment for an account are cut off by
exceptions, until one is not.  That one is answered, and by then a key that opens the
account was staged with the stored portal token exactly when the account had no row at
the start and the first attempt that committed its upsert went on to its sixth step. -/
theorem redelivered_staged_iff {last : Delivery}
    (redelivered : Redelivered env accountId (attempts ++ [Attempt.complete last]) world) :
    ∃ response after,
      (handleEvent env last).run (leaveAll env attempts world) = (.ok response, after) ∧
      (Staged env accountId world after ↔
        world.subscription accountId = none ∧
          ∃ first, (attempts ++ [Attempt.complete last]).find? (·.Commits world) = some first ∧
            6 ≤ first.steps) := by
  have lastMember : Attempt.complete last ∈ attempts ++ [Attempt.complete last] :=
    List.mem_append_right _ (List.mem_singleton_self _)
  have earlier : Redelivered env accountId attempts world :=
    redelivered.subset (List.subset_append_left _ _)
  have account : last.event.accountId = accountId := redelivered.account _ lastMember
  have whole : leaveAll env (attempts ++ [Attempt.complete last]) world =
      (Attempt.complete last).leave env (leaveAll env attempts world) := leaveAll_append _ _
  have fresh : (leaveAll env attempts world).subscription last.event.accountId = none →
      (leaveAll env attempts world).FreshKey env last.draws.mobileApiKey := by
    intro absent
    rw [account] at absent
    rw [earlier.leaveAll_absent absent]
    exact redelivered.fresh _ lastMember
  obtain ⟨response, run⟩ := run_handleEvent_payment last (redelivered.named_of_mem lastMember)
    (redelivered.payment _ lastMember) fresh
  refine ⟨response, _, run, ?_⟩
  rw [← whole]
  cases before : world.subscription accountId with
  | some row =>
      have renews : Renews accountId world (leaveAll env _ world) :=
        leaveAll_renews redelivered.named redelivered.account redelivered.payment before
      exact ⟨fun staged => (renews.trace.not_staged staged).elim, fun ⟨absent, _⟩ => nomatch absent⟩
  | none =>
      cases found : (attempts ++ [Attempt.complete last]).find? (·.Commits world) with
      | none =>
          rw [redelivered.leaveAll_idle (not_commits_of_find? found)]
          exact ⟨fun staged => ((NothingStaged.refl world).not_staged staged).elim,
            fun ⟨_, first, missing, _⟩ => nomatch missing⟩
      | some first =>
          rw [(redelivered.staged_iff_first before found).2]
          exact ⟨fun six => ⟨rfl, first, rfl, six⟩, fun ⟨_, _, same, six⟩ => by
            cases same; exact six⟩

end Attempts

/-! ## A sample payment -/

/-- The `n`-th delivery of one payment. -/
def samplePayment (n : ℕ) : Delivery := ⟨sampleEvent .paymentSucceeded "e1", n, sampleDraws n⟩

theorem samplePayment_redelivered (steps : ℕ) :
    Redelivered sampleEnv "acc" [⟨samplePayment 1, steps⟩, Attempt.complete (samplePayment 2)]
      .empty where
  named := by decide
  account := by simp [samplePayment, Attempt.complete, sampleEvent]
  payment := by simp [samplePayment, Attempt.complete, sampleEvent]
  fresh := by simp [World.FreshKey, World.empty]

/-- An exception right after the commit of the upsert, say in `issue_api_key`: the next
delivery is answered as a renewal, and nothing is ever staged. -/
theorem redelivered_not_staged :
    Redelivered sampleEnv "acc" [⟨samplePayment 1, 3⟩, Attempt.complete (samplePayment 2)]
      .empty ∧
    ((handleEvent sampleEnv (samplePayment 2)).run
      (leaveAll sampleEnv [⟨samplePayment 1, 3⟩] .empty)).1 = .ok .processed ∧
    ¬ Staged sampleEnv "acc" .empty ((handleEvent sampleEnv (samplePayment 2)).run
      (leaveAll sampleEnv [⟨samplePayment 1, 3⟩] .empty)).2 := by
  refine ⟨samplePayment_redelivered 3, rfl, NothingStaged.not_staged ?_⟩
  exact ⟨[.applied (samplePayment 1).event, .applied (samplePayment 2).event], rfl, by simp⟩

/-- An exception before the upsert. -/
theorem redelivered_staged_iff_early :
    ∃ response after, (handleEvent sampleEnv (samplePayment 2)).run
        (leaveAll sampleEnv [⟨samplePayment 1, 2⟩] .empty) = (.ok response, after) ∧
      Staged sampleEnv "acc" .empty after := by
  have redelivered : Redelivered sampleEnv "acc"
      ([⟨samplePayment 1, 2⟩] ++ [Attempt.complete (samplePayment 2)]) .empty :=
    samplePayment_redelivered 2
  obtain ⟨response, after, ran, staged⟩ := redelivered_staged_iff redelivered
  exact ⟨response, after, ran,
    staged.mpr ⟨rfl, Attempt.complete (samplePayment 2), by rfl, by decide⟩⟩

end Aegis.Subscriptions
