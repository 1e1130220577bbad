import Aegis.Subscriptions.Activation

/-!
# Two payments at once

Two handlers for payments of one account that has no row yet, interleaved step by
step.  `session.get` and the upsert are separate steps, so both handlers can take
themselves for the first activation: then two keys are issued, and the later upsert
replaces the portal token that the earlier handler staged.

`racers_issuedOnce_iff` says exactly when this does not happen.  A run is in one of
three phases: nobody has committed an upsert (`Before`); one handler has, and the
other has not fetched the missing row (`Led`); both have fetched the missing row and
one of them has committed (`Both`).
-/

namespace Aegis.Subscriptions

open Aegis.Lib

/-- Two payments for a named account without a row, with keys of their own. -/
structure Racing (env : Env) (accountId : String) (deliveries : Bool → Delivery)
    (world : World) : Prop where
  named : accountId ≠ ""
  account : ∀ i, (deliveries i).event.accountId = accountId
  payment : ∀ i, (deliveries i).event.eventType = .paymentSucceeded
  absent : world.subscription accountId = none
  fresh : ∀ i, world.FreshKey env (deliveries i).draws.mobileApiKey
  distinct : ∀ i, env.hashKey (deliveries i).draws.mobileApiKey ≠
    env.hashKey (deliveries !i).draws.mobileApiKey

/-- The two handlers, before their first steps. -/
def racers (env : Env) (deliveries : Bool → Delivery) (world : World) :
    Pool Bool Failure World Response :=
  ⟨world, fun i => handleEvent env (deliveries i)⟩

/-- One key was issued for the account between `before` and `after`, and what was staged
for it in between carries the stored portal token. -/
def IssuedOnce (accountId : String) (before after : World) : Prop :=
  (after.keysOf accountId).length = (before.keysOf accountId).length + 1 ∧
  ∀ now credentials, .stashed now credentials ∈ after.trace.drop before.trace.length →
    credentials.accountId = accountId →
      ∃ row, after.subscription accountId = some row ∧
        row.portalToken = some credentials.portalToken

/-- The event was on record from the start. -/
def Seen (deliveries : Bool → Delivery) (world : World) (i : Bool) : Prop :=
  world.Processed (deliveries i).event.provider (deliveries i).event.providerEventId

/-- At some moment one handler had taken its third step, which commits the upsert, and
the other had not yet taken its second, which fetches the row. -/
def Ahead (turns : List Bool) : Prop :=
  ∃ early, early <+: turns ∧ ∃ i, 3 ≤ early.count i ∧ early.count (!i) ≤ 1

/-! ## Counting turns -/

section Turns

variable {turns : List Bool} {i : Bool}

@[simp]
theorem count_append_self : (turns ++ [i]).count i = turns.count i + 1 := by simp

@[simp]
theorem count_append_not : (turns ++ [i]).count (!i) = turns.count (!i) := by
  cases i <;> simp

theorem Ahead.append (ahead : Ahead turns) (j : Bool) : Ahead (turns ++ [j]) := by
  rcases ahead with ⟨early, before, lead⟩
  exact ⟨early, before.trans (List.prefix_append _ _), lead⟩

/-- As long as nobody has taken a third step nobody is ahead. -/
theorem not_ahead_of_le (few : ∀ j, turns.count j ≤ 2) : ¬ Ahead turns := by
  intro ahead
  rcases ahead with ⟨early, before, j, three, _⟩
  have below := (before.sublist.count_le j).trans (few j)
  omega

/-- Once both have taken two steps nobody gets ahead any more. -/
theorem not_ahead_append (behind : ¬ Ahead turns) (both : ∀ j, 2 ≤ turns.count j) (k : Bool) :
    ¬ Ahead (turns ++ [k]) := by
  intro ahead
  rcases ahead with ⟨early, before, j, three, one⟩
  rcases List.prefix_concat_iff.mp before with rfl | shorter
  · have least := both (!j)
    have kept : turns.count (!j) ≤ (turns ++ [k]).count (!j) :=
      (List.sublist_append_left _ _).count_le _
    omega
  · exact behind ⟨early, shorter, j, three, one⟩

theorem two_le_append (both : ∀ j, 2 ≤ turns.count j) (k : Bool) :
    ∀ j, 2 ≤ (turns ++ [k]).count j := fun j =>
  (both j).trans ((List.sublist_append_left _ _).count_le _)

variable {points : Bool → Point} {p : Point}

@[simp]
theorem update_not : Function.update points i p (!i) = points (!i) :=
  Function.update_of_ne (Bool.not_ne_self i) _ _

@[simp]
theorem update_of_not : Function.update points (!i) p i = points i :=
  Function.update_of_ne (Bool.not_ne_self i).symm _ _

theorem forall_bool_iff {P : Bool → Prop} (i : Bool) : (∀ j, P j) ↔ P i ∧ P (!i) := by
  cases i <;> simp [and_comm]

end Turns

/-! ## Phases -/

/-- A handler in the first phase, which has taken `taken` turns. -/
def Waiting (seen : Prop) (taken : ℕ) : Point → Prop
  | .start => taken = 0
  | .checked => taken = 1 ∧ ¬ seen
  | .fetched none => taken = 2 ∧ ¬ seen
  | .halted _ => seen
  | .fetched (some _) | .activated | .issued | .recorded => False

/-- A handler that has committed a first activation. -/
def Point.Leading : Point → Prop
  | activated | issued | recorded | halted _ => True
  | start | checked | fetched _ => False

/-- A handler that will find the row with `portalToken`, or has ended. -/
def Point.Following (portalToken : String) : Point → Prop
  | start | checked | halted _ => True
  | fetched (some row) => row.portalToken = some portalToken
  | fetched none | activated | issued | recorded => False

/-- A handler that has fetched the missing row. -/
def Point.Contending : Point → Prop
  | fetched none | activated | issued | recorded | halted _ => True
  | start | checked | fetched (some _) => False

/-- The keys that a handler in a first activation has issued. -/
def Point.keyCount : Point → ℕ
  | issued | recorded | halted _ => 1
  | start | checked | fetched _ | activated => 0

section Phases

variable (env : Env) (accountId : String) (deliveries : Bool → Delivery) (world : World)

structure Before (turns : List Bool) (points : Bool → Point) (now : World) : Prop where
  unchanged : now = world
  waiting : ∀ i, Waiting (Seen deliveries world i) (turns.count i) (points i)

structure Led (i : Bool) (turns : List Bool) (points : Bool → Point) (now : World) : Prop where
  unseen : ¬ Seen deliveries world i
  ahead : Seen deliveries world (!i) ∨ Ahead turns
  leading : (points i).Leading
  following : (points !i).Following (deliveries i).draws.portalToken
  row : ∃ row, now.subscription accountId = some row ∧
    row.portalToken = some (deliveries i).draws.portalToken
  keys : (now.keysOf accountId).length =
    (world.keysOf accountId).length + (points i).keyCount
  fresh : points i = .activated → now.FreshKey env (deliveries i).draws.mobileApiKey
  stashes : ∃ added, now.trace = world.trace ++ added ∧
    ∀ time credentials, Act.stashed time credentials ∈ added →
      credentials.portalToken = (deliveries i).draws.portalToken

structure Both (turns : List Bool) (points : Bool → Point) (now : World) : Prop where
  unseen : ∀ i, ¬ Seen deliveries world i
  behind : ¬ Ahead turns
  turns : ∀ i, 2 ≤ turns.count i
  contending : ∀ i, (points i).Contending
  keys : ∀ i, (now.keysOf accountId).length =
    (world.keysOf accountId).length + ((points i).keyCount + (points !i).keyCount)
  fresh : ∀ i, (points i).keyCount = 0 → now.FreshKey env (deliveries i).draws.mobileApiKey

inductive Phase (turns : List Bool) (points : Bool → Point) (now : World) : Prop where
  | before (phase : Before deliveries world turns points now)
  | led (i : Bool) (phase : Led env accountId deliveries world i turns points now)
  | both (phase : Both env accountId deliveries world turns points now)

end Phases

/-! ## What was staged -/

/-- What was staged between `before` and `after` carries the token. -/
def StagesOnly (portalToken : String) (before after : World) : Prop :=
  ∃ added, after.trace = before.trace ++ added ∧
    ∀ time credentials, Act.stashed time credentials ∈ added →
      credentials.portalToken = portalToken

theorem StagesOnly.of_trace {portalToken : String} {before after : World}
    (same : after.trace = before.trace) : StagesOnly portalToken before after :=
  ⟨[], by rw [same, List.append_nil], nofun⟩

theorem StagesOnly.trans {portalToken : String} {before between after : World}
    (first : StagesOnly portalToken before between)
    (second : StagesOnly portalToken between after) : StagesOnly portalToken before after := by
  rcases first with ⟨earlier, trace, own⟩
  rcases second with ⟨later, trace', own'⟩
  refine ⟨earlier ++ later, by rw [trace', trace, List.append_assoc], ?_⟩
  intro time credentials member
  rcases List.mem_append.mp member with old | new
  · exact own time credentials old
  · exact own' time credentials new

/-! ## Steps -/

section Steps

variable {env : Env} {accountId : String} {deliveries : Bool → Delivery} {world now : World}
  {turns : List Bool} {points : Bool → Point} {i : Bool}

/-- Two points at `i` and `!i` after `i` moved to `p`. -/
theorem forall_update_iff {P : Bool → Point → Prop} {p : Point} :
    (∀ j, P j (Function.update points i p j)) ↔ P i p ∧ P (!i) (points !i) := by
  rw [forall_bool_iff i, Function.update_self, update_not]

theorem row_upsertActive {time : ℤ} {event : PaymentEvent} {portalToken : String}
    (account : event.accountId = accountId) :
    ∃ row, (upsertActive time event portalToken now).subscription accountId = some row ∧
      row.portalToken = some portalToken := by
  subst account
  exact ⟨_, subscription_upsertActive, portalToken_activeRow⟩

theorem Before.append {p : Point} (phase : Before deliveries world turns points now)
    (waiting : Waiting (Seen deliveries world i) (turns.count i + 1) p) :
    Before deliveries world (turns ++ [i]) (Function.update points i p) now := by
  refine ⟨phase.unchanged, (forall_bool_iff i).mpr ⟨?_, ?_⟩⟩
  · rw [count_append_self, Function.update_self]
    exact waiting
  · rw [count_append_not, update_not]
    exact phase.waiting (!i)

/-- The first upsert leads when the other handler has not fetched the row. -/
theorem Before.led (racing : Racing env accountId deliveries world)
    (phase : Before deliveries world turns points now) (unseen : ¬ Seen deliveries world i)
    (ahead : Seen deliveries world (!i) ∨ Ahead (turns ++ [i]))
    (following : (points !i).Following (deliveries i).draws.portalToken) :
    Led env accountId deliveries world i (turns ++ [i]) (Function.update points i .activated)
      (upsertActive (deliveries i).now (deliveries i).event (deliveries i).draws.portalToken
        now) := by
  rcases phase with ⟨rfl, _⟩
  refine ⟨unseen, ahead, ?_, ?_, row_upsertActive (racing.account i), ?_, ?_, ?_⟩
  · rw [Function.update_self]
    trivial
  · rw [update_not]
    exact following
  · rw [Function.update_self]
    rfl
  · exact fun _ => racing.fresh i
  · exact ⟨[.applied (deliveries i).event], rfl, by simp⟩

/-- When both have fetched the missing row the first upsert does not keep the other
handler from its own. -/
theorem Before.both (racing : Racing env accountId deliveries world)
    (phase : Before deliveries world turns points now) (here : points i = .fetched none)
    (there : points (!i) = .fetched none) :
    Both env accountId deliveries world (turns ++ [i]) (Function.update points i .activated)
      (upsertActive (deliveries i).now (deliveries i).event (deliveries i).draws.portalToken
        now) := by
  rcases phase with ⟨rfl, waiting⟩
  have own := waiting i
  have other := waiting (!i)
  rw [here] at own
  rw [there] at other
  have two : ∀ j, turns.count j = 2 := (forall_bool_iff i).mpr ⟨own.1, other.1⟩
  have least : ∀ j, 2 ≤ turns.count j := fun j => (two j).ge
  refine ⟨(forall_bool_iff i).mpr ⟨own.2, other.2⟩,
    not_ahead_append (not_ahead_of_le fun j => (two j).le) least i, two_le_append least i,
    forall_update_iff.mpr ⟨trivial, ?_⟩, (forall_bool_iff i).mpr ⟨?_, ?_⟩,
    fun j _ => racing.fresh j⟩
  · rw [there]
    trivial
  · rw [Function.update_self, update_not, there]
    rfl
  · rw [update_not, Bool.not_not, Function.update_self, there]
    rfl

/-- The first upsert ends the phase. -/
theorem Before.step_fetched (racing : Racing env accountId deliveries world)
    (phase : Before deliveries world turns points now) (here : points i = .fetched none) :
    Phase env accountId deliveries world (turns ++ [i]) (Function.update points i .activated)
      (upsertActive (deliveries i).now (deliveries i).event (deliveries i).draws.portalToken
        now) := by
  have own := phase.waiting i
  have other := phase.waiting (!i)
  rw [here] at own
  have lead : turns.count (!i) ≤ 1 → Ahead (turns ++ [i]) := fun few =>
    ⟨_, List.prefix_refl _, i, by rw [count_append_self, own.1], by rwa [count_append_not]⟩
  cases there : points (!i) with
  | start =>
      rw [there] at other
      exact .led i (phase.led racing own.2 (Or.inr (lead (other.le.trans (by omega))))
        (by rw [there]; trivial))
  | checked =>
      rw [there] at other
      exact .led i (phase.led racing own.2 (Or.inr (lead other.1.le)) (by rw [there]; trivial))
  | halted outcome =>
      rw [there] at other
      exact .led i (phase.led racing own.2 (Or.inl other) (by rw [there]; trivial))
  | fetched existing =>
      rw [there] at other
      cases existing with
      | some row => exact other.elim
      | none => exact .both (phase.both racing here there)
  | activated | issued | recorded => rw [there] at other; exact other.elim

theorem Before.step (racing : Racing env accountId deliveries world)
    (phase : Before deliveries world turns points now) :
    Phase env accountId deliveries world (turns ++ [i])
      (Function.update points i ((points i).next env (deliveries i) now))
      ((points i).effect env (deliveries i) now) := by
  have own := phase.waiting i
  cases here : points i with
  | start =>
      rw [here] at own
      refine .before (phase.append ?_)
      rw [Point.next]
      split
      next seen => exact phase.unchanged ▸ seen
      next unseen =>
        refine ⟨by rw [own], ?_⟩
        exact fun seen => unseen (phase.unchanged ▸ seen)
  | checked =>
      rw [here] at own
      refine .before (phase.append ?_)
      have absent : now.subscription (deliveries i).event.accountId = none := by
        rw [phase.unchanged, racing.account i]
        exact racing.absent
      rw [Point.next, absent]
      exact ⟨by rw [own.1], own.2⟩
  | fetched existing =>
      rw [here] at own
      cases existing with
      | some row => exact own.elim
      | none => exact phase.step_fetched racing here
  | halted outcome =>
      rw [here] at own
      exact .before (phase.append own)
  | activated | issued | recorded => rw [here] at own; exact own.elim

theorem length_keysOf_addKey {time : ℤ} {rawKey : String} {event : PaymentEvent}
    (account : event.accountId = accountId) :
    ((addKey env time rawKey event.keyRequest now).keysOf accountId).length =
      (now.keysOf accountId).length + 1 := by
  have own : event.keyRequest.accountId = some accountId := congrArg some account
  rw [keysOf_addKey, if_pos own, List.length_append, List.length_singleton]

/-- What is left of a leader's invariants when it moves to `p` and does not change the
row. -/
theorem Led.move {p : Point} {after : World}
    (phase : Led env accountId deliveries world i turns points now) (leading : p.Leading)
    (row : after.subscription accountId = now.subscription accountId)
    (keys : (after.keysOf accountId).length + (points i).keyCount =
      (now.keysOf accountId).length + p.keyCount)
    (past : p ≠ .activated)
    (stages : StagesOnly (deliveries i).draws.portalToken now after) :
    Led env accountId deliveries world i (turns ++ [i]) (Function.update points i p) after := by
  refine ⟨phase.unseen, phase.ahead.imp_right (·.append i), ?_, ?_, ?_, ?_, ?_, ?_⟩
  · rw [Function.update_self]
    exact leading
  · rw [update_not]
    exact phase.following
  · rw [row]
    exact phase.row
  · have before := phase.keys
    rw [Function.update_self]
    omega
  · rw [Function.update_self]
    exact fun activated => (past activated).elim
  · exact StagesOnly.trans phase.stashes stages

theorem Led.step_leader (racing : Racing env accountId deliveries world)
    (phase : Led env accountId deliveries world i turns points now) :
    Led env accountId deliveries world i (turns ++ [i])
      (Function.update points i ((points i).next env (deliveries i) now))
      ((points i).effect env (deliveries i) now) := by
  have leading := phase.leading
  cases here : points i with
  | start | checked => rw [here] at leading; exact leading.elim
  | fetched existing => rw [here] at leading; exact leading.elim
  | activated =>
      obtain ⟨next, effect⟩ := Point.step_activated (phase.fresh here)
      rw [next, effect]
      refine phase.move trivial rfl ?_ nofun (.of_trace rfl)
      rw [here, length_keysOf_addKey (racing.account i)]
      rfl
  | issued =>
      rcases Point.step_issued now with ⟨next, effect⟩ | ⟨e, next, effect⟩
      · rw [next, effect]
        exact phase.move trivial rfl (by rw [here]; rfl) nofun (.of_trace rfl)
      · rw [next, effect]
        exact phase.move trivial rfl (by rw [here]; rfl) nofun (.of_trace rfl)
  | recorded =>
      -- what it stages carries its own token
      refine phase.move trivial rfl (by rw [here]; rfl) nofun
        ⟨[.stashed (deliveries i).now (deliveries i).pending], rfl, ?_⟩
      intro time credentials member
      cases List.mem_singleton.mp member
      rfl
  | halted outcome => exact phase.move trivial rfl (by rw [here]; rfl) nofun (.of_trace rfl)

/-- What is left of a leader's invariants when the other handler moves to `p`. -/
theorem Led.follow {p : Point} {after : World}
    (phase : Led env accountId deliveries world i turns points now)
    (following : p.Following (deliveries i).draws.portalToken)
    (row : ∃ row, after.subscription accountId = some row ∧
      row.portalToken = some (deliveries i).draws.portalToken)
    (keys : after.apiKeys = now.apiKeys)
    (stages : StagesOnly (deliveries i).draws.portalToken now after) :
    Led env accountId deliveries world i (turns ++ [!i]) (Function.update points (!i) p)
      after := by
  refine ⟨phase.unseen, phase.ahead.imp_right (·.append _), ?_, ?_, row, ?_, ?_, ?_⟩
  · rw [update_of_not]
    exact phase.leading
  · rw [Function.update_self]
    exact following
  · rw [update_of_not, World.keysOf, keys]
    exact phase.keys
  · rw [update_of_not, World.FreshKey, keys]
    exact phase.fresh
  · exact StagesOnly.trans phase.stashes stages

theorem Led.step_follower (racing : Racing env accountId deliveries world)
    (phase : Led env accountId deliveries world i turns points now) :
    Led env accountId deliveries world i (turns ++ [!i])
      (Function.update points (!i) ((points !i).next env (deliveries !i) now))
      ((points !i).effect env (deliveries !i) now) := by
  have following := phase.following
  have same : StagesOnly (deliveries i).draws.portalToken now now := .of_trace rfl
  cases there : points (!i) with
  | start =>
      refine phase.follow ?_ phase.row rfl same
      rw [Point.next]
      split <;> trivial
  | checked =>
      rcases phase.row with ⟨row, stored, token⟩
      refine phase.follow ?_ phase.row rfl same
      rw [Point.next, racing.account, stored]
      exact token
  | fetched existing =>
      rw [there] at following
      cases existing with
      | none => exact following.elim
      | some row =>
          rcases Point.step_renewal row now with ⟨next, effect⟩ | ⟨e, next, effect⟩
          · have token : portalTokenFor (some row) (deliveries !i).draws.portalToken =
                (deliveries i).draws.portalToken := by
              have stored : row.portalToken = some (deliveries i).draws.portalToken := following
              simp only [portalTokenFor, stored, (deliveries i).draws.portalToken_ne, if_false]
            rw [next, effect, token]
            exact phase.follow trivial (row_upsertActive (racing.account _)) rfl
              ⟨[.applied (deliveries !i).event], rfl, by simp⟩
          · rw [next, effect]
            exact phase.follow trivial phase.row rfl same
  | halted outcome => exact phase.follow trivial phase.row rfl same
  | activated | issued | recorded => rw [there] at following; exact following.elim

theorem Both.move {p : Point} {after : World}
    (phase : Both env accountId deliveries world turns points now) (contending : p.Contending)
    (keys : (after.keysOf accountId).length + (points i).keyCount =
      (now.keysOf accountId).length + p.keyCount)
    (own : p.keyCount = 0 → after.FreshKey env (deliveries i).draws.mobileApiKey)
    (other : now.FreshKey env (deliveries !i).draws.mobileApiKey →
      after.FreshKey env (deliveries !i).draws.mobileApiKey) :
    Both env accountId deliveries world (turns ++ [i]) (Function.update points i p) after := by
  have before := phase.keys i
  refine ⟨phase.unseen, not_ahead_append phase.behind phase.turns i,
    two_le_append phase.turns i,
    forall_update_iff.mpr ⟨contending, phase.contending (!i)⟩,
    (forall_bool_iff i).mpr ⟨?_, ?_⟩, (forall_bool_iff i).mpr ⟨?_, ?_⟩⟩
  · rw [Function.update_self, update_not]
    omega
  · rw [update_not, Bool.not_not, Function.update_self]
    omega
  · rw [Function.update_self]
    exact own
  · rw [update_not]
    exact fun none => other (phase.fresh (!i) none)

theorem Both.step (racing : Racing env accountId deliveries world)
    (phase : Both env accountId deliveries world turns points now) :
    Both env accountId deliveries world (turns ++ [i])
      (Function.update points i ((points i).next env (deliveries i) now))
      ((points i).effect env (deliveries i) now) := by
  have contending := phase.contending i
  cases here : points i with
  | start | checked => rw [here] at contending; exact contending.elim
  | fetched existing =>
      rw [here] at contending
      cases existing with
      | some row => exact contending.elim
      | none =>
          exact phase.move trivial (by rw [here]; rfl)
            (fun _ => phase.fresh i (by rw [here]; rfl)) id
  | activated =>
      have fresh := phase.fresh i (by rw [here]; rfl)
      obtain ⟨next, effect⟩ := Point.step_activated fresh
      rw [next, effect]
      refine phase.move trivial ?_ nofun fun other =>
        freshKey_addKey.mpr ⟨other, racing.distinct i⟩
      rw [here, length_keysOf_addKey (racing.account i)]
      rfl
  | issued =>
      rcases Point.step_issued now with ⟨next, effect⟩ | ⟨e, next, effect⟩
      · rw [next, effect]
        exact phase.move trivial (by rw [here]; rfl) nofun id
      · rw [next, effect]
        exact phase.move trivial (by rw [here]; rfl) nofun id
  | recorded => exact phase.move trivial (by rw [here]; rfl) nofun id
  | halted outcome => exact phase.move trivial (by rw [here]; rfl) nofun id

theorem Phase.step (racing : Racing env accountId deliveries world)
    (phase : Phase env accountId deliveries world turns points now) (j : Bool) :
    Phase env accountId deliveries world (turns ++ [j])
      (Function.update points j ((points j).next env (deliveries j) now))
      ((points j).effect env (deliveries j) now) := by
  cases phase with
  | before phase => exact phase.step racing
  | led i phase =>
      by_cases leader : j = i
      · subst leader
        exact .led j (phase.step_leader racing)
      · obtain rfl : j = !i := by cases i <;> cases j <;> simp_all
        exact .led i (phase.step_follower racing)
  | both phase => exact .both (phase.step racing)

end Steps

/-! ## Runs -/

section Runs

variable {env : Env} {accountId : String} {deliveries : Bool → Delivery} {world : World}

/-- The two handlers by their points. -/
def Racing.control (racing : Racing env accountId deliveries world) (i : Bool) :
    Control Failure World Response Point :=
  paymentControl env (deliveries i) (by rw [racing.account i]; exact racing.named)
    (racing.payment i)

/-- Every run of the two handlers is in some phase. -/
theorem Racing.phase (racing : Racing env accountId deliveries world) (schedule : List Bool) :
    ∃ points now, (racers env deliveries world).exec schedule =
        Control.pool racing.control points now ∧
      Phase env accountId deliveries world schedule points now := by
  refine Pool.exec_induction (fun turns pool => ∃ points now,
    pool = Control.pool racing.control points now ∧
      Phase env accountId deliveries world turns points now) ?_ ?_ schedule
  · exact ⟨fun _ => .start, world, rfl, .before ⟨rfl, fun _ => rfl⟩⟩
  · intro turns pool i held
    rcases held with ⟨points, now, rfl, phase⟩
    exact ⟨_, _, Control.step_pool _ _ _ _, phase.step racing i⟩

theorem Racing.halted (racing : Racing env accountId deliveries world) {points : Bool → Point}
    {now : World} (finished : (Control.pool racing.control points now).Finished) (i : Bool) :
    ∃ outcome, points i = .halted outcome := by
  rcases finished i with ⟨outcome, ended⟩
  exact ⟨outcome, Point.eq_halted_of_prog (by rw [racing.account i]; exact racing.named)
    (racing.payment i) ended⟩

/-- **The race.**  When both handlers have finished, one key was issued for the account
and only the stored portal token was staged, exactly when not both events were on
record from the start and, if neither was, one handler committed its upsert before
the other fetched the row. -/
theorem racers_issuedOnce_iff (racing : Racing env accountId deliveries world)
    {schedule : List Bool} (finished : ((racers env deliveries world).exec schedule).Finished) :
    IssuedOnce accountId world ((racers env deliveries world).exec schedule).shared ↔
      (∃ i, ¬ Seen deliveries world i) ∧ ((∃ i, Seen deliveries world i) ∨ Ahead schedule) := by
  obtain ⟨points, now, run, phase⟩ := racing.phase schedule
  rw [run] at finished ⊢
  have halted := racing.halted finished
  change IssuedOnce accountId world now ↔ _
  cases phase with
  | before phase =>
      have seen : ∀ i, Seen deliveries world i := fun i => by
        rcases halted i with ⟨outcome, ended⟩
        have own := phase.waiting i
        rwa [ended] at own
      refine ⟨fun issued => ?_, fun ⟨⟨i, unseen⟩, _⟩ => (unseen (seen i)).elim⟩
      have none := issued.1
      rw [phase.unchanged] at none
      omega
  | led i phase =>
      refine ⟨fun _ => ⟨⟨i, phase.unseen⟩, phase.ahead.imp_left fun seen => ⟨_, seen⟩⟩,
        fun _ => ⟨?_, ?_⟩⟩
      · rcases halted i with ⟨outcome, ended⟩
        have keys := phase.keys
        rwa [ended] at keys
      · rcases phase.stashes with ⟨added, trace, own⟩
        rcases phase.row with ⟨row, stored, token⟩
        intro time credentials member _
        rw [trace, List.drop_left] at member
        exact ⟨row, stored, by rw [token, own time credentials member]⟩
  | both phase =>
      refine ⟨fun issued => ?_, fun ⟨_, seen⟩ => ?_⟩
      · rcases halted false with ⟨outcome, ended⟩
        rcases halted true with ⟨other, ended'⟩
        have keys := phase.keys false
        have one := issued.1
        rw [ended, Bool.not_false, ended'] at keys
        simp only [Point.keyCount] at keys
        omega
      · rcases seen with ⟨i, seen⟩ | ahead
        · exact (phase.unseen i seen).elim
        · exact (phase.behind ahead).elim

/-- Two success events of one new account, as `subscription.create` and
`charge.success` are. -/
def twoPayments (i : Bool) : Delivery :=
  match i with
  | false => ⟨sampleEvent .paymentSucceeded "e1", 10, sampleDraws 1⟩
  | true => ⟨sampleEvent .paymentSucceeded "e2", 20, sampleDraws 2⟩

theorem twoPayments_racing : Racing sampleEnv "acc" twoPayments .empty where
  named := by decide
  account i := by cases i <;> rfl
  payment i := by cases i <;> rfl
  absent := rfl
  fresh i := by cases i <;> decide
  distinct i := by cases i <;> decide

/-- Both handlers fetch the missing row before either commits. -/
def overlapping : List Bool :=
  [false, true, false, true, false, false, false, false, true, true, true, true]

theorem racers_overlapping :
    Racing sampleEnv "acc" twoPayments .empty ∧
    ((racers sampleEnv twoPayments .empty).exec overlapping).Finished ∧
    ¬ IssuedOnce "acc" .empty ((racers sampleEnv twoPayments .empty).exec overlapping).shared := by
  refine ⟨twoPayments_racing, fun i => ?_, fun issued => ?_⟩
  · cases i
    · exact ⟨.ok .processed, rfl⟩
    · exact ⟨.ok .processed, rfl⟩
  · have two : (((racers sampleEnv twoPayments .empty).exec overlapping).shared.keysOf
        "acc").length = 2 := by decide +kernel
    have one := issued.1
    rw [two] at one
    cases one

/-- One handler after the other. -/
theorem racers_issuedOnce_iff_sequential :
    IssuedOnce "acc" .empty ((racers sampleEnv twoPayments .empty).exec
      [false, false, false, false, false, false, true, true, true]).shared := by
  have finished : ((racers sampleEnv twoPayments .empty).exec
      [false, false, false, false, false, false, true, true, true]).Finished := by
    intro i
    cases i
    · exact ⟨.ok .processed, rfl⟩
    · exact ⟨.ok .processed, rfl⟩
  have ahead : Ahead [false, false, false, false, false, false, true, true, true] :=
    ⟨[false, false, false], by decide, false, by decide, by decide⟩
  have unseen : ¬ Seen twoPayments .empty false := by simp [Seen, World.Processed, World.empty]
  exact (racers_issuedOnce_iff twoPayments_racing finished).mpr ⟨⟨false, unseen⟩, .inr ahead⟩

end Runs

end Aegis.Subscriptions
