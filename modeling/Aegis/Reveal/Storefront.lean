import Aegis.Lib.Rely
import Aegis.Reveal.Service
import Aegis.Subscriptions.Lifecycle
import Aegis.Subscriptions.Tenants

/-!
# From the payment to the key

The webhook issues a key for the account that has paid and stashes it, the visitor who holds the
reveal token claims it, and `verify_api_key` decides whether it opens anything.  Here these, the
administrators' calls and the sweep run over one state, statement by statement and command by
command.

`revealed_key_opens`: whatever else goes on, a key that a claim returns was issued for that
account on a payment, and opens it for as long as nobody has revoked it.
-/

namespace Aegis.Reveal

open Aegis.Lib Aegis.Subscriptions

/-- The tables and the keys of Redis, with its clock. -/
structure Storefront where
  world : World
  now : ℤ
  /-- the `reveal_token:{token}` keys -/
  revealTokens : String → Option (Expiring ℤ String)

namespace Storefront

def empty : Storefront := ⟨World.empty, 0, fun _ => none⟩

variable (front : Storefront)

/-- What the reveal service works on; the payloads are not numbered here. -/
def redis : Redis where
  now := front.now
  revealTokens := front.revealTokens
  pendingCredentials accountId :=
    (front.world.pendingCredentials accountId).map fun held => ⟨⟨0, held.value⟩, held.expiresAt⟩
  stashes := 0

def setRedis (redis : Redis) : Storefront where
  world := { front.world with
    pendingCredentials := fun accountId =>
      (redis.pendingCredentials accountId).map fun held =>
        ⟨held.value.credentials, held.expiresAt⟩ }
  now := redis.now
  revealTokens := redis.revealTokens

def setWorld (world : World) : Storefront := { front with world := world }

def onWorld {α : Type} (p : Prog Failure World α) : Prog Failure Storefront α :=
  p.zoom world fun world front => front.setWorld world

def onRedis {α : Type} (p : Prog Failure Redis α) : Prog Failure Storefront α :=
  p.zoom redis fun redis front => front.setRedis redis

/-- A call of the key administration, which keeps no record here. -/
def onKeys {α : Type} (p : Prog Failure KeyRing α) : Prog Failure Storefront α :=
  p.zoom (fun front => ⟨front.world, []⟩) fun keyRing front => front.setWorld keyRing.world

end Storefront

/-- What comes to the server, with the clock readings and what it draws. -/
inductive Visit where
  | createRevealToken (accountId token : String)
  | webhook (delivery : Delivery)
  | reveal (accountId revealToken : String)
  | key (call : KeyCall)
  | demoSignup (now : ℤ) (draws : SignupDraws) (body : DemoSignupRequest)
  | setTenantPlan (now : ℤ) (auth : AuthContext) (body : SetPlanRequest)
  | cancelSubscription (now : ℤ) (auth : AuthContext) (jobId accountId : String)
      (confirmed : Bool)
  | markSuspended (now : ℤ) (accountId : String)
  | sleep (seconds : ℕ)

/-- The answer that hands out credentials. -/
def Answer.claim : Answer → Option Claimed
  | .claimed credentials => some credentials
  | .nothing | .issued _ => none

def Visit.prog (env : Env) : Visit → Prog Failure Storefront (Option Claimed)
  | createRevealToken accountId token => do
      let answer ← Storefront.onRedis (Reveal.createRevealToken accountId token)
      return answer.claim
  | webhook delivery => do
      let _ ← Storefront.onWorld (handleEvent env delivery)
      return none
  | reveal accountId revealToken => do
      let answer ← Storefront.onRedis (Reveal.reveal accountId revealToken)
      return answer.claim
  | key call => do
      let _ ← Storefront.onKeys (call.prog env)
      return none
  | demoSignup now draws body => do
      let _ ← Storefront.onWorld (Subscriptions.demoSignup env now draws body)
      return none
  | setTenantPlan now auth body => do
      let _ ← Storefront.onWorld (Subscriptions.setTenantPlan now auth body)
      return none
  | cancelSubscription now auth jobId accountId confirmed => do
      Storefront.onWorld (Subscriptions.cancelSubscription now auth jobId accountId confirmed)
      return none
  | markSuspended now accountId => do
      Storefront.onWorld (Subscriptions.markSuspended now accountId)
      return none
  | sleep n => do
      Storefront.onRedis (Prog.modify (Redis.sleep n))
      return none

/-- The visits, before their first steps. -/
def visits {ι : Type} (env : Env) (calls : ι → Visit) :
    Pool ι Failure Storefront (Option Claimed) :=
  ⟨.empty, fun i => (calls i).prog env⟩

/-! ## What the steps keep -/

/-- The row, but for its flags. -/
structure SameKey (row later : ApiKey) : Prop where
  keyHash : later.keyHash = row.keyHash
  accountId : later.accountId = row.accountId
  isAdmin : later.isAdmin = row.isAdmin
  expiresAt : later.expiresAt = row.expiresAt

/-- `UNIQUE (key_hash)`. -/
def DistinctKeys (world : World) : Prop := (world.apiKeys.map (·.keyHash)).Nodup

/-- No key goes away, and no payload comes. -/
structure KeepsKeys (before after : World) : Prop where
  rows : ∀ row ∈ before.apiKeys, ∃ later ∈ after.apiKeys, SameKey row later
  distinct : DistinctKeys before → DistinctKeys after
  pending : ∀ accountId held, after.pendingCredentials accountId = some held →
    before.pendingCredentials accountId = some held

section Keeps

variable {before after : World}

theorem SameKey.refl (row : ApiKey) : SameKey row row := ⟨rfl, rfl, rfl, rfl⟩

theorem SameKey.trans {a b c : ApiKey} (first : SameKey a b) (second : SameKey b c) :
    SameKey a c :=
  ⟨second.keyHash.trans first.keyHash, second.accountId.trans first.accountId,
    second.isAdmin.trans first.isAdmin, second.expiresAt.trans first.expiresAt⟩

theorem KeepsKeys.of_eq (keys : after.apiKeys = before.apiKeys)
    (pending : after.pendingCredentials = before.pendingCredentials) : KeepsKeys before after where
  rows row member := ⟨row, by rwa [keys], .refl row⟩
  distinct distinct := by rwa [DistinctKeys, keys]
  pending _ _ found := by rwa [pending] at found

theorem KeepsKeys.refl (world : World) : KeepsKeys world world := .of_eq rfl rfl

theorem KeepsKeys.trans {a b c : World} (first : KeepsKeys a b) (second : KeepsKeys b c) :
    KeepsKeys a c where
  rows row member := by
    obtain ⟨between, there, same⟩ := first.rows row member
    obtain ⟨later, here, alike⟩ := second.rows between there
    exact ⟨later, here, same.trans alike⟩
  distinct := second.distinct ∘ first.distinct
  pending accountId held found := first.pending accountId held (second.pending accountId held found)

theorem keepsKeys_addKey {env : Env} {now : ℤ} {rawKey : String} {request : KeyRequest}
    (fresh : before.FreshKey env rawKey) :
    KeepsKeys before (addKey env now rawKey request before) where
  rows row member := ⟨row, List.mem_append_left _ member, .refl row⟩
  distinct distinct := by
    unfold DistinctKeys addKey
    rw [List.map_append, List.nodup_append]
    refine ⟨distinct, List.nodup_singleton _, fun keyHash old other new => ?_⟩
    obtain ⟨row, member, rfl⟩ := List.mem_map.mp old
    rw [List.mem_singleton.mp new]
    exact fresh row member
  pending _ _ found := found

theorem keepsKeys_revise {change : ApiKey → ApiKey} (same : ∀ row, SameKey row (change row)) :
    KeepsKeys before { before with apiKeys := before.apiKeys.map change } where
  rows row member := ⟨change row, List.mem_map_of_mem member, same row⟩
  distinct distinct := by
    unfold DistinctKeys
    rw [List.map_map]
    have alike : (fun row : ApiKey => row.keyHash) ∘ change = fun row => row.keyHash :=
      funext fun row => (same row).keyHash
    rwa [alike]
  pending _ _ found := found

end Keeps

/-! ## The calls that stash nothing -/

section Quiet

variable {env : Env} {now : ℤ} {accountId : String}

theorem keepsKeys_updateRow (f : Subscription → Subscription) (world : World) :
    KeepsKeys world (updateRow accountId f world) := by
  unfold updateRow
  split
  · exact .refl world
  · exact .of_eq rfl rfl

theorem keepsKeys_saveRow {existing : Option Subscription}
    {row : Option Subscription → Subscription} {world after : World}
    (saved : saveRow accountId existing row world = .ok after) : KeepsKeys world after := by
  unfold saveRow at saved
  split at saved
  · cases saved
    exact .of_eq rfl rfl
  · cases saved
  · cases saved
    exact keepsKeys_updateRow _ world

theorem keepsKeys_insertKey {rawKey : String} {request : KeyRequest} {world after : World}
    (inserted : insertKey env now rawKey request world = .ok after) : KeepsKeys world after := by
  unfold insertKey at inserted
  split at inserted
  next fresh =>
    cases inserted
    exact keepsKeys_addKey fresh
  · cases inserted

theorem allowsWorkers_keepsKeys : AllowsWorkers KeepsKeys := fun _ _ _ _ => .of_eq rfl rfl

theorem guarantees_demoSignup (draws : SignupDraws) (body : DemoSignupRequest) :
    (Subscriptions.demoSignup env now draws body).Guarantees KeepsKeys := by
  refine Prog.Guarantees.bind ?_ fun _ => trivial
  refine (Prog.guarantees_read (R := KeepsKeys) .refl _).bind fun existing => ?_
  refine (Prog.guarantees_commit (R := KeepsKeys) .refl
    fun _ _ saved => keepsKeys_saveRow saved).bind fun _ => ?_
  refine Prog.Guarantees.bind ?_ fun _ => trivial
  exact (Prog.guarantees_commit (R := KeepsKeys) .refl
    fun _ _ inserted => keepsKeys_insertKey inserted).bind fun _ => trivial

theorem guarantees_setTenantPlan (auth : AuthContext) (body : SetPlanRequest) :
    (Subscriptions.setTenantPlan now auth body).Guarantees KeepsKeys := by
  refine (Prog.guarantees_ofExcept (R := KeepsKeys) _).bind fun _ => ?_
  refine (Prog.guarantees_read (R := KeepsKeys) .refl _).bind fun existing => ?_
  exact (Prog.guarantees_commit (R := KeepsKeys) .refl
    fun _ _ saved => keepsKeys_saveRow saved).bind fun _ => trivial

theorem guarantees_cancelSubscription (auth : AuthContext) (jobId : String) (confirmed : Bool) :
    (Subscriptions.cancelSubscription now auth jobId accountId confirmed).Guarantees KeepsKeys := by
  refine (Prog.guarantees_ofExcept (R := KeepsKeys) _).bind fun _ => ?_
  refine (Prog.guarantees_read (R := KeepsKeys) .refl _).bind fun found => ?_
  cases found with
  | none => trivial
  | some row =>
      dsimp only
      split
      · trivial
      · split
        · trivial
        · refine (Prog.guarantees_modify fun world => keepsKeys_updateRow _ world).bind fun _ => ?_
          refine (Prog.guarantees_read (R := KeepsKeys) .refl _).bind fun running => ?_
          split
          · exact (guarantees_stopWorker allowsWorkers_keepsKeys _ _).bind fun _ => trivial
          · trivial

theorem guarantees_markSuspended :
    (Subscriptions.markSuspended now accountId).Guarantees KeepsKeys :=
  Prog.guarantees_modify fun world => (keepsKeys_updateRow _ world).trans (.of_eq rfl rfl)

/-- What a call of the key administration does to the tables. -/
theorem guarantees_onKeys (call : KeyCall) :
    (Storefront.onKeys (call.prog env)).Guarantees fun front later =>
      KeepsKeys front.world later.world := by
  refine Prog.Guarantees.zoom ?_ (@guarantees_keyCall env (fun _ => True) call fun _ _ => trivial)
  intro after front move
  cases move with
  | stay => exact .refl _
  | issue _ fresh => exact keepsKeys_addKey fresh
  | revise revises _ _ =>
      refine keepsKeys_revise fun row => ?_
      have revised := revises row
      exact ⟨revised.keyHash, revised.accountId, revised.isAdmin, revised.expiresAt⟩

end Quiet

/-! ## The calls that do -/

section Sound

variable (Paid : String → String → ℤ → Prop) (env : Env)

/-- The key is one that was issued for the account on a payment. -/
def Backed (world : World) (accountId rawKey : String) : Prop :=
  ∃ now row, Paid accountId rawKey now ∧ row ∈ world.apiKeys ∧
    row.keyHash = env.hashKey rawKey ∧ row.accountId = some accountId ∧ row.isAdmin = false ∧
      row.expiresAt = dateAfter now env.settings.apiKeyDefaultTtlDays

structure Sound (world : World) : Prop where
  distinct : DistinctKeys world
  pending : ∀ accountId held, world.pendingCredentials accountId = some held →
    Backed Paid env world accountId held.value.mobileApiKey

/-- What every step is held to. -/
structure Proceeds (before after : World) : Prop where
  rows : ∀ row ∈ before.apiKeys, ∃ later ∈ after.apiKeys, SameKey row later
  sound : Sound Paid env before → Sound Paid env after

variable {Paid env} {before after world : World} {accountId rawKey : String}

theorem Backed.later (backed : Backed Paid env before accountId rawKey)
    (rows : ∀ row ∈ before.apiKeys, ∃ later ∈ after.apiKeys, SameKey row later) :
    Backed Paid env after accountId rawKey := by
  obtain ⟨now, row, paid, member, keyHash, owner, isAdmin, expiresAt⟩ := backed
  obtain ⟨later, here, same⟩ := rows row member
  exact ⟨now, later, paid, here, same.keyHash.trans keyHash, same.accountId.trans owner,
    same.isAdmin.trans isAdmin, same.expiresAt.trans expiresAt⟩

theorem KeepsKeys.proceeds (keeps : KeepsKeys before after) : Proceeds Paid env before after where
  rows := keeps.rows
  sound sound := {
    distinct := keeps.distinct sound.distinct
    pending := fun accountId held found =>
      (sound.pending accountId held (keeps.pending accountId held found)).later keeps.rows }

theorem Proceeds.refl (world : World) : Proceeds Paid env world world :=
  (KeepsKeys.refl world).proceeds

theorem Proceeds.trans {a b c : World} (first : Proceeds Paid env a b)
    (second : Proceeds Paid env b c) : Proceeds Paid env a c where
  rows row member := by
    obtain ⟨between, there, same⟩ := first.rows row member
    obtain ⟨later, here, alike⟩ := second.rows between there
    exact ⟨later, here, same.trans alike⟩
  sound := second.sound ∘ first.sound

/-- A payload whose key is in the table may be stashed. -/
theorem proceeds_stashed {now : ℤ} {credentials : PendingCredentials}
    (backed : Backed Paid env world credentials.accountId credentials.mobileApiKey) :
    Proceeds Paid env world (stashed now credentials world) where
  rows row member := ⟨row, member, .refl row⟩
  sound sound := by
    refine ⟨sound.distinct, fun accountId held found => ?_⟩
    unfold stashed at found
    by_cases own : accountId = credentials.accountId
    · subst own
      have same := (Function.update_self _ _ _).symm.trans found
      cases same
      exact backed
    · exact sound.pending accountId held ((Function.update_of_ne own _ _).symm.trans found)

theorem assures_issueApiKey {now : ℤ} {request : KeyRequest} (paid : Paid accountId rawKey now)
    (owner : request.accountId = some accountId) (mobile : request.isAdmin = false)
    (lasting : request.expiresInDays = none) :
    (issueApiKey env now rawKey request).Assures (Proceeds Paid env)
      (fun raw world => raw = rawKey ∧ Backed Paid env world accountId raw) world := by
  refine Prog.Assures.bind .refl (Prog.assures_commit .refl fun found after _ inserted => ?_)
  refine ⟨(keepsKeys_insertKey inserted).proceeds, fun later moved => ?_⟩
  unfold insertKey at inserted
  split at inserted
  · cases inserted
    have backed : Backed Paid env (addKey env now rawKey request found) accountId rawKey := by
      refine ⟨now, issuedRow env now rawKey request found.nextKeyId, paid,
        List.mem_append_right _ (List.mem_singleton_self _), rfl, owner, mobile, ?_⟩
      rw [issuedRow, lasting, Option.getD_none]
    exact fun last onwards => ⟨rfl, (backed.later moved.rows).later onwards.rows⟩
  · cases inserted

theorem guarantees_recordProcessed {now : ℤ} {event : PaymentEvent} {f : World → World}
    (keeps : ∀ world, KeepsKeys world (f world)) :
    (Prog.commit fun world => recordProcessed now event (f world)).Guarantees
      (Proceeds Paid env) := by
  refine Prog.guarantees_commit .refl fun world after recorded => ?_
  unfold recordProcessed at recorded
  split at recorded
  · cases recorded
  · cases recorded
    have added : KeepsKeys (f world) (addRecord now event (f world)) := .of_eq rfl rfl
    exact ((keeps world).trans added).proceeds

theorem keepsKeys_applyToRow (delivery : Delivery) (world : World) :
    KeepsKeys world (applyToRow env delivery world) := by
  unfold applyToRow
  split
  · exact keepsKeys_updateRow _ world
  · exact keepsKeys_updateRow _ world
  · exact .refl world
  · exact .refl world

/-- What a first activation issues is backed. -/
theorem assures_issueCredentials {delivery : Delivery} {portalToken : String}
    (paid : Paid delivery.event.accountId delivery.draws.mobileApiKey delivery.now) :
    (issueCredentials env delivery portalToken).Assures (Proceeds Paid env)
      (fun issued world => ∀ credentials, issued = some credentials →
        Backed Paid env world credentials.accountId credentials.mobileApiKey) world := by
  refine Prog.Assures.bind .refl ((assures_issueApiKey paid rfl rfl rfl).mono ?_)
  intro raw issued both
  refine Prog.Assures.bind .refl (Prog.assures_commit .refl fun found after moved recorded => ?_)
  have keeps : KeepsKeys found after := by
    unfold recordProcessed at recorded
    split at recorded
    · cases recorded
    · cases recorded
      exact .of_eq rfl rfl
  refine ⟨keeps.proceeds, fun later onwards last still credentials same => ?_⟩
  cases same
  have rows := ((moved.trans keeps.proceeds).trans onwards).trans still
  exact both.2.later rows.rows

/-- What the webhook issues is backed. -/
theorem assures_applyEvent {delivery : Delivery}
    (paid : delivery.event.accountId ≠ "" → delivery.event.eventType = .paymentSucceeded →
      Paid delivery.event.accountId delivery.draws.mobileApiKey delivery.now) :
    (applyEvent env delivery).Assures (Proceeds Paid env)
      (fun issued world => ∀ credentials, issued = some credentials →
        Backed Paid env world credentials.accountId credentials.mobileApiKey) world := by
  have others : ∀ world, KeepsKeys world
      ((applyToRow env delivery world).log (.applied delivery.event)) :=
    fun world => (keepsKeys_applyToRow delivery world).trans (.of_eq rfl rfl)
  have reads := Prog.guarantees_read (ε := Failure) (R := Proceeds Paid env) .refl
    fun world : World => world.subscription delivery.event.accountId
  unfold applyEvent
  dsimp only
  split
  next => exact fun _ _ _ none => by cases none
  next named =>
    split
    next payment =>
      refine reads.assures_bind .refl fun existing found => ?_
      cases existing with
      | none =>
          refine Prog.Guarantees.assures_bind .refl (Prog.guarantees_modify fun world => ?_)
            fun _ _ => assures_issueCredentials (paid named payment)
          have upserted : KeepsKeys world (upsertActive delivery.now delivery.event
            (portalTokenFor none delivery.draws.portalToken) world) := .of_eq rfl rfl
          exact upserted.proceeds
      | some row =>
          refine (guarantees_recordProcessed fun world => ?_).assures_bind .refl
            fun _ _ _ _ _ none => by cases none
          exact .of_eq rfl rfl
    all_goals
      exact (guarantees_recordProcessed others).assures_bind .refl fun _ _ _ _ _ none => by
        cases none

theorem assures_stashIssued {delivery : Delivery} {issued : Option NewlyIssued}
    (backed : ∀ credentials, issued = some credentials →
      Backed Paid env world credentials.accountId credentials.mobileApiKey) :
    (stashIssued delivery issued).Assures (Proceeds Paid env) (fun _ _ => True) world := by
  cases issued with
  | none => exact fun _ _ => trivial
  | some credentials =>
      refine Prog.assures_modify fun later moved => ⟨?_, fun _ _ => trivial⟩
      exact proceeds_stashed ((backed credentials rfl).later moved.rows)

/-- **The webhook.** -/
theorem assures_handleEvent {delivery : Delivery}
    (paid : delivery.event.accountId ≠ "" → delivery.event.eventType = .paymentSucceeded →
      Paid delivery.event.accountId delivery.draws.mobileApiKey delivery.now) :
    (handleEvent env delivery).Assures (Proceeds Paid env) (fun _ _ => True) world := by
  have workers : AllowsWorkers (Proceeds Paid env) :=
    fun _ _ _ _ => KeepsKeys.proceeds (.of_eq rfl rfl)
  have ends : (disconnect delivery >>= fun _ => pure Response.processed).Guarantees
      (Proceeds Paid env) := (guarantees_disconnect workers delivery).bind fun _ => trivial
  refine Prog.Guarantees.assures_bind .refl (Prog.guarantees_read .refl _) fun seen found => ?_
  split
  · exact fun _ _ => trivial
  · refine Prog.Assures.bind .refl ((assures_applyEvent paid).mono fun issued world backed => ?_)
    exact Prog.Assures.bind .refl ((assures_stashIssued backed).mono fun _ later held =>
      ends.assures (fun _ _ _ held => held) held)

/-! ## Claims -/

/-- What every step is held to, on the whole state. -/
def Onward (Paid : String → String → ℤ → Prop) (env : Env) (front later : Storefront) : Prop :=
  Proceeds Paid env front.world later.world

variable {front : Storefront}

theorem Onward.refl (front : Storefront) : Onward Paid env front front := Proceeds.refl front.world

theorem Onward.trans {a b c : Storefront} (first : Onward Paid env a b)
    (second : Onward Paid env b c) : Onward Paid env a c := Proceeds.trans first second

theorem setRedis_redis (front : Storefront) : front.setRedis front.redis = front := by
  have plain : ∀ key : Option (Expiring ℤ PendingCredentials),
      (key.map fun held => (⟨⟨0, held.value⟩, held.expiresAt⟩ : Expiring ℤ Stash)).map
        (fun held => ⟨held.value.credentials, held.expiresAt⟩) = key := by
    intro key
    cases key <;> rfl
  simp only [Storefront.setRedis, Storefront.redis, plain]

/-- A command that stashes nothing. -/
theorem onward_setRedis {redis : Redis} (pending : ∀ accountId held,
    redis.pendingCredentials accountId = some held →
      front.redis.pendingCredentials accountId = some held) :
    Onward Paid env front (front.setRedis redis) := by
  refine KeepsKeys.proceeds ⟨fun row member => ⟨row, member, .refl row⟩, id, ?_⟩
  intro accountId held found
  obtain ⟨numbered, there, rfl⟩ := Option.map_eq_some_iff.mp found
  obtain ⟨plain, here, rfl⟩ := Option.map_eq_some_iff.mp (pending accountId numbered there)
  exact here

theorem onRedis_read {α : Type} (f : Redis → α) :
    Storefront.onRedis (Prog.read f) = Prog.read fun front => f front.redis :=
  Prog.zoom_read setRedis_redis f

theorem onRedis_bind {α β : Type} (p : Prog Failure Redis α) (f : α → Prog Failure Redis β) :
    Storefront.onRedis (p >>= f) = Storefront.onRedis p >>= fun a => Storefront.onRedis (f a) :=
  Prog.zoom_bind _ _ p f

theorem guarantees_onRedis_modify {f : Redis → Redis} (quiet : ∀ redis accountId held,
    (f redis).pendingCredentials accountId = some held →
      redis.pendingCredentials accountId = some held) :
    (Storefront.onRedis (Prog.modify f)).Guarantees (Onward Paid env) :=
  fun front => ⟨onward_setRedis (quiet front.redis), trivial⟩

theorem guarantees_deletePending :
    (Storefront.onRedis (Prog.modify (Redis.deletePending accountId))).Guarantees
      (Onward Paid env) := by
  refine guarantees_onRedis_modify fun redis other held found => ?_
  unfold Redis.deletePending at found
  dsimp only at found
  rw [Function.update_apply] at found
  split at found
  · cases found
  · exact found

theorem guarantees_onWorld {α : Type} {p : Prog Failure World α} (keeps : p.Guarantees KeepsKeys) :
    (Storefront.onWorld p).Guarantees (Onward Paid env) :=
  keeps.zoom fun _ _ kept => kept.proceeds

theorem assures_onWorld {α : Type} {p : Prog Failure World α} {Q : α → World → Prop}
    (assures : p.Assures (Proceeds Paid env) Q front.world) :
    (Storefront.onWorld p).Assures (Onward Paid env) (fun a front => Q a front.world) front := by
  unfold Storefront.onWorld
  refine Prog.Assures.zoom (R := Proceeds Paid env) ?_ ?_ ?_ assures
  · exact fun _ _ onward => onward
  · exact fun _ _ step => step
  · exact fun _ _ => rfl

/-- The payload that a claim finds is backed. -/
theorem backed_of_getPending (sound : Sound Paid env front.world) {stash : Stash}
    (found : front.redis.getPending accountId = some stash) :
    Backed Paid env front.world accountId stash.credentials.mobileApiKey := by
  obtain ⟨numbered, there, rfl⟩ := Expiring.value_of_read found
  obtain ⟨plain, here, rfl⟩ := Option.map_eq_some_iff.mp there
  exact sound.pending accountId plain here

/-- What a claim returns is backed. -/
theorem assures_reveal {revealToken : String} (sound : Sound Paid env front.world) :
    (Storefront.onRedis (Reveal.reveal accountId revealToken)).Assures (Onward Paid env)
      (fun answer front => ∀ claimed, answer.claim = some claimed →
        claimed.accountId = accountId ∧
          Backed Paid env front.world accountId claimed.mobileApiKey) front := by
  have empties : ∀ claimed : Claimed, Answer.claim .nothing = some claimed → False := nofun
  unfold Reveal.reveal
  rw [onRedis_bind, onRedis_read]
  refine Prog.Assures.bind .refl (Prog.assures_read .refl fun found moved later onwards => ?_)
  split
  next => exact fun _ _ claimed none => (empties claimed none).elim
  next storedAccount _ =>
    split
    next => exact fun _ _ claimed none => (empties claimed none).elim
    next =>
      rw [onRedis_bind]
      have deletes := @guarantees_onRedis_modify Paid env (Redis.deleteToken revealToken)
        fun _ _ _ same => same
      have stays : ∀ front later, Onward Paid env front later → Sound Paid env front.world →
          Sound Paid env later.world := fun _ _ onward => onward.sound
      refine Prog.Assures.bind .refl ((deletes.assures stays
        ((moved.trans onwards).sound sound)).mono fun _ taken sound => ?_)
      unfold claimPending
      rw [onRedis_bind, onRedis_read]
      refine Prog.Assures.bind .refl (Prog.assures_read .refl fun found moved later onwards => ?_)
      split
      next =>
        unfold putBack
        rw [onRedis_bind]
        have writes := @guarantees_onRedis_modify Paid env
          (Redis.setToken revealToken accountId (min 120 revealTokenTtlSeconds))
          fun _ _ _ same => same
        exact writes.assures_bind .refl fun _ _ _ _ claimed none => (empties claimed none).elim
      next stash held =>
        unfold handOver
        rw [onRedis_bind]
        have remains : ∀ front later, Onward Paid env front later →
            Backed Paid env front.world accountId stash.credentials.mobileApiKey →
              Backed Paid env later.world accountId stash.credentials.mobileApiKey :=
          fun _ _ onward backed => backed.later onward.rows
        have backed := (backed_of_getPending (moved.sound sound) held).later onwards.rows
        refine Prog.Assures.bind .refl ((guarantees_deletePending.assures remains backed).mono ?_)
        intro _ gone backed last still claimed same
        cases same
        exact ⟨rfl, remains gone last still backed⟩

end Sound

/-! ## All of them together -/

section Together

variable {ι : Type} {env : Env} {calls : ι → Visit}

/-- Some webhook call has been told of the payment, and has drawn the key. -/
def PaidIn (calls : ι → Visit) (accountId rawKey : String) (now : ℤ) : Prop :=
  ∃ i delivery, calls i = .webhook delivery ∧ delivery.event.eventType = .paymentSucceeded ∧
    delivery.event.accountId = accountId ∧ accountId ≠ "" ∧
      delivery.draws.mobileApiKey = rawKey ∧ delivery.now = now

/-- What a call returns is a claim's, and backed. -/
def HandsOut (calls : ι → Visit) (env : Env) (i : ι) (answer : Option Claimed)
    (front : Storefront) : Prop :=
  ∀ claimed, answer = some claimed → ∃ accountId token,
    calls i = .reveal accountId token ∧ claimed.accountId = accountId ∧
      Backed (PaidIn calls) env front.world accountId claimed.mobileApiKey

theorem handsOut_none (i : ι) (front : Storefront) : HandsOut calls env i none front :=
  fun _ => nofun

/-- A call that stashes nothing and returns nothing. -/
theorem assures_nothing {α : Type} {p : Prog Failure Storefront α} {front : Storefront}
    (i : ι) (guarantees : p.Guarantees (Onward (PaidIn calls) env)) :
    (p >>= fun _ => pure none).Assures (Onward (PaidIn calls) env) (HandsOut calls env i) front :=
  guarantees.assures_bind .refl fun _ _ front _ => handsOut_none i front

/-- **One call.** -/
theorem assures_visit (i : ι) {front : Storefront} (sound : Sound (PaidIn calls) env front.world) :
    ((calls i).prog env).Assures (Onward (PaidIn calls) env) (HandsOut calls env i) front := by
  cases call : calls i with
  | reveal accountId token =>
      refine Prog.Assures.bind .refl ((assures_reveal sound).mono fun answer found backed => ?_)
      intro later moved claimed same
      obtain ⟨owner, issued⟩ := backed claimed same
      exact ⟨accountId, token, call, owner, issued.later moved.rows⟩
  | webhook delivery =>
      have paid : delivery.event.accountId ≠ "" → delivery.event.eventType = .paymentSucceeded →
          PaidIn calls delivery.event.accountId delivery.draws.mobileApiKey delivery.now :=
        fun named payment => ⟨i, delivery, call, payment, rfl, named, rfl, rfl⟩
      exact .bind .refl ((assures_onWorld (assures_handleEvent paid)).mono fun _ _ _ later _ =>
        handsOut_none i later)
  | createRevealToken accountId token =>
      have writes := @guarantees_onRedis_modify (PaidIn calls) env
        (Redis.setToken token accountId revealTokenTtlSeconds) fun _ _ _ same => same
      have noClaim : (Storefront.onRedis (Reveal.createRevealToken accountId token)).Assures
          (Onward (PaidIn calls) env) (fun answer _ => answer.claim = none) front := by
        unfold Reveal.createRevealToken
        rw [onRedis_bind]
        exact writes.assures_bind .refl fun _ _ _ _ => rfl
      refine .bind .refl (noClaim.mono fun answer _ none => ?_)
      rw [none]
      exact fun later _ => handsOut_none i later
  | key keyCall =>
      exact assures_nothing i ((guarantees_onKeys keyCall).mono fun _ _ keeps => keeps.proceeds)
  | demoSignup now draws body =>
      exact assures_nothing i (guarantees_onWorld (guarantees_demoSignup draws body))
  | setTenantPlan now auth body =>
      exact assures_nothing i (guarantees_onWorld (guarantees_setTenantPlan auth body))
  | cancelSubscription now auth jobId accountId confirmed =>
      exact assures_nothing i (guarantees_onWorld
        (guarantees_cancelSubscription auth jobId confirmed))
  | markSuspended now accountId =>
      exact assures_nothing i (guarantees_onWorld guarantees_markSuspended)
  | sleep n =>
      exact assures_nothing i (guarantees_onRedis_modify fun _ _ _ same => same)

theorem sound_empty (Paid : String → String → ℤ → Prop) (env : Env) :
    Sound Paid env Storefront.empty.world := ⟨List.nodup_nil, nofun⟩

end Together

/-- A key that is there opens its own account, as long as its row lets it through. -/
theorem opens_iff_of_distinct {env : Env} {world : World} {row : ApiKey}
    {rawKey accountId : String} {now : ℤ} (distinct : DistinctKeys world)
    (member : row ∈ world.apiKeys) (keyHash : row.keyHash = env.hashKey rawKey) :
    world.Opens env now rawKey accountId ↔ row.accountId = some accountId ∧ row.Good now := by
  have only : world.apiKeys.filter (·.keyHash = env.hashKey rawKey) = [row] :=
    filter_of_nodup distinct member (decide_eq_true keyHash) fun other wanted =>
      (of_decide_eq_true wanted).trans keyHash.symm
  rw [opens_iff, only]
  constructor
  · intro opens
    obtain ⟨found, checked, owner⟩ := opens
    obtain ⟨same, good⟩ := checkKey_eq_ok.mp checked
    cases same
    exact ⟨owner, good⟩
  · exact fun held => ⟨row, checkKey_eq_ok.mpr ⟨rfl, held.2⟩, held.1⟩

/-- **From the payment to the key.**  Whatever else is going on, the key that a claim returns was
drawn for a payment for the account that the claim names, and is in the table: it opens that
account and no other, as long as nobody has revoked it or asked for its rotation and the lifetime
of a key has not passed since the payment. -/
theorem revealed_key_opens {ι : Type} [DecidableEq ι] (env : Env) (calls : ι → Visit)
    (schedule : List ι) {i : ι} {accountId revealToken : String}
    (call : calls i = .reveal accountId revealToken) {claimed : Claimed}
    (returned : ((visits env calls).exec schedule).threads i = .halt (.ok (some claimed))) :
    claimed.accountId = accountId ∧ ∃ j delivery row, calls j = .webhook delivery ∧
      delivery.event.eventType = .paymentSucceeded ∧ delivery.event.accountId = accountId ∧
      delivery.draws.mobileApiKey = claimed.mobileApiKey ∧
      row ∈ ((visits env calls).exec schedule).shared.world.apiKeys ∧ row.isAdmin = false ∧
      row.expiresAt = dateAfter delivery.now env.settings.apiKeyDefaultTtlDays ∧
      ∀ now other, ((visits env calls).exec schedule).shared.world.Opens env now
        claimed.mobileApiKey other ↔ other = accountId ∧ row.Good now := by
  have start := sound_empty (PaidIn calls) env
  have all : ∀ j, ((visits env calls).threads j).Assures (Onward (PaidIn calls) env)
      (HandsOut calls env j) (visits env calls).shared := fun j => assures_visit j start
  obtain ⟨reached, assured⟩ := Pool.assured_of_returned (R := Onward (PaidIn calls) env)
    Onward.trans Onward.refl all returned
  obtain ⟨_, _, same, owner, backed⟩ := assured claimed rfl
  cases call.symm.trans same
  obtain ⟨_, row, ⟨j, delivery, webhook, payment, account, _, drawn, rfl⟩, member, keyHash,
    holder, mobile, expiresAt⟩ := backed
  refine ⟨owner, j, delivery, row, webhook, payment, account, drawn, member, mobile, expiresAt, ?_⟩
  intro now other
  rw [opens_iff_of_distinct (reached.sound start).distinct member keyHash, holder,
    Option.some_inj, eq_comm]

/-- A checkout, the payment, and the claim. -/
def oneSale : ℕ → Visit
  | 0 => .createRevealToken "acc" "t"
  | 1 => .webhook ⟨⟨"paystack", "e1", .paymentSucceeded, "acc", none, none, none⟩, 0,
      ⟨"portal", "key", "stop", by decide⟩⟩
  | _ => .reveal "acc" "t"

theorem revealed_key_opens_oneSale :
    let front := ((visits ⟨{}, id⟩ oneSale).exec [1, 1, 0, 1, 1, 2, 1, 1, 2, 2, 2]).shared
    ("acc" : String) = "acc" ∧ ∃ j delivery row, oneSale j = .webhook delivery ∧
      delivery.event.eventType = .paymentSucceeded ∧ delivery.event.accountId = "acc" ∧
      delivery.draws.mobileApiKey = "key" ∧ row ∈ front.world.apiKeys ∧ row.isAdmin = false ∧
      row.expiresAt = dateAfter delivery.now 365 ∧
      ∀ now other, front.world.Opens ⟨{}, id⟩ now "key" other ↔ other = "acc" ∧ row.Good now := by
  have returned : ((visits ⟨{}, id⟩ oneSale).exec [1, 1, 0, 1, 1, 2, 1, 1, 2, 2, 2]).threads 2 =
      .halt (.ok (some ⟨"acc", "portal", "key"⟩)) := rfl
  exact revealed_key_opens ⟨{}, id⟩ oneSale _ rfl returned

end Aegis.Reveal
