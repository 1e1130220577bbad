import Aegis.Payments.Adapters
import Aegis.Subscriptions.Writes

/-!
# Portal tokens

A subscriber shows her portal token and nothing else.  Every method that writes rows decides for
itself whether to draw one; `portalTokens_stable` says that in any sequence of them a stored
token stays, that what is handed out is what is stored, and that nothing else is accepted.
-/

namespace Aegis.Subscriptions

open Aegis.Lib Aegis.Payments

/-- The `portal_token` of the account's row. -/
def World.portalToken (world : World) (accountId : String) : Option String :=
  (world.subscription accountId).bind (·.portalToken)

/-- `verify_portal_token`; `compare_digest` is that of `hmac`. -/
def verifyPortalToken (accountId token : String) : Prog Failure World Bool := do
  match ← Prog.read (·.portalToken accountId) with
  | none => return false
  | some stored => Prog.ofExcept ((compareDigest stored token).mapError .python)

/-- What the write draws. -/
def Write.draws : Write → Option Draws
  | applyEvent delivery => some delivery.draws
  | activateDemo _ draws _ => some draws
  | setTenantPlan _ _ _ | markSuspended _ _ | markCanceled _ _ => none

/-- The tokens that a write draws are URL-safe text, as those of `token_urlsafe` are. -/
def Write.DrawsAscii (write : Write) : Prop :=
  ∀ draws ∈ write.draws, isAscii draws.portalToken = true

instance : DecidablePred Write.DrawsAscii := fun write =>
  inferInstanceAs (Decidable (∀ draws ∈ write.draws, _))

/-- The stored tokens are texts that `token_urlsafe` can have drawn. -/
def World.TokensDrawn (world : World) : Prop :=
  ∀ accountId, ∀ token ∈ world.portalToken accountId, token ≠ "" ∧ isAscii token = true

/-- The portal tokens in a run of the writers. -/
structure PortalTokensStable (env : Env) (start : World) (writes : List Write) : Prop where
  kept : ∀ early later, early <+: later → later <+: writes → ∀ accountId token,
    (exec (Write.take env) start early).portalToken accountId = some token →
      (exec (Write.take env) start later).portalToken accountId = some token
  applied : ∀ early delivery, early ++ [.applyEvent delivery] <+: writes → ∀ issued after,
    (applyEvent env delivery).run (exec (Write.take env) start early) =
        (.ok (some issued), after) →
      after.portalToken issued.accountId = some issued.portalToken
  signedUp : ∀ early now draws accountId, early ++ [.activateDemo now draws accountId] <+: writes →
    ∀ issued after, (activateDemo env now draws accountId).run
        (exec (Write.take env) start early) = (.ok issued, after) →
      issued.accountId = accountId ∧ after.portalToken accountId = some issued.portalToken
  verified : ∀ early, early <+: writes → ∀ accountId token, isAscii token = true →
    let reached := exec (Write.take env) start early
    (verifyPortalToken accountId token).run reached =
      (.ok (decide (reached.portalToken accountId = some token)), reached)

section Tokens

variable {env : Env} {world : World} {accountId drawn : String} {row : Option Subscription}

/-! ## One write -/

/-- A row keeps the token that it has, and an empty one counts as none. -/
theorem portalTokenFor_cases (row : Option Subscription) (drawn : String) :
    row.bind (·.portalToken) = some (portalTokenFor row drawn) ∨
      (row.bind (·.portalToken)).getD "" = "" ∧ portalTokenFor row drawn = drawn := by
  cases row with
  | none => exact .inr ⟨rfl, rfl⟩
  | some row =>
      unfold portalTokenFor
      dsimp only [Option.bind_some]
      cases row.portalToken with
      | none => exact .inr ⟨rfl, rfl⟩
      | some token =>
          dsimp only [Option.getD_some]
          split
          next empty => exact .inr ⟨empty, rfl⟩
          next => exact .inl rfl

@[simp]
theorem portalToken_demoRow {now : ℤ} {token : String} :
    (demoRow now token row).portalToken = some token := by
  cases row <;> rfl

theorem portalToken_of_row {row : Subscription}
    (present : world.subscription accountId = some row) :
    world.portalToken accountId = row.portalToken := by
  rw [World.portalToken, present, Option.bind_some]

/-- What a write does to the token of an account. -/
theorem portalToken_take (env : Env) (world : World) (accountId : String) (write : Write) :
    (write.take env world).portalToken accountId = world.portalToken accountId ∨
      (world.portalToken accountId).getD "" = "" ∧ ∃ draws ∈ write.draws,
        (write.take env world).portalToken accountId = some draws.portalToken := by
  have rewrite := rewrite_take env world accountId write
  unfold World.portalToken
  generalize (write.take env world).subscription accountId = after at rewrite ⊢
  cases rewrite with
  | same => exact .inl rfl
  | paid delivery own named payment =>
      rw [Option.bind_some, portalToken_activeRow]
      rcases portalTokenFor_cases (world.subscription accountId) delivery.draws.portalToken with
        stored | ⟨missing, drawn⟩
      · exact .inl stored.symm
      · rw [drawn]
        exact .inr ⟨missing, delivery.draws, rfl, rfl⟩
  | signedUp now draws =>
      rw [Option.bind_some, portalToken_demoRow]
      rcases portalTokenFor_cases (world.subscription accountId) draws.portalToken with
        stored | ⟨missing, drawn⟩
      · exact .inl stored.symm
      · rw [drawn]
        exact .inr ⟨missing, draws, rfl, rfl⟩
  | assigned | failed | canceled | suspended | markedCanceled =>
      left
      cases world.subscription accountId <;> rfl

/-- **Step lemma.**  A write keeps the tokens that are stored. -/
theorem portalToken_take_some {token : String} (drawn : world.TokensDrawn) (write : Write)
    (stored : world.portalToken accountId = some token) :
    (write.take env world).portalToken accountId = some token := by
  rcases portalToken_take env world accountId write with same | ⟨missing, _⟩
  · rw [same, stored]
  · rw [stored, Option.getD_some] at missing
    exact ((drawn accountId token stored).1 missing).elim

theorem tokensDrawn_take {write : Write} (drawn : world.TokensDrawn) (ascii : write.DrawsAscii) :
    (write.take env world).TokensDrawn := by
  intro accountId token stored
  rcases portalToken_take env world accountId write with same | ⟨_, draws, member, fresh⟩
  · rw [same] at stored
    exact drawn accountId token stored
  · rw [fresh] at stored
    cases stored
    exact ⟨draws.portalToken_ne, ascii draws member⟩

/-! ## What is handed out -/

theorem returns_issueCredentials (env : Env) (delivery : Delivery) (portalToken : String) :
    (issueCredentials env delivery portalToken).Returns fun result =>
      ∀ issued ∈ result, issued.accountId = delivery.event.accountId ∧
        issued.portalToken = portalToken := by
  unfold issueCredentials
  refine Prog.Returns.bind _ fun mobileApiKey => Prog.Returns.bind _ fun _ => ?_
  intro issued member
  cases member
  exact ⟨rfl, rfl⟩

/-- Only a first payment hands anything out. -/
theorem returns_applyEvent_none {delivery : Delivery}
    (other : delivery.event.eventType ≠ .paymentSucceeded) :
    (applyEvent env delivery).Returns fun result => result = none := by
  unfold applyEvent
  dsimp only
  split
  · rfl
  split
  next payment => exact (other payment).elim
  all_goals exact Prog.Returns.bind (Prog.commit _) fun _ => rfl

theorem returns_activate_none {row : Subscription} {delivery : Delivery} :
    (activate env delivery (some row)).Returns fun result => result = none :=
  Prog.Returns.bind (Prog.commit _) fun _ => rfl

/-- The token that `apply_event` returns is the one in the row. -/
theorem portalToken_applyEvent {delivery : Delivery} {issued : NewlyIssued} {after : World}
    (returned : (applyEvent env delivery).run world = (.ok (some issued), after)) :
    after.portalToken issued.accountId = some issued.portalToken := by
  by_cases anonymous : delivery.event.accountId = ""
  · simp only [applyEvent, anonymous, if_true, Prog.run_pure] at returned
    cases returned
  by_cases payment : delivery.event.eventType = .paymentSucceeded
  · rw [run_applyEvent_payment anonymous payment] at returned
    cases absent : world.subscription delivery.event.accountId with
    | none =>
        rw [absent] at returned
        have row := Effect.subscription_paid delivery.draws.portalToken
          (run_activate_inserts env delivery world).1
        rw [returned] at row
        have handed : issued.accountId = delivery.event.accountId ∧
            issued.portalToken = delivery.draws.portalToken :=
          (Prog.Returns.bind (Prog.modify _) fun _ =>
            returns_issueCredentials env delivery _).run (congrArg Prod.fst returned) issued rfl
        rw [handed.1, handed.2, portalToken_of_row row, portalToken_activeRow]
    | some row =>
        rw [absent] at returned
        have none := returns_activate_none.run (congrArg Prod.fst returned)
        cases none
  · have none := (returns_applyEvent_none payment).run (congrArg Prod.fst returned)
    cases none

/-- So is the token that `activate_demo` returns. -/
theorem portalToken_activateDemo {now : ℤ} {draws : Draws} {issued : DemoIssued} {after : World}
    (returned : (activateDemo env now draws accountId).run world = (.ok issued, after)) :
    issued.accountId = accountId ∧ after.portalToken accountId = some issued.portalToken := by
  have row : ((activateDemo env now draws accountId).run world).2.subscription accountId = _ :=
    subscription_activateDemo
  rw [returned, World.subscription_setSubscription] at row
  rw [run_activateDemo] at returned
  have handed : issued.accountId = accountId ∧ issued.portalToken =
      portalTokenFor (world.subscription accountId) draws.portalToken := by
    refine Prog.Returns.run (P := fun issued : DemoIssued => issued.accountId = accountId ∧
      issued.portalToken = _) (Prog.Returns.bind _ fun _ => ?_) (congrArg Prod.fst returned)
    exact ⟨rfl, rfl⟩
  rw [portalToken_of_row row, portalToken_demoRow, handed.2]
  exact ⟨handed.1, rfl⟩

/-! ## What is accepted -/

theorem run_verifyPortalToken {token : String} (drawn : world.TokensDrawn)
    (ascii : isAscii token = true) :
    (verifyPortalToken accountId token).run world =
      (.ok (decide (world.portalToken accountId = some token)), world) := by
  unfold verifyPortalToken
  rw [Prog.run_bind_ok (Prog.run_read _ _)]
  cases stored : world.portalToken accountId with
  | none => rfl
  | some text =>
      have both : (isAscii text && isAscii token) = true := by
        rw [(drawn accountId text stored).2, ascii]
        rfl
      simp only [compareDigest, both, if_true, Prog.run_ofExcept, Except.mapError,
        Option.some.injEq]

/-! ## Runs -/

/-- **Portal tokens are stable** in every run of the writers. -/
theorem portalTokens_stable {start : World} {writes : List Write} (drawn : start.TokensDrawn)
    (ascii : ∀ write ∈ writes, write.DrawsAscii) : PortalTokensStable env start writes := by
  have reached : ∀ early, early <+: writes → (exec (Write.take env) start early).TokensDrawn := by
    intro early within
    refine exec_inv_of_mem drawn fun write member world stored => ?_
    exact tokensDrawn_take stored (ascii write (within.subset member))
  refine ⟨?_, ?_, ?_, ?_⟩
  · intro early later held
    rcases held with ⟨more, rfl⟩
    intro within accountId token stored
    have drawnThere := reached early ((List.prefix_append early more).trans within)
    rw [exec_append]
    refine (exec_inv_of_mem (I := fun world : World => world.TokensDrawn ∧
      world.portalToken accountId = some token) ⟨drawnThere, stored⟩ ?_).2
    intro write member world kept
    refine ⟨?_, portalToken_take_some kept.1 write kept.2⟩
    exact tokensDrawn_take kept.1 (ascii write (within.subset (List.mem_append_right _ member)))
  · exact fun early delivery within issued after returned => portalToken_applyEvent returned
  · exact fun early now draws accountId within issued after returned =>
      portalToken_activateDemo returned
  · exact fun early within accountId token text => run_verifyPortalToken (reached early within) text

/-- A demo, its payment, and a renewal with an edit of the plan in between. -/
def renewedWrites : List Write :=
  [.activateDemo 0 (sampleDraws 1) "acc",
    .applyEvent ⟨sampleEvent .paymentSucceeded "e1", 1, sampleDraws 2⟩,
    .setTenantPlan 2 ⟨none, true, none, none, false, none, none⟩ ⟨"acc", "pro", none⟩,
    .applyEvent ⟨sampleEvent .paymentSucceeded "e2", 3, sampleDraws 3⟩]

theorem portalTokens_stable_renewed : PortalTokensStable sampleEnv .empty renewedWrites :=
  portalTokens_stable nofun (by decide)

end Tokens

end Aegis.Subscriptions
