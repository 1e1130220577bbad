import Aegis.Api.Portal

/-!
# The mobile key of the portal

`POST /api/portal/mobile-key` is there to leave an account with one good key, the one that it
returns.  `mobileKeyLawful_iff` says for which requests it keeps its law.
-/

namespace Aegis.Api

open Aegis.Lib Aegis.Payments Aegis.Subscriptions

/-- The keys of the account that have not been revoked, but for those of admins. -/
def liveKeys (accountId : String) (world : World) : List ApiKey :=
  world.apiKeys.filter fun row => row.accountId = some accountId ∧ !row.isAdmin ∧ !row.revoked

/-- The request is refused for what is wrong with it, and no key is touched. -/
structure RefusedForCause (now : ℤ) (accountId token : String) (world : World)
    (outcome : Except Failure MobileKeyIssued) (after : World) : Prop where
  cause : ∃ statusCode detail, outcome = .error (.httpException statusCode detail) ∧
    (statusCode = 401 ∧ world.portalToken accountId ≠ some token ∨
      statusCode = 404 ∧ world.subscription accountId = none ∨
        statusCode = 402 ∧ world.isActive now accountId = false)
  keys : after.apiKeys = world.apiKeys

/-- The account is left with the key that is returned. -/
structure IssuedAlone (env : Env) (now : ℤ) (accountId token : String) (world : World)
    (outcome : Except Failure MobileKeyIssued) (after : World) : Prop where
  entitled : world.portalToken accountId = some token ∧ world.isActive now accountId = true
  alone : ∃ issued row, outcome = .ok issued ∧ issued.accountId = accountId ∧
    liveKeys accountId after = [row] ∧ row.keyHash = env.hashKey issued.mobileApiKey
  others : ∀ row : ApiKey, row.isAdmin = true ∨ row.accountId ≠ some accountId →
    (row ∈ after.apiKeys ↔ row ∈ world.apiKeys)

/-- The request is answered as it should be. -/
def MobileKeyLawful (env : Env) (now : ℤ) (rawKey accountId token : String)
    (world : World) : Prop :=
  let ended := (portalIssueMobileKey env now rawKey accountId token).run world
  RefusedForCause now accountId token world ended.1 ended.2 ∨
    IssuedAlone env now accountId token world ended.1 ended.2

section Outcomes

variable {env : Env} {now : ℤ} {rawKey accountId token stored : String} {world : World}

/-- Every case of `verify_portal_token`. -/
theorem run_verifyPortalToken_cases (world : World) (accountId token : String) :
    (verifyPortalToken accountId token).run world =
      (match world.portalToken accountId with
        | none => .ok false
        | some stored => (compareDigest stored token).mapError .python, world) := by
  unfold verifyPortalToken
  rw [Prog.run_bind_ok (Prog.run_read _ _)]
  cases world.portalToken accountId <;> rfl

/-- A token that is not the account's. -/
theorem run_portalIssueMobileKey_unverified
    (unverified : (verifyPortalToken accountId token).run world = (.ok false, world)) :
    (portalIssueMobileKey env now rawKey accountId token).run world =
      (.error (.httpException 401 "Invalid account ID or portal token."), world) := by
  have refused : (authenticatePortal now accountId token).run world =
      (.error (.httpException 401 "Invalid account ID or portal token."), world) := by
    unfold authenticatePortal
    rw [Prog.run_bind_ok unverified]
    rfl
  exact Prog.run_bind_error refused

/-- A token that cannot be compared. -/
theorem run_portalIssueMobileKey_raised {e : Failure}
    (raised : (verifyPortalToken accountId token).run world = (.error e, world)) :
    (portalIssueMobileKey env now rawKey accountId token).run world = (.error e, world) :=
  Prog.run_bind_error (Prog.run_bind_error raised)

/-- An account that is active gets no further than the `import`. -/
theorem run_portalIssueMobileKey_active {row : Subscription}
    (verified : (verifyPortalToken accountId token).run world = (.ok true, world))
    (present : world.subscription accountId = some row)
    (active : world.isActive now accountId = true) :
    (portalIssueMobileKey env now rawKey accountId token).run world =
      (.error .importError, world) := by
  unfold portalIssueMobileKey
  rw [Prog.run_bind_ok (run_authenticatePortal verified present), active]
  rfl

theorem subscription_of_portalToken (held : world.portalToken accountId = some stored) :
    ∃ row, world.subscription accountId = some row := by
  obtain ⟨row, present, _⟩ := Option.bind_eq_some_iff.mp held
  exact ⟨row, present⟩

/-- What is raised by something else than the law knows of breaks it. -/
theorem not_mobileKeyLawful {e : Failure} (other : ∀ statusCode detail,
      e ≠ .httpException statusCode detail)
    (raised : (portalIssueMobileKey env now rawKey accountId token).run world = (.error e, world)) :
    ¬ MobileKeyLawful env now rawKey accountId token world := by
  intro lawful
  unfold MobileKeyLawful at lawful
  rw [raised] at lawful
  rcases lawful with refused | issued
  · obtain ⟨statusCode, detail, same, _⟩ := refused.cause
    exact other statusCode detail (Except.error.inj same)
  · obtain ⟨_, _, same, _⟩ := issued.alone
    cases same

theorem mobileKeyLawful_of_refused {statusCode : ℕ} {detail : String}
    (refused : (portalIssueMobileKey env now rawKey accountId token).run world =
      (.error (.httpException statusCode detail), world))
    (cause : statusCode = 401 ∧ world.portalToken accountId ≠ some token ∨
      statusCode = 404 ∧ world.subscription accountId = none ∨
        statusCode = 402 ∧ world.isActive now accountId = false) :
    MobileKeyLawful env now rawKey accountId token world := by
  left
  rw [refused]
  exact ⟨⟨statusCode, detail, rfl, cause⟩, rfl⟩

theorem mobileKeyLawful_of_none (held : world.portalToken accountId = none) :
    MobileKeyLawful env now rawKey accountId token world := by
  have verification := run_verifyPortalToken_cases world accountId token
  rw [held] at verification
  refine mobileKeyLawful_of_refused (run_portalIssueMobileKey_unverified verification)
    (.inl ⟨rfl, ?_⟩)
  rw [held]
  exact Option.some_ne_none token ∘ Eq.symm

/-- Between texts that can be compared the law is kept until the account is served. -/
theorem mobileKeyLawful_iff_of_comparable (held : world.portalToken accountId = some stored)
    (texts : (isAscii stored && isAscii token) = true) :
    MobileKeyLawful env now rawKey accountId token world ↔
      (stored = token → world.isActive now accountId = false) := by
  have verification := run_verifyPortalToken_cases world accountId token
  obtain ⟨row, present⟩ := subscription_of_portalToken held
  rw [held] at verification
  simp only [compareDigest, texts, if_true, Except.mapError] at verification
  by_cases same : stored = token
  · rw [decide_eq_true same] at verification
    rw [forall_prop_of_true same]
    cases active : world.isActive now accountId with
    | true =>
        refine iff_of_false ?_ Bool.noConfusion
        exact not_mobileKeyLawful (fun _ _ same => by cases same)
          (run_portalIssueMobileKey_active verification present active)
    | false =>
        refine iff_of_true ?_ rfl
        exact mobileKeyLawful_of_refused
          (run_portalIssueMobileKey_inactive verification present active)
          (.inr (.inr ⟨rfl, active⟩))
  · rw [decide_eq_false same] at verification
    refine iff_of_true ?_ fun equal => (same equal).elim
    refine mobileKeyLawful_of_refused (run_portalIssueMobileKey_unverified verification)
      (.inl ⟨rfl, ?_⟩)
    rw [held]
    exact fun equal => same (Option.some.inj equal)

/-- A text that cannot be compared raises. -/
theorem not_mobileKeyLawful_of_incomparable (held : world.portalToken accountId = some stored)
    (texts : ¬ (isAscii stored && isAscii token) = true) :
    ¬ MobileKeyLawful env now rawKey accountId token world := by
  have verification := run_verifyPortalToken_cases world accountId token
  rw [held] at verification
  simp only [compareDigest, texts, Except.mapError] at verification
  exact not_mobileKeyLawful (fun _ _ same => by cases same)
    (run_portalIssueMobileKey_raised verification)

end Outcomes

/-- **The mobile key.**  The law is kept exactly when the account has no portal token, or the two
texts can be compared and the subscription is not active if they are equal. -/
theorem mobileKeyLawful_iff (env : Env) (now : ℤ) (rawKey accountId token : String)
    (world : World) :
    MobileKeyLawful env now rawKey accountId token world ↔
      ∀ stored, world.portalToken accountId = some stored →
        isAscii stored = true ∧ isAscii token = true ∧
          (stored = token → world.isActive now accountId = false) := by
  cases held : world.portalToken accountId with
  | none =>
      exact iff_of_true (mobileKeyLawful_of_none held) fun stored found => by cases found
  | some stored =>
      simp only [Option.some.injEq, forall_eq']
      by_cases texts : (isAscii stored && isAscii token) = true
      · obtain ⟨storedAscii, tokenAscii⟩ := Bool.and_eq_true_iff.mp texts
        rw [mobileKeyLawful_iff_of_comparable held texts, and_iff_right storedAscii,
          and_iff_right tokenAscii]
      · refine iff_of_false (not_mobileKeyLawful_of_incomparable held texts) fun calm => texts ?_
        rw [calm.1, calm.2.1]
        rfl

/-- A subscriber who has just signed up asks for her key. -/
theorem not_mobileKeyLawful_signedUp :
    ¬ MobileKeyLawful sampleEnv 1 "key" "acc" (sampleDraws 1).portalToken
      ((activateDemo sampleEnv 0 (sampleDraws 1) "acc").run .empty).2 :=
  not_mobileKeyLawful (e := .importError) (fun _ _ same => by cases same) rfl

end Aegis.Api
