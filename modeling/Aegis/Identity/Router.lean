import Aegis.Identity.Service

/-!
# The two-factor endpoints

`totp_setup`, `totp_enable` and `totp_disable` of `auth_router.py`.  Each resolves the session
and then calls its method, in two transactions; `guarantees_totpSetup` and its like say that
nothing is written but what the method commits.
-/

namespace Aegis.Identity

open Aegis.Lib

/-- How an endpoint can end other than with its answer. -/
inductive RouteError where
  | httpException (statusCode : ℕ) (detail : String)
  | auth (error : AuthError)
  deriving DecidableEq

variable (env : AuthEnv)

/-- `_bearer`. -/
def bearer (authorization : Option String) : Except RouteError String :=
  match authorization.filter fun text => "bearer ".toList.isPrefixOf (env.lower text).toList with
  | none => .error (.httpException 401 "Bearer session token required")
  | some text => .ok (strip (String.ofList ((text.toList.dropWhile (· ≠ ' ')).drop 1)))

/-- The call of a method, in a transaction of its own. -/
def Method.call {α : Type} (method : Method α) : Prog RouteError Accounts α :=
  Prog.transact fun accounts => (method accounts).mapError .auth

/-- The user of the session that the header names. -/
def currentUser (now : ℤ) (authorization : Option String) :
    Prog RouteError Accounts UserAccount := do
  let token ← Prog.ofExcept (bearer env authorization)
  let found ← Prog.read (resolveSession env now token)
  match ← Prog.ofExcept (found.mapError .auth) with
  | none => Prog.raise (.httpException 401 "Invalid session")
  | some user => return user

/-- The readings of the clock are those of `resolve_session` and of the method. -/
def totpSetup (resolvedAt now : ℤ) (secret : String) (authorization : Option String) :
    Prog RouteError Accounts TotpAnswer := do
  let user ← currentUser env resolvedAt authorization
  (setup2fa now secret user.id).call

def totpEnable (resolvedAt clock now : ℤ) (authorization : Option String) (code : String) :
    Prog RouteError Accounts Unit := do
  let user ← currentUser env resolvedAt authorization
  let ok ← (enable2fa env clock now user.id code).call
  if !ok then Prog.raise (.httpException 400 "Invalid code")

def totpDisable (resolvedAt clock now : ℤ) (authorization : Option String)
    (password code : String) : Prog RouteError Accounts Unit := do
  let user ← currentUser env resolvedAt authorization
  let ok ← (disable2fa env clock now user.id password code).call
  if !ok then Prog.raise (.httpException 400 "Could not disable 2FA")

section Frame

variable {env} {R : Accounts → Accounts → Prop}

theorem guarantees_currentUser (refl : ∀ accounts, R accounts accounts) (now : ℤ)
    (authorization : Option String) : (currentUser env now authorization).Guarantees R := by
  unfold currentUser
  refine .bind (Prog.guarantees_ofExcept _) fun token => ?_
  refine .bind (Prog.guarantees_read refl _) fun found => ?_
  refine .bind (Prog.guarantees_ofExcept _) fun user => ?_
  cases user <;> trivial

theorem guarantees_call {α : Type} {method : Method α} (refl : ∀ accounts, R accounts accounts)
    (step : ∀ accounts, R accounts (method.after accounts)) : method.call.Guarantees R := by
  refine Prog.guarantees_transact refl fun accounts a after done => ?_
  have own := step accounts
  unfold Method.after at own
  cases outcome : method accounts with
  | error e =>
      rw [outcome] at done
      cases done
  | ok result =>
      rw [outcome] at done own
      cases done
      exact own

theorem guarantees_totpSetup (resolvedAt now : ℤ) (secret : String)
    (authorization : Option String) :
    (totpSetup env resolvedAt now secret authorization).Guarantees fun before after =>
      after = before ∨ ∃ userId, after = step env before (.setup2fa now secret userId) := by
  refine .bind (guarantees_currentUser (fun _ => .inl rfl) resolvedAt authorization) fun user => ?_
  exact guarantees_call (fun _ => .inl rfl) fun _ => .inr ⟨user.id, rfl⟩

theorem guarantees_totpEnable (resolvedAt clock now : ℤ) (authorization : Option String)
    (code : String) :
    (totpEnable env resolvedAt clock now authorization code).Guarantees fun before after =>
      after = before ∨ ∃ userId, after = step env before (.enable2fa clock now userId code) := by
  refine .bind (guarantees_currentUser (fun _ => .inl rfl) resolvedAt authorization) fun user => ?_
  refine .bind (guarantees_call (fun _ => .inl rfl) fun _ => .inr ⟨user.id, rfl⟩) fun ok => ?_
  cases ok <;> trivial

theorem guarantees_totpDisable (resolvedAt clock now : ℤ) (authorization : Option String)
    (password code : String) :
    (totpDisable env resolvedAt clock now authorization password code).Guarantees
      fun before after => after = before ∨
        ∃ userId, after = step env before (.disable2fa clock now userId password code) := by
  refine .bind (guarantees_currentUser (fun _ => .inl rfl) resolvedAt authorization) fun user => ?_
  refine .bind (guarantees_call (fun _ => .inl rfl) fun _ => .inr ⟨user.id, rfl⟩) fun ok => ?_
  cases ok <;> trivial

end Frame

end Aegis.Identity
