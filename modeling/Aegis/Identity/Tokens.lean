import Aegis.Lib.Run
import Aegis.Identity.Effects

/-!
# The tokens

Tokens of three purposes are rows of one table.  A row is inserted unused by the call that
issues the token and is marked by the call that accepts it; `Issues` says what each call
inserts, and `Traced` that every row has come so.
-/

namespace Aegis.Identity

open Aegis.Lib Aegis.Subscriptions

variable (env : AuthEnv)

/-- What the call inserts into `auth_tokens`. -/
inductive Issues (accounts : Accounts) : Call → AuthToken → Prop where
  | emailVerify {call : Call} {userId : ℕ} {email verifyRaw : String} {now : ℤ}
      (registers : Registers env accounts call userId verifyRaw now) :
      Issues accounts call ⟨some userId, some email, none, "email_verify",
        env.hashToken verifyRaw, now + hours tokenHours, false, now⟩
  | passwordReset {now : ℤ} {raw email : String} {user : UserAccount}
      (known : accounts.userByEmail (normalizeEmail env email) = .ok (some user)) :
      Issues accounts (.requestPasswordReset now raw email)
        ⟨some user.id, some (normalizeEmail env email), none, "password_reset",
          env.hashToken raw, now + hours tokenHours, false, now⟩
  | phoneOtp {now : ℤ} {code phone : String} :
      Issues accounts (.requestPhoneOtp now code phone)
        ⟨none, none, some (strip phone), "phone_otp", env.hashToken code,
          now + minutes otpMinutes, false, now⟩

/-- What a call can do to the tokens. -/
inductive TokensMove (accounts : Accounts) (call : Call) (after : Accounts) : Prop where
  | stay (refuses : ¬ accounts.Grants env call) (tokens : after.tokens = accounts.tokens)
  | issue {row : AuthToken} (issues : Issues env accounts call row)
      (tokens : after.tokens = accounts.tokens ++ [row])
  | use {row : AuthToken} (found : accounts.tokens.filter (call.wanted env) = [row])
      (grants : accounts.Grants env call)
      (tokens : after.tokens = accounts.tokens.map fun row =>
        if call.wanted env row then { row with used := true } else row)

/-- The call has accepted the `k`-th row. -/
def Accepts (accounts : Accounts) (call : Call) (k : ℕ) : Prop :=
  accounts.Grants env call ∧ ∃ row, accounts.tokens[k]? = some row ∧ call.wanted env row = true

/-- No row is accepted by two calls of the run. -/
def AcceptedOnce (calls : List Call) : Prop :=
  ∀ k early call late early' call' late', calls = early ++ call :: late →
    calls = early' ++ call' :: late' →
    Accepts env (exec (step env) .empty early) call k →
    Accepts env (exec (step env) .empty early') call' k → early = early'

/-- Each row was inserted by a call of the run, and has been marked since or not. -/
def Traced (calls : List Call) (accounts : Accounts) : Prop :=
  ∀ row ∈ accounts.tokens, ∃ found call issued,
    Occurs (step env) .empty calls found call ∧ Issues env found call issued ∧
      row = { issued with used := row.used }

section Moves

variable {env} {accounts after : Accounts} {call : Call} {row : AuthToken} {k : ℕ}

theorem wanted_unused (wanted : call.wanted env row = true) : row.used = false := by
  cases call with
  | verifyEmail now token => exact (of_decide_eq_true wanted).2.2
  | resetPassword now salt token newPassword => exact (of_decide_eq_true wanted).2.2
  | verifyPhoneOtp now phone code email =>
      exact (of_decide_eq_true (of_decide_eq_true wanted).1).2.2
  | register | login | logout | logoutAll | requestPasswordReset | requestPhoneOtp | setup2fa
  | enable2fa | disable2fa => cases wanted

theorem Issues.unused (issues : Issues env accounts call row) : row.used = false := by
  cases issues <;> rfl

/-- **One call.** -/
theorem Effect.tokens (effect : Effect env accounts call after) :
    TokensMove env accounts call after := by
  cases effect with
  | nothing refuses => exact .stay refuses rfl
  | registered inRange inserted returned => exact .issue (.emailVerify returned) rfl
  | emailTokenUsed found inTime owner accepted => exact .use found accepted rfl
  | emailVerified found inTime owner accepted => exact .use found accepted rfl
  | resetRequested known => exact .issue (.passwordReset known) rfl
  | passwordReset found inTime owner known accepted => exact .use found accepted rfl
  | otpRequested => exact .issue .phoneOtp rfl
  | otpUsed found inTime accepted => exact .use found accepted rfl
  | phoneVerified found inTime known accepted => exact .use found accepted rfl
  | loggedIn | loggedOut | loggedOutAll | totpSetUp | totpEnabled | totpDisabled =>
      exact .stay id rfl

/-! ## Once -/

/-- A row that is used stays used. -/
theorem TokensMove.used (move : TokensMove env accounts call after)
    (used : accounts.tokens[k]?.any (·.used) = true) : after.tokens[k]?.any (·.used) = true := by
  obtain ⟨row, stored, own⟩ := (Option.any_eq_true _ _).mp used
  cases move with
  | stay refuses tokens => rwa [tokens]
  | issue issues tokens =>
      obtain ⟨inside, _⟩ := List.getElem?_eq_some_iff.mp stored
      rwa [tokens, List.getElem?_append_left inside]
  | use found grants tokens =>
      rw [tokens, List.getElem?_map, stored]
      simp only [Option.map_some, Option.any_some]
      split
      · rfl
      · exact own

/-- The row that a call accepts was not used, and is from then on. -/
theorem Accepts.spends (accepts : Accepts env accounts call k) :
    accounts.tokens[k]?.any (·.used) = false ∧
      (step env accounts call).tokens[k]?.any (·.used) = true := by
  obtain ⟨grants, row, stored, wanted⟩ := accepts
  constructor
  · rw [stored, Option.any_some]
    exact wanted_unused wanted
  · cases (effect_step accounts call).tokens with
    | stay refuses tokens => exact absurd grants refuses
    | issue issues tokens =>
        cases issues with
        | emailVerify registers =>
            obtain ⟨_, _, _, _, _, _, _, _, rfl, _⟩ := registers
            exact grants.elim
        | passwordReset known => exact grants.elim
        | phoneOtp => exact grants.elim
    | use found grants tokens =>
        rw [tokens, List.getElem?_map, stored]
        simp only [Option.map_some, Option.any_some, wanted, if_true]

theorem used_exec (used : accounts.tokens[k]?.any (·.used) = true) (calls : List Call) :
    (exec (step env) accounts calls).tokens[k]?.any (·.used) = true := by
  induction calls generalizing accounts with
  | nil => exact used
  | cons call rest ih => exact ih ((effect_step accounts call).tokens.used used)

/-- A row that has been accepted is not accepted later. -/
theorem Accepts.not_later (accepts : Accepts env accounts call k) (middle : List Call)
    {later : Call} : ¬ Accepts env (exec (step env) accounts (call :: middle)) later k := by
  intro again
  have spent : (exec (step env) accounts (call :: middle)).tokens[k]?.any (·.used) = true :=
    used_exec accepts.spends.2 middle
  have unspent := again.spends.1
  rw [spent] at unspent
  cases unspent

theorem acceptedOnce (calls : List Call) : AcceptedOnce env calls := by
  intro k early call late early' call' late' same
  rcases same with rfl
  intro same accepts accepts'
  rcases List.append_eq_append_iff.mp same with ⟨middle, rfl, tail⟩ | ⟨middle, rfl, tail⟩
  · cases middle with
    | nil => exact (List.append_nil early).symm
    | cons first rest =>
        cases tail
        rw [exec_append] at accepts'
        exact absurd accepts' (accepts.not_later rest)
  · cases middle with
    | nil => exact List.append_nil early'
    | cons first rest =>
        cases tail
        rw [exec_append] at accepts
        exact absurd accepts (accepts'.not_later rest)

/-! ## Where a token comes from -/

theorem TokensMove.traced {calls : List Call} (move : TokensMove env
      (exec (step env) .empty calls) call after)
    (traced : Traced env calls (exec (step env) .empty calls)) :
    Traced env (calls ++ [call]) after := by
  intro row member
  have before (row : AuthToken) (old : row ∈ (exec (step env) .empty calls).tokens) :
      ∃ found call' issued, Occurs (step env) .empty (calls ++ [call]) found call' ∧
        Issues env found call' issued ∧ row = { issued with used := row.used } := by
    obtain ⟨found, call', issued, occurs, issues, same⟩ := traced row old
    exact ⟨found, call', issued, occurs.append _, issues, same⟩
  cases move with
  | stay refuses tokens => exact before row (tokens ▸ member)
  | @issue fresh issues tokens =>
      rw [tokens] at member
      rcases List.mem_append.mp member with old | new
      · exact before row old
      · cases List.mem_singleton.mp new
        refine ⟨_, call, row, occurs_last calls call, issues, ?_⟩
        rfl
  | use found grants tokens =>
      rw [tokens] at member
      obtain ⟨old, among, rfl⟩ := List.mem_map.mp member
      obtain ⟨found, call', issued, occurs, issues, same⟩ := before old among
      refine ⟨found, call', issued, occurs, issues, ?_⟩
      split
      · rw [same]
      · exact same

theorem traced_exec (env : AuthEnv) (calls : List Call) :
    Traced env calls (exec (step env) .empty calls) := by
  refine exec_induction (Traced env) ?_ ?_ calls
  · exact fun row absent => absurd absent List.not_mem_nil
  · exact fun early call traced => (effect_step _ call).tokens.traced traced

end Moves

end Aegis.Identity
