import Aegis.Identity.Sessions
import Aegis.Identity.Tokens

/-!
# Verified addresses

A flag of `user_accounts` says that an address was verified: `EmailProved` and `PhoneProved`
say what has then happened in the run.
-/

namespace Aegis.Identity

open Aegis.Lib Aegis.Subscriptions

variable (env : AuthEnv)

/-- The token that was issued at the user's registration has been presented in time. -/
def EmailProved (calls : List Call) (userId : ℕ) : Prop :=
  ∃ found call verifyRaw issuedAt, Occurs (step env) .empty calls found call ∧
    Registers env found call userId verifyRaw issuedAt ∧
    ∃ later now, Occurs (step env) .empty calls later (.verifyEmail now verifyRaw) ∧
      later.Grants env (.verifyEmail now verifyRaw) ∧ now ≤ issuedAt + hours tokenHours

/-- A code that was issued for the number has been presented in time, with the user's e-mail
address. -/
def PhoneProved (calls : List Call) (email number : String) : Prop :=
  ∃ found code issuedAt requested,
    Occurs (step env) .empty calls found (.requestPhoneOtp issuedAt code requested) ∧
      strip requested = number ∧
    ∃ later now phone presented given,
      Occurs (step env) .empty calls later (.verifyPhoneOtp now phone presented (some given)) ∧
        later.Grants env (.verifyPhoneOtp now phone presented (some given)) ∧
        strip phone = number ∧ strip presented = code ∧ normalizeEmail env given = email ∧
        now ≤ issuedAt + minutes otpMinutes

/-- The flags are justified by the run. -/
structure Justified (calls : List Call) (accounts : Accounts) : Prop where
  email : ∀ user ∈ accounts.users, user.emailVerified = true → EmailProved env calls user.id
  phone : ∀ user ∈ accounts.users, user.phoneVerified = true →
    ∃ number, user.phone = some number ∧ PhoneProved env calls user.email number

section Steps

variable {env} {calls more : List Call} {accounts after : Accounts} {user : UserAccount}

theorem EmailProved.append {userId : ℕ} (proved : EmailProved env calls userId)
    (more : List Call) : EmailProved env (calls ++ more) userId := by
  obtain ⟨found, call, verifyRaw, issuedAt, occurs, registers, later, now, occursLater, rest⟩ :=
    proved
  exact ⟨found, call, verifyRaw, issuedAt, occurs.append more, registers, later, now,
    occursLater.append more, rest⟩

theorem PhoneProved.append {email number : String} (proved : PhoneProved env calls email number)
    (more : List Call) : PhoneProved env (calls ++ more) email number := by
  obtain ⟨found, code, issuedAt, requested, occurs, own, later, now, phone, presented, given,
    occursLater, rest⟩ := proved
  exact ⟨found, code, issuedAt, requested, occurs.append more, own, later, now, phone, presented,
    given, occursLater.append more, rest⟩

theorem Justified.append (justified : Justified env calls accounts) (more : List Call) :
    Justified env (calls ++ more) accounts where
  email user member verified := (justified.email user member verified).append more
  phone user member verified := by
    obtain ⟨number, own, proved⟩ := justified.phone user member verified
    exact ⟨number, own, proved.append more⟩

/-- Users who are all as before, but for columns that the flags do not concern. -/
theorem Justified.of_users (justified : Justified env calls accounts)
    (users : ∀ later ∈ after.users, (∃ old ∈ accounts.users, later.id = old.id ∧
      later.email = old.email ∧ later.phone = old.phone ∧
      later.emailVerified = old.emailVerified ∧ later.phoneVerified = old.phoneVerified) ∨
      later.emailVerified = false ∧ later.phoneVerified = false) :
    Justified env calls after where
  email later present verified := by
    rcases users later present with ⟨old, member, id, _, _, flag, _⟩ | ⟨flag, _⟩
    · exact id ▸ justified.email old member (flag ▸ verified)
    · cases flag.symm.trans verified
  phone later present verified := by
    rcases users later present with ⟨old, member, _, email, phone, _, flag⟩ | ⟨_, flag⟩
    · rw [email, phone]
      exact justified.phone old member (flag ▸ verified)
    · cases flag.symm.trans verified

/-- An update of one user. -/
theorem mem_updated {later : UserAccount} {userId : ℕ} {change : UserAccount → UserAccount}
    (present : later ∈ after.users)
    (users : after.users = accounts.users.map fun row =>
      if row.id = userId then change row else row) :
    ∃ old ∈ accounts.users, later = if old.id = userId then change old else old := by
  rw [users] at present
  obtain ⟨old, member, same⟩ := List.mem_map.mp present
  exact ⟨old, member, same.symm⟩

/-- An update of one user whose flags are justified after it. -/
theorem Justified.of_updated {userId : ℕ} {change : UserAccount → UserAccount}
    (justified : Justified env calls accounts)
    (users : after.users = accounts.users.map fun row =>
      if row.id = userId then change row else row)
    (email : ∀ row ∈ accounts.users, row.id = userId → (change row).emailVerified = true →
      EmailProved env calls (change row).id)
    (phone : ∀ row ∈ accounts.users, row.id = userId → (change row).phoneVerified = true →
      ∃ number, (change row).phone = some number ∧
        PhoneProved env calls (change row).email number) : Justified env calls after := by
  constructor
  · intro later present
    obtain ⟨old, member, rfl⟩ := mem_updated present users
    split
    next own => exact email old member own
    · exact justified.email old member
  · intro later present
    obtain ⟨old, member, rfl⟩ := mem_updated present users
    split
    next own => exact phone old member own
    · exact justified.phone old member

/-- The token of a link that is accepted was issued at the registration of its user. -/
theorem emailProved_of_found {now : ℤ} {token : String} {row : AuthToken} {userId : ℕ}
    (injective : Function.Injective env.hashToken)
    (utc : ∀ stored, (env.driver.read stored).wall = stored)
    (traced : Traced env calls (exec (step env) .empty calls))
    (found : (exec (step env) .empty calls).tokens.filter
      (AuthToken.wanted env token "email_verify") = [row])
    (inTime : env.InTimeAsUtc row.expiresAt now) (owner : row.userId = some userId)
    (grants : (exec (step env) .empty calls).Grants env (.verifyEmail now token)) :
    EmailProved env (calls ++ [.verifyEmail now token]) userId := by
  obtain ⟨member, wanted⟩ := of_filter_eq_singleton found
  obtain ⟨hash, purpose, _⟩ := of_decide_eq_true wanted
  obtain ⟨at_, call, issued, occurs, issues, same⟩ := traced row member
  rw [same] at hash purpose owner inTime
  cases issues with
  | @emailVerify _ holder _ verifyRaw issuedAt registers =>
      cases owner
      cases injective hash
      refine ⟨at_, call, token, issuedAt, occurs.append _, registers, _, now,
        occurs_last calls _, grants, ?_⟩
      unfold AuthEnv.InTimeAsUtc DateTime.inUtc DateTime.Before at inTime
      dsimp only [Option.getD_some] at inTime
      rw [utc, sub_zero, not_lt] at inTime
      exact inTime
  | passwordReset known =>
      have other : "password_reset" = "email_verify" := purpose
      exact absurd other (by decide)
  | phoneOtp =>
      have other : "phone_otp" = "email_verify" := purpose
      exact absurd other (by decide)

/-- A code that is accepted was issued for the number that it is presented with. -/
theorem phoneProved_of_found {now : ℤ} {phone presented given : String} {row : AuthToken}
    (injective : Function.Injective env.hashToken)
    (traced : Traced env calls (exec (step env) .empty calls))
    (found : (exec (step env) .empty calls).tokens.filter (fun row =>
      row.wanted env (strip presented) "phone_otp" ∧ row.phone = some (strip phone)) = [row])
    (inTime : now ≤ row.expiresAt)
    (grants : (exec (step env) .empty calls).Grants env
      (.verifyPhoneOtp now phone presented (some given))) :
    PhoneProved env (calls ++ [.verifyPhoneOtp now phone presented (some given)])
      (normalizeEmail env given) (strip phone) := by
  obtain ⟨member, wanted⟩ := of_filter_eq_singleton found
  obtain ⟨asked, number⟩ := of_decide_eq_true wanted
  obtain ⟨hash, purpose, _⟩ := of_decide_eq_true asked
  obtain ⟨at_, call, issued, occurs, issues, same⟩ := traced row member
  rw [same] at hash purpose number inTime
  cases issues with
  | emailVerify registers =>
      have other : "email_verify" = "phone_otp" := purpose
      exact absurd other (by decide)
  | passwordReset known =>
      have other : "password_reset" = "phone_otp" := purpose
      exact absurd other (by decide)
  | @phoneOtp issuedAt code requested =>
      exact ⟨at_, code, issuedAt, requested, occurs.append _, Option.some.inj number, _, now, phone,
        presented, given, occurs_last calls _, grants, rfl, (injective hash).symm, rfl, inTime⟩

/-- **One call** keeps the flags justified. -/
theorem Effect.justified {call : Call} (injective : Function.Injective env.hashToken)
    (utc : ∀ stored, (env.driver.read stored).wall = stored)
    (effect : Effect env (exec (step env) .empty calls) call after)
    (numbered : (exec (step env) .empty calls).Numbered)
    (justified : Justified env calls (exec (step env) .empty calls)) :
    Justified env (calls ++ [call]) after := by
  have traced := traced_exec env calls
  have before := justified.append [call]
  cases effect with
  | nothing | emailTokenUsed | loggedOut | loggedOutAll | resetRequested | otpRequested
  | otpUsed =>
      exact before.of_users fun later present => .inl ⟨later, present, rfl, rfl, rfl, rfl, rfl⟩
  | registered inRange inserted returned =>
      refine before.of_users fun later present => ?_
      rcases List.mem_append.mp present with old | new
      · exact .inl ⟨later, old, rfl, rfl, rfl, rfl, rfl⟩
      · rw [List.mem_singleton.mp new]
        exact .inr ⟨inserted.emailVerified, inserted.phoneVerified⟩
  | loggedIn | passwordReset | totpSetUp | totpEnabled | totpDisabled =>
      refine before.of_users fun later present => ?_
      obtain ⟨old, member, rfl⟩ := mem_updated present rfl
      refine .inl ⟨old, member, ?_⟩
      split <;> exact ⟨rfl, rfl, rfl, rfl, rfl⟩
  | @emailVerified now token row userId found inTime owner accepted =>
      have proved := emailProved_of_found injective utc traced found inTime owner accepted
      refine before.of_updated rfl (fun row member own _ => ?_) fun row member _ => ?_
      · exact own ▸ proved
      · exact before.phone row member
  | @phoneVerified now phone code given row user found inTime known accepted =>
      have proved := phoneProved_of_found injective traced found inTime accepted
      obtain ⟨among, address⟩ := userByEmail_eq_ok known
      refine before.of_updated rfl (fun row member _ => ?_) fun row member own _ => ?_
      · exact before.email row member
      · cases List.inj_on_of_nodup_map numbered.ids member among own
        exact ⟨strip phone, rfl, address ▸ proved⟩

end Steps

/-- **Verified flags.**  In every state reached, the flags of the users are justified by what
was issued and presented before, and no token has been accepted twice. -/
theorem flags_justified (env : AuthEnv) (injective : Function.Injective env.hashToken)
    (utc : ∀ stored, (env.driver.read stored).wall = stored) (calls : List Call) :
    Justified env calls (exec (step env) .empty calls) ∧ AcceptedOnce env calls := by
  refine ⟨?_, acceptedOnce calls⟩
  have numbered (early : List Call) : (exec (step env) .empty early).Numbered :=
    exec_inv numbered_empty numbered_step early
  refine exec_induction (Justified env) ?_ ?_ calls
  · constructor
    · exact fun user absent => absurd absent List.not_mem_nil
    · exact fun user absent => absurd absent List.not_mem_nil
  · exact fun early call justified =>
      (effect_step _ call).justified injective utc (numbered early) justified

/-- A user verifies the address, and then a number. -/
def verifiedUser : List Call :=
  [.register 0 "0" "salt" "verify" "a@b.c" "password" none none, .verifyEmail 5 "verify",
    .requestPhoneOtp 10 "123456" " 555", .verifyPhoneOtp 20 "555 " "123456" (some "a@b.c")]

theorem flags_justified_verifiedUser :
    EmailProved plainEnv verifiedUser 1 ∧ PhoneProved plainEnv verifiedUser "a@b.c" "555" := by
  have flags := (flags_justified plainEnv (fun _ _ same => same) (fun _ => rfl) verifiedUser).1
  obtain ⟨user, member, id, email, phone, emailVerified, phoneVerified⟩ :
      ∃ user ∈ (exec (step plainEnv) .empty verifiedUser).users, user.id = 1 ∧
        user.email = "a@b.c" ∧ user.phone = some "555" ∧ user.emailVerified = true ∧
        user.phoneVerified = true := by decide
  refine ⟨id ▸ flags.email user member emailVerified, ?_⟩
  obtain ⟨number, own, proved⟩ := flags.phone user member phoneVerified
  rw [phone] at own
  cases own
  exact email ▸ proved

end Aegis.Identity
