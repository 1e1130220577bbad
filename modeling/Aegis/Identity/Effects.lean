import Aegis.Identity.Service

/-!
# What a call commits

`Effect` lists it, call by call, with what the method has found and checked; a call that
raises, refuses or finds nothing commits nothing.  Facts about runs are proved by cases on it,
so that none looks at the methods again.
-/

namespace Aegis.Identity

open Aegis.Lib Aegis.Subscriptions

/-! ## Queries and checks -/

section Queries

variable {accounts : Accounts}

theorem check_eq_ok {holds : Prop} [Decidable holds] {e : AuthError} {u : Unit} :
    check holds e = .ok u ↔ holds := by
  unfold check
  split
  next yes => exact ⟨fun _ => yes, fun _ => rfl⟩
  next no => exact ⟨nofun, fun yes => absurd yes no⟩

theorem bindInteger_eq_ok {n : ℤ} {u : Unit} :
    bindInteger n = .ok u ↔ -2147483648 ≤ n ∧ n < 2147483648 := by
  unfold bindInteger
  split
  next out => exact ⟨nofun, fun inside => absurd out (by omega)⟩
  next inside => exact ⟨fun _ => by omega, fun _ => rfl⟩

theorem scalarOneOrNone_eq_ok {α : Type} {rows : List α} {found : Option α} :
    scalarOneOrNone rows = .ok found ↔ rows = found.toList := by
  unfold scalarOneOrNone
  split
  · cases found <;> simp
  · cases found <;> simp
  · cases found <;> simp

/-- A row that is all that a query finds. -/
theorem of_filter_eq_singleton {α : Type} {rows : List α} {wanted : α → Bool} {row : α}
    (found : rows.filter wanted = [row]) : row ∈ rows ∧ wanted row = true := by
  have listed : row ∈ rows.filter wanted := by
    rw [found]
    exact List.mem_singleton_self row
  exact List.mem_filter.mp listed

theorem userByEmail_eq_ok {email : String} {user : UserAccount}
    (found : accounts.userByEmail email = .ok (some user)) :
    user ∈ accounts.users ∧ user.email = email :=
  (of_filter_eq_singleton (scalarOneOrNone_eq_ok.mp found)).imp_right of_decide_eq_true

theorem userById_eq_ok {userId : ℤ} {found : Option UserAccount} :
    accounts.userById userId = .ok found ↔ (-2147483648 ≤ userId ∧ userId < 2147483648) ∧
      accounts.users.filter (·.id = userId) = found.toList := by
  constructor
  · intro looked
    obtain ⟨_, inRange, rows⟩ := bind_eq_ok.mp looked
    exact ⟨bindInteger_eq_ok.mp inRange, scalarOneOrNone_eq_ok.mp rows⟩
  · intro held
    rcases held with ⟨inRange, rows⟩
    exact bind_eq_ok.mpr ⟨(), bindInteger_eq_ok.mpr inRange, scalarOneOrNone_eq_ok.mpr rows⟩

theorem mem_of_userById {userId : ℤ} {user : UserAccount}
    (found : accounts.userById userId = .ok (some user)) :
    user ∈ accounts.users ∧ (user.id : ℤ) = userId :=
  (of_filter_eq_singleton (userById_eq_ok.mp found).2).imp_right of_decide_eq_true

end Queries

/-! ## What the calls return -/

variable (env : AuthEnv)

/-- The query of the call for a token. -/
def Call.wanted : Call → AuthToken → Bool
  | .verifyEmail _ token, row => row.wanted env token "email_verify"
  | .resetPassword _ _ token _, row => row.wanted env token "password_reset"
  | .verifyPhoneOtp _ phone code _, row =>
      row.wanted env (strip code) "phone_otp" ∧ row.phone = some (strip phone)
  | _, _ => false

/-- The call is one with a token, and has returned `True`. -/
def Accounts.Grants (accounts : Accounts) : Call → Prop
  | .verifyEmail now token => ∃ after, verifyEmail env now token accounts = .ok (true, after)
  | .resetPassword now salt token newPassword =>
      ∃ after, resetPassword env now salt token newPassword accounts = .ok (true, after)
  | .verifyPhoneOtp now phone code email =>
      ∃ after, verifyPhoneOtp env now phone code email accounts = .ok (true, after)
  | _ => False

/-- The call has registered the user and has returned the token. -/
def Registers (accounts : Accounts) (call : Call) (userId : ℕ) (verifyRaw : String) (now : ℤ) :
    Prop :=
  ∃ drawnId salt email password phone accountId answer after,
    call = .register now drawnId salt verifyRaw email password phone accountId ∧
      register env now drawnId salt verifyRaw email password phone accountId accounts =
        .ok (answer, after) ∧ answer.userId = userId

/-! ## Effects -/

/-- `now` is not past the date, as `verify_email` compares them. -/
def AuthEnv.InTimeAsUtc (expiresAt now : ℤ) : Prop :=
  ¬ (env.driver.read expiresAt).inUtc.Before now

/-- A user as `register` inserts it. -/
structure UserAccount.Registered (user : UserAccount) (userId : ℕ) (email password salt : String) :
    Prop where
  id : user.id = userId
  email : user.email = normalizeEmail env email
  passwordHash : user.passwordHash = env.pbkdf2 password salt
  passwordSalt : user.passwordSalt = salt
  emailVerified : user.emailVerified = false
  phoneVerified : user.phoneVerified = false
  totpEnabled : user.totpEnabled = false

/-- A session as `login` inserts it. -/
structure AuthSession.Opened (session : AuthSession) (userId : ℕ) (rawSession : String) (now : ℤ) :
    Prop where
  userId : session.userId = userId
  sessionTokenHash : session.sessionTokenHash = env.hashToken rawSession
  expiresAt : session.expiresAt = now + days sessionDays
  revoked : session.revoked = false

inductive Effect (accounts : Accounts) : Call → Accounts → Prop where
  | nothing {call : Call} (refuses : ¬ accounts.Grants env call) : Effect accounts call accounts
  | registered {now : ℤ} {drawnId salt verifyRaw email password : String}
      {phone accountId : Option String} {user : UserAccount}
      (inRange : accounts.nextUserId < 2147483648)
      (inserted : user.Registered env accounts.nextUserId email password salt)
      (returned : Registers env accounts
        (.register now drawnId salt verifyRaw email password phone accountId) user.id verifyRaw
        now) :
      Effect accounts (.register now drawnId salt verifyRaw email password phone accountId)
        (({ accounts with
            users := accounts.users ++ [user]
            nextUserId := accounts.nextUserId + 1 } : Accounts).addToken
          ⟨some user.id, some user.email, none, "email_verify", env.hashToken verifyRaw,
            now + hours tokenHours, false, now⟩)
  | emailTokenUsed {now : ℤ} {token : String} {row : AuthToken}
      (found : accounts.tokens.filter (AuthToken.wanted env token "email_verify") = [row])
      (inTime : env.InTimeAsUtc row.expiresAt now) (owner : row.userId = none)
      (accepted : accounts.Grants env (.verifyEmail now token)) :
      Effect accounts (.verifyEmail now token)
        (accounts.useTokens (AuthToken.wanted env token "email_verify"))
  | emailVerified {now : ℤ} {token : String} {row : AuthToken} {userId : ℕ}
      (found : accounts.tokens.filter (AuthToken.wanted env token "email_verify") = [row])
      (inTime : env.InTimeAsUtc row.expiresAt now) (owner : row.userId = some userId)
      (accepted : accounts.Grants env (.verifyEmail now token)) :
      Effect accounts (.verifyEmail now token)
        ((accounts.useTokens (AuthToken.wanted env token "email_verify")).updateUser userId
          fun user => { user with emailVerified := true, updatedAt := now })
  | loggedIn {clock now : ℤ} {rawSession email password : String}
      {totpCode deviceLabel ip userAgent : Option String} {user : UserAccount}
      {session : AuthSession}
      (known : accounts.userByEmail (normalizeEmail env email) = .ok (some user))
      (verified : verifyPassword env password user.passwordHash user.passwordSalt = true)
      (opened : session.Opened env user.id rawSession now)
      (fresh : ∀ row ∈ accounts.sessions, row.sessionTokenHash ≠ session.sessionTokenHash) :
      Effect accounts
        (.login clock now rawSession email password totpCode deviceLabel ip userAgent)
        ((({ accounts with sessions := accounts.sessions ++ [session] } : Accounts).updateUser
          user.id fun row => { row with lastLoginAt := some now }).note
            (.loggedIn user.id rawSession now))
  | loggedOut {now : ℤ} {sessionToken : String} {row : Option AuthSession}
      (found : accounts.sessionByToken env sessionToken false = .ok row) :
      Effect accounts (.logout now sessionToken)
        ((accounts.revokeSessions now fun other => some other = row).note
          (.loggedOut sessionToken))
  | loggedOutAll {now userId : ℤ} :
      Effect accounts (.logoutAll now userId)
        ((accounts.revokeSessions now fun row => row.userId = userId ∧ row.revoked = false).note
          (.loggedOutAll userId))
  | resetRequested {now : ℤ} {raw email : String} {user : UserAccount}
      (known : accounts.userByEmail (normalizeEmail env email) = .ok (some user)) :
      Effect accounts (.requestPasswordReset now raw email)
        (accounts.addToken ⟨some user.id, some (normalizeEmail env email), none,
          "password_reset", env.hashToken raw, now + hours tokenHours, false, now⟩)
  | passwordReset {now : ℤ} {salt token newPassword : String} {row : AuthToken}
      {user : UserAccount}
      (found : accounts.tokens.filter (AuthToken.wanted env token "password_reset") = [row])
      (inTime : now ≤ row.expiresAt) (owner : row.userId = some user.id)
      (known : accounts.userById user.id = .ok (some user))
      (accepted : accounts.Grants env (.resetPassword now salt token newPassword)) :
      Effect accounts (.resetPassword now salt token newPassword)
        ((((accounts.useTokens (AuthToken.wanted env token "password_reset")).updateUser user.id
          fun row =>
            { row with
              passwordHash := env.pbkdf2 newPassword salt, passwordSalt := salt
              updatedAt := now }).revokeSessions now fun row =>
            row.userId = user.id ∧ row.revoked = false).note (.passwordReset user.id))
  | otpRequested {now : ℤ} {code phone : String} :
      Effect accounts (.requestPhoneOtp now code phone)
        (accounts.addToken ⟨none, none, some (strip phone), "phone_otp", env.hashToken code,
          now + minutes otpMinutes, false, now⟩)
  | otpUsed {now : ℤ} {phone code : String} {email : Option String} {row : AuthToken}
      (found : accounts.tokens.filter (fun row =>
        row.wanted env (strip code) "phone_otp" ∧ row.phone = some (strip phone)) = [row])
      (inTime : now ≤ row.expiresAt)
      (accepted : accounts.Grants env (.verifyPhoneOtp now phone code email)) :
      Effect accounts (.verifyPhoneOtp now phone code email)
        (accounts.useTokens fun row =>
          row.wanted env (strip code) "phone_otp" ∧ row.phone = some (strip phone))
  | phoneVerified {now : ℤ} {phone code email : String} {row : AuthToken} {user : UserAccount}
      (found : accounts.tokens.filter (fun row =>
        row.wanted env (strip code) "phone_otp" ∧ row.phone = some (strip phone)) = [row])
      (inTime : now ≤ row.expiresAt)
      (known : accounts.userByEmail (normalizeEmail env email) = .ok (some user))
      (accepted : accounts.Grants env (.verifyPhoneOtp now phone code (some email))) :
      Effect accounts (.verifyPhoneOtp now phone code (some email))
        ((accounts.useTokens fun row =>
            row.wanted env (strip code) "phone_otp" ∧ row.phone = some (strip phone)).updateUser
          user.id fun row =>
            { row with phone := some (strip phone), phoneVerified := true, updatedAt := now })
  | totpSetUp {now : ℤ} {secret : String} {userId : ℤ} {user : UserAccount}
      (known : accounts.userById userId = .ok (some user)) :
      Effect accounts (.setup2fa now secret userId)
        (accounts.updateUser user.id fun row =>
          { row with totpSecret := some secret, totpEnabled := false, updatedAt := now })
  | totpEnabled {clock now userId : ℤ} {code : String} {user : UserAccount}
      (known : accounts.userById userId = .ok (some user)) :
      Effect accounts (.enable2fa clock now userId code)
        (accounts.updateUser user.id fun row => { row with totpEnabled := true, updatedAt := now })
  | totpDisabled {clock now userId : ℤ} {password code : String} {user : UserAccount}
      (known : accounts.userById userId = .ok (some user))
      (verified : verifyPassword env password user.passwordHash user.passwordSalt = true)
      (factor : factorHolds env clock user code = .ok true) :
      Effect accounts (.disable2fa clock now userId password code)
        (accounts.updateUser user.id fun row =>
          { row with totpEnabled := false, totpSecret := none, updatedAt := now })

/-! ## Method by method -/

section Methods

variable {env} {accounts after : Accounts}

theorem Effect.of_method {α : Type} {method : Method α} {call : Call}
    (raises : ∀ e, method accounts = .error e → ¬ accounts.Grants env call)
    (commits : ∀ a committed, method accounts = .ok (a, committed) →
      Effect env accounts call committed) : Effect env accounts call (method.after accounts) := by
  unfold Method.after
  split
  next a committed done => exact commits a committed done
  next e raised => exact .nothing (raises e raised)

/-- A method that ends otherwise does not grant. -/
theorem not_granted {method : Method Bool} {outcome : Except AuthError (Bool × Accounts)}
    (ended : method accounts = outcome) (other : ∀ after, outcome ≠ .ok (true, after)) :
    ¬ ∃ after, method accounts = .ok (true, after) := by
  intro held
  rcases held with ⟨after, granted⟩
  exact other after (ended.symm.trans granted)

theorem effect_register (now : ℤ) (drawnId salt verifyRaw email password : String)
    (phone accountId : Option String) :
    Effect env accounts (.register now drawnId salt verifyRaw email password phone accountId)
      ((register env now drawnId salt verifyRaw email password phone accountId).after
        accounts) := by
  refine .of_method (fun _ _ => id) fun answer committed returned => ?_
  obtain ⟨_, _, done⟩ := bind_eq_ok.mp returned
  obtain ⟨_, _, done⟩ := bind_eq_ok.mp done
  obtain ⟨_, _, done⟩ := bind_eq_ok.mp done
  obtain ⟨stored, _, done⟩ := bind_eq_ok.mp done
  obtain ⟨_, inRange, done⟩ := bind_eq_ok.mp done
  obtain ⟨_, _, done⟩ := bind_eq_ok.mp done
  obtain ⟨rfl, rfl⟩ := Prod.mk.inj (Except.ok.inj done)
  have bounded := (bindInteger_eq_ok.mp inRange).2
  exact .registered (by omega) ⟨rfl, rfl, rfl, rfl, rfl, rfl, rfl⟩
    ⟨drawnId, salt, email, password, phone, accountId, _, _, rfl, returned, rfl⟩

/-- `verify_email` returns `False` and commits nothing, or it has found a token in time. -/
theorem verifyEmail_cases {now : ℤ} {token : String} {verified : Bool}
    (done : verifyEmail env now token accounts = .ok (verified, after)) :
    (verified = false ∧ after = accounts) ∨ (verified = true ∧ ∃ row,
      accounts.tokens.filter (AuthToken.wanted env token "email_verify") = [row] ∧
        Effect env accounts (.verifyEmail now token) after) := by
  have returned := done
  obtain ⟨found, selected, done⟩ := bind_eq_ok.mp done
  cases found with
  | none =>
      cases done
      exact .inl ⟨rfl, rfl⟩
  | some row =>
      have only := scalarOneOrNone_eq_ok.mp selected
      dsimp only at done
      split at done
      · cases done
        exact .inl ⟨rfl, rfl⟩
      next inTime =>
      split at done
      next owner =>
        cases done
        exact .inr ⟨rfl, row, only, .emailTokenUsed only inTime owner ⟨_, returned⟩⟩
      next userId owner =>
        cases done
        exact .inr ⟨rfl, row, only, .emailVerified only inTime owner ⟨_, returned⟩⟩

/-- `login` has found the user and has checked the password, and returns the token. -/
theorem login_cases {clock now : ℤ} {rawSession email password : String}
    {totpCode deviceLabel ip userAgent : Option String} {answer : LoginAnswer}
    (done : login env clock now rawSession email password totpCode deviceLabel ip userAgent
      accounts = .ok (answer, after)) :
    ∃ user, accounts.userByEmail (normalizeEmail env email) = .ok (some user) ∧
      verifyPassword env password user.passwordHash user.passwordSalt = true ∧
      answer.sessionToken = rawSession ∧
      after.acts = accounts.acts ++ [.loggedIn user.id rawSession now] ∧
      Effect env accounts
        (.login clock now rawSession email password totpCode deviceLabel ip userAgent) after := by
  obtain ⟨found, selected, done⟩ := bind_eq_ok.mp done
  cases found with
  | none => cases done
  | some user =>
      obtain ⟨_, verified, done⟩ := bind_eq_ok.mp done
      obtain ⟨_, _, done⟩ := bind_eq_ok.mp done
      obtain ⟨_, fresh, done⟩ := bind_eq_ok.mp done
      cases done
      have password := check_eq_ok.mp verified
      exact ⟨user, selected, password, rfl, rfl,
        .loggedIn selected password ⟨rfl, rfl, rfl, rfl⟩ (check_eq_ok.mp fresh)⟩

theorem requestPasswordReset_cases {now : ℤ} {raw email : String} {answer : Option String}
    (done : requestPasswordReset env now raw email accounts = .ok (answer, after)) :
    (answer = none ∧ after = accounts) ∨ (answer = some raw ∧
      Effect env accounts (.requestPasswordReset now raw email) after) := by
  obtain ⟨found, known, done⟩ := bind_eq_ok.mp done
  cases found with
  | none =>
      cases done
      exact .inl ⟨rfl, rfl⟩
  | some user =>
      cases done
      exact .inr ⟨rfl, .resetRequested known⟩

/-- `reset_password` returns `False` and commits nothing, or it has found a token in time and
the user that it is of. -/
theorem resetPassword_cases {now : ℤ} {salt token newPassword : String} {reset : Bool}
    (done : resetPassword env now salt token newPassword accounts = .ok (reset, after)) :
    (reset = false ∧ after = accounts) ∨ (reset = true ∧ ∃ row user,
      accounts.tokens.filter (AuthToken.wanted env token "password_reset") = [row] ∧
        now ≤ row.expiresAt ∧ row.userId = some user.id ∧
        accounts.userById user.id = .ok (some user) ∧
        after = ((((accounts.useTokens (AuthToken.wanted env token "password_reset")).updateUser
          user.id fun row =>
            { row with
              passwordHash := env.pbkdf2 newPassword salt, passwordSalt := salt
              updatedAt := now }).revokeSessions now fun row =>
            row.userId = user.id ∧ row.revoked = false).note (.passwordReset user.id))) := by
  obtain ⟨_, _, done⟩ := bind_eq_ok.mp done
  obtain ⟨found, selected, done⟩ := bind_eq_ok.mp done
  cases found with
  | none =>
      cases done
      exact .inl ⟨rfl, rfl⟩
  | some row =>
  have only := scalarOneOrNone_eq_ok.mp selected
  dsimp only at done
  split at done
  · cases done
    exact .inl ⟨rfl, rfl⟩
  next inTime =>
  rw [env.driver.before_iff, not_lt] at inTime
  split at done
  · cases done
    exact .inl ⟨rfl, rfl⟩
  next userId owner =>
  obtain ⟨holder, known, done⟩ := bind_eq_ok.mp done
  cases holder with
  | none =>
      cases done
      exact .inl ⟨rfl, rfl⟩
  | some user =>
      cases done
      cases Int.ofNat_inj.mp (mem_of_userById known).2
      exact .inr ⟨rfl, row, user, only, inTime, owner, known, rfl⟩

/-- `verify_phone_otp` returns `False` and commits nothing, or it has found a code in time. -/
theorem verifyPhoneOtp_cases {now : ℤ} {phone code : String} {email : Option String}
    {verified : Bool}
    (done : verifyPhoneOtp env now phone code email accounts = .ok (verified, after)) :
    (verified = false ∧ after = accounts) ∨ (verified = true ∧ ∃ row,
      accounts.tokens.filter (fun row =>
        row.wanted env (strip code) "phone_otp" ∧ row.phone = some (strip phone)) = [row] ∧
        Effect env accounts (.verifyPhoneOtp now phone code email) after) := by
  have returned := done
  obtain ⟨found, selected, done⟩ := bind_eq_ok.mp done
  cases found with
  | none =>
      cases done
      exact .inl ⟨rfl, rfl⟩
  | some row =>
  have only := scalarOneOrNone_eq_ok.mp selected
  dsimp only at done
  split at done
  · cases done
    exact .inl ⟨rfl, rfl⟩
  next inTime =>
  rw [env.driver.before_iff, not_lt] at inTime
  split at done
  · cases done
    exact .inr ⟨rfl, row, only, .otpUsed only inTime ⟨_, returned⟩⟩
  next given =>
  obtain ⟨owner, known, done⟩ := bind_eq_ok.mp done
  cases owner with
  | none =>
      cases done
      exact .inr ⟨rfl, row, only, .otpUsed only inTime ⟨_, returned⟩⟩
  | some user =>
      obtain ⟨_, _, done⟩ := bind_eq_ok.mp done
      cases done
      obtain ⟨rfl, _⟩ := Option.filter_eq_some_iff.mp given
      exact .inr ⟨rfl, row, only, .phoneVerified only inTime known ⟨_, returned⟩⟩

theorem effect_setup2fa (now : ℤ) (secret : String) (userId : ℤ) :
    Effect env accounts (.setup2fa now secret userId)
      ((setup2fa now secret userId).after accounts) := by
  refine .of_method (fun _ _ => id) fun answer committed done => ?_
  obtain ⟨found, known, done⟩ := bind_eq_ok.mp done
  cases found with
  | none => cases done
  | some user =>
      cases done
      exact .totpSetUp known

theorem effect_enable2fa (clock now userId : ℤ) (code : String) :
    Effect env accounts (.enable2fa clock now userId code)
      ((enable2fa env clock now userId code).after accounts) := by
  refine .of_method (fun _ _ => id) fun answer committed done => ?_
  obtain ⟨found, known, done⟩ := bind_eq_ok.mp done
  cases found with
  | none =>
      cases done
      exact .nothing id
  | some user =>
      dsimp only at done
      split at done
      · cases done
        exact .nothing id
      · obtain ⟨good, _, done⟩ := bind_eq_ok.mp done
        cases good with
        | false =>
            cases done
            exact .nothing id
        | true =>
            cases done
            exact .totpEnabled known

theorem effect_disable2fa (clock now userId : ℤ) (password code : String) :
    Effect env accounts (.disable2fa clock now userId password code)
      ((disable2fa env clock now userId password code).after accounts) := by
  refine .of_method (fun _ _ => id) fun answer committed done => ?_
  obtain ⟨found, known, done⟩ := bind_eq_ok.mp done
  cases found with
  | none =>
      cases done
      exact .nothing id
  | some user =>
      dsimp only at done
      split at done
      · cases done
        exact .nothing id
      next verified =>
      obtain ⟨good, factor, done⟩ := bind_eq_ok.mp done
      cases good with
      | false =>
          cases done
          exact .nothing id
      | true =>
          cases done
          exact .totpDisabled known (by simpa using verified) factor

/-- **One call.** -/
theorem effect_step (accounts : Accounts) (call : Call) :
    Effect env accounts call (step env accounts call) := by
  cases call with
  | register now drawnId salt verifyRaw email password phone accountId =>
      exact effect_register now drawnId salt verifyRaw email password phone accountId
  | verifyEmail now token =>
      refine .of_method (fun _ raised => not_granted raised nofun) fun verified committed done => ?_
      rcases verifyEmail_cases done with ⟨rfl, rfl⟩ | ⟨_, _, _, effect⟩
      · exact .nothing (not_granted done nofun)
      · exact effect
  | login clock now rawSession email password totpCode deviceLabel ip userAgent =>
      refine .of_method (fun _ _ => id) fun answer committed done => ?_
      obtain ⟨_, _, _, _, _, effect⟩ := login_cases done
      exact effect
  | logout now sessionToken =>
      refine .of_method (fun _ _ => id) fun answer committed done => ?_
      obtain ⟨row, found, done⟩ := bind_eq_ok.mp done
      cases done
      exact .loggedOut found
  | logoutAll now userId =>
      refine .of_method (fun _ _ => id) fun answer committed done => ?_
      obtain ⟨_, _, done⟩ := bind_eq_ok.mp done
      cases done
      exact .loggedOutAll
  | requestPasswordReset now raw email =>
      refine .of_method (fun _ _ => id) fun answer committed done => ?_
      rcases requestPasswordReset_cases done with ⟨_, rfl⟩ | ⟨_, effect⟩
      · exact .nothing id
      · exact effect
  | resetPassword now salt token newPassword =>
      refine .of_method (fun _ raised => not_granted raised nofun) fun reset committed done => ?_
      rcases resetPassword_cases done with
        ⟨rfl, rfl⟩ | ⟨rfl, row, user, found, inTime, owner, known, rfl⟩
      · exact .nothing (not_granted done nofun)
      · exact .passwordReset found inTime owner known ⟨_, done⟩
  | requestPhoneOtp now code phone => exact .otpRequested
  | verifyPhoneOtp now phone code email =>
      refine .of_method (fun _ raised => not_granted raised nofun) fun verified committed done => ?_
      rcases verifyPhoneOtp_cases done with ⟨rfl, rfl⟩ | ⟨_, _, _, effect⟩
      · exact .nothing (not_granted done nofun)
      · exact effect
  | setup2fa now secret userId => exact effect_setup2fa now secret userId
  | enable2fa clock now userId code => exact effect_enable2fa clock now userId code
  | disable2fa clock now userId password code =>
      exact effect_disable2fa clock now userId password code

end Methods

end Aegis.Identity
