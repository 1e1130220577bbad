import Mathlib.Data.List.Basic
import Mathlib.Data.Nat.Digits.Defs
import Aegis.Lib.Python
import Aegis.Lib.Text
import Aegis.Subscriptions.State

/-!
# Users and their sessions

`AuthService`: each method is one transaction on the tables `user_accounts`, `auth_sessions`
and `auth_tokens`, which commits or raises and leaves them as they were.  Random draws and
clock readings are inputs, and so are the keyed hashes.

`Accounts.acts` is a history variable: the methods append to it and none reads it.
-/

namespace Aegis.Identity

open Aegis.Lib Aegis.Subscriptions

/-! ## Times

Postgres gives a timestamp back with an offset, SQLite without one and in UTC; the methods
compare it with an aware `now`. -/

/-- A `datetime`: what its clock shows, and its offset from UTC. -/
structure DateTime where
  wall : ℤ
  offset : Option ℤ

namespace DateTime

/-- `value if value.tzinfo else value.replace(tzinfo=timezone.utc)`. -/
def repaired (value : DateTime) : DateTime :=
  if value.offset.isSome then value else { value with offset := some 0 }

/-- `value.replace(tzinfo=timezone.utc)`. -/
def inUtc (value : DateTime) : DateTime := { value with offset := some 0 }

/-- `value < now` for an aware value. -/
def Before (value : DateTime) (now : ℤ) : Prop := value.wall - value.offset.getD 0 < now

instance (value : DateTime) (now : ℤ) : Decidable (value.Before now) :=
  inferInstanceAs (Decidable (_ < _))

end DateTime

/-- How the database driver gives stored timestamps back. -/
structure Driver where
  read : ℤ → DateTime
  reads : ∀ stored, read stored = ⟨stored, none⟩ ∨
    ∃ offset, read stored = ⟨stored + offset, some offset⟩

theorem Driver.before_iff (driver : Driver) (stored now : ℤ) :
    (driver.read stored).repaired.Before now ↔ stored < now := by
  rcases driver.reads stored with naive | ⟨offset, aware⟩
  · rw [naive]
    simp [DateTime.repaired, DateTime.Before]
  · rw [aware]
    simp [DateTime.repaired, DateTime.Before]

/-! ## Tables -/

/-- A row of `user_accounts`. -/
structure UserAccount where
  id : ℕ
  accountId : String
  email : String
  phone : Option String
  passwordHash : String
  passwordSalt : String
  emailVerified : Bool
  phoneVerified : Bool
  isAdmin : Bool
  totpSecret : Option String
  totpEnabled : Bool
  createdAt : ℤ
  updatedAt : ℤ
  lastLoginAt : Option ℤ
  deriving DecidableEq

/-- A row of `auth_sessions`, without its primary key. -/
structure AuthSession where
  sessionTokenHash : String
  userId : ℕ
  accountId : String
  deviceLabel : Option String
  ip : Option String
  userAgent : Option String
  createdAt : ℤ
  expiresAt : ℤ
  revoked : Bool
  revokedAt : Option ℤ
  deriving DecidableEq

/-- A row of `auth_tokens`, without its primary key. -/
structure AuthToken where
  userId : Option ℕ
  email : Option String
  phone : Option String
  purpose : String
  tokenHash : String
  expiresAt : ℤ
  used : Bool
  createdAt : ℤ
  deriving DecidableEq

/-- What the history variable records. -/
inductive SessionAct where
  /-- `login` has returned the token to the user -/
  | loggedIn (userId : ℕ) (sessionToken : String) (now : ℤ)
  | loggedOut (sessionToken : String)
  | loggedOutAll (userId : ℤ)
  /-- `reset_password` has returned `True` -/
  | passwordReset (userId : ℕ)
  deriving DecidableEq

structure Accounts where
  users : List UserAccount
  /-- the sequence behind `user_accounts.id` -/
  nextUserId : ℕ
  sessions : List AuthSession
  tokens : List AuthToken
  acts : List SessionAct

def Accounts.empty : Accounts := ⟨[], 1, [], [], []⟩

/-- How a method can end other than with its result. -/
inductive AuthError where
  | valueError (message : String)
  | typeError
  | integrityError
  | multipleResultsFound
  /-- the database driver refuses the value of an argument -/
  | dataError
  deriving DecidableEq

/-- A method: it commits with a result, or raises. -/
abbrev Method (α : Type) := Accounts → Except AuthError (α × Accounts)

/-- What the methods find fixed: the digests that they compute and the driver. -/
structure AuthEnv where
  /-- `str.lower()` -/
  lower : String → String
  /-- the hexadecimal PBKDF2 digest of a password under a salt -/
  pbkdf2 : String → String → String
  /-- `_hash_token` -/
  hashToken : String → String
  /-- the bytes of the HMAC-SHA1 of a counter under a base32 secret -/
  hmacSha1 : String → ℤ → List ℕ
  driver : Driver

/-- `result.scalar_one_or_none()`. -/
def scalarOneOrNone {α : Type} : List α → Except AuthError (Option α)
  | [] => .ok none
  | [row] => .ok (some row)
  | _ :: _ :: _ => .error .multipleResultsFound

/-- A column of 32-bit integers is compared with `n`, or is to hold it. -/
def bindInteger (n : ℤ) : Except AuthError Unit :=
  if n < -2147483648 ∨ 2147483648 ≤ n then .error .dataError else .ok ()

variable (env : AuthEnv)

def normalizeEmail (email : String) : String := env.lower (strip email)

def sessionDays : ℤ := 30
def tokenHours : ℤ := 24
def otpMinutes : ℤ := 10

/-- `timedelta(hours=n)`. -/
def hours (n : ℤ) : ℤ := seconds (3600 * n)

/-- `timedelta(minutes=n)`. -/
def minutes (n : ℤ) : ℤ := seconds (60 * n)

/-! ## One-time codes -/

/-- The four bytes at the offset that the last one names, without their first bit. -/
def truncation (digest : List ℕ) : ℕ :=
  let o := digest.getLastD 0 % 16
  Nat.ofDigits 256 ((digest.drop o).take 4).reverse % 2147483648

/-- `_totp`, at the second `forTime`. -/
def totp (secret : String) (forTime : ℤ) : String :=
  let digits := (toString (truncation (env.hmacSha1 secret (forTime / 30)) % 1000000)).toList
  String.ofList (List.replicate (6 - digits.length) '0' ++ digits)

/-- `verify_totp`, at the second `now`; `hmac.compare_digest` takes ASCII texts only. -/
def verifyTotp (now : ℤ) (secret code : String) : Except AuthError Bool :=
  if (strip code).toList.any fun c => 128 ≤ c.toNat then .error .typeError
  else .ok ([-1, 0, 1].any fun w => totp env secret (now + w * 30) = strip code)

/-- `_verify_password`. -/
def verifyPassword (password passwordHash salt : String) : Bool :=
  env.pbkdf2 password salt = passwordHash

/-! ## Reads and writes that methods share -/

def check (holds : Prop) [Decidable holds] (e : AuthError) : Except AuthError Unit :=
  if holds then .ok () else .error e

namespace Accounts

variable (accounts : Accounts)

def userByEmail (email : String) : Except AuthError (Option UserAccount) :=
  scalarOneOrNone (accounts.users.filter (·.email = email))

def userById (userId : ℤ) : Except AuthError (Option UserAccount) := do
  bindInteger userId
  scalarOneOrNone (accounts.users.filter (·.id = userId))

/-- The sessions with the token's hash, as `unrevoked` restricts them. -/
def sessionByToken (sessionToken : String) (unrevoked : Bool) :
    Except AuthError (Option AuthSession) :=
  scalarOneOrNone (accounts.sessions.filter fun row =>
    row.sessionTokenHash = env.hashToken sessionToken ∧ (unrevoked → row.revoked = false))

/-- The user's row is changed, if it is there. -/
def updateUser (userId : ℕ) (change : UserAccount → UserAccount) : Accounts :=
  { accounts with
    users := accounts.users.map fun row => if row.id = userId then change row else row }

def addToken (row : AuthToken) : Accounts := { accounts with tokens := accounts.tokens ++ [row] }

/-- The rows that a query for a token found are marked as used. -/
def useTokens (found : AuthToken → Bool) : Accounts :=
  { accounts with
    tokens := accounts.tokens.map fun row => if found row then { row with used := true } else row }

/-- The sessions that are `ending` are revoked. -/
def revokeSessions (now : ℤ) (ending : AuthSession → Bool) : Accounts :=
  { accounts with
    sessions := accounts.sessions.map fun row =>
      if ending row then { row with revoked := true, revokedAt := some now } else row }

def note (act : SessionAct) : Accounts := { accounts with acts := accounts.acts ++ [act] }

/-- The unique constraints of `user_accounts`. -/
def checkUsers : Except AuthError Unit :=
  check ((accounts.users.map (·.accountId)).Nodup ∧ (accounts.users.map (·.email)).Nodup ∧
    (accounts.users.filterMap (·.phone)).Nodup) .integrityError

end Accounts

/-- The query for a token that has not been used. -/
def AuthToken.wanted (token purpose : String) (row : AuthToken) : Bool :=
  row.tokenHash = env.hashToken token ∧ row.purpose = purpose ∧ row.used = false

/-! ## The methods -/

structure RegisterAnswer where
  accountId : String
  email : String
  userId : ℕ
  emailVerificationToken : String
  message : String
  deriving DecidableEq

/-- The phone number that `register` stores. -/
def phoneToStore (accounts : Accounts) : Option String → Except AuthError (Option String)
  | none => .ok none
  | some phone =>
      if phone = "" then .ok (some phone)
      else do
        let taken ← scalarOneOrNone (accounts.users.filter (·.phone = some (strip phone)))
        check (taken = none) (.valueError "Phone already registered")
        return some (strip phone)

/-- `register`; `drawnId`, `salt` and `verifyRaw` are what it draws. -/
def register (now : ℤ) (drawnId salt verifyRaw email password : String)
    (phone accountId : Option String) : Method RegisterAnswer := fun accounts => do
  let email := normalizeEmail env email
  check (email ≠ "" ∧ 8 ≤ password.length)
    (.valueError "Valid email and password (min 8 chars) required")
  let named := strip (accountId.getD "")
  let known ← accounts.userByEmail email
  check (known = none) (.valueError "Email already registered")
  let phone ← phoneToStore accounts phone
  bindInteger accounts.nextUserId
  let user : UserAccount :=
    { id := accounts.nextUserId, accountId := if named = "" then "ACC-" ++ drawnId else named
      email := email, phone := phone, passwordHash := env.pbkdf2 password salt
      passwordSalt := salt, emailVerified := false, phoneVerified := false, isAdmin := false
      totpSecret := none, totpEnabled := false, createdAt := now, updatedAt := now
      lastLoginAt := none }
  let added : Accounts :=
    { accounts with users := accounts.users ++ [user], nextUserId := accounts.nextUserId + 1 }
  added.checkUsers
  return (⟨user.accountId, email, user.id, verifyRaw,
      "Check email to verify. Token also returned once for bootstrap."⟩,
    added.addToken ⟨some user.id, some email, none, "email_verify", env.hashToken verifyRaw,
      now + hours tokenHours, false, now⟩)

def verifyEmail (now : ℤ) (token : String) : Method Bool := fun accounts => do
  let wanted := AuthToken.wanted env token "email_verify"
  match ← scalarOneOrNone (accounts.tokens.filter wanted) with
  | none => return (false, accounts)
  | some row =>
      if (env.driver.read row.expiresAt).inUtc.Before now then return (false, accounts)
      else match row.userId with
      | none => return (true, accounts.useTokens wanted)
      | some userId =>
          return (true, (accounts.useTokens wanted).updateUser userId fun user =>
            { user with emailVerified := true, updatedAt := now })

structure LoginAnswer where
  sessionToken : String
  accountId : String
  email : String
  emailVerified : Bool
  totpEnabled : Bool
  isAdmin : Bool
  expiresInDays : ℤ
  deriving DecidableEq

/-- The second factor that `login` asks for, at the second `clock`. -/
def secondFactor (clock : ℤ) (user : UserAccount) (totpCode : Option String) :
    Except AuthError Unit :=
  if !user.totpEnabled then .ok ()
  else
    match totpCode.filter (· ≠ ""), user.totpSecret.filter (· ≠ "") with
    | some code, some secret => do
        let good ← verifyTotp env clock secret code
        check good (.valueError "Invalid or missing 2FA code")
    | _, _ => .error (.valueError "Invalid or missing 2FA code")

/-- `login`; `rawSession` is the token that it draws. -/
def login (clock now : ℤ) (rawSession email password : String)
    (totpCode deviceLabel ip userAgent : Option String) : Method LoginAnswer := fun accounts => do
  match ← accounts.userByEmail (normalizeEmail env email) with
  | none => .error (.valueError "Invalid email or password")
  | some user =>
      check (verifyPassword env password user.passwordHash user.passwordSalt)
        (.valueError "Invalid email or password")
      secondFactor env clock user totpCode
      let session : AuthSession :=
        { sessionTokenHash := env.hashToken rawSession, userId := user.id
          accountId := user.accountId, deviceLabel := deviceLabel, ip := ip
          userAgent := some (((userAgent.getD "").take 400).toString) |>.filter (· ≠ "")
          createdAt := now, expiresAt := now + days sessionDays, revoked := false
          revokedAt := none }
      check (∀ row ∈ accounts.sessions, row.sessionTokenHash ≠ session.sessionTokenHash)
        .integrityError
      let added : Accounts := { accounts with sessions := accounts.sessions ++ [session] }
      return (⟨rawSession, user.accountId, user.email, user.emailVerified, user.totpEnabled,
          user.isAdmin, sessionDays⟩,
        (added.updateUser user.id fun row => { row with lastLoginAt := some now }).note
          (.loggedIn user.id rawSession now))

def resolveSession (now : ℤ) (sessionToken : String) (accounts : Accounts) :
    Except AuthError (Option UserAccount) := do
  match ← accounts.sessionByToken env sessionToken true with
  | none => return none
  | some row =>
      if (env.driver.read row.expiresAt).repaired.Before now then return none
      else accounts.userById row.userId

def logout (now : ℤ) (sessionToken : String) : Method Bool := fun accounts => do
  let row ← accounts.sessionByToken env sessionToken false
  let ended := accounts.revokeSessions now fun other => some other = row
  return (row.isSome, ended.note (.loggedOut sessionToken))

def logoutAll (now userId : ℤ) : Method ℕ := fun accounts => do
  bindInteger userId
  let ending (row : AuthSession) : Bool := row.userId = userId ∧ row.revoked = false
  return ((accounts.sessions.filter ending).length,
    (accounts.revokeSessions now ending).note (.loggedOutAll userId))

/-- `request_password_reset`; `raw` is the token that it draws. -/
def requestPasswordReset (now : ℤ) (raw email : String) : Method (Option String) :=
  fun accounts => do
    let email := normalizeEmail env email
    match ← accounts.userByEmail email with
    | none => return (none, accounts)
    | some user =>
        return (some raw, accounts.addToken ⟨some user.id, some email, none, "password_reset",
          env.hashToken raw, now + hours tokenHours, false, now⟩)

/-- `reset_password`; `salt` is what it draws. -/
def resetPassword (now : ℤ) (salt token newPassword : String) : Method Bool := fun accounts => do
  check (8 ≤ newPassword.length) (.valueError "Password min 8 characters")
  let wanted := AuthToken.wanted env token "password_reset"
  match ← scalarOneOrNone (accounts.tokens.filter wanted) with
  | none => return (false, accounts)
  | some row =>
      if (env.driver.read row.expiresAt).repaired.Before now then return (false, accounts)
      else match row.userId with
      | none => return (false, accounts)
      | some userId =>
          match ← accounts.userById userId with
          | none => return (false, accounts)
          | some user =>
              let changed := (accounts.useTokens wanted).updateUser user.id fun row =>
                { row with
                  passwordHash := env.pbkdf2 newPassword salt, passwordSalt := salt
                  updatedAt := now }
              let ending (row : AuthSession) : Bool :=
                row.userId = user.id ∧ row.revoked = false
              return (true, (changed.revokeSessions now ending).note (.passwordReset user.id))

/-- `request_phone_otp`; `code` is what it draws. -/
def requestPhoneOtp (now : ℤ) (code phone : String) : Method String := fun accounts =>
  return (code, accounts.addToken ⟨none, none, some (strip phone), "phone_otp",
    env.hashToken code, now + minutes otpMinutes, false, now⟩)

def verifyPhoneOtp (now : ℤ) (phone code : String) (email : Option String) : Method Bool :=
  fun accounts => do
    let wanted (row : AuthToken) : Bool :=
      row.wanted env (strip code) "phone_otp" ∧ row.phone = some (strip phone)
    match ← scalarOneOrNone (accounts.tokens.filter wanted) with
    | none => return (false, accounts)
    | some row =>
        if (env.driver.read row.expiresAt).repaired.Before now then return (false, accounts)
        else match email.filter (· ≠ "") with
        | none => return (true, accounts.useTokens wanted)
        | some email =>
            match ← accounts.userByEmail (normalizeEmail env email) with
            | none => return (true, accounts.useTokens wanted)
            | some user =>
                let changed := (accounts.useTokens wanted).updateUser user.id fun row =>
                  { row with
                    phone := some (strip phone), phoneVerified := true, updatedAt := now }
                changed.checkUsers
                return (true, changed)

structure TotpAnswer where
  totpSecret : String
  otpauthUrl : String
  message : String
  deriving DecidableEq

/-- `setup_2fa`; `secret` is what it draws. -/
def setup2fa (now : ℤ) (secret : String) (userId : ℤ) : Method TotpAnswer := fun accounts => do
  match ← accounts.userById userId with
  | none => .error (.valueError "User not found")
  | some user =>
      return (⟨secret,
          "otpauth://totp/AEGIS:" ++ user.email ++ "?secret=" ++ secret ++ "&issuer=LeverageFx",
          "Scan with authenticator app, then POST /api/auth/2fa/enable with a code"⟩,
        accounts.updateUser user.id fun row =>
          { row with totpSecret := some secret, totpEnabled := false, updatedAt := now })

def enable2fa (clock now userId : ℤ) (code : String) : Method Bool := fun accounts => do
  match ← accounts.userById userId with
  | none => return (false, accounts)
  | some user =>
      match user.totpSecret.filter (· ≠ "") with
      | none => return (false, accounts)
      | some secret =>
          let good ← verifyTotp env clock secret code
          if !good then return (false, accounts)
          else return (true, accounts.updateUser user.id fun row =>
            { row with totpEnabled := true, updatedAt := now })

/-- The second factor that `disable_2fa` asks for. -/
def factorHolds (clock : ℤ) (user : UserAccount) (code : String) : Except AuthError Bool :=
  if !user.totpEnabled then .ok true
  else
    match user.totpSecret.filter (· ≠ "") with
    | none => .ok false
    | some secret => verifyTotp env clock secret code

def disable2fa (clock now userId : ℤ) (password code : String) : Method Bool :=
  fun accounts => do
    match ← accounts.userById userId with
    | none => return (false, accounts)
    | some user =>
        if !verifyPassword env password user.passwordHash user.passwordSalt then
          return (false, accounts)
        else
          let good ← factorHolds env clock user code
          if !good then return (false, accounts)
          else return (true, accounts.updateUser user.id fun row =>
            { row with totpEnabled := false, totpSecret := none, updatedAt := now })

/-! ## Runs -/

/-- A call, with the clock readings and what it draws. -/
inductive Call where
  | register (now : ℤ) (drawnId salt verifyRaw email password : String)
      (phone accountId : Option String)
  | verifyEmail (now : ℤ) (token : String)
  | login (clock now : ℤ) (rawSession email password : String)
      (totpCode deviceLabel ip userAgent : Option String)
  | logout (now : ℤ) (sessionToken : String)
  | logoutAll (now userId : ℤ)
  | requestPasswordReset (now : ℤ) (raw email : String)
  | resetPassword (now : ℤ) (salt token newPassword : String)
  | requestPhoneOtp (now : ℤ) (code phone : String)
  | verifyPhoneOtp (now : ℤ) (phone code : String) (email : Option String)
  | setup2fa (now : ℤ) (secret : String) (userId : ℤ)
  | enable2fa (clock now userId : ℤ) (code : String)
  | disable2fa (clock now userId : ℤ) (password code : String)

/-- The accounts after a method: what it commits, or as they were. -/
def Method.after {α : Type} (method : Method α) (accounts : Accounts) : Accounts :=
  match method accounts with
  | .ok (_, committed) => committed
  | .error _ => accounts

def step (accounts : Accounts) : Call → Accounts
  | .register now drawnId salt verifyRaw email password phone accountId =>
      (register env now drawnId salt verifyRaw email password phone accountId).after accounts
  | .verifyEmail now token => (verifyEmail env now token).after accounts
  | .login clock now rawSession email password totpCode deviceLabel ip userAgent =>
      (login env clock now rawSession email password totpCode deviceLabel ip userAgent).after
        accounts
  | .logout now sessionToken => (logout env now sessionToken).after accounts
  | .logoutAll now userId => (logoutAll now userId).after accounts
  | .requestPasswordReset now raw email => (requestPasswordReset env now raw email).after accounts
  | .resetPassword now salt token newPassword =>
      (resetPassword env now salt token newPassword).after accounts
  | .requestPhoneOtp now code phone => (requestPhoneOtp env now code phone).after accounts
  | .verifyPhoneOtp now phone code email =>
      (verifyPhoneOtp env now phone code email).after accounts
  | .setup2fa now secret userId => (setup2fa now secret userId).after accounts
  | .enable2fa clock now userId code => (enable2fa env clock now userId code).after accounts
  | .disable2fa clock now userId password code =>
      (disable2fa env clock now userId password code).after accounts

/-- The session tokens that a call draws or is given. -/
def Call.sessionTokens : Call → List String
  | .login _ _ rawSession _ _ _ _ _ _ => [rawSession]
  | .logout _ sessionToken => [sessionToken]
  | _ => []

end Aegis.Identity
