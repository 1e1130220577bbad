import Aegis.Identity.Sessions
import Aegis.Identity.Tokens

/-!
# What a password reset leaves open

`reset_password` ends the sessions of the user and uses up the token that it was given.  The
other reset tokens of the user stay as they are: whoever holds one sets the password again.
-/

namespace Aegis.Identity

open Aegis.Lib Aegis.Subscriptions

/-- The reading of the clock that a call makes. -/
def Call.now : Call → ℤ
  | .register now .. | .verifyEmail now .. | .login _ now .. | .logout now ..
  | .logoutAll now .. | .requestPasswordReset now .. | .resetPassword now ..
  | .requestPhoneOtp now .. | .verifyPhoneOtp now .. | .setup2fa now .. | .enable2fa _ now ..
  | .disable2fa _ now .. => now

/-- The reset tokens that a call draws. -/
def Call.resetTokens : Call → List String
  | .requestPasswordReset _ raw _ => [raw]
  | _ => []

/-- What `reset_password` is called with. -/
structure Reset where
  now : ℤ
  salt : String
  token : String
  newPassword : String

def Reset.call (reset : Reset) : Call :=
  .resetPassword reset.now reset.salt reset.token reset.newPassword

variable (env : AuthEnv)

/-- A reset token has been issued for the user. -/
def ResetIssued (calls : List Call) (userId : ℕ) (raw : String) : Prop :=
  ∃ found now email user,
    Occurs (step env) .empty calls found (.requestPasswordReset now raw email) ∧
      found.userByEmail (normalizeEmail env email) = .ok (some user) ∧ user.id = userId

/-- `reset_password` succeeds, and for this user. -/
def Reset.Succeeds (accounts : Accounts) (reset : Reset) (user : UserAccount) : Prop :=
  user ∈ accounts.users ∧ ∃ after,
    resetPassword env reset.now reset.salt reset.token reset.newPassword accounts =
        .ok (true, after) ∧
      after.acts = accounts.acts ++ [.passwordReset user.id]

/-- A reset of the run gives the user another password than `old`. -/
structure Replaces (calls early : List Call) (reset : Reset) (late : List Call)
    (user : UserAccount) (old : String) : Prop where
  split : calls = early ++ reset.call :: late
  succeeds : reset.Succeeds env (exec (step env) .empty early) user
  current : verifyPassword env old user.passwordHash user.passwordSalt = true
  differs : old ≠ reset.newPassword

/-- What let the user in after the calls `early` does not after `calls`, nor from then on. -/
structure LockedOut (early calls : List Call) (userId : ℕ) (old : String) : Prop where
  sessions : ∀ sessionToken at_,
    .loggedIn userId sessionToken at_ ∈ (exec (step env) .empty early).acts → ∀ now user,
      resolveSession env now sessionToken (exec (step env) .empty calls) ≠ .ok (some user)
  resetTokens : ∀ raw, ResetIssued env early userId raw → ∀ now salt newPassword after,
    (∀ call ∈ calls, call.now ≤ now) →
      resetPassword env now salt raw newPassword (exec (step env) .empty calls) ≠
        .ok (true, after)
  password : ∀ clock now rawSession email totpCode deviceLabel ip userAgent answer after,
    login env clock now rawSession email old totpCode deviceLabel ip userAgent
        (exec (step env) .empty calls) = .ok (answer, after) →
      after.acts ≠ (exec (step env) .empty calls).acts ++ [.loggedIn userId rawSession now]

/-- Each reset of the run has locked out what is older. -/
def LocksOut (calls : List Call) : Prop :=
  ∀ early reset late user old, Replaces env calls early reset late user old →
    LockedOut env early calls user.id old

/-- A reset finds no token of the user, but for its own, that is neither used nor expired. -/
def FindsNoOther (calls : List Call) : Prop :=
  ∀ early reset late user old, Replaces env calls early reset late user old →
    ∀ row ∈ (exec (step env) .empty early).tokens, row.purpose = "password_reset" →
      row.userId = some user.id → row.used = false →
      row.tokenHash ≠ env.hashToken reset.token →
      ∃ call ∈ early ++ [reset.call], row.expiresAt < call.now

/-- No later reset gives the user the old password back. -/
def NeverRestores (calls : List Call) : Prop :=
  ∀ early reset late user old, Replaces env calls early reset late user old →
    ∀ middle (again : Reset) rest (other : UserAccount), late = middle ++ again.call :: rest →
      again.Succeeds env (exec (step env) .empty (early ++ reset.call :: middle)) other →
      other.id = user.id → again.newPassword ≠ old

/-- A password that a reset replaces has the digest of no other that the run sets. -/
def CollisionFree (calls : List Call) : Prop :=
  ∀ early reset late user old, Replaces env calls early reset late user old →
    ∀ again : Reset, again.call ∈ calls →
      env.pbkdf2 old again.salt = env.pbkdf2 again.newPassword again.salt → old = again.newPassword

section Resets

variable {env} {accounts after : Accounts} {calls early late : List Call} {call : Call}
  {reset : Reset} {user : UserAccount} {userId : ℕ} {old raw : String}

theorem Reset.Succeeds.step_eq (succeeds : reset.Succeeds env accounts user) :
    step env accounts reset.call =
      ((((accounts.useTokens (AuthToken.wanted env reset.token "password_reset")).updateUser
        user.id fun row =>
          { row with
            passwordHash := env.pbkdf2 reset.newPassword reset.salt, passwordSalt := reset.salt
            updatedAt := reset.now }).revokeSessions reset.now fun row =>
          row.userId = user.id ∧ row.revoked = false).note (.passwordReset user.id)) := by
  obtain ⟨_, after, done, acts⟩ := succeeds
  have stepped : step env accounts reset.call = after := by
    change (resetPassword env _ _ _ _).after accounts = after
    unfold Method.after
    rw [done]
  rcases resetPassword_cases done with ⟨refused, _⟩ | ⟨_, row, holder, _, _, _, _, rfl⟩
  · cases refused
  have own := SessionAct.passwordReset.inj (List.singleton_inj.mp (List.append_cancel_left acts))
  rw [stepped, own]

/-! ## Sessions -/

/-- A session opened before the reset has ended with it. -/
theorem Replaces.sessions (replaces : Replaces env calls early reset late user old)
    {sessionToken : String} {at_ now : ℤ} {found : UserAccount}
    (issued : .loggedIn user.id sessionToken at_ ∈ (exec (step env) .empty early).acts) :
    resolveSession env now sessionToken (exec (step env) .empty calls) ≠ .ok (some found) := by
  intro resolves
  obtain ⟨before, since, acts⟩ := List.append_of_mem issued
  obtain ⟨more, grown⟩ : ∃ more, (exec (step env) .empty calls).acts =
      before ++ .loggedIn user.id sessionToken at_ ::
        (since ++ .passwordReset user.id :: more) := by
    rw [replaces.split, exec_append]
    refine ⟨notes (step env) (Call.noted env) (step env (exec (step env) .empty early) reset.call)
      late, (log_exec acts_step late).trans ?_⟩
    rw [replaces.succeeds.step_eq]
    simp [Accounts.note, Accounts.revokeSessions, Accounts.updateUser, Accounts.useTokens, acts]
  have tracked := tracked_exec env calls
  obtain ⟨row, member, token, _, same, _, hash, _, revoked⟩ :=
    tracked.rows.of_opening before _ _ grown trivial
  have owner : user.id = row.userId := (SessionAct.loggedIn.inj same).1
  have issuedOf : sessionToken = token := (SessionAct.loggedIn.inj same).2.1
  obtain ⟨other, among, opened, _⟩ := exists_open_of_resolves resolves
  cases List.inj_on_of_nodup_map tracked.hashes among member
    (opened.sessionTokenHash.trans (issuedOf ▸ hash.symm))
  have ended : row.revoked = true :=
    revoked.mpr ⟨.passwordReset user.id, List.mem_append_right _ List.mem_cons_self, owner.symm⟩
  rw [opened.revoked] at ended
  cases ended

/-! ## The password -/

/-- The user is an old one, and `old` is not the password. -/
structure Changed (env : AuthEnv) (userId : ℕ) (old : String) (accounts : Accounts) : Prop where
  drawn : userId < accounts.nextUserId
  refuses : ∀ row ∈ accounts.users, row.id = userId →
    verifyPassword env old row.passwordHash row.passwordSalt = false

/-- A call that sets the digest of the user, if it does, to another than that of `old`. -/
def SetsAnother (env : AuthEnv) (userId : ℕ) (old : String) (accounts : Accounts) (call : Call) :
    Prop :=
  ∀ (reset : Reset) (user : UserAccount), call = reset.call → reset.Succeeds env accounts user →
    user.id = userId → env.pbkdf2 old reset.salt ≠ env.pbkdf2 reset.newPassword reset.salt

/-- An update of a user that keeps the password. -/
theorem Changed.updated (changed : Changed env userId old accounts) {owner : ℕ}
    {change : UserAccount → UserAccount} (next : after.nextUserId = accounts.nextUserId)
    (users : after.users = accounts.users.map fun row => if row.id = owner then change row else row)
    (keeps : ∀ row, (change row).id = row.id ∧ (change row).passwordHash = row.passwordHash ∧
      (change row).passwordSalt = row.passwordSalt) : Changed env userId old after where
  drawn := next ▸ changed.drawn
  refuses row present own := by
    rw [users] at present
    obtain ⟨before, member, rfl⟩ := List.mem_map.mp present
    obtain ⟨id, hash, salt⟩ := keeps before
    split at own
    next same =>
      rw [if_pos same, hash, salt]
      exact changed.refuses before member (id.symm.trans own)
    next other =>
      rw [if_neg other]
      exact changed.refuses before member own

/-- A reset of some user's password. -/
theorem Reset.Succeeds.changed (succeeds : reset.Succeeds env accounts user)
    (drawn : userId < accounts.nextUserId)
    (before : user.id ≠ userId → Changed env userId old accounts)
    (another : user.id = userId →
      env.pbkdf2 old reset.salt ≠ env.pbkdf2 reset.newPassword reset.salt) :
    Changed env userId old (step env accounts reset.call) := by
  rw [succeeds.step_eq]
  refine ⟨drawn, fun row present own => ?_⟩
  obtain ⟨found, member, rfl⟩ := List.mem_map.mp present
  split at own
  next same =>
    rw [if_pos same]
    exact decide_eq_false (another (same.symm.trans own))
  next other =>
    rw [if_neg other]
    exact (before fun mine => other (own.trans mine.symm)).refuses found member own

/-- **One call.** -/
theorem Effect.changed (effect : Effect env accounts call after)
    (stepped : step env accounts call = after)
    (changed : Changed env userId old accounts)
    (another : SetsAnother env userId old accounts call) : Changed env userId old after := by
  cases effect with
  | nothing | emailTokenUsed | loggedOut | loggedOutAll | resetRequested | otpRequested
  | otpUsed => exact ⟨changed.drawn, changed.refuses⟩
  | registered inRange inserted returned =>
      refine ⟨Nat.lt_succ_of_lt changed.drawn, fun row present own => ?_⟩
      rcases List.mem_append.mp present with before | new
      · exact changed.refuses row before own
      · rw [List.mem_singleton.mp new, inserted.id] at own
        exact absurd own changed.drawn.ne'
  | emailVerified | loggedIn | phoneVerified | totpSetUp | totpEnabled | totpDisabled =>
      exact changed.updated rfl rfl fun _ => ⟨rfl, rfl, rfl⟩
  | @passwordReset now salt token newPassword row holder found inTime owner known accepted =>
      rw [← stepped]
      obtain ⟨committed, done⟩ := accepted
      have succeeds : Reset.Succeeds env accounts ⟨now, salt, token, newPassword⟩ holder := by
        refine ⟨(mem_of_userById known).1, committed, done, ?_⟩
        rcases resetPassword_cases done with ⟨refused, _⟩ | ⟨_, _, other, same, _, own, _, rfl⟩
        · cases refused
        · cases found.symm.trans same
          rw [Option.some.inj (owner.symm.trans own)]
          rfl
      exact succeeds.changed changed.drawn (fun _ => changed)
        (another _ holder rfl succeeds)

theorem Replaces.changed (replaces : Replaces env calls early reset late user old)
    (collisionFree : CollisionFree env calls) (never : NeverRestores env calls) :
    Changed env user.id old (exec (step env) .empty calls) := by
  have numbered : (exec (step env) .empty early).Numbered :=
    exec_inv numbered_empty numbered_step early
  have start : Changed env user.id old
      (step env (exec (step env) .empty early) reset.call) := by
    refine replaces.succeeds.changed ?_ (fun other => absurd rfl other) fun _ same => ?_
    · exact numbered.below user.id (List.mem_map_of_mem replaces.succeeds.1)
    · have within : reset.call ∈ calls := by
        rw [replaces.split]
        exact List.mem_append_right _ List.mem_cons_self
      exact replaces.differs (collisionFree early reset late user old replaces reset within same)
  have each : EachStep (step env) (SetsAnother env user.id old)
      (step env (exec (step env) .empty early) reset.call) late := by
    refine eachStep_iff.mpr fun middle call within again other same succeeds own digest => ?_
    obtain ⟨rest, rfl⟩ := within
    subst same
    have among : again.call ∈ calls := by
      rw [replaces.split]
      exact List.mem_append_right _ (List.mem_cons_of_mem _ (List.mem_append_left _
        (List.mem_append_right _ (List.mem_singleton_self _))))
    have restored := collisionFree early reset _ user old replaces again among digest
    refine never early reset _ user old replaces middle again rest other ?_ ?_ own restored.symm
    · rw [List.append_assoc, List.singleton_append]
    · rw [exec_append]
      exact succeeds
  have always := Throughout.of_inv start
    (fun _ call changed another => (effect_step _ call).changed rfl changed another) each
  rw [replaces.split, exec_append]
  exact throughout_iff.mp always late (List.prefix_refl late)

/-- The old password does not let the user in. -/
theorem Changed.not_loggedIn (changed : Changed env userId old accounts) {clock now : ℤ}
    {rawSession email : String} {totpCode deviceLabel ip userAgent : Option String}
    {answer : LoginAnswer}
    (done : login env clock now rawSession email old totpCode deviceLabel ip userAgent accounts =
      .ok (answer, after)) : after.acts ≠ accounts.acts ++ [.loggedIn userId rawSession now] := by
  intro acts
  obtain ⟨holder, known, verified, _, noted, _⟩ := login_cases done
  have same := List.singleton_inj.mp (List.append_cancel_left (noted.symm.trans acts))
  have own := (SessionAct.loggedIn.inj same).1
  have refused := changed.refuses holder (userByEmail_eq_ok known).1 own
  rw [verified] at refused
  cases refused

/-! ## The reset tokens -/

/-- The tokens that resets ask for. -/
def Accounts.resetRows (accounts : Accounts) : List AuthToken :=
  accounts.tokens.filter (·.purpose = "password_reset")

theorem mem_resetRows {row : AuthToken} :
    row ∈ accounts.resetRows ↔ row ∈ accounts.tokens ∧ row.purpose = "password_reset" := by
  rw [Accounts.resetRows, List.mem_filter, decide_eq_true_iff]

/-- The row as it is later. -/
structure AuthToken.Ages (row later : AuthToken) : Prop where
  same : later = { row with used := later.used }
  used : row.used = true → later.used = true

/-- **One call.** -/
theorem TokensMove.ages (move : TokensMove env accounts call after) {row : AuthToken}
    (member : row ∈ accounts.tokens) : ∃ later ∈ after.tokens, row.Ages later := by
  cases move with
  | stay refuses tokens => exact ⟨row, tokens ▸ member, rfl, id⟩
  | issue issues tokens =>
      rw [tokens]
      exact ⟨row, List.mem_append_left _ member, rfl, id⟩
  | use found grants tokens =>
      rw [tokens]
      refine ⟨_, List.mem_map_of_mem member, ?_⟩
      split
      · exact ⟨rfl, fun _ => rfl⟩
      · exact ⟨rfl, id⟩

theorem ages_exec {row : AuthToken} (member : row ∈ accounts.tokens) (calls : List Call) :
    ∃ later ∈ (exec (step env) accounts calls).tokens, row.Ages later := by
  induction calls generalizing accounts row with
  | nil => exact ⟨row, member, rfl, id⟩
  | cons call rest ih =>
      obtain ⟨next, present, first⟩ := (effect_step accounts call).tokens.ages member
      obtain ⟨later, among, second⟩ := ih present
      refine ⟨later, among, ?_, fun used => second.used (first.used used)⟩
      rw [second.same, first.same]

/-- **One call.** -/
theorem TokensMove.resetRows (move : TokensMove env accounts call after) :
    after.resetRows.map (·.tokenHash) = accounts.resetRows.map (·.tokenHash) ∨
      after.resetRows.map (·.tokenHash) =
        accounts.resetRows.map (·.tokenHash) ++ call.resetTokens.map env.hashToken := by
  unfold Accounts.resetRows
  cases move with
  | stay refuses tokens => exact .inl (by rw [tokens])
  | issue issues tokens =>
      rw [tokens]
      cases issues with
      | emailVerify registers => exact .inl (congrArg _ (filter_append_singleton rfl))
      | passwordReset known =>
          refine .inr ?_
          rw [List.filter_append, List.map_append]
          rfl
      | phoneOtp => exact .inl (congrArg _ (filter_append_singleton rfl))
  | use found grants tokens =>
      refine .inl ?_
      rw [tokens, List.filter_map, List.map_map]
      have hashes : ((·.tokenHash) ∘ fun row : AuthToken =>
          if call.wanted env row then { row with used := true } else row) = (·.tokenHash) := by
        funext row
        dsimp only [Function.comp_apply]
        split <;> rfl
      have purposes : ((decide <| ·.purpose = "password_reset") ∘ fun row : AuthToken =>
          if call.wanted env row then { row with used := true } else row) =
          (decide <| ·.purpose = "password_reset") := by
        funext row
        dsimp only [Function.comp_apply]
        split <;> rfl
      rw [hashes, purposes]

/-- The hashes of the reset tokens are those of tokens that were drawn. -/
theorem resetRows_sublist (env : AuthEnv) (calls : List Call) :
    ((exec (step env) .empty calls).resetRows.map (·.tokenHash)).Sublist
      ((calls.flatMap Call.resetTokens).map env.hashToken) := by
  refine exec_induction (fun calls (accounts : Accounts) =>
    (accounts.resetRows.map fun row => row.tokenHash).Sublist
    ((calls.flatMap Call.resetTokens).map env.hashToken)) ?_ ?_ calls
  · exact List.Sublist.refl []
  · intro early call within
    rw [List.flatMap_append, List.map_append, List.flatMap_singleton]
    rcases (effect_step _ call).tokens.resetRows with same | grown
    · rw [same]
      exact within.trans (List.sublist_append_left _ _)
    · rw [grown]
      exact within.append (List.Sublist.refl _)

theorem drawn_of_within (drawn : ((calls.flatMap Call.resetTokens).map env.hashToken).Nodup)
    (within : early <+: calls) : ((early.flatMap Call.resetTokens).map env.hashToken).Nodup := by
  obtain ⟨more, rfl⟩ := within
  rw [List.flatMap_append, List.map_append] at drawn
  exact drawn.of_append_left

theorem nodup_resetRows (drawn : ((calls.flatMap Call.resetTokens).map env.hashToken).Nodup) :
    ((exec (step env) .empty calls).resetRows.map (·.tokenHash)).Nodup :=
  (resetRows_sublist env calls).nodup drawn

/-- A token that was issued has its row. -/
theorem ResetIssued.row (issued : ResetIssued env calls userId raw) :
    ∃ row ∈ (exec (step env) .empty calls).tokens, row.tokenHash = env.hashToken raw ∧
      row.purpose = "password_reset" ∧ row.userId = some userId := by
  obtain ⟨_, now, email, user, ⟨early, late, rfl, rfl⟩, known, rfl⟩ := issued
  obtain ⟨row, inserted, hash, purpose, owner⟩ : ∃ row ∈ (step env (exec (step env) .empty early)
      (.requestPasswordReset now raw email)).tokens, row.tokenHash = env.hashToken raw ∧
        row.purpose = "password_reset" ∧ row.userId = some user.id := by
    change ∃ row ∈ ((requestPasswordReset env now raw email).after _).tokens, _
    unfold Method.after requestPasswordReset
    dsimp only
    rw [known]
    exact ⟨_, List.mem_append_right _ (List.mem_singleton_self _), rfl, rfl, rfl⟩
  obtain ⟨later, member, ages⟩ := ages_exec inserted late
  rw [exec_append]
  refine ⟨later, member, ?_⟩
  rw [ages.same]
  exact ⟨hash, purpose, owner⟩

/-- A row of the user comes from a request. -/
theorem Traced.resetIssued (traced : Traced env calls (exec (step env) .empty calls))
    {row : AuthToken} (member : row ∈ (exec (step env) .empty calls).tokens)
    (purpose : row.purpose = "password_reset") (owner : row.userId = some userId) :
    ∃ raw, ResetIssued env calls userId raw ∧ row.tokenHash = env.hashToken raw := by
  obtain ⟨found, call, issued, occurs, issues, same⟩ := traced row member
  rw [same] at purpose owner ⊢
  cases issues with
  | emailVerify registers =>
      have other : "email_verify" = "password_reset" := purpose
      exact absurd other (by decide)
  | @passwordReset now raw email user known =>
      exact ⟨raw, ⟨found, now, email, user, occurs, known, Option.some.inj owner⟩, rfl⟩
  | phoneOtp =>
      have other : "phone_otp" = "password_reset" := purpose
      exact absurd other (by decide)

/-- A token that was issued before the reset is used, or has expired. -/
theorem Replaces.tokens (replaces : Replaces env calls early reset late user old)
    (finds : FindsNoOther env calls) (issued : ResetIssued env early user.id raw) :
    ∃ row ∈ (exec (step env) .empty calls).resetRows, row.tokenHash = env.hashToken raw ∧
      (row.used = true ∨ ∃ call ∈ calls, row.expiresAt < call.now) := by
  obtain ⟨row, member, hash, purpose, owner⟩ := issued.row
  obtain ⟨next, present, first, spent⟩ :
      ∃ next ∈ (step env (exec (step env) .empty early) reset.call).tokens, row.Ages next ∧
        (next.used = true ∨ ∃ call ∈ early ++ [reset.call], row.expiresAt < call.now) := by
    by_cases wanted : row.wanted env reset.token "password_reset" = true
    next =>
      rw [replaces.succeeds.step_eq]
      refine ⟨_, List.mem_map_of_mem member, ?_⟩
      rw [if_pos wanted]
      exact ⟨⟨rfl, fun _ => rfl⟩, .inl rfl⟩
    next =>
      obtain ⟨next, present, first⟩ := (effect_step _ reset.call).tokens.ages member
      refine ⟨next, present, first, ?_⟩
      by_cases used : row.used = true
      next => exact .inl (first.used used)
      next =>
        have unused := Bool.eq_false_of_not_eq_true used
        refine .inr (finds early reset late user old replaces row member purpose owner unused ?_)
        exact fun own => wanted (decide_eq_true ⟨own, purpose, unused⟩)
  obtain ⟨last, among, second⟩ := ages_exec present late
  have same : last = { row with used := last.used } := by rw [second.same, first.same]
  rw [replaces.split, exec_append]
  refine ⟨last, ?_⟩
  rw [mem_resetRows, same]
  refine ⟨⟨same ▸ among, purpose⟩, hash, ?_⟩
  rcases spent with used | ⟨call, before, expired⟩
  · exact .inl (second.used used)
  · refine .inr ⟨call, ?_, expired⟩
    rw [← List.singleton_append, ← List.append_assoc]
    exact List.mem_append_left _ before

theorem Replaces.not_reset (replaces : Replaces env calls early reset late user old)
    (finds : FindsNoOther env calls)
    (drawn : ((calls.flatMap Call.resetTokens).map env.hashToken).Nodup)
    (issued : ResetIssued env early user.id raw) {now : ℤ} {salt newPassword : String}
    (later : ∀ call ∈ calls, call.now ≤ now) :
    resetPassword env now salt raw newPassword (exec (step env) .empty calls) ≠
      .ok (true, after) := by
  intro done
  obtain ⟨row, listed, hash, spent⟩ := replaces.tokens finds issued
  rcases resetPassword_cases done with ⟨refused, _⟩ | ⟨_, other, _, found, inTime, _⟩
  · cases refused
  obtain ⟨member, wanted⟩ := of_filter_eq_singleton found
  obtain ⟨own, purpose, unused⟩ := of_decide_eq_true wanted
  cases List.inj_on_of_nodup_map (nodup_resetRows drawn) (mem_resetRows.mpr ⟨member, purpose⟩)
    listed (own.trans hash.symm)
  rcases spent with used | ⟨call, among, expired⟩
  · rw [unused] at used
    cases used
  · exact absurd (later call among) (by omega)

/-! ## What stays open -/

/-- A token that is neither used nor expired resets the password. -/
theorem resetPassword_succeeds {row : AuthToken} {now : ℤ} {salt newPassword : String}
    (numbered : accounts.Numbered)
    (distinct : (accounts.resetRows.map (·.tokenHash)).Nodup) (listed : row ∈ accounts.resetRows)
    (hash : row.tokenHash = env.hashToken raw) (unused : row.used = false)
    (inTime : now ≤ row.expiresAt) (known : user ∈ accounts.users)
    (owner : row.userId = some user.id) (long : 8 ≤ newPassword.length) :
    ∃ after, resetPassword env now salt raw newPassword accounts = .ok (true, after) := by
  have selected : accounts.tokens.filter (AuthToken.wanted env raw "password_reset") = [row] := by
    have purpose := (mem_resetRows.mp listed).2
    have found : accounts.resetRows.filter (AuthToken.wanted env raw "password_reset") = [row] :=
      filter_of_nodup distinct listed (decide_eq_true ⟨hash, purpose, unused⟩) fun other wanted =>
        (of_decide_eq_true wanted).1.trans hash.symm
    rw [Accounts.resetRows, List.filter_filter] at found
    rw [← found]
    refine List.filter_congr fun other _ => ?_
    rw [eq_comm, Bool.and_eq_left_iff_imp]
    exact fun wanted => decide_eq_true (of_decide_eq_true wanted).2.1
  have opens : ¬ (env.driver.read row.expiresAt).repaired.Before now := by
    rw [env.driver.before_iff, not_lt]
    exact inTime
  have looked : scalarOneOrNone
      (accounts.tokens.filter (AuthToken.wanted env raw "password_reset")) = .ok (some row) :=
    scalarOneOrNone_eq_ok.mpr selected
  have checked : check (8 ≤ newPassword.length) (.valueError "Password min 8 characters") =
      .ok () := check_eq_ok.mpr long
  simp only [resetPassword, checked, looked, ok_bind, if_neg opens, owner, numbered.known known]
  exact ⟨_, rfl⟩

theorem Replaces.within (replaces : Replaces env calls early reset late user old) :
    early ++ [reset.call] <+: calls :=
  ⟨late, by rw [replaces.split, List.append_assoc, List.singleton_append]⟩

/-- A reset that locks out what is older has found no other token. -/
theorem Replaces.findsNoOther (replaces : Replaces env calls early reset late user old)
    (drawn : ((calls.flatMap Call.resetTokens).map env.hashToken).Nodup)
    (locksOut : LocksOut env (early ++ [reset.call])) {row : AuthToken}
    (member : row ∈ (exec (step env) .empty early).tokens)
    (purpose : row.purpose = "password_reset") (owner : row.userId = some user.id)
    (unused : row.used = false) (other : row.tokenHash ≠ env.hashToken reset.token) :
    ∃ call ∈ early ++ [reset.call], row.expiresAt < call.now := by
  by_contra none
  push Not at none
  have stays : row ∈ (exec (step env) .empty (early ++ [reset.call])).tokens := by
    rw [exec_concat, replaces.succeeds.step_eq]
    refine List.mem_map.mpr ⟨row, member, if_neg fun wanted => ?_⟩
    exact other (of_decide_eq_true wanted).1
  obtain ⟨raw, issued, hash⟩ := (traced_exec env early).resetIssued member purpose owner
  obtain ⟨holder, known, own⟩ : ∃ holder ∈
      (exec (step env) .empty (early ++ [reset.call])).users, holder.id = user.id := by
    have move : Move env (fun _ => True) (exec (step env) .empty early)
        (step env (exec (step env) .empty early) reset.call) :=
      (effect_step _ reset.call).move fun _ _ => trivial
    rw [exec_concat]
    exact List.mem_map.mp (move.users.subset (List.mem_map_of_mem replaces.succeeds.1))
  obtain ⟨after, done⟩ : ∃ after, resetPassword env row.expiresAt "" raw "password"
      (exec (step env) .empty (early ++ [reset.call])) = .ok (true, after) :=
    resetPassword_succeeds (exec_inv numbered_empty numbered_step _)
      (nodup_resetRows (drawn_of_within drawn replaces.within)) (mem_resetRows.mpr ⟨stays, purpose⟩)
      hash unused (le_refl _) known (own ▸ owner) (by decide)
  refine (locksOut early reset [] user old ?_).resetTokens raw issued _ _ _ after none done
  exact ⟨rfl, replaces.succeeds, replaces.current, replaces.differs⟩

/-- A reset of a run that goes on. -/
theorem Replaces.extend (replaces : Replaces env calls early reset late user old)
    (more : List Call) : Replaces env (calls ++ more) early reset (late ++ more) user old where
  split := by rw [replaces.split, List.append_assoc, List.cons_append]
  succeeds := replaces.succeeds
  current := replaces.current
  differs := replaces.differs

theorem FindsNoOther.of_within (finds : FindsNoOther env calls) (within : early <+: calls) :
    FindsNoOther env early := by
  obtain ⟨more, rfl⟩ := within
  exact fun first reset late user old replaces =>
    finds first reset _ user old (replaces.extend more)

theorem NeverRestores.of_within (never : NeverRestores env calls) (within : early <+: calls) :
    NeverRestores env early := by
  obtain ⟨more, rfl⟩ := within
  intro first reset late user old replaces middle again rest other same
  rcases same with rfl
  refine never first reset _ user old (replaces.extend more) middle again (rest ++ more) other ?_
  rw [List.append_assoc, List.cons_append]

theorem CollisionFree.of_within (collisionFree : CollisionFree env calls)
    (within : early <+: calls) : CollisionFree env early := by
  obtain ⟨more, rfl⟩ := within
  intro first reset late user old replaces again among
  exact collisionFree first reset _ user old (replaces.extend more) again
    (List.mem_append_left _ among)

theorem locksOut_of_findsNoOther (collisionFree : CollisionFree env calls)
    (drawn : ((calls.flatMap Call.resetTokens).map env.hashToken).Nodup)
    (finds : FindsNoOther env calls) (never : NeverRestores env calls) : LocksOut env calls := by
  intro early reset late user old replaces
  constructor
  · exact fun sessionToken at_ issued now found => replaces.sessions issued
  · exact fun raw issued now salt newPassword after later =>
      replaces.not_reset finds drawn issued later
  · intro clock now rawSession email totpCode deviceLabel ip userAgent answer after done
    exact (replaces.changed collisionFree never).not_loggedIn done

end Resets

/-- **Password reset.**  Each reset of a run locks out what is older, for good, if it finds no
other token of the user that is still good and no later one sets the old password again; and
only if it finds none. -/
theorem locksOut_prefixes (env : AuthEnv) (calls : List Call)
    (collisionFree : CollisionFree env calls)
    (drawn : ((calls.flatMap Call.resetTokens).map env.hashToken).Nodup) :
    (FindsNoOther env calls → NeverRestores env calls →
        ∀ early, early <+: calls → LocksOut env early) ∧
      ((∀ early, early <+: calls → LocksOut env early) → FindsNoOther env calls) := by
  constructor
  · intro finds never early within
    exact locksOut_of_findsNoOther (collisionFree.of_within within) (drawn_of_within drawn within)
      (finds.of_within within) (never.of_within within)
  · intro always early reset late user old replaces row member purpose owner unused other
    exact replaces.findsNoOther drawn (always _ replaces.within) member purpose owner unused other

/-- A user asks for a reset twice and sets a password with the second token. -/
def twoRequests : List Call :=
  [.register 0 "0" "salt" "verify" "a@b.c" "password" none none,
    .requestPasswordReset 10 "first" "a@b.c", .requestPasswordReset 20 "second" "a@b.c",
    .resetPassword 30 "pepper" "second" "new password"]

/-- The first token sets it again. -/
theorem not_locksOut_twoRequests : ¬ LocksOut plainEnv twoRequests := by
  intro locksOut
  have replaces : ∃ user, Replaces plainEnv twoRequests (twoRequests.take 3)
      ⟨30, "pepper", "second", "new password"⟩ [] user "password" ∧ user.id = 1 :=
    ⟨_, ⟨rfl, ⟨List.mem_cons_self, _, rfl, rfl⟩, by decide, by decide⟩, rfl⟩
  obtain ⟨user, replaces, own⟩ := replaces
  have issued : ResetIssued plainEnv (twoRequests.take 3) user.id "first" :=
    ⟨_, 10, "a@b.c", _, ⟨twoRequests.take 1, _, rfl, rfl⟩, rfl, own.symm⟩
  refine (locksOut _ _ _ _ _ replaces).resetTokens "first" issued 40 "" "password" _ ?_ rfl
  decide

/-- The user asks again after having used the first token. -/
def twoResets : List Call :=
  [.register 0 "0" "salt" "verify" "a@b.c" "password" none none,
    .login 5 5000000 "session" "a@b.c" "password" none none none none,
    .requestPasswordReset 10 "first" "a@b.c", .resetPassword 20 "pepper" "first" "new password",
    .requestPasswordReset 30 "second" "a@b.c", .resetPassword 40 "thyme" "second" "newer password"]

theorem twoResets_split {early late : List Call} {reset : Reset}
    (split : twoResets = early ++ reset.call :: late) :
    (early = twoResets.take 3 ∧ late = twoResets.drop 4 ∧
      reset = ⟨20, "pepper", "first", "new password"⟩) ∨
    (early = twoResets.take 5 ∧ late = [] ∧ reset = ⟨40, "thyme", "second", "newer password"⟩) := by
  have found : twoResets[early.length]? = some reset.call := by simp [split]
  have first : early = twoResets.take early.length := by simp [split]
  have last : late = twoResets.drop (early.length + 1) := by simp [split]
  obtain ⟨now, salt, token, newPassword⟩ := reset
  generalize early.length = n at found first last
  rcases n with _ | _ | _ | _ | _ | _ | n
  all_goals cases found
  · exact .inl ⟨first, last, rfl⟩
  · exact .inr ⟨first, last, rfl⟩

theorem locksOut_prefixes_twoResets : LocksOut plainEnv twoResets := by
  refine (locksOut_prefixes plainEnv twoResets ?_ (by decide)).1 ?_ ?_ _ (List.prefix_refl _)
  · intro early reset late user old _ again _ same
    exact (String.append_left_inj again.salt).mp same
  · intro early reset late user old replaces row member purpose _ unused other
    rcases twoResets_split replaces.split with ⟨rfl, rfl, rfl⟩ | ⟨rfl, rfl, rfl⟩
    · have only : ∀ row ∈ (exec (step plainEnv) .empty (twoResets.take 3)).tokens,
          row.purpose = "password_reset" → row.tokenHash = "first" := by decide
      exact absurd (only row member purpose) other
    · have only : ∀ row ∈ (exec (step plainEnv) .empty (twoResets.take 5)).tokens,
          row.purpose = "password_reset" → row.used = false → row.tokenHash = "second" := by decide
      exact absurd (only row member purpose unused) other
  · intro early reset late user old replaces middle again rest _ later _ _
    rcases twoResets_split replaces.split with ⟨rfl, rfl, rfl⟩ | ⟨rfl, rfl, rfl⟩
    · have users : ∀ row ∈ (exec (step plainEnv) .empty (twoResets.take 3)).users,
          verifyPassword plainEnv "newer password" row.passwordHash row.passwordSalt = false := by
        decide
      have refused := users user replaces.succeeds.1
      have own : again.newPassword = "newer password" := by
        obtain ⟨now, salt, token, newPassword⟩ := again
        rcases middle with _ | ⟨_, _ | ⟨_, _ | _⟩⟩ <;> cases later
        rfl
      rw [own]
      intro same
      rcases same with rfl
      rw [replaces.current] at refused
      cases refused
    · cases middle <;> cases later

end Aegis.Identity
