import Aegis.Identity.Router
import Aegis.Identity.Sessions

/-!
# What takes two-factor protection away

`disable_2fa` asks for both factors and `setup_2fa` for none, though it disables as well.
-/

namespace Aegis.Identity

open Aegis.Lib

variable (env : AuthEnv)

/-- The change takes the protection of the user away or replaces its secret. -/
def Exposes (before after : UserAccount) : Prop :=
  before.totpEnabled = true ∧
    (after.totpEnabled = false ∨ after.totpSecret ≠ before.totpSecret)

/-- The call disables the protection and is given both factors of the user. -/
def GivesBothFactors (user : UserAccount) (call : Call) : Prop :=
  ∃ clock now password code secret, call = .disable2fa clock now user.id password code ∧
    verifyPassword env password user.passwordHash user.passwordSalt = true ∧
    user.totpSecret = some secret ∧ verifyTotp env clock secret code = .ok true

/-- The call exposes no user whose two factors it is not given. -/
def Protects (accounts : Accounts) (call : Call) : Prop :=
  ∀ before ∈ accounts.users, ∀ after ∈ (step env accounts call).users,
    after.id = before.id → Exposes before after → GivesBothFactors env before call

/-- The call does not set up a user who is protected. -/
def SparesProtected (accounts : Accounts) (call : Call) : Prop :=
  ∀ now secret userId, call = .setup2fa now secret userId →
    ∀ user ∈ accounts.users, (user.id : ℤ) = userId → user.totpEnabled = false

section Steps

variable {env} {accounts after : Accounts} {before later user : UserAccount}

/-- The row of a user after an update. -/
theorem Accounts.Numbered.row_updated (numbered : accounts.Numbered) {userId : ℕ}
    {change : UserAccount → UserAccount} (member : before ∈ accounts.users)
    (present : later ∈ after.users) (same : later.id = before.id)
    (users : after.users = accounts.users.map fun row =>
      if row.id = userId then change row else row)
    (keeps : ∀ row, (change row).id = row.id) :
    later = if before.id = userId then change before else before := by
  rw [users] at present
  obtain ⟨old, among, rfl⟩ := List.mem_map.mp present
  have own : old.id = before.id := by
    split at same
    · rwa [keeps] at same
    · exact same
  cases List.inj_on_of_nodup_map numbered.ids among member own
  rfl

theorem Accounts.Numbered.unique (numbered : accounts.Numbered) (member : before ∈ accounts.users)
    (among : later ∈ accounts.users) (same : later.id = before.id) : later = before :=
  List.inj_on_of_nodup_map numbered.ids among member same

theorem not_exposes_self (user : UserAccount) : ¬ Exposes user user := by
  intro held
  rcases held with ⟨enabled, disabled | replaced⟩
  · rw [enabled] at disabled
    cases disabled
  · exact replaced rfl

/-- A change that leaves both columns as they are, or only enables. -/
theorem not_exposes_of_keeps (secret : later.totpSecret = user.totpSecret)
    (kept : user.totpEnabled = true → later.totpEnabled = true) : ¬ Exposes user later := by
  intro held
  rcases held with ⟨enabled, disabled | replaced⟩
  · rw [kept enabled] at disabled
    cases disabled
  · exact replaced secret

/-- The second factor of a protected user was checked against the stored secret. -/
theorem factorHolds_eq_ok {clock : ℤ} {code : String} (enabled : user.totpEnabled = true)
    (factor : factorHolds env clock user code = .ok true) :
    ∃ secret, user.totpSecret = some secret ∧ verifyTotp env clock secret code = .ok true := by
  unfold factorHolds at factor
  rw [enabled] at factor
  rw [Bool.not_true, if_neg Bool.false_ne_true] at factor
  split at factor
  · cases factor
  next secret stored =>
    exact ⟨secret, (Option.filter_eq_some_iff.mp stored).1, by simpa using factor⟩

/-- An update that exposes exposes the user whom it names. -/
theorem Accounts.Numbered.exposes_updated (numbered : accounts.Numbered) {userId : ℕ}
    {change : UserAccount → UserAccount} (member : before ∈ accounts.users)
    (present : later ∈ after.users) (same : later.id = before.id)
    (exposes : Exposes before later)
    (users : after.users = accounts.users.map fun row =>
      if row.id = userId then change row else row)
    (keeps : ∀ row, (change row).id = row.id) :
    before.id = userId ∧ Exposes before (change before) := by
  have row := numbered.row_updated member present same users keeps
  split at row
  next own => exact ⟨own, row ▸ exposes⟩
  next => exact absurd (row ▸ exposes) (not_exposes_self before)

/-- **One call** protects unless it sets up a protected user. -/
theorem Effect.protects {call : Call} (effect : Effect env accounts call after)
    (numbered : accounts.Numbered) (spares : SparesProtected accounts call)
    (member : before ∈ accounts.users) (present : later ∈ after.users)
    (same : later.id = before.id) (exposes : Exposes before later) :
    GivesBothFactors env before call := by
  cases effect with
  | nothing | emailTokenUsed | loggedOut | loggedOutAll | resetRequested | otpRequested
  | otpUsed =>
      cases numbered.unique member present same
      exact absurd exposes (not_exposes_self before)
  | @registered _ _ _ _ _ _ _ _ user inRange inserted returned =>
      rcases List.mem_append.mp present with old | new
      · cases numbered.unique member old same
        exact absurd exposes (not_exposes_self before)
      · rw [List.mem_singleton.mp new, inserted.id] at same
        have below := numbered.below before.id (List.mem_map_of_mem member)
        exact absurd same.symm below.ne
  | emailVerified | loggedIn | passwordReset | phoneVerified =>
      have change := numbered.exposes_updated member present same exposes rfl fun _ => rfl
      exact absurd change.2 (not_exposes_of_keeps rfl id)
  | totpEnabled =>
      have change := numbered.exposes_updated member present same exposes rfl fun _ => rfl
      exact absurd change.2 (not_exposes_of_keeps rfl fun _ => rfl)
  | @totpSetUp now secret userId user known =>
      have change := numbered.exposes_updated member present same exposes rfl fun _ => rfl
      have named := (mem_of_userById known).2
      rw [← change.1] at named
      have unprotected := spares now secret userId rfl before member named
      rw [exposes.1] at unprotected
      cases unprotected
  | @totpDisabled clock now userId password code user known verified factor =>
      have change := numbered.exposes_updated member present same exposes rfl fun _ => rfl
      obtain ⟨among, named⟩ := mem_of_userById known
      cases numbered.unique among member change.1
      obtain ⟨secret, stored, good⟩ := factorHolds_eq_ok exposes.1 factor
      exact ⟨clock, now, password, code, secret, by rw [named], verified, stored, good⟩

/-- A call that sets up a protected user exposes it. -/
theorem SparesProtected.of_protects {call : Call} (numbered : accounts.Numbered)
    (protects : Protects env accounts call) : SparesProtected accounts call := by
  intro now secret userId same
  rcases same with rfl
  intro user member same
  rcases same with rfl
  by_contra protected_
  have enabled := Bool.eq_true_of_not_eq_false protected_
  let exposed : UserAccount :=
    { user with totpSecret := some secret, totpEnabled := false, updatedAt := now }
  have committed : step env accounts (.setup2fa now secret user.id) =
      accounts.updateUser user.id fun row =>
        { row with totpSecret := some secret, totpEnabled := false, updatedAt := now } := by
    change (setup2fa now secret user.id).after accounts = _
    unfold Method.after setup2fa
    rw [numbered.known member]
    rfl
  have present : exposed ∈ (step env accounts (.setup2fa now secret user.id)).users := by
    rw [committed]
    exact List.mem_map.mpr ⟨user, member, if_pos rfl⟩
  obtain ⟨_, _, _, _, _, other, _⟩ :=
    protects user member exposed present rfl ⟨enabled, .inl rfl⟩
  cases other

end Steps

/-- **Two-factor protection.**  In every run, protection is only taken away, and its secret only
replaced, in a `disable_2fa` call with both factors, if and only if no call sets up a user who
is protected. -/
theorem protects_iff (env : AuthEnv) (calls : List Call) :
    EachStep (step env) (Protects env) .empty calls ↔
      EachStep (step env) SparesProtected .empty calls := by
  constructor
  · refine EachStep.of_inv numbered_empty ?_ ?_
    · exact fun accounts call numbered _ => numbered_step accounts call numbered
    · exact fun accounts call numbered protects => .of_protects numbered protects
  · refine EachStep.of_inv numbered_empty ?_ ?_
    · exact fun accounts call numbered _ => numbered_step accounts call numbered
    · intro accounts call numbered spares before member later present same exposes
      exact (effect_step accounts call).protects numbered spares member present same exposes

/-- A user registers, logs in, turns the protection on, and sets it up again. -/
def setUpAgain : List Call :=
  [.register 0 "0" "salt" "verify" "a@b.c" "password" none none,
    .login 5 5000000 "session" "a@b.c" "password" none none none none,
    .setup2fa 6000000 "first" 1, .enable2fa 7 7000000 1 "000000", .setup2fa 8000000 "second" 1]

/-- The last call takes the protection away, with no factor given; so does the endpoint, which
is given a session token and no more. -/
theorem not_protects_setUpAgain :
    ¬ EachStep (step plainEnv) (Protects plainEnv) .empty setUpAgain ∧
    let accounts := exec (step plainEnv) .empty (setUpAgain.take 4)
    let exposed := ((totpSetup plainEnv 8000000 8000000 "second"
      (some "bearer session")).run accounts).2
    accounts.users.map (·.totpEnabled) = [true] ∧
      exposed.users.map (·.totpEnabled) = [false] := by
  refine ⟨fun each => ?_, by decide, by decide⟩
  have protects := eachStep_iff.mp each (setUpAgain.take 4) (.setup2fa 8000000 "second" 1)
    (List.prefix_refl _)
  have spares := SparesProtected.of_protects (exec_inv numbered_empty numbered_step _) protects
  obtain ⟨user, member, own, enabled⟩ : ∃ user ∈
      (exec (step plainEnv) .empty (setUpAgain.take 4)).users,
        (user.id : ℤ) = 1 ∧ user.totpEnabled = true := by decide
  have off := spares 8000000 "second" 1 rfl user member own
  rw [enabled] at off
  cases off

end Aegis.Identity
