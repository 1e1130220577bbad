import Aegis.Lib.Ledger
import Aegis.Lib.Run
import Aegis.Identity.Effects

/-!
# Which sessions are open

A login opens a session; a logout, a logout of all devices and a password reset revoke rows of
`auth_sessions`, each picked out in its own way.  `Move` is what one method can do to the users
and the sessions, and `Tracked` what holds between the tables and the history in every run.
-/

namespace Aegis.Identity

open Aegis.Lib Aegis.Subscriptions

/-! ## What a method can do -/

variable (env : AuthEnv)

/-- The act ends the session. -/
def SessionAct.Ends (row : AuthSession) : SessionAct → Prop
  | loggedIn _ _ _ => False
  | loggedOut sessionToken => row.sessionTokenHash = env.hashToken sessionToken
  | loggedOutAll userId => (row.userId : ℤ) = userId
  | passwordReset userId => row.userId = userId

/-- The act is not a login, and names no other than a drawn token. -/
def SessionAct.Leaves (Drawn : String → Prop) : SessionAct → Prop
  | loggedIn _ _ _ => False
  | loggedOut sessionToken => Drawn sessionToken
  | loggedOutAll _ | passwordReset _ => True

/-- The change of a session that the act is about. -/
structure Revised (act : SessionAct) (row after : AuthSession) : Prop where
  sessionTokenHash : after.sessionTokenHash = row.sessionTokenHash
  userId : after.userId = row.userId
  expiresAt : after.expiresAt = row.expiresAt
  revoked : after.revoked = true ↔ row.revoked = true ∨ act.Ends env row

/-- The ids of the users. -/
def Accounts.userIds (accounts : Accounts) : List ℕ := accounts.users.map (·.id)

inductive UsersMove (accounts after : Accounts) : Prop where
  | stay (ids : after.userIds = accounts.userIds) (next : after.nextUserId = accounts.nextUserId)
  | add (ids : after.userIds = accounts.userIds ++ [accounts.nextUserId])
      (next : after.nextUserId = accounts.nextUserId + 1)
      (inRange : accounts.nextUserId < 2147483648)

inductive SessionsMove (Drawn : String → Prop) (accounts after : Accounts) : Prop where
  | stay (sessions : after.sessions = accounts.sessions) (acts : after.acts = accounts.acts)
  | enter {session : AuthSession} {rawSession : String} {now : ℤ}
      (drawn : Drawn rawSession) (owner : session.userId ∈ accounts.userIds)
      (hash : session.sessionTokenHash = env.hashToken rawSession)
      (fresh : ∀ row ∈ accounts.sessions, row.sessionTokenHash ≠ session.sessionTokenHash)
      (expiry : session.expiresAt = now + days sessionDays) (live : session.revoked = false)
      (sessions : after.sessions = accounts.sessions ++ [session])
      (acts : after.acts = accounts.acts ++ [.loggedIn session.userId rawSession now])
  | leave {change : AuthSession → AuthSession} {act : SessionAct}
      (revises : ∀ row ∈ accounts.sessions, Revised env act row (change row))
      (leaves : act.Leaves Drawn)
      (sessions : after.sessions = accounts.sessions.map change)
      (acts : after.acts = accounts.acts ++ [act])

/-- What a method can do to the users and to the sessions. -/
structure Move (Drawn : String → Prop) (accounts after : Accounts) : Prop where
  users : UsersMove accounts after
  sessions : SessionsMove env Drawn accounts after

section Moves

variable {env} {Drawn : String → Prop} {accounts after : Accounts}

theorem Move.refl (accounts : Accounts) : Move env Drawn accounts accounts :=
  ⟨.stay rfl rfl, .stay rfl rfl⟩

@[simp]
theorem userIds_updateUser (userId : ℕ) {change : UserAccount → UserAccount}
    (keeps : ∀ row, (change row).id = row.id) :
    (accounts.updateUser userId change).userIds = accounts.userIds := by
  rw [Accounts.userIds, Accounts.userIds, Accounts.updateUser, List.map_map]
  refine List.map_congr_left fun row _ => ?_
  dsimp only [Function.comp_apply]
  split
  · exact keeps row
  · rfl

/-- A method that changes neither ids nor sessions. -/
theorem Move.tend (ids : after.userIds = accounts.userIds)
    (next : after.nextUserId = accounts.nextUserId) (sessions : after.sessions = accounts.sessions)
    (acts : after.acts = accounts.acts) : Move env Drawn accounts after :=
  ⟨.stay ids next, .stay sessions acts⟩

theorem Move.updateUser {used : Accounts} {userId : ℕ} {change : UserAccount → UserAccount}
    (keeps : ∀ row, (change row).id = row.id) (users : used.userIds = accounts.userIds)
    (next : used.nextUserId = accounts.nextUserId) (sessions : used.sessions = accounts.sessions)
    (acts : used.acts = accounts.acts) : Move env Drawn accounts (used.updateUser userId change) :=
  .tend ((userIds_updateUser userId keeps).trans users) next sessions acts

/-- A revocation of the sessions that the act ends. -/
theorem SessionsMove.revoke {changed : Accounts} {now : ℤ} {ending : AuthSession → Bool}
    {act : SessionAct} (ends : ∀ row ∈ accounts.sessions, row.revoked = false →
      (ending row = true ↔ act.Ends env row))
    (only : ∀ row ∈ accounts.sessions, ending row = true → act.Ends env row)
    (leaves : act.Leaves Drawn)
    (sessions : changed.sessions = accounts.sessions) (acts : changed.acts = accounts.acts) :
    SessionsMove env Drawn accounts ((changed.revokeSessions now ending).note act) := by
  have revoked : ((changed.revokeSessions now ending).note act).sessions =
      accounts.sessions.map fun row =>
        if ending row then { row with revoked := true, revokedAt := some now } else row :=
    congrArg (List.map _) sessions
  refine .leave (fun row member => ?_) leaves revoked (congrArg (· ++ [act]) acts)
  split
  next ended => exact ⟨rfl, rfl, rfl, by simp [only row member ended]⟩
  next kept =>
    refine ⟨rfl, rfl, rfl, ⟨.inl, ?_⟩⟩
    intro either
    rcases either with revoked | ended
    · exact revoked
    · by_contra live
      exact kept ((ends row member (Bool.eq_false_of_not_eq_true live)).mpr ended)

/-- The row that a logout has found is the one with the hash. -/
theorem found_iff_hash {sessionToken : String} {found : Option AuthSession} {row : AuthSession}
    (selected : accounts.sessionByToken env sessionToken false = .ok found)
    (member : row ∈ accounts.sessions) :
    some row = found ↔ row.sessionTokenHash = env.hashToken sessionToken := by
  have rows := scalarOneOrNone_eq_ok.mp selected
  constructor
  · intro chosen
    have listed := Option.mem_toList.mpr chosen.symm
    rw [← rows] at listed
    exact (of_decide_eq_true (List.mem_filter.mp listed).2).1
  · intro hash
    have listed : row ∈ found.toList := by
      rw [← rows]
      exact List.mem_filter.mpr ⟨member, decide_eq_true ⟨hash, nofun⟩⟩
    exact (Option.mem_toList.mp listed).symm

/-- **One call.** -/
theorem Effect.move {call : Call} (effect : Effect env accounts call after)
    (drawn : ∀ token ∈ call.sessionTokens, Drawn token) : Move env Drawn accounts after := by
  cases effect with
  | nothing => exact .refl accounts
  | registered inRange inserted returned =>
      refine ⟨.add ?_ rfl inRange, .stay rfl rfl⟩
      simp [Accounts.userIds, Accounts.addToken, inserted.id]
  | @loggedIn _ _ rawSession _ _ _ _ _ _ user session known verified opened fresh =>
      refine ⟨.stay (userIds_updateUser user.id fun _ => rfl) rfl, ?_⟩
      refine .enter (drawn rawSession List.mem_cons_self) ?_ opened.sessionTokenHash fresh
        opened.expiresAt opened.revoked rfl ?_
      · rw [opened.userId]
        exact List.mem_map_of_mem (userByEmail_eq_ok known).1
      · rw [opened.userId]
        rfl
  | @loggedOut _ sessionToken _ found =>
      refine ⟨.stay rfl rfl, .revoke ?_ ?_ (drawn sessionToken List.mem_cons_self) rfl rfl⟩
      · intro row member _
        rw [decide_eq_true_iff, found_iff_hash found member]
        rfl
      · exact fun row member ended => (found_iff_hash found member).mp (of_decide_eq_true ended)
  | loggedOutAll =>
      refine ⟨.stay rfl rfl, .revoke ?_ ?_ trivial rfl rfl⟩
      · intro row _ live
        simp [live, SessionAct.Ends]
      · exact fun row _ ended => (of_decide_eq_true ended).1
  | @passwordReset _ _ _ _ _ user found inTime owner known accepted =>
      refine ⟨.stay (userIds_updateUser user.id fun _ => rfl) rfl, .revoke ?_ ?_ trivial rfl rfl⟩
      · intro row _ live
        simp [live, SessionAct.Ends]
      · exact fun row _ ended => (of_decide_eq_true ended).1
  | emailTokenUsed | resetRequested | otpRequested | otpUsed => exact .tend rfl rfl rfl rfl
  | emailVerified | phoneVerified | totpSetUp | totpEnabled | totpDisabled =>
      exact .updateUser (fun _ => rfl) rfl rfl rfl rfl

end Moves

/-! ## The tables and the history -/

def SessionAct.Enters : SessionAct → Prop
  | loggedIn _ _ _ => True
  | loggedOut _ | loggedOutAll _ | passwordReset _ => False

/-- The session is the one that a login opened, revoked if an act since has ended it. -/
def RecordsSession (Drawn : String → Prop) (row : AuthSession) (act : SessionAct)
    (since : List SessionAct) : Prop :=
  ∃ sessionToken now, act = .loggedIn row.userId sessionToken now ∧ Drawn sessionToken ∧
    row.sessionTokenHash = env.hashToken sessionToken ∧
    row.expiresAt = now + days sessionDays ∧
    (row.revoked = true ↔ ∃ act ∈ since, act.Ends env row)

/-- The users' ids, which the sequence has drawn one after another. -/
structure Accounts.Numbered (accounts : Accounts) : Prop where
  ids : accounts.userIds.Nodup
  below : ∀ userId ∈ accounts.userIds, userId < accounts.nextUserId
  inRange : ∀ userId ∈ accounts.userIds, userId < 2147483648

structure Tracked (Drawn : String → Prop) (accounts : Accounts) : Prop where
  users : accounts.Numbered
  owned : ∀ row ∈ accounts.sessions, row.userId ∈ accounts.userIds
  hashes : (accounts.sessions.map (·.sessionTokenHash)).Nodup
  rows : Tracks SessionAct.Enters (RecordsSession env Drawn) accounts.sessions accounts.acts
  named : ∀ sessionToken, .loggedOut sessionToken ∈ accounts.acts → Drawn sessionToken

section Runs

variable {env} {Drawn : String → Prop} {accounts after : Accounts} {row : AuthSession}

theorem Revised.ends_iff {act other : SessionAct} {changed : AuthSession}
    (revised : Revised env act row changed) : other.Ends env changed ↔ other.Ends env row := by
  cases other with
  | loggedIn _ _ _ => exact Iff.rfl
  | loggedOut _ => simp only [SessionAct.Ends, revised.sessionTokenHash]
  | loggedOutAll _ => simp only [SessionAct.Ends, revised.userId]
  | passwordReset _ => simp only [SessionAct.Ends, revised.userId]

theorem RecordsSession.revise {first act : SessionAct} {since : List SessionAct}
    {changed : AuthSession} (records : RecordsSession env Drawn row first since)
    (revised : Revised env act row changed) :
    RecordsSession env Drawn changed first (since ++ [act]) := by
  obtain ⟨sessionToken, now, rfl, drawn, hash, expiry, revoked⟩ := records
  refine ⟨sessionToken, now, by rw [revised.userId], drawn, revised.sessionTokenHash.trans hash,
    revised.expiresAt.trans expiry, ?_⟩
  simp only [revised.revoked, revoked, revised.ends_iff, List.mem_append, List.mem_singleton,
    or_and_right, exists_or, exists_eq_left]

/-- A session that a login leaves alone. -/
theorem revised_loggedIn (row : AuthSession) (userId : ℕ) (sessionToken : String) (now : ℤ) :
    Revised env (.loggedIn userId sessionToken now) row row :=
  ⟨rfl, rfl, rfl, (or_iff_left id).symm⟩

theorem UsersMove.subset (move : UsersMove accounts after) {userId : ℕ}
    (member : userId ∈ accounts.userIds) : userId ∈ after.userIds := by
  cases move with
  | stay ids next => rwa [ids]
  | add ids next inRange =>
      rw [ids]
      exact List.mem_append_left _ member

theorem UsersMove.numbered (move : UsersMove accounts after) (numbered : accounts.Numbered) :
    after.Numbered := by
  cases move with
  | stay ids next => exact ⟨ids ▸ numbered.ids, ids ▸ next ▸ numbered.below, ids ▸ numbered.inRange⟩
  | add ids next inRange =>
      refine ⟨?_, ?_, ?_⟩
      · rw [ids]
        refine List.nodup_append.mpr ⟨numbered.ids, List.nodup_singleton _, ?_⟩
        intro userId old other new same
        exact (numbered.below userId old).ne (same.trans (List.mem_singleton.mp new))
      · rw [ids, next]
        intro userId member
        rcases List.mem_append.mp member with old | new
        · exact Nat.lt_succ_of_lt (numbered.below userId old)
        · rw [List.mem_singleton.mp new]
          exact Nat.lt_succ_self _
      · rw [ids]
        intro userId member
        rcases List.mem_append.mp member with old | new
        · exact numbered.inRange userId old
        · rwa [List.mem_singleton.mp new]

/-- **One call** keeps the tables in step with the history. -/
theorem Move.tracked (move : Move env Drawn accounts after) (tracked : Tracked env Drawn accounts) :
    Tracked env Drawn after := by
  have users := move.users.numbered tracked.users
  have keeps (row : AuthSession) (member : row ∈ accounts.sessions) : row.userId ∈ after.userIds :=
    move.users.subset (tracked.owned row member)
  cases move.sessions with
  | stay sessions acts =>
      exact ⟨users, sessions ▸ keeps, sessions ▸ tracked.hashes, sessions ▸ acts ▸ tracked.rows,
        acts ▸ tracked.named⟩
  | @enter session rawSession now drawn owner hash fresh expiry live sessions acts =>
      refine ⟨users, ?_, ?_, ?_, ?_⟩
      · rw [sessions]
        exact List.forall_mem_append.mpr
          ⟨keeps, List.forall_mem_singleton.mpr (move.users.subset owner)⟩
      · rw [sessions]
        exact nodup_map_append tracked.hashes fresh
      · rw [sessions, acts]
        refine tracked.rows.insert ?_ ?_
        · exact ⟨rawSession, now, rfl, drawn, hash, expiry, by simp [live]⟩
        · exact fun old _ _ records => records.revise (revised_loggedIn old _ rawSession now)
      · rw [acts]
        intro sessionToken among
        rcases List.mem_append.mp among with old | new
        · exact tracked.named sessionToken old
        · cases List.mem_singleton.mp new
  | @leave change act revises leaves sessions acts =>
      refine ⟨users, ?_, ?_, ?_, ?_⟩
      · rw [sessions]
        intro row member
        obtain ⟨old, among, rfl⟩ := List.mem_map.mp member
        rw [(revises old among).userId]
        exact keeps old among
      · rw [sessions]
        exact nodup_map_map tracked.hashes fun row member => (revises row member).sessionTokenHash
      · rw [sessions, acts]
        refine tracked.rows.revise ?_ ?_
        · exact fun old member _ _ records => records.revise (revises old member)
        · intro deed among enters
          rw [List.mem_singleton.mp among] at enters
          cases act with
          | loggedIn _ _ _ => exact leaves
          | loggedOut _ | loggedOutAll _ | passwordReset _ => exact enters
      · rw [acts]
        intro sessionToken among
        rcases List.mem_append.mp among with old | new
        · exact tracked.named sessionToken old
        · cases List.mem_singleton.mp new
          exact leaves

theorem numbered_empty : Accounts.empty.Numbered where
  ids := List.nodup_nil
  below := fun _ absent => absurd absent List.not_mem_nil
  inRange := fun _ absent => absurd absent List.not_mem_nil

theorem numbered_step (accounts : Accounts) (call : Call) (numbered : accounts.Numbered) :
    (step env accounts call).Numbered := by
  have move : Move env (fun _ => True) accounts (step env accounts call) :=
    (effect_step accounts call).move fun _ _ => trivial
  exact move.users.numbered numbered

theorem tracked_empty : Tracked env Drawn .empty where
  users := numbered_empty
  owned := fun _ absent => absurd absent List.not_mem_nil
  hashes := List.nodup_nil
  rows := .empty
  named := fun _ absent => absurd absent List.not_mem_nil

theorem tracked_exec (env : AuthEnv) (calls : List Call) :
    Tracked env (fun token => ∃ call ∈ calls, token ∈ call.sessionTokens)
      (exec (step env) .empty calls) :=
  exec_inv_of_mem tracked_empty fun call among _ tracked =>
    ((effect_step _ call).move fun _ token => ⟨call, among, token⟩).tracked tracked

/-! ## What `resolve_session` returns -/

variable {now : ℤ} {sessionToken : String} {user : UserAccount}

/-- The session is one that `resolve_session` answers with its user. -/
structure AuthSession.Open (row : AuthSession) (hash : String) (now : ℤ) : Prop where
  sessionTokenHash : row.sessionTokenHash = hash
  revoked : row.revoked = false
  expiresAt : now ≤ row.expiresAt

theorem exists_open_of_resolves
    (resolves : resolveSession env now sessionToken accounts = .ok (some user)) :
    ∃ row ∈ accounts.sessions, row.Open (env.hashToken sessionToken) now ∧
      user.id = row.userId := by
  obtain ⟨found, selected, resolves⟩ := bind_eq_ok.mp resolves
  cases found with
  | none => cases resolves
  | some row =>
      dsimp only at resolves
      split at resolves
      · cases resolves
      next inTime =>
      have listed : row ∈ accounts.sessions.filter fun row =>
          row.sessionTokenHash = env.hashToken sessionToken ∧ (true → row.revoked = false) := by
        rw [scalarOneOrNone_eq_ok.mp selected]
        exact List.mem_singleton_self row
      obtain ⟨member, wanted⟩ := List.mem_filter.mp listed
      obtain ⟨hash, live⟩ := of_decide_eq_true wanted
      rw [env.driver.before_iff] at inTime
      have owner : user ∈ accounts.users.filter (·.id = (row.userId : ℤ)) := by
        rw [(userById_eq_ok.mp resolves).2]
        exact List.mem_singleton_self user
      have own := of_decide_eq_true (List.mem_filter.mp owner).2
      exact ⟨row, member, ⟨hash, live rfl, not_lt.mp inTime⟩, Int.ofNat_inj.mp own⟩

theorem Accounts.Numbered.known (numbered : accounts.Numbered) (member : user ∈ accounts.users) :
    accounts.userById user.id = .ok (some user) := by
  have bounded := numbered.inRange user.id (List.mem_map_of_mem member)
  refine userById_eq_ok.mpr ⟨⟨by omega, by omega⟩, filter_of_nodup numbered.ids member ?_ ?_⟩
  · exact decide_eq_true rfl
  · exact fun other wanted => Int.ofNat_inj.mp (of_decide_eq_true wanted)

theorem Tracked.resolves (tracked : Tracked env Drawn accounts) (member : row ∈ accounts.sessions)
    (opened : row.Open (env.hashToken sessionToken) now) :
    ∃ user, resolveSession env now sessionToken accounts = .ok (some user) ∧
      user.id = row.userId := by
  obtain ⟨user, among, own⟩ := List.mem_map.mp (tracked.owned row member)
  have selected : accounts.sessionByToken env sessionToken true = .ok (some row) := by
    refine scalarOneOrNone_eq_ok.mpr (filter_of_nodup tracked.hashes member ?_ ?_)
    · exact decide_eq_true ⟨opened.sessionTokenHash, fun _ => opened.revoked⟩
    · exact fun other wanted => (of_decide_eq_true wanted).1.trans opened.sessionTokenHash.symm
  have owner : accounts.userById row.userId = .ok (some user) := own ▸ tracked.users.known among
  refine ⟨user, bind_eq_ok.mpr ⟨some row, selected, ?_⟩, own⟩
  dsimp only
  rw [if_neg, owner]
  rw [env.driver.before_iff, not_lt]
  exact opened.expiresAt

/-- Which sessions are open by the history. -/
theorem resolves_iff_acts (env : AuthEnv) (calls : List Call) (sessionToken : String)
    (injective : ∀ call ∈ calls, ∀ other ∈ call.sessionTokens,
      env.hashToken other = env.hashToken sessionToken → other = sessionToken)
    (now : ℤ) (userId : ℕ) :
    let accounts := exec (step env) .empty calls
    (∃ user, resolveSession env now sessionToken accounts = .ok (some user) ∧ user.id = userId) ↔
      ∃ before since at_, accounts.acts = before ++ .loggedIn userId sessionToken at_ :: since ∧
        now ≤ at_ + days sessionDays ∧ .loggedOut sessionToken ∉ since ∧
          .loggedOutAll (userId : ℤ) ∉ since ∧ .passwordReset userId ∉ since := by
  intro accounts
  have tracked := tracked_exec env calls
  constructor
  · intro held
    rcases held with ⟨user, resolves, rfl⟩
    obtain ⟨row, member, opened, own⟩ := exists_open_of_resolves resolves
    obtain ⟨before, _, since, acts, token, at_, rfl, ⟨call, among, drawn⟩, hash, expiry, revoked⟩ :=
      tracked.rows.of_row row member
    cases injective call among token drawn (hash.symm.trans opened.sessionTokenHash)
    have live (act : SessionAct) (later : act ∈ since) : ¬ act.Ends env row := by
      intro ends
      have ended := revoked.mpr ⟨act, later, ends⟩
      rw [opened.revoked] at ended
      cases ended
    refine ⟨before, since, at_, own ▸ acts, expiry ▸ opened.expiresAt, ?_, ?_, ?_⟩
    · exact fun later => live _ later opened.sessionTokenHash
    · exact fun later => live _ later (congrArg Int.ofNat own.symm)
    · exact fun later => live _ later own.symm
  · intro held
    rcases held with ⟨before, since, at_, acts, inTime, kept, keptAll, keptPassword⟩
    obtain ⟨row, member, token, _, same, _, hash, expiry, revoked⟩ :=
      tracked.rows.of_opening before _ since acts trivial
    cases same
    have live : ¬ ∃ act ∈ since, act.Ends env row := by
      intro held
      rcases held with ⟨act, later, ends⟩
      cases act with
      | loggedIn _ _ _ => exact ends
      | loggedOut other =>
          obtain ⟨call, among, drawn⟩ := tracked.named other
            (acts ▸ List.mem_append_right _ (List.mem_cons_of_mem _ later))
          cases injective call among other drawn (ends.symm.trans hash)
          exact kept later
      | loggedOutAll other =>
          cases ends
          exact keptAll later
      | passwordReset other =>
          cases ends
          exact keptPassword later
    rw [← revoked] at live
    exact tracked.resolves member ⟨hash, Bool.eq_false_of_not_eq_true live, expiry ▸ inTime⟩

end Runs

/-! ## What the calls say -/

/-- The call is a login of the user at `at_`, and has returned the token. -/
def Call.LogsIn (accounts : Accounts) (userId : ℕ) (sessionToken : String) (at_ : ℤ) : Call → Prop
  | login clock now rawSession email password totpCode deviceLabel ip userAgent => now = at_ ∧
      ∃ answer after user, Identity.login env clock now rawSession email password totpCode
        deviceLabel ip userAgent accounts = .ok (answer, after) ∧
          answer.sessionToken = sessionToken ∧
            accounts.userByEmail (normalizeEmail env email) = .ok (some user) ∧ user.id = userId
  | _ => False

/-- The call is a reset of the user's password, and has returned `True`. -/
def Call.Resets (accounts : Accounts) (userId : ℕ) : Call → Prop
  | resetPassword now salt token newPassword => ∃ after row,
      Identity.resetPassword env now salt token newPassword accounts = .ok (true, after) ∧
        accounts.tokens.filter (AuthToken.wanted env token "password_reset") = [row] ∧
          row.userId = some userId
  | _ => False

/-- What the call has done to the sessions, by its answer. -/
def Call.noted (accounts : Accounts) : Call → Option SessionAct
  | login clock now rawSession email password totpCode deviceLabel ip userAgent =>
      match Identity.login env clock now rawSession email password totpCode deviceLabel ip
          userAgent accounts, accounts.userByEmail (normalizeEmail env email) with
      | .ok (answer, _), .ok (some user) => some (.loggedIn user.id answer.sessionToken now)
      | _, _ => none
  | logout now sessionToken =>
      (Identity.logout env now sessionToken accounts).toOption.map fun _ => .loggedOut sessionToken
  | logoutAll now userId =>
      (Identity.logoutAll now userId accounts).toOption.map fun _ => .loggedOutAll userId
  | resetPassword now salt token newPassword =>
      match Identity.resetPassword env now salt token newPassword accounts,
        accounts.tokens.filter (AuthToken.wanted env token "password_reset") with
      | .ok (true, _), [row] => row.userId.map .passwordReset
      | _, _ => none
  | _ => none

/-- The call is of a method that leaves the sessions alone. -/
def Call.Quiet : Call → Prop
  | login .. | logout .. | logoutAll .. | resetPassword .. => False
  | _ => True

section Calls

variable {env} {accounts after : Accounts} {call : Call} {userId : ℕ} {sessionToken : String}
  {at_ now : ℤ}

theorem Effect.acts (effect : Effect env accounts call after) (quiet : call.Quiet) :
    after.acts = accounts.acts := by
  cases effect with
  | loggedIn | loggedOut | loggedOutAll | passwordReset => exact quiet.elim
  | nothing | registered | emailTokenUsed | emailVerified | resetRequested | otpRequested | otpUsed
  | phoneVerified | totpSetUp | totpEnabled | totpDisabled => rfl

theorem acts_quiet (quiet : call.Quiet) :
    (step env accounts call).acts = accounts.acts ++ (call.noted env accounts).toList := by
  have silent : call.noted env accounts = none := by
    cases call <;> first | rfl | exact quiet.elim
  rw [silent, (effect_step accounts call).acts quiet]
  exact (List.append_nil _).symm

/-- **One call** enters in the history what its answer says. -/
theorem acts_step (accounts : Accounts) (call : Call) :
    (step env accounts call).acts = accounts.acts ++ (call.noted env accounts).toList := by
  cases call with
  | login clock now rawSession email password totpCode deviceLabel ip userAgent =>
      dsimp only [step, Method.after, Call.noted]
      cases done : login env clock now rawSession email password totpCode deviceLabel ip userAgent
        accounts with
      | error e => exact (List.append_nil _).symm
      | ok result =>
          obtain ⟨answer, committed⟩ := result
          obtain ⟨user, known, _, returned, acts, _⟩ := login_cases done
          rw [known]
          dsimp only
          rw [returned]
          exact acts
  | logout now sessionToken =>
      dsimp only [step, Method.after, Call.noted]
      cases done : logout env now sessionToken accounts with
      | error e => exact (List.append_nil _).symm
      | ok result =>
          obtain ⟨row, _, ended⟩ := bind_eq_ok.mp done
          cases ended
          rfl
  | logoutAll now userId =>
      dsimp only [step, Method.after, Call.noted]
      cases done : logoutAll now userId accounts with
      | error e => exact (List.append_nil _).symm
      | ok result =>
          obtain ⟨_, _, ended⟩ := bind_eq_ok.mp done
          cases ended
          rfl
  | resetPassword now salt token newPassword =>
      dsimp only [step, Method.after, Call.noted]
      cases done : resetPassword env now salt token newPassword accounts with
      | error e => exact (List.append_nil _).symm
      | ok result =>
          obtain ⟨reset, committed⟩ := result
          rcases resetPassword_cases done with
            ⟨rfl, rfl⟩ | ⟨rfl, row, user, found, _, owner, _, rfl⟩
          · exact (List.append_nil _).symm
          · rw [found]
            dsimp only
            rw [owner]
            rfl
  | register _ _ _ _ _ _ _ _ | verifyEmail _ _ | requestPasswordReset _ _ _
  | requestPhoneOtp _ _ _ | verifyPhoneOtp _ _ _ _ | setup2fa _ _ _ | enable2fa _ _ _ _
  | disable2fa _ _ _ _ _ => exact acts_quiet trivial

theorem acts_exec (calls : List Call) : (exec (step env) .empty calls).acts =
    notes (step env) (Call.noted env) .empty calls :=
  log_exec acts_step calls

theorem noted_loggedIn : call.noted env accounts = some (.loggedIn userId sessionToken at_) ↔
    call.LogsIn env accounts userId sessionToken at_ := by
  cases call with
  | login clock now rawSession email password totpCode deviceLabel ip userAgent =>
      dsimp only [Call.noted, Call.LogsIn]
      constructor
      · split
        next answer committed user done known =>
          intro same
          obtain ⟨rfl, rfl, rfl⟩ := SessionAct.loggedIn.inj (Option.some.inj same)
          exact ⟨rfl, answer, committed, user, done, rfl, known, rfl⟩
        next => exact nofun
      · intro held
        rcases held with ⟨rfl, answer, committed, user, done, rfl, known, rfl⟩
        rw [done, known]
  | resetPassword now salt token newPassword =>
      dsimp only [Call.noted, Call.LogsIn]
      split <;> simp
  | _ => simp [Call.noted, Call.LogsIn]

theorem noted_passwordReset : call.noted env accounts = some (.passwordReset userId) ↔
    call.Resets env accounts userId := by
  cases call with
  | resetPassword now salt token newPassword =>
      dsimp only [Call.noted, Call.Resets]
      constructor
      · split
        next committed row done found =>
          intro same
          obtain ⟨owner, own, reset⟩ := Option.map_eq_some_iff.mp same
          cases reset
          exact ⟨committed, row, done, found, own⟩
        next => exact nofun
      · intro held
        rcases held with ⟨committed, row, done, found, own⟩
        rw [done, found]
        dsimp only
        rw [own]
        rfl
  | login clock now rawSession email password totpCode deviceLabel ip userAgent =>
      dsimp only [Call.noted, Call.Resets]
      split <;> simp
  | _ => simp [Call.noted, Call.Resets]

theorem noted_loggedOut (noted : call.noted env accounts = some (.loggedOut sessionToken)) :
    ∃ moment, call = .logout moment sessionToken := by
  cases call with
  | logout moment other =>
      obtain ⟨_, _, same⟩ := Option.map_eq_some_iff.mp noted
      cases same
      exact ⟨moment, rfl⟩
  | login _ _ _ _ _ _ _ _ _ | resetPassword _ _ _ _ =>
      revert noted
      dsimp only [Call.noted]
      split <;> simp
  | _ => simp [Call.noted] at noted

theorem noted_loggedOutAll {ended : ℤ}
    (noted : call.noted env accounts = some (.loggedOutAll ended)) :
    ∃ moment, call = .logoutAll moment ended := by
  cases call with
  | logoutAll moment other =>
      obtain ⟨_, _, same⟩ := Option.map_eq_some_iff.mp noted
      cases same
      exact ⟨moment, rfl⟩
  | login _ _ _ _ _ _ _ _ _ | resetPassword _ _ _ _ =>
      revert noted
      dsimp only [Call.noted]
      split <;> simp
  | _ => simp [Call.noted] at noted

/-- A logout does not fail. -/
theorem Tracked.noted_logout {Drawn : String → Prop} (tracked : Tracked env Drawn accounts)
    (moment : ℤ) :
    (Call.logout moment sessionToken).noted env accounts = some (.loggedOut sessionToken) := by
  obtain ⟨row, found⟩ : ∃ row, accounts.sessionByToken env sessionToken false = .ok row := by
    by_cases there : ∃ row ∈ accounts.sessions, row.sessionTokenHash = env.hashToken sessionToken
    · obtain ⟨row, member, hash⟩ := there
      refine ⟨some row, scalarOneOrNone_eq_ok.mpr (filter_of_nodup tracked.hashes member ?_ ?_)⟩
      · exact decide_eq_true ⟨hash, nofun⟩
      · exact fun other wanted => (of_decide_eq_true wanted).1.trans hash.symm
    · refine ⟨none, scalarOneOrNone_eq_ok.mpr (List.filter_eq_nil_iff.mpr ?_)⟩
      exact fun row member wanted => there ⟨row, member, (of_decide_eq_true wanted).1⟩
  dsimp only [Call.noted, logout]
  rw [found]
  rfl

/-- Nor does a logout of all sessions of a user. -/
theorem Accounts.Numbered.noted_logoutAll (numbered : accounts.Numbered)
    (known : userId ∈ accounts.userIds) (moment : ℤ) :
    (Call.logoutAll moment userId).noted env accounts = some (.loggedOutAll userId) := by
  have bounded := numbered.inRange userId known
  have bound : bindInteger userId = .ok () := bindInteger_eq_ok.mpr (by omega)
  dsimp only [Call.noted, logoutAll]
  rw [bound]
  rfl

theorem userIds_exec (calls : List Call) (known : userId ∈ accounts.userIds) :
    userId ∈ (exec (step env) accounts calls).userIds := by
  let Knows (accounts : Accounts) : Prop := userId ∈ accounts.userIds
  refine exec_inv (I := Knows) known (fun before call member => ?_) calls
  have move : Move env (fun _ => True) before (step env before call) :=
    (effect_step before call).move fun _ _ => trivial
  exact move.users.subset member

theorem Call.LogsIn.known (logsIn : call.LogsIn env accounts userId sessionToken at_) :
    userId ∈ accounts.userIds := by
  cases call with
  | login clock now rawSession email password totpCode deviceLabel ip userAgent =>
      obtain ⟨_, _, _, user, _, _, known, rfl⟩ := logsIn
      exact List.mem_map_of_mem (userByEmail_eq_ok known).1
  | _ => exact logsIn.elim

/-- **Sessions.**  After any calls, and at every time, a token is answered with a user exactly
when a login of that user returned it, at most `SESSION_DAYS` before, and since then nobody logged
it out, nor ended all sessions of the user, nor reset the user's password. -/
theorem resolveSession_iff (env : AuthEnv) (calls : List Call) (sessionToken : String)
    (injective : ∀ call ∈ calls, ∀ other ∈ call.sessionTokens,
      env.hashToken other = env.hashToken sessionToken → other = sessionToken)
    (now : ℤ) (userId : ℕ) :
    (∃ user, resolveSession env now sessionToken (exec (step env) .empty calls) = .ok (some user) ∧
      user.id = userId) ↔
    ∃ early login late at_, calls = early ++ login :: late ∧
      login.LogsIn env (exec (step env) .empty early) userId sessionToken at_ ∧
      now ≤ at_ + days sessionDays ∧ (∀ moment, .logout moment sessionToken ∉ late) ∧
      (∀ moment, .logoutAll moment (userId : ℤ) ∉ late) ∧
      ∀ found reset,
        Occurs (step env) (exec (step env) .empty (early ++ [login])) late found reset →
          ¬ reset.Resets env found userId := by
  refine (resolves_iff_acts env calls sessionToken injective now userId).trans ?_
  rw [acts_exec]
  constructor
  · intro held
    rcases held with ⟨before, since, at_, acts, inTime, kept, keptAll, keptPassword⟩
    obtain ⟨early, login, late, rfl, noted, rfl⟩ := notes_eq_append_cons acts
    have logsIn := noted_loggedIn.mp noted
    refine ⟨early, login, late, at_, rfl, logsIn, inTime, ?_, ?_, ?_⟩
    · intro moment among
      obtain ⟨first, last, rfl⟩ := List.append_of_mem among
      have tracked := tracked_exec env (early ++ [login] ++ first)
      rw [exec_append] at tracked
      exact kept (mem_notes.mpr ⟨_, _, ⟨first, last, rfl, rfl⟩, tracked.noted_logout moment⟩)
    · intro moment among
      obtain ⟨first, last, rfl⟩ := List.append_of_mem among
      have numbered : (exec (step env) .empty (early ++ [login] ++ first)).Numbered :=
        exec_inv numbered_empty numbered_step _
      have known : userId ∈ (exec (step env) .empty (early ++ [login] ++ first)).userIds := by
        rw [List.append_assoc, exec_append]
        exact userIds_exec _ logsIn.known
      rw [exec_append] at numbered known
      exact keptAll (mem_notes.mpr
        ⟨_, _, ⟨first, last, rfl, rfl⟩, numbered.noted_logoutAll known moment⟩)
    · intro found reset occurs resets
      exact keptPassword (mem_notes.mpr ⟨found, reset, occurs, noted_passwordReset.mpr resets⟩)
  · intro held
    rcases held with ⟨early, login, late, at_, rfl, logsIn, inTime, kept, keptAll, keptPassword⟩
    refine ⟨notes (step env) (Call.noted env) .empty early, notes (step env) (Call.noted env)
      (exec (step env) .empty (early ++ [login])) late, at_, ?_, inTime, ?_, ?_, ?_⟩
    · rw [notes_append, notes, noted_loggedIn.mpr logsIn, exec_concat]
      rfl
    · intro member
      obtain ⟨found, call, ⟨first, last, rfl, _⟩, noted⟩ := mem_notes.mp member
      obtain ⟨moment, rfl⟩ := noted_loggedOut noted
      exact kept moment (List.mem_append_right _ List.mem_cons_self)
    · intro member
      obtain ⟨found, call, ⟨first, last, rfl, _⟩, noted⟩ := mem_notes.mp member
      obtain ⟨moment, rfl⟩ := noted_loggedOutAll noted
      exact keptAll moment (List.mem_append_right _ List.mem_cons_self)
    · intro member
      obtain ⟨found, reset, occurs, noted⟩ := mem_notes.mp member
      exact keptPassword found reset occurs (noted_passwordReset.mp noted)

end Calls

/-- Digests that spell out what they are of, and a driver that knows no offsets. -/
def plainEnv : AuthEnv where
  lower := id
  pbkdf2 := fun password salt => password ++ salt
  hashToken := id
  hmacSha1 := fun _ _ => []
  driver := ⟨fun stored => ⟨stored, none⟩, fun _ => .inl rfl⟩

/-- A user logs in twice, logs out of the first session, resets the password and logs in again;
then all sessions of somebody else are ended. -/
def threeLogins : List Call :=
  [.register 0 "0" "salt" "verify" "a@b.c" "password" none none,
    .login 1 1000000 "first" "a@b.c" "password" none none none none,
    .login 2 2000000 "second" "a@b.c" "password" none none none none,
    .logout 3000000 "first", .requestPasswordReset 4000000 "raw" "a@b.c",
    .resetPassword 5000000 "pepper" "raw" "new password",
    .login 6 6000000 "third" "a@b.c" "new password" none none none none, .logoutAll 7000000 2]

/-- The token that a login draws. -/
def Call.drawnSession : Call → Option String
  | login _ _ rawSession _ _ _ _ _ _ => some rawSession
  | _ => none

theorem Call.LogsIn.drawnSession {env : AuthEnv} {accounts : Accounts} {call : Call} {userId : ℕ}
    {sessionToken : String} {at_ : ℤ} (logsIn : call.LogsIn env accounts userId sessionToken at_) :
    call.drawnSession = some sessionToken := by
  cases call with
  | login clock now rawSession email password totpCode deviceLabel ip userAgent =>
      obtain ⟨_, _, _, _, done, rfl, _⟩ := logsIn
      obtain ⟨_, _, _, returned, _⟩ := login_cases done
      exact congrArg some returned.symm
  | _ => exact logsIn.elim

/-- Where the run draws a token. -/
theorem threeLogins_split {early late : List Call} {login : Call} {sessionToken : String} {n : ℕ}
    (split : threeLogins = early ++ login :: late) (drawn : login.drawnSession = some sessionToken)
    (only : ∀ m < 8, (threeLogins.map Call.drawnSession)[m]? = some (some sessionToken) → m = n) :
    early = threeLogins.take n ∧ threeLogins[n]? = some login ∧
      late = threeLogins.drop (n + 1) := by
  have length : 8 = early.length + (late.length + 1) := by
    have same : 8 = (early ++ login :: late).length := congrArg List.length split
    rwa [List.length_append, List.length_cons] at same
  have own := only early.length (by omega) (by simp [split, drawn])
  subst own
  rw [split]
  simp

theorem resolveSession_iff_threeLogins :
    (∃ user, resolveSession plainEnv 8000000 "third" (exec (step plainEnv) .empty threeLogins) =
      .ok (some user) ∧ user.id = 1) ∧
    (¬ ∃ user, resolveSession plainEnv 8000000 "first" (exec (step plainEnv) .empty threeLogins) =
      .ok (some user) ∧ user.id = 1) ∧
    ¬ ∃ user, resolveSession plainEnv 8000000 "second" (exec (step plainEnv) .empty threeLogins) =
      .ok (some user) ∧ user.id = 1 := by
  have resolves token := resolveSession_iff plainEnv threeLogins token (fun _ _ _ _ same => same)
    8000000 1
  refine ⟨(resolves "third").mpr ⟨threeLogins.take 6, _, [.logoutAll 7000000 2], 6000000, rfl,
    ?_, by decide, ?_, ?_, ?_⟩, ?_, ?_⟩
  · exact ⟨rfl, _, _, _, rfl, rfl, rfl, rfl⟩
  · exact fun moment among => by cases List.mem_singleton.mp among
  · exact fun moment among => by cases List.mem_singleton.mp among
  · intro found reset held
    rcases held with ⟨first, last, split, _⟩
    intro resets
    rcases first with _ | ⟨_, rest⟩
    · cases split
      exact resets
    · cases rest <;> cases split
  · rw [resolves "first"]
    intro held
    rcases held with ⟨early, login, late, at_, split, logsIn, _, kept, _⟩
    obtain ⟨_, _, rfl⟩ := threeLogins_split (n := 1) split logsIn.drawnSession (by decide)
    exact kept 3000000 (.tail _ (.head _))
  · rw [resolves "second"]
    intro held
    rcases held with ⟨early, login, late, at_, split, logsIn, _, _, _, keptPassword⟩
    obtain ⟨rfl, own, rfl⟩ := threeLogins_split (n := 2) split logsIn.drawnSession (by decide)
    cases own
    refine keptPassword _ (.resetPassword 5000000 "pepper" "raw" "new password")
      ⟨[.logout 3000000 "first", .requestPasswordReset 4000000 "raw" "a@b.c"], _, rfl, rfl⟩ ?_
    exact ⟨_, _, rfl, rfl, rfl⟩

end Aegis.Identity
