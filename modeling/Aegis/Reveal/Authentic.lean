import Aegis.Reveal.Service

/-!
# Nobody claims another account's credentials

The token keys and the payload keys are written by different calls and joined only by
`reveal`, which also deletes and rewrites the token.  `Authentic` says for both stores, and
for every call that is under way, which call what they hold comes from; it holds in every
run, whatever the accounts and tokens that the claims are made with.
-/

namespace Aegis.Reveal

open Aegis.Lib Aegis.Subscriptions

/-- The call has found its token. -/
def Point.Claiming : Point → Prop
  | matched | taken | unready | holding _ | done (some _) => True
  | start | done none => False

/-- The call has read the payload. -/
def Point.Has (stash : Stash) (p : Point) : Prop := p = holding stash ∨ p = done (some stash)

section Runs

variable {ι : Type} {calls : ι → Call} {claims : Claims ι} {i : ι} {p : Point} {redis : Redis}

/-- A call like this one has ended. -/
def Claims.Ended (calls : ι → Call) (claims : Claims ι) (call : Call) : Prop :=
  ∃ j, calls j = call ∧ claims.points j = .done none

/-- Where the stores' contents and the calls' findings come from. -/
structure Authentic (calls : ι → Call) (claims : Claims ι) : Prop where
  tokens : ∀ token held, claims.redis.revealTokens token = some held →
    claims.Ended calls (.createRevealToken held.value token)
  claiming : ∀ i accountId token, calls i = .reveal accountId token →
    (claims.points i).Claiming → claims.Ended calls (.createRevealToken accountId token)
  pending : ∀ accountId held, claims.redis.pendingCredentials accountId = some held →
    claims.Ended calls (.stashCredentials accountId held.value.credentials.portalToken
      held.value.credentials.mobileApiKey)
  has : ∀ i accountId token stash, calls i = .reveal accountId token →
    (claims.points i).Has stash → claims.Ended calls (.stashCredentials accountId
      stash.credentials.portalToken stash.credentials.mobileApiKey)

/-! ## What a move writes and finds -/

theorem Move.of_done (move : Move calls claims i p redis) {stash : Option Stash}
    (ended : claims.points i = .done stash) : p = .done stash := by
  cases move with
  | stay => exact ended
  | create _ point | stash _ point | sleep _ point | miss _ point | find _ point _ | take _ point
  | lack _ point | grasp _ point _ | restore _ point | finish _ point =>
      exact nomatch point.symm.trans ended

/-- A key that is there was there or has just been written. -/
theorem update_cases {K V : Type} [DecidableEq K] {keys : K → Option V} {key other : K}
    {written : Option V} {held : V} (found : Function.update keys key written other = some held) :
    keys other = some held ∨ other = key ∧ written = some held := by
  rw [Function.update_apply] at found
  split at found
  next same => exact .inr ⟨same, found⟩
  · exact .inl found

/-- A token key is as it was, or the call that has just moved has written it. -/
theorem Move.token_cases (move : Move calls claims i p redis) {token : String}
    {held : Expiring ℤ String} (found : redis.revealTokens token = some held) :
    claims.redis.revealTokens token = some held ∨
      (calls i = .createRevealToken held.value token ∧ claims.points i = .start ∧
        p = .done none) ∨
      calls i = .reveal held.value token ∧ claims.points i = .unready ∧ p = .done none := by
  cases move with
  | create call start =>
      rcases update_cases found with old | ⟨rfl, same⟩
      · exact .inl old
      · cases same
        exact .inr (.inl ⟨call, start, rfl⟩)
  | restore call unready =>
      rcases update_cases found with old | ⟨rfl, same⟩
      · exact .inl old
      · cases same
        exact .inr (.inr ⟨call, unready, rfl⟩)
  | take call matched =>
      rcases update_cases found with old | ⟨_, gone⟩
      · exact .inl old
      · cases gone
  | stay | stash _ _ | sleep _ _ | miss _ _ | find _ _ _ | lack _ _ | grasp _ _ _ | finish _ _ =>
      exact .inl found

theorem Move.pending_cases (move : Move calls claims i p redis) {accountId : String}
    {held : Expiring ℤ Stash} (found : redis.pendingCredentials accountId = some held) :
    claims.redis.pendingCredentials accountId = some held ∨
      calls i = .stashCredentials accountId held.value.credentials.portalToken
        held.value.credentials.mobileApiKey ∧ p = .done none ∧
          held.value.credentials.accountId = accountId ∧
            held.value.serial = claims.redis.stashes ∧ held.value.serial < redis.stashes := by
  cases move with
  | stash call start =>
      rcases update_cases found with old | ⟨rfl, same⟩
      · exact .inl old
      · cases same
        exact .inr ⟨call, rfl, rfl, rfl, Nat.lt_succ_self _⟩
  | finish call holding =>
      rcases update_cases found with old | ⟨_, gone⟩
      · exact .inl old
      · cases gone
  | stay | create _ _ | sleep _ _ | miss _ _ | find _ _ _ | take _ _ | lack _ _ | grasp _ _ _
  | restore _ _ =>
      exact .inl found

theorem Move.claiming_cases (move : Move calls claims i p redis) {accountId token : String}
    (call : calls i = .reveal accountId token) (claiming : p.Claiming) :
    (claims.points i).Claiming ∨ claims.redis.getToken token = some accountId := by
  cases move with
  | stay => exact .inl claiming
  | find callAlso _ found =>
      cases call.symm.trans callAlso
      exact .inr found
  | take _ point | lack _ point | grasp _ point _ | finish _ point =>
      rw [point]
      exact .inl trivial
  | create _ _ | stash _ _ | sleep _ _ | miss _ _ | restore _ _ => exact claiming.elim

theorem Move.has_cases (move : Move calls claims i p redis) {stash : Stash}
    (has : p.Has stash) :
    (claims.points i).Has stash ∨ ∃ accountId token, calls i = .reveal accountId token ∧
      claims.points i = .taken ∧ claims.redis.getPending accountId = some stash := by
  cases move with
  | stay => exact .inl has
  | grasp call taken found =>
      rcases has with same | same
      · cases same
        exact .inr ⟨_, _, call, taken, found⟩
      · cases same
  | finish _ holding =>
      rcases has with same | same
      · cases same
      · cases same
        exact .inl (.inl holding)
  | create _ _ | stash _ _ | sleep _ _ | miss _ _ | find _ _ _ | take _ _ | lack _ _
  | restore _ _ => exact has.elim nofun nofun

/-! ## The invariant -/

variable [DecidableEq ι]

theorem Claims.Ended.moved {call : Call} (ended : claims.Ended calls call)
    (move : Move calls claims i p redis) : (claims.moved i p redis).Ended calls call := by
  obtain ⟨j, callAt, point⟩ := ended
  refine ⟨j, callAt, ?_⟩
  by_cases own : j = i
  · subst own
    exact points_moved_self.trans (move.of_done point)
  · exact (points_moved_of_ne own).trans point

theorem Authentic.moved (authentic : Authentic calls claims) (move : Move calls claims i p redis) :
    Authentic calls (claims.moved i p redis) := by
  refine ⟨?_, ?_, ?_, ?_⟩
  · intro token held found
    rcases move.token_cases found with before | ⟨call, _, ended⟩ | ⟨call, unready, _⟩
    · exact (authentic.tokens token held before).moved move
    · exact ⟨i, call, points_moved_self.trans ended⟩
    · exact (authentic.claiming i held.value token call (by rw [unready]; trivial)).moved move
  · intro j accountId token call claiming
    by_cases turn : j = i
    · subst turn
      rw [points_moved_self] at claiming
      rcases move.claiming_cases call claiming with before | found
      · exact (authentic.claiming j accountId token call before).moved move
      · obtain ⟨held, heldAt, rfl⟩ := Expiring.value_of_read found
        exact (authentic.tokens token held heldAt).moved move
    · rw [points_moved_of_ne turn] at claiming
      exact (authentic.claiming j accountId token call claiming).moved move
  · intro accountId held found
    rcases move.pending_cases found with before | ⟨call, ended, _⟩
    · exact (authentic.pending accountId held before).moved move
    · exact ⟨i, call, points_moved_self.trans ended⟩
  · intro j accountId token stash call has
    by_cases turn : j = i
    · subst turn
      rw [points_moved_self] at has
      rcases move.has_cases has with before | ⟨_, _, callAlso, _, found⟩
      · exact (authentic.has j accountId token stash call before).moved move
      · cases call.symm.trans callAlso
        obtain ⟨held, heldAt, rfl⟩ := Expiring.value_of_read found
        exact (authentic.pending accountId held heldAt).moved move
    · rw [points_moved_of_ne turn] at has
      exact (authentic.has j accountId token stash call has).moved move

omit [DecidableEq ι] in
theorem authentic_start (calls : ι → Call) : Authentic calls Claims.start :=
  ⟨nofun, fun _ _ _ _ claiming => claiming.elim, nofun,
    fun _ _ _ _ _ has => has.elim nofun nofun⟩

theorem authentic_exec (calls : ι → Call) (turns : List ι) :
    Authentic calls (exec (Claims.step calls) Claims.start turns) :=
  exec_inv (authentic_start calls) (fun claims i authentic => by
    obtain ⟨p, redis, move, same⟩ := step_cases claims i
    rw [same]
    exact authentic.moved move) turns

omit [DecidableEq ι] in
/-- A call that has ended returns its answer. -/
theorem threads_of_ended {call : Call} (ended : claims.Ended calls call) :
    ∃ j, calls j = call ∧ (claims.pool calls).threads j = .halt (.ok (call.answer none)) := by
  obtain ⟨j, callAt, point⟩ := ended
  refine ⟨j, callAt, ?_⟩
  change (claims.points j).prog (calls j) = _
  rw [point, callAt]
  rfl

/-- **Authenticity.**  Whatever else is going on, a claim that returns credentials has
presented a token that was created for the account it names, and returns what was stashed for
that account by one call. -/
theorem reveal_authentic (calls : ι → Call) (turns : List ι) {i : ι}
    {accountId revealToken : String} (call : calls i = .reveal accountId revealToken)
    {claimed : Claimed}
    (returned : ((running calls).exec turns).threads i = .halt (.ok (.claimed claimed))) :
    claimed.accountId = accountId ∧
      (∃ j, calls j = .createRevealToken accountId revealToken ∧
        ((running calls).exec turns).threads j = .halt (.ok (.issued revealToken))) ∧
      ∃ j, calls j =
          .stashCredentials accountId claimed.portalToken claimed.mobileApiKey ∧
        ((running calls).exec turns).threads j = .halt (.ok .nothing) := by
  have authentic := authentic_exec calls turns
  rw [exec_running] at returned ⊢
  obtain ⟨stash, point, rfl⟩ := (claimed_iff call claimed).mp returned
  refine ⟨rfl, ?_, ?_⟩
  · refine threads_of_ended (authentic.claiming i accountId revealToken call ?_)
    rw [point]
    trivial
  · exact threads_of_ended (authentic.has i accountId revealToken stash call (.inr point))

end Runs

/-- A checkout, an activation, the claim with the token, and one with the same token for
another account. -/
def oneClaim : ℕ → Call
  | 0 => .createRevealToken "acc" "t"
  | 1 => .stashCredentials "acc" "portal" "key"
  | 2 => .reveal "acc" "t"
  | _ => .reveal "other" "t"

theorem reveal_authentic_oneClaim :
    "acc" = "acc" ∧
      (∃ j, oneClaim j = .createRevealToken "acc" "t" ∧
        ((running oneClaim).exec [0, 1, 3, 2, 2, 2, 2]).threads j = .halt (.ok (.issued "t"))) ∧
      ∃ j, oneClaim j = .stashCredentials "acc" "portal" "key" ∧
        ((running oneClaim).exec [0, 1, 3, 2, 2, 2, 2]).threads j = .halt (.ok .nothing) := by
  have returned : ((running oneClaim).exec [0, 1, 3, 2, 2, 2, 2]).threads 2 =
      .halt (.ok (.claimed ⟨"acc", "portal", "key"⟩)) := by
    rw [exec_running, claimed_iff (rfl : oneClaim 2 = .reveal "acc" "t")]
    exact ⟨⟨0, "portal", "key", "acc"⟩, by decide, rfl⟩
  exact reveal_authentic oneClaim [0, 1, 3, 2, 2, 2, 2] rfl returned

end Aegis.Reveal
