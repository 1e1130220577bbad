import Aegis.Reveal.Authentic

/-!
# Single use

A claim gets the token and deletes it in two commands, and the payload likewise, so two
claims can both get one before either deletes it.  `reveal_singleUse` says which turns must
not come: then each payload is claimed once, and a token that has led to credentials stays
away.
-/

namespace Aegis.Reveal

open Aegis.Lib Aegis.Subscriptions

/-- The call has deleted its token, and has not put it back. -/
def Point.Owns : Point → Prop
  | taken | unready | holding _ | done (some _) => True
  | start | matched | done none => False

theorem Point.Owns.claiming {p : Point} (owns : p.Owns) : p.Claiming := by
  rcases p with _ | _ | _ | _ | _ | _ | _ <;> trivial

section Runs

variable {ι : Type} {calls : ι → Call} {claims : Claims ι} {i : ι} {p : Point} {redis : Redis}

/-- No payload has been returned twice, and no token is there that has led to credentials. -/
structure SingleUse (calls : ι → Call) (claims : Claims ι) : Prop where
  payload : ∀ i j stash, claims.points i = .done (some stash) →
    claims.points j = .done (some stash) → i = j
  token : ∀ i accountId revealToken stash, calls i = .reveal accountId revealToken →
    claims.points i = .done (some stash) → claims.redis.getToken revealToken = none

/-- The turn of call `i` does not break into another claim: it does not delete a token that
another call has deleted and not put back, nor read a payload that another call has read and
is about to delete. -/
structure Exclusive (calls : ι → Call) (claims : Claims ι) (i : ι) : Prop where
  token : ∀ accountId revealToken, calls i = .reveal accountId revealToken →
    claims.points i = .matched → ∀ j other, calls j = .reveal other revealToken →
      ¬ (claims.points j).Owns
  payload : ∀ accountId revealToken stash, calls i = .reveal accountId revealToken →
    claims.points i = .taken → claims.redis.getPending accountId = some stash →
      ∀ j, claims.points j ≠ .holding stash

/-- What holds as long as no turn breaks into a claim. -/
structure Guarded (calls : ι → Call) (claims : Claims ι) : Prop where
  authentic : Authentic calls claims
  owner : ∀ i j accountId other token, calls i = .reveal accountId token →
    calls j = .reveal other token → (claims.points i).Owns → (claims.points j).Owns → i = j
  gone : ∀ i accountId token, calls i = .reveal accountId token → (claims.points i).Owns →
    claims.redis.revealTokens token = none
  holder : ∀ i j stash, (claims.points i).Has stash → (claims.points j).Has stash → i = j
  spent : ∀ i stash, claims.points i = .done (some stash) → ∀ accountId held,
    claims.redis.pendingCredentials accountId = some held → held.value ≠ stash
  stored : ∀ accountId held, claims.redis.pendingCredentials accountId = some held →
    held.value.credentials.accountId = accountId ∧ held.value.serial < claims.redis.stashes
  known : ∀ i stash, (claims.points i).Has stash → stash.serial < claims.redis.stashes ∧
    ∃ token, calls i = .reveal stash.credentials.accountId token

theorem Guarded.singleUse (guarded : Guarded calls claims) : SingleUse calls claims where
  payload i j stash first second := guarded.holder i j stash (.inr first) (.inr second)
  token i accountId revealToken stash call point := by
    have absent := guarded.gone i accountId revealToken call (by rw [point]; trivial)
    rw [Redis.getToken, absent]
    rfl

/-! ## What a move changes -/

theorem Move.owns_cases (move : Move calls claims i p redis) (owns : p.Owns) :
    (claims.points i).Owns ∨ claims.points i = .matched := by
  cases move with
  | stay => exact .inl owns
  | take _ matched => exact .inr matched
  | lack _ point | grasp _ point _ | finish _ point =>
      rw [point]
      exact .inl trivial
  | create _ _ | stash _ _ | sleep _ _ | miss _ _ | find _ _ _ | restore _ _ => exact owns.elim

theorem Move.stashes_le (move : Move calls claims i p redis) :
    claims.redis.stashes ≤ redis.stashes := by
  cases move with
  | stash _ _ => exact Nat.le_succ _
  | stay | create _ _ | sleep _ _ | miss _ _ | find _ _ _ | take _ _ | lack _ _ | grasp _ _ _
  | restore _ _ | finish _ _ => exact le_rfl

/-- A payload that a call has just claimed is not stored any more. -/
theorem Move.done_cases (move : Move calls claims i p redis) {stash : Stash}
    (ended : p = .done (some stash)) :
    (claims.points i = .done (some stash) ∧ redis = claims.redis) ∨
      ∃ accountId token, calls i = .reveal accountId token ∧
        claims.points i = .holding stash ∧ redis = claims.redis.deletePending accountId := by
  cases move with
  | stay => exact .inl ⟨ended, rfl⟩
  | finish call holding =>
      cases ended
      exact .inr ⟨_, _, call, holding, rfl⟩
  | create _ _ | stash _ _ | sleep _ _ | miss _ _ | find _ _ _ | take _ _ | lack _ _
  | grasp _ _ _ | restore _ _ => cases ended

/-! ## The invariant -/

section Guard

variable [DecidableEq ι]

theorem owns_moved (move : Move calls claims i p redis) {j : ι}
    (owns : ((claims.moved i p redis).points j).Owns) :
    (claims.points j).Owns ∨ j = i ∧ claims.points i = .matched := by
  by_cases turn : j = i
  · subst turn
    rw [points_moved_self] at owns
    exact (move.owns_cases owns).imp_right fun matched => ⟨rfl, matched⟩
  · rw [points_moved_of_ne turn] at owns
    exact .inl owns

theorem has_moved (move : Move calls claims i p redis) {j : ι} {stash : Stash}
    (has : ((claims.moved i p redis).points j).Has stash) :
    (claims.points j).Has stash ∨ j = i ∧ ∃ accountId token, calls i = .reveal accountId token ∧
      claims.points i = .taken ∧ claims.redis.getPending accountId = some stash := by
  by_cases turn : j = i
  · subst turn
    rw [points_moved_self] at has
    exact (move.has_cases has).imp_right fun found => ⟨rfl, found⟩
  · rw [points_moved_of_ne turn] at has
    exact .inl has

theorem Guarded.owner_moved (guarded : Guarded calls claims) (move : Move calls claims i p redis)
    (exclusive : Exclusive calls claims i) {j k : ι} {accountId other token : String}
    (call : calls j = .reveal accountId token) (callAlso : calls k = .reveal other token)
    (owns : ((claims.moved i p redis).points j).Owns)
    (ownsAlso : ((claims.moved i p redis).points k).Owns) : j = k := by
  rcases owns_moved move owns with before | ⟨rfl, matched⟩
  · rcases owns_moved move ownsAlso with beforeAlso | ⟨rfl, matched⟩
    · exact guarded.owner j k accountId other token call callAlso before beforeAlso
    · exact (exclusive.token other token callAlso matched j accountId call before).elim
  · rcases owns_moved move ownsAlso with before | ⟨rfl, _⟩
    · exact (exclusive.token accountId token call matched k other callAlso before).elim
    · rfl

/-- A token that is being claimed, or has led to credentials, is not written again. -/
theorem Guarded.gone_moved (guarded : Guarded calls claims) (move : Move calls claims i p redis)
    (distinct : ∀ j k accountId other token, calls j = .createRevealToken accountId token →
      calls k = .createRevealToken other token → j = k)
    {j : ι} {accountId token : String} (call : calls j = .reveal accountId token)
    (owns : ((claims.moved i p redis).points j).Owns) : redis.revealTokens token = none := by
  cases found : redis.revealTokens token with
  | none => rfl
  | some held =>
      exfalso
      rcases owns_moved move owns with before | ⟨rfl, matched⟩
      · rcases move.token_cases found with old | ⟨create, start, _⟩ | ⟨reveal, unready, ended⟩
        · cases (guarded.gone j accountId token call before).symm.trans old
        · obtain ⟨k, created, point⟩ :=
            guarded.authentic.claiming j accountId token call before.claiming
          cases distinct k i accountId held.value token created create
          cases start.symm.trans point
        · have owner : (claims.points i).Owns := by
            rw [unready]
            trivial
          cases guarded.owner j i accountId held.value token call reveal before owner
          rw [points_moved_self, ended] at owns
          exact owns
      · rw [points_moved_self] at owns
        cases move with
        | take callAlso _ =>
            cases call.symm.trans callAlso
            cases (Function.update_self ..).symm.trans found
        | stay =>
            rw [matched] at owns
            exact owns
        | create _ point | stash _ point | sleep _ point | miss _ point | find _ point _
        | lack _ point | grasp _ point _ | restore _ point | finish _ point =>
            cases point.symm.trans matched

omit [DecidableEq ι] in
/-- A payload that is read was not read before. -/
theorem Guarded.unread (guarded : Guarded calls claims) (exclusive : Exclusive calls claims i)
    {accountId token : String} {stash : Stash} (call : calls i = .reveal accountId token)
    (taken : claims.points i = .taken) (found : claims.redis.getPending accountId = some stash)
    (j : ι) : ¬ (claims.points j).Has stash := by
  intro either
  rcases either with holding | ended
  · exact exclusive.payload accountId token stash call taken found j holding
  · obtain ⟨held, heldAt, same⟩ := Expiring.value_of_read found
    exact guarded.spent j stash ended accountId held heldAt same

theorem Guarded.holder_moved (guarded : Guarded calls claims) (move : Move calls claims i p redis)
    (exclusive : Exclusive calls claims i) {j k : ι} {stash : Stash}
    (has : ((claims.moved i p redis).points j).Has stash)
    (hasAlso : ((claims.moved i p redis).points k).Has stash) : j = k := by
  rcases has_moved move has with before | ⟨rfl, _, _, call, taken, found⟩
  · rcases has_moved move hasAlso with beforeAlso | ⟨rfl, _, _, call, taken, found⟩
    · exact guarded.holder j k stash before beforeAlso
    · exact (guarded.unread exclusive call taken found j before).elim
  · rcases has_moved move hasAlso with before | ⟨rfl, _⟩
    · exact (guarded.unread exclusive call taken found k before).elim
    · rfl

theorem Guarded.spent_moved (guarded : Guarded calls claims) (move : Move calls claims i p redis)
    {j : ι} {stash : Stash} (ended : (claims.moved i p redis).points j = .done (some stash))
    {accountId : String} {held : Expiring ℤ Stash}
    (found : redis.pendingCredentials accountId = some held) : held.value ≠ stash := by
  by_cases turn : j = i
  · subst turn
    rw [points_moved_self] at ended
    rcases move.done_cases ended with ⟨before, rfl⟩ | ⟨owner, token, call, holding, rfl⟩
    · exact guarded.spent j stash before accountId held found
    · intro same
      rcases same with rfl
      rcases update_cases found with old | ⟨_, gone⟩
      · obtain ⟨_, tokenAlso, callAlso⟩ := guarded.known j held.value (.inl holding)
        cases call.symm.trans callAlso
        have home := (guarded.stored accountId held old).1
        subst home
        cases (Function.update_self ..).symm.trans found
      · cases gone
  · rw [points_moved_of_ne turn] at ended
    rcases move.pending_cases found with old | ⟨_, _, _, serial, _⟩
    · exact guarded.spent j stash ended accountId held old
    · intro same
      rcases same with rfl
      exact (guarded.known j held.value (.inr ended)).1.ne serial

theorem Guarded.moved (guarded : Guarded calls claims) (move : Move calls claims i p redis)
    (distinct : ∀ j k accountId other token, calls j = .createRevealToken accountId token →
      calls k = .createRevealToken other token → j = k)
    (exclusive : Exclusive calls claims i) : Guarded calls (claims.moved i p redis) where
  authentic := guarded.authentic.moved move
  owner _ _ _ _ _ call callAlso owns ownsAlso :=
    guarded.owner_moved move exclusive call callAlso owns ownsAlso
  gone _ _ _ call owns := guarded.gone_moved move distinct call owns
  holder _ _ _ has hasAlso := guarded.holder_moved move exclusive has hasAlso
  spent _ _ ended _ _ found := guarded.spent_moved move ended found
  stored accountId held found := by
    rcases move.pending_cases found with old | ⟨_, _, home, _, below⟩
    · obtain ⟨home, below⟩ := guarded.stored accountId held old
      exact ⟨home, below.trans_le move.stashes_le⟩
    · exact ⟨home, below⟩
  known j stash has := by
    rcases has_moved move has with before | ⟨rfl, accountId, token, call, _, found⟩
    · obtain ⟨below, called⟩ := guarded.known j stash before
      exact ⟨below.trans_le move.stashes_le, called⟩
    · obtain ⟨held, heldAt, rfl⟩ := Expiring.value_of_read found
      obtain ⟨home, below⟩ := guarded.stored accountId held heldAt
      exact ⟨below.trans_le move.stashes_le, token, by rw [home, call]⟩

theorem Guarded.step (guarded : Guarded calls claims)
    (distinct : ∀ j k accountId other token, calls j = .createRevealToken accountId token →
      calls k = .createRevealToken other token → j = k)
    (exclusive : Exclusive calls claims i) : Guarded calls (claims.step calls i) := by
  obtain ⟨p, redis, move, same⟩ := step_cases claims i
  rw [same]
  exact guarded.moved move distinct exclusive

omit [DecidableEq ι] in
theorem guarded_start (calls : ι → Call) : Guarded calls Claims.start where
  authentic := authentic_start calls
  owner _ _ _ _ _ _ _ owns _ := owns.elim
  gone _ _ _ _ owns := owns.elim
  holder _ _ _ has _ := has.elim nofun nofun
  spent _ _ ended := nomatch ended
  stored _ _ found := nomatch found
  known _ _ has := has.elim nofun nofun

/-- **Single use.**  In a run in which no turn breaks into another claim each payload is
returned by one claim at most, and a token that has led to credentials is never there again. -/
theorem reveal_singleUse (calls : ι → Call)
    (distinct : ∀ j k accountId other token, calls j = .createRevealToken accountId token →
      calls k = .createRevealToken other token → j = k)
    {turns : List ι}
    (exclusive : EachStep (Claims.step calls) (Exclusive calls) Claims.start turns) :
    Throughout (Claims.step calls) (SingleUse calls) Claims.start turns := by
  exact Throughout.mono (fun _ => Guarded.singleUse) (Throughout.of_inv (guarded_start calls)
    (fun _ _ guarded exclusive => guarded.step distinct exclusive) exclusive)

omit [DecidableEq ι] in
/-- Only a turn that is about to delete a token, or to read a payload, can break into a claim. -/
theorem exclusive_of_elsewhere (unmatched : claims.points i ≠ .matched)
    (untaken : claims.points i ≠ .taken) : Exclusive calls claims i :=
  ⟨fun _ _ _ matched => absurd matched unmatched, fun _ _ _ _ taken => absurd taken untaken⟩

end Guard

end Runs

/-! ## A claim and its rival -/

/-- A checkout, an activation, a claim, and the same claim sent again. -/
def claimAgain : ℕ → Call
  | 0 => .createRevealToken "acc" "t"
  | 1 => .stashCredentials "acc" "portal" "key"
  | 2 | 3 => .reveal "acc" "t"
  | _ => .sleep 1

/-- The second claim comes while the first has the token and has not read the payload. -/
def claimedOnce : List ℕ := [0, 1, 2, 2, 3, 2, 2]

theorem reveal_singleUse_claimAgain :
    Throughout (Claims.step claimAgain) (SingleUse claimAgain) Claims.start claimedOnce ∧
      (exec (Claims.step claimAgain) Claims.start claimedOnce).points 2 =
        .done (some ⟨0, "portal", "key", "acc"⟩) ∧
      (exec (Claims.step claimAgain) Claims.start claimedOnce).points 3 = .done none := by
  have created (j : ℕ) (accountId token : String)
      (call : claimAgain j = .createRevealToken accountId token) : j = 0 := by
    rcases j with _ | _ | _ | _ | j
    · rfl
    all_goals cases call
  have exclusive : EachStep (Claims.step claimAgain) (Exclusive claimAgain) Claims.start
      claimedOnce := by
    refine ⟨exclusive_of_elsewhere (by decide) (by decide),
      exclusive_of_elsewhere (by decide) (by decide),
      exclusive_of_elsewhere (by decide) (by decide), ⟨?_, nofun⟩,
      exclusive_of_elsewhere (by decide) (by decide), ⟨nofun, ?_⟩,
      exclusive_of_elsewhere (by decide) (by decide), trivial⟩
    · intro _ _ _ _ j _ call owns
      rcases j with _ | _ | _ | _ | j
      · cases call
      · cases call
      · exact owns
      · exact owns
      · cases call
    · intro _ _ _ _ _ _ j
      rcases j with _ | _ | _ | _ | j <;> nofun
  exact ⟨reveal_singleUse claimAgain
    (fun j k _ _ _ first second => (created j _ _ first).trans (created k _ _ second).symm)
    exclusive, by decide, by decide⟩

/-- The claim sent twice: both get the token before either deletes it, and then both get the
payload. -/
def rivalClaims : ℕ → Call
  | 0 => .createRevealToken "acc" "t"
  | 1 => .stashCredentials "acc" "portal" "key"
  | _ => .reveal "acc" "t"

theorem not_reveal_singleUse_rivalClaims :
    ¬ Throughout (Claims.step rivalClaims) (SingleUse rivalClaims) Claims.start
      [0, 1, 2, 3, 2, 3, 2, 3, 2, 3] := by
  intro always
  have ended := throughout_iff.mp always _ (List.prefix_refl _)
  exact absurd (ended.payload 2 3 ⟨0, "portal", "key", "acc"⟩ (by decide) (by decide)) (by decide)

end Aegis.Reveal
