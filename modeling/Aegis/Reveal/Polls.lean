import Aegis.Reveal.Service

/-!
# Polls that fail

The success page polls `reveal` until the webhook has come.  A poll that comes too early deletes
the token and writes it back with two minutes to live, so that it costs a fresh token most of its
hour and gives an old one more than that.  `pollsHarmless_iff` says which polls do no harm.

The calls run one after another here.
-/

namespace Aegis.Reveal

open Aegis.Lib Aegis.Subscriptions

/-- The keys after a call. -/
def Redis.take (redis : Redis) (call : Call) : Redis := (call.prog.run redis).2

/-- The call returns no credentials: `None`, where it is a claim. -/
def Redis.Fails (redis : Redis) (call : Call) : Prop := (call.prog.run redis).1 = .ok .nothing

/-- A claim of the account with the token succeeds. -/
def Redis.Claimable (redis : Redis) (accountId token : String) : Prop :=
  ∃ claimed, ((reveal accountId token).run redis).1 = .ok (.claimed claimed)

/-- A claim that fails changes nothing. -/
def NoOp (redis : Redis) (call : Call) : Prop :=
  ∀ accountId token, call = .reveal accountId token → redis.Fails call → redis.take call = redis

/-- The call does not touch the token: it draws another, and does not claim this one. -/
def Spares (token : String) (redis : Redis) : Call → Prop
  | .createRevealToken _ other => other ≠ token
  | .reveal accountId other => other = token → redis.Fails (.reveal accountId other)
  | .stashCredentials _ _ _ | .sleep _ => True

/-- No failed claim changes anything; and a token that has been created, and not been claimed
since, can be claimed while it is not an hour old and a payload is there, and at no other time. -/
structure PollsHarmless (start : Redis) (calls : List Call) : Prop where
  noOp : EachStep Redis.take NoOp start calls
  claimable : ∀ early accountId token later,
    early ++ .createRevealToken accountId token :: later <+: calls →
    EachStep Redis.take (Spares token)
      (exec Redis.take start (early ++ [.createRevealToken accountId token])) later →
    let reached := exec Redis.take start (early ++ .createRevealToken accountId token :: later)
    reached.Claimable accountId token ↔
      reached.now < (exec Redis.take start early).now + seconds revealTokenTtlSeconds ∧
        (reached.getPending accountId).isSome

/-- A claim whose token is good finds a payload, or the token has just the two minutes left that
it would be given. -/
def Ready (redis : Redis) : Call → Prop
  | .reveal accountId token =>
      redis.getToken token = some accountId → (redis.getPending accountId).isSome ∨
        redis.revealTokens token = some ⟨accountId, some (redis.now + seconds 120)⟩
  | .createRevealToken _ _ | .stashCredentials _ _ _ | .sleep _ => True

section Polls

variable {redis start : Redis} {accountId token : String} {call : Call} {calls : List Call}

/-! ## One claim -/

/-- The token is unknown, or another account's. -/
theorem run_reveal_unknown (unknown : redis.getToken token ≠ some accountId) :
    (reveal accountId token).run redis = (.ok .nothing, redis) := by
  unfold reveal
  rw [Prog.run_bind_ok (Prog.run_read _ _)]
  cases found : redis.getToken token with
  | none => rfl
  | some stored =>
      have other : stored ≠ accountId := fun same => unknown (found.trans (congrArg some same))
      dsimp only
      rw [if_pos other]
      rfl

theorem run_reveal_known (known : redis.getToken token = some accountId) :
    (reveal accountId token).run redis =
      (claimPending accountId token).run (redis.deleteToken token) := by
  unfold reveal
  rw [Prog.run_bind_ok (Prog.run_read _ _), known]
  dsimp only
  rw [if_neg (not_not.mpr rfl)]
  exact Prog.run_bind_ok (Prog.run_modify _ _)

/-- Nothing is stashed yet. -/
theorem run_reveal_unready (known : redis.getToken token = some accountId)
    (unready : redis.getPending accountId = none) :
    (reveal accountId token).run redis = (.ok .nothing, redis.setToken token accountId 120) := by
  have pending : (redis.deleteToken token).getPending accountId = none := unready
  have restored : (redis.deleteToken token).setToken token accountId 120 =
      redis.setToken token accountId 120 :=
    congrArg (fun tokens => { redis with revealTokens := tokens }) (Function.update_idem _ _ _)
  rw [run_reveal_known known, claimPending, Prog.run_bind_ok (Prog.run_read _ _), pending,
    ← restored]
  exact Prog.run_bind_ok (Prog.run_modify _ _)

theorem run_reveal_ready {stash : Stash} (known : redis.getToken token = some accountId)
    (ready : redis.getPending accountId = some stash) :
    (reveal accountId token).run redis =
      (.ok (.claimed ⟨accountId, stash.credentials.portalToken, stash.credentials.mobileApiKey⟩),
        (redis.deleteToken token).deletePending accountId) := by
  have pending : (redis.deleteToken token).getPending accountId = some stash := ready
  rw [run_reveal_known known, claimPending, Prog.run_bind_ok (Prog.run_read _ _), pending]
  rfl

theorem fails_iff :
    redis.Fails (.reveal accountId token) ↔
      (redis.getToken token = some accountId → redis.getPending accountId = none) := by
  change ((reveal accountId token).run redis).1 = _ ↔ _
  by_cases known : redis.getToken token = some accountId
  · cases pending : redis.getPending accountId with
    | none =>
        rw [run_reveal_unready known pending]
        exact ⟨fun _ _ => rfl, fun _ => rfl⟩
    | some stash =>
        rw [run_reveal_ready known pending]
        exact ⟨nofun, fun none => absurd (none known) nofun⟩
  · rw [run_reveal_unknown known]
    exact ⟨fun _ good => absurd good known, fun _ => rfl⟩

theorem claimable_iff :
    redis.Claimable accountId token ↔
      redis.getToken token = some accountId ∧ (redis.getPending accountId).isSome := by
  unfold Redis.Claimable
  by_cases known : redis.getToken token = some accountId
  · cases pending : redis.getPending accountId with
    | none =>
        rw [run_reveal_unready known pending]
        exact ⟨nofun, nofun⟩
    | some stash =>
        rw [run_reveal_ready known pending]
        exact ⟨fun _ => ⟨known, rfl⟩, fun _ => ⟨_, rfl⟩⟩
  · rw [run_reveal_unknown known]
    exact ⟨nofun, fun both => absurd both.1 known⟩

/-- The two minutes are what the key had left. -/
theorem setToken_eq_self {ex : ℤ} :
    redis.setToken token accountId ex = redis ↔
      redis.revealTokens token = some ⟨accountId, some (redis.now + seconds ex)⟩ := by
  constructor
  · intro same
    rw [← same]
    exact Function.update_self _ _ _
  · intro held
    exact congrArg (fun tokens => { redis with revealTokens := tokens })
      (Function.update_eq_self_iff.mpr held.symm)

/-- **One call.** -/
theorem noOp_iff_ready : NoOp redis call ↔ Ready redis call := by
  cases call with
  | createRevealToken _ _ | stashCredentials _ _ _ | sleep _ => exact ⟨fun _ => trivial, nofun⟩
  | reveal accountId token =>
      have own : NoOp redis (.reveal accountId token) ↔
          (redis.Fails (.reveal accountId token) →
            redis.take (.reveal accountId token) = redis) := by
        constructor
        · exact fun noOp => noOp accountId token rfl
        · intro noOp _ _ same
          cases same
          exact noOp
      rw [own, fails_iff]
      change (_ → ((reveal accountId token).run redis).2 = redis) ↔ (_ → _ ∨ _)
      by_cases known : redis.getToken token = some accountId
      · cases pending : redis.getPending accountId with
        | none =>
            rw [run_reveal_unready known pending, setToken_eq_self]
            exact ⟨fun noOp _ => .inr (noOp fun _ => rfl),
              fun ready _ => (ready known).resolve_left nofun⟩
        | some stash =>
            exact ⟨fun _ _ => .inl rfl, fun _ none => absurd (none known) nofun⟩
      · rw [run_reveal_unknown known]
        exact ⟨fun _ good => absurd good known, fun _ _ => rfl⟩

/-! ## Any calls -/

/-- The key of a token outlives the calls that spare it. -/
theorem revealTokens_take {held : Expiring ℤ String} (stored : redis.revealTokens token = some held)
    (spares : Spares token redis call) (noOp : NoOp redis call) :
    (redis.take call).revealTokens token = some held := by
  cases call with
  | createRevealToken _ other =>
      exact (Function.update_of_ne (Ne.symm spares) _ _).trans stored
  | stashCredentials _ _ _ | sleep _ => exact stored
  | reveal accountId other =>
      by_cases fails : redis.Fails (.reveal accountId other)
      · rw [noOp accountId other rfl fails]
        exact stored
      · have apart : token ≠ other := fun same => fails (spares same.symm)
        rw [fails_iff, not_forall] at fails
        obtain ⟨known, present⟩ := fails
        obtain ⟨stash, ready⟩ := Option.ne_none_iff_exists'.mp present
        change ((reveal accountId other).run redis).2.revealTokens token = _
        rw [run_reveal_ready known ready]
        exact (Function.update_of_ne apart _ _).trans stored

theorem revealTokens_exec {held : Expiring ℤ String}
    (stored : redis.revealTokens token = some held)
    (spared : EachStep Redis.take (Spares token) redis calls)
    (noOp : EachStep Redis.take NoOp redis calls) :
    (exec Redis.take redis calls).revealTokens token = some held := by
  induction calls generalizing redis with
  | nil => exact stored
  | cons call rest ih =>
      have kept := revealTokens_take stored spared.1 noOp.1
      exact ih kept spared.2 noOp.2

/-- **Polls.**  Polls do no harm as long as each that comes with a good token finds a payload, or
the token at just two minutes from its end. -/
theorem pollsHarmless_iff :
    PollsHarmless start calls ↔ EachStep Redis.take Ready start calls := by
  have steps : EachStep Redis.take NoOp start calls ↔ EachStep Redis.take Ready start calls :=
    eachStep_congr fun _ _ => noOp_iff_ready
  refine ⟨fun harmless => steps.mp harmless.noOp, fun ready => ⟨steps.mpr ready, ?_⟩⟩
  intro early accountId token later within spared reached
  obtain ⟨rest, rfl⟩ := within
  have noOp := steps.mpr ready
  rw [List.append_cons, eachStep_append, eachStep_append] at noOp
  have created :
      (exec Redis.take start (early ++ [.createRevealToken accountId token])).revealTokens token =
        some ⟨accountId, some ((exec Redis.take start early).now +
          seconds revealTokenTtlSeconds)⟩ := by
    rw [exec_concat]
    exact Function.update_self _ _ _
  have stored := revealTokens_exec created spared noOp.1.2
  rw [← exec_append, ← List.append_cons] at stored
  change reached.revealTokens token = _ at stored
  rw [claimable_iff, Redis.getToken, stored, Expiring.read, Expiring.alive, Option.filter_some]
  by_cases young : reached.now <
      (exec Redis.take start early).now + seconds revealTokenTtlSeconds
  · simp [young]
  · simp [young]

/-- A page that polls once before the webhook loses its token two minutes later, a minute before
the payload comes. -/
theorem not_pollsHarmless_early :
    ¬ PollsHarmless .empty
      [.createRevealToken "acct" "ref", .reveal "acct" "ref", .sleep 180000000,
        .stashCredentials "acct" "portal" "key"] := by
  intro harmless
  have spared : EachStep Redis.take (Spares "ref")
      (exec Redis.take .empty ([] ++ [.createRevealToken "acct" "ref"]))
      [.reveal "acct" "ref", .sleep 180000000, .stashCredentials "acct" "portal" "key"] :=
    ⟨fun _ => fails_iff.mpr fun _ => rfl, trivial, trivial, trivial⟩
  have good := (harmless.claimable [] "acct" "ref" _ (List.prefix_refl _) spared).mpr
    ⟨by decide +kernel, by decide +kernel⟩
  have gone := (claimable_iff.mp good).1
  revert gone
  decide +kernel

end Polls

end Aegis.Reveal
