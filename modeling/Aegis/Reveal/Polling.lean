import Aegis.Reveal.Polls

/-!
# A visitor who polls

Between a checkout and the webhook the success page polls `reveal`, and every poll that comes too
early writes the token back with two minutes to live.  `polling_claims_iff` says exactly when the
poll after the webhook gets the credentials, while anything goes on with other accounts and other
tokens: when the first poll has come within the hour of the token, every later one within two
minutes of the one before it, and the last within the hour of the payload.
-/

namespace Aegis.Reveal

open Aegis.Lib Aegis.Subscriptions

/-- What others do: with other accounts and other tokens, or nothing for a while. -/
def Foreign (accountId token : String) : Call → Prop
  | .createRevealToken _ other => other ≠ token
  | .stashCredentials other _ _ | .reveal other _ => other ≠ accountId
  | .sleep _ => True

instance (accountId token : String) : DecidablePred (Foreign accountId token)
  | .createRevealToken _ _ | .stashCredentials _ _ _ | .reveal _ _ =>
      inferInstanceAs (Decidable (_ ≠ _))
  | .sleep _ => .isTrue trivial

def Call.elapsed : Call → ℕ
  | sleep n => n
  | createRevealToken _ _ | stashCredentials _ _ _ | reveal _ _ => 0

/-- How long the calls take. -/
def elapsed : List Call → ℕ
  | [] => 0
  | call :: rest => call.elapsed + elapsed rest

/-- Stretches of foreign calls, with a poll after each. -/
def polls (accountId token : String) (rounds : List (List Call)) : List Call :=
  rounds.flatMap fun quiet => quiet ++ [.reveal accountId token]

/-- The first gap is shorter than `left`, and each later one than two minutes. -/
def Patient (left : ℤ) : List ℕ → Prop
  | [] => True
  | gap :: rest => gap < left ∧ Patient (seconds 120) rest

instance decidablePatient : ∀ left gaps, Decidable (Patient left gaps)
  | _, [] => .isTrue trivial
  | left, gap :: rest =>
      have := decidablePatient (seconds 120) rest
      inferInstanceAs (Decidable (gap < left ∧ Patient (seconds 120) rest))

section Foreign

variable {redis : Redis} {accountId token : String} {call : Call} {calls : List Call}
  {deadline : ℤ}

/-- **One foreign call** leaves the token and the payload alone. -/
theorem take_of_foreign (foreign : Foreign accountId token call)
    (held : redis.revealTokens token = some ⟨accountId, some deadline⟩) :
    (redis.take call).revealTokens token = redis.revealTokens token ∧
      (redis.take call).pendingCredentials accountId = redis.pendingCredentials accountId ∧
        (redis.take call).now = redis.now + call.elapsed := by
  have still : redis.now + (0 : ℕ) = redis.now := by omega
  cases call with
  | createRevealToken _ other =>
      exact ⟨Function.update_of_ne (Ne.symm foreign) _ _, rfl, still.symm⟩
  | stashCredentials other _ _ =>
      exact ⟨rfl, Function.update_of_ne (Ne.symm foreign) _ _, still.symm⟩
  | sleep n => exact ⟨rfl, rfl, rfl⟩
  | reveal other presented =>
      unfold Redis.take Call.prog
      by_cases known : redis.getToken presented = some other
      · have apart : token ≠ presented := by
          intro same
          obtain ⟨found, here, owner⟩ := Expiring.value_of_read known
          rw [← same, held] at here
          cases here
          exact foreign owner.symm
        cases pending : redis.getPending other with
        | none =>
            rw [run_reveal_unready known pending]
            exact ⟨Function.update_of_ne apart _ _, rfl, still.symm⟩
        | some stash =>
            rw [run_reveal_ready known pending]
            exact ⟨Function.update_of_ne apart _ _, Function.update_of_ne (Ne.symm foreign) _ _,
              still.symm⟩
      · rw [run_reveal_unknown known]
        exact ⟨rfl, rfl, still.symm⟩

theorem exec_of_foreign (foreign : ∀ call ∈ calls, Foreign accountId token call)
    (held : redis.revealTokens token = some ⟨accountId, some deadline⟩) :
    (exec Redis.take redis calls).revealTokens token = redis.revealTokens token ∧
      (exec Redis.take redis calls).pendingCredentials accountId =
        redis.pendingCredentials accountId ∧
      (exec Redis.take redis calls).now = redis.now + elapsed calls := by
  induction calls generalizing redis with
  | nil => exact ⟨rfl, rfl, by simp [exec, elapsed]⟩
  | cons call rest ih =>
      obtain ⟨first, others⟩ := List.forall_mem_cons.mp foreign
      obtain ⟨tokens, pending, now⟩ := take_of_foreign first held
      obtain ⟨tokens', pending', now'⟩ := ih others (tokens.trans held)
      refine ⟨tokens'.trans tokens, pending'.trans pending, now'.trans ?_⟩
      rw [now, elapsed, Int.natCast_add, Int.add_assoc]

theorem getToken_iff (held : redis.revealTokens token = some ⟨accountId, some deadline⟩) :
    redis.getToken token = some accountId ↔ redis.now < deadline := by
  rw [Redis.getToken, held, Expiring.read, Expiring.alive, Option.filter_some]
  by_cases young : redis.now < deadline
  · simp [young]
  · simp [young]

/-- A payload that cannot be read cannot be read later. -/
theorem getPending_later {later : Redis} (unready : redis.getPending accountId = none)
    (same : later.pendingCredentials accountId = redis.pendingCredentials accountId)
    (now : redis.now ≤ later.now) : later.getPending accountId = none := by
  unfold Redis.getPending at unready ⊢
  rw [same]
  cases stored : redis.pendingCredentials accountId with
  | none => rfl
  | some held =>
      rw [stored] at unready
      obtain ⟨value, expiresAt⟩ := held
      cases expiresAt with
      | none => cases unready
      | some expiresAt =>
          have done : ¬ redis.now < expiresAt := by
            intro young
            rw [Expiring.read_of_lasting (by simpa using young)] at unready
            cases unready
          have still : ¬ later.now < expiresAt := by omega
          rw [Expiring.read, Expiring.alive, Option.filter_some, if_neg (by simpa using still)]
          rfl

/-- A gap is not shorter than nothing. -/
theorem not_patient {left : ℤ} (done : left ≤ 0) (gaps : List ℕ) (gap : ℕ) :
    ¬ Patient left (gaps ++ [gap]) := by
  cases gaps with
  | nil =>
      intro patient
      have first := patient.1
      omega
  | cons gap rest =>
      intro patient
      have first := patient.1
      omega

/-- **Rounds.**  What is left of the token's time after polls that come too early. -/
theorem exec_polls {rounds : List (List Call)}
    (foreign : ∀ quiet ∈ rounds, ∀ call ∈ quiet, Foreign accountId token call)
    (held : redis.revealTokens token = some ⟨accountId, some deadline⟩)
    (unready : redis.getPending accountId = none) (gap : ℕ) :
    ∃ ends, (exec Redis.take redis (polls accountId token rounds)).revealTokens token =
        some ⟨accountId, some ends⟩ ∧
      (exec Redis.take redis (polls accountId token rounds)).getPending accountId = none ∧
      ((exec Redis.take redis (polls accountId token rounds)).now + gap < ends ↔
        Patient (deadline - redis.now) (rounds.map elapsed ++ [gap])) := by
  induction rounds generalizing redis deadline with
  | nil =>
      refine ⟨deadline, held, unready, ?_⟩
      change redis.now + gap < deadline ↔ gap < deadline - redis.now ∧ True
      rw [and_true]
      omega
  | cons quiet rest ih =>
      obtain ⟨first, others⟩ := List.forall_mem_cons.mp foreign
      obtain ⟨tokens, pending, now⟩ := exec_of_foreign first held
      have steps : exec Redis.take redis (polls accountId token (quiet :: rest)) =
          exec Redis.take ((exec Redis.take redis quiet).take (.reveal accountId token))
            (polls accountId token rest) := by
        rw [polls, List.flatMap_cons, exec_append, exec_concat]
        rfl
      generalize exec Redis.take redis quiet = reached at *
      rw [steps]
      have held' := tokens.trans held
      have unready' := getPending_later unready pending (by omega)
      have patience : Patient (deadline - redis.now)
          ((quiet :: rest).map elapsed ++ [gap]) ↔ reached.now < deadline ∧
            Patient (seconds 120) (rest.map elapsed ++ [gap]) := by
        rw [List.map_cons, List.cons_append, Patient, now]
        exact and_congr_left fun _ => by omega
      rw [patience]
      unfold Redis.take Call.prog
      by_cases young : reached.now < deadline
      · rw [run_reveal_unready ((getToken_iff held').mpr young) unready']
        have written : (reached.setToken token accountId 120).revealTokens token =
            some ⟨accountId, some (reached.now + seconds 120)⟩ := Function.update_self _ _ _
        obtain ⟨ends, stored, lacking, left⟩ := ih others written unready'
        refine ⟨ends, stored, lacking, left.trans ?_⟩
        have whole : reached.now + seconds 120 - (reached.setToken token accountId 120).now =
            seconds 120 := by
          change reached.now + seconds 120 - reached.now = seconds 120
          omega
        rw [whole]
        exact (and_iff_right young).symm
      · rw [run_reveal_unknown fun known => young ((getToken_iff held').mp known)]
        obtain ⟨ends, stored, lacking, left⟩ := ih others held' unready'
        refine ⟨ends, stored, lacking, left.trans (iff_of_false ?_ fun both => young both.1)⟩
        exact not_patient (by omega) _ _

end Foreign

/-- **Polling.**  The first poll after the webhook returns what the webhook has stashed exactly
when no poll has come too late. -/
theorem polling_claims_iff {start : Redis} {accountId token portalToken mobileApiKey : String}
    {rounds : List (List Call)} {before after : List Call}
    (unready : start.getPending accountId = none)
    (foreign : ∀ quiet ∈ before :: after :: rounds, ∀ call ∈ quiet,
      Foreign accountId token call) :
    ((reveal accountId token).run (exec Redis.take start
      (.createRevealToken accountId token :: (polls accountId token rounds ++ (before ++
        .stashCredentials accountId portalToken mobileApiKey :: after))))).1 =
      .ok (.claimed ⟨accountId, portalToken, mobileApiKey⟩) ↔
    Patient (seconds revealTokenTtlSeconds)
        (rounds.map elapsed ++ [elapsed before + elapsed after]) ∧
      elapsed after < seconds pendingCredentialsTtlSeconds := by
  obtain ⟨calm, foreign⟩ := List.forall_mem_cons.mp foreign
  obtain ⟨still, foreign⟩ := List.forall_mem_cons.mp foreign
  have created : (start.setToken token accountId revealTokenTtlSeconds).revealTokens token =
      some ⟨accountId, some (start.now + seconds revealTokenTtlSeconds)⟩ :=
    Function.update_self _ _ _
  obtain ⟨ends, stored, _, left⟩ :=
    exec_polls foreign created unready (elapsed before + elapsed after)
  change ((reveal accountId token).run (exec Redis.take
    (start.setToken token accountId revealTokenTtlSeconds) _)).1 = _ ↔ _
  rw [exec_append, exec_append]
  generalize exec Redis.take (start.setToken token accountId revealTokenTtlSeconds)
    (polls accountId token rounds) = polled at *
  obtain ⟨tokens, _, now⟩ := exec_of_foreign calm stored
  generalize exec Redis.take polled before = reached at *
  have kept : (reached.setPending ⟨portalToken, mobileApiKey, accountId⟩).revealTokens token =
      some ⟨accountId, some ends⟩ := tokens.trans stored
  have stashed : (reached.setPending ⟨portalToken, mobileApiKey, accountId⟩).pendingCredentials
      accountId = some ⟨⟨reached.stashes, ⟨portalToken, mobileApiKey, accountId⟩⟩,
        some (reached.now + seconds pendingCredentialsTtlSeconds)⟩ := Function.update_self _ _ _
  obtain ⟨tokens', pending, now'⟩ := exec_of_foreign still kept
  change ((reveal accountId token).run (exec Redis.take
    (reached.setPending ⟨portalToken, mobileApiKey, accountId⟩) after)).1 = _ ↔ _
  generalize exec Redis.take (reached.setPending ⟨portalToken, mobileApiKey, accountId⟩) after =
    final at *
  have inTime : final.now = polled.now + (elapsed before + elapsed after : ℕ) := by
    rw [now', Int.natCast_add]
    change reached.now + _ = _
    omega
  have whole : seconds revealTokenTtlSeconds =
      start.now + seconds revealTokenTtlSeconds -
        (start.setToken token accountId revealTokenTtlSeconds).now := by
    change _ = start.now + seconds revealTokenTtlSeconds - start.now
    omega
  rw [whole, ← left, ← inTime]
  by_cases young : final.now < ends
  · have known := (getToken_iff (tokens'.trans kept)).mpr young
    have since : final.now = reached.now + elapsed after := now'
    rw [and_iff_right young]
    by_cases fresh : elapsed after < seconds pendingCredentialsTtlSeconds
    · have ready : final.getPending accountId =
          some ⟨reached.stashes, ⟨portalToken, mobileApiKey, accountId⟩⟩ := by
        rw [Redis.getPending, pending, stashed]
        exact Expiring.read_of_lasting (decide_eq_true (by omega))
      rw [run_reveal_ready known ready]
      exact iff_of_true rfl fresh
    · have gone : final.getPending accountId = none := by
        rw [Redis.getPending, pending, stashed, Expiring.read, Expiring.alive, Option.filter_some,
          Option.all_some, if_neg (by rw [decide_eq_true_iff]; omega)]
        rfl
      rw [run_reveal_unready known gone]
      exact iff_of_false (fun claimed => by cases claimed) fresh
  · rw [run_reveal_unknown fun known => young ((getToken_iff (tokens'.trans kept)).mp known)]
    exact iff_of_false (fun claimed => by cases claimed) fun both => young both.1

/-- Two early polls, while another account is paid for, and the webhook after a minute. -/
theorem polling_claims_iff_minute :
    ((reveal "acct" "ref").run (exec Redis.take .empty
      (.createRevealToken "acct" "ref" :: (polls "acct" "ref"
        [[.sleep 600000000], [.stashCredentials "other" "p" "k", .sleep 3000000]] ++
          ([.sleep 60000000] ++ .stashCredentials "acct" "portal" "key" :: []))))).1 =
      .ok (.claimed ⟨"acct", "portal", "key"⟩) :=
  (polling_claims_iff rfl (by decide)).mpr (by decide)

end Aegis.Reveal
