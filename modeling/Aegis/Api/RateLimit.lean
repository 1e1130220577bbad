import Aegis.Lib.Expiring
import Aegis.Lib.SortedSet
import Aegis.Subscriptions.Keys
import Aegis.Vision.Analyze

/-!
# The rate limit of an account

`account_rate_limit.py`: a sliding window in Redis, and a deque of this process for when
Redis does not answer.  Whether it does is input.
-/

namespace Aegis.Api

open Aegis.Lib Aegis.Subscriptions

/-- The `rl:acct:{account_id}` keys, whose members are the texts of their scores, and the
deques of `_local`. -/
structure Windows where
  redis : String → Option (Expiring ℚ (SortedSet ℚ ℚ))
  deques : String → List ℚ

/-- What a request finds of Redis. -/
structure Pipe where
  /-- `get_redis_client` returns a client -/
  client : Bool
  fault : Option Vision.Fault

/-- `window`. -/
def windowSeconds : ℚ := 60

/-- The limit for a value of `API_RATE_LIMIT_PER_MINUTE`. -/
def limitOf (apiRateLimitPerMinute : ℤ) : ℤ :=
  if apiRateLimitPerMinute = 0 then 120 else apiRateLimitPerMinute

/-- The key after `ZREMRANGEBYSCORE` and `ZADD`. -/
def addRequest (now : ℚ) (key : Option (Expiring ℚ (SortedSet ℚ ℚ))) :
    Option (Expiring ℚ (SortedSet ℚ ℚ)) :=
  Expiring.write now .empty (·.zadd now now)
    (Expiring.modify now (fun set => (set.zremrangebyscore 0 (now - windowSeconds)).orMissing) key)

/-- The pipeline, which Redis runs as one transaction: the answer of `ZCARD`, and what it
leaves. -/
def pipeline (now : ℚ) (accountId : String) (windows : Windows) : ℕ × Windows :=
  let added := addRequest now (windows.redis accountId)
  (((Expiring.read now added).getD .empty).zcard,
    { windows with
      redis := Function.update windows.redis accountId
        (Expiring.expire now (windowSeconds + 5) added) })

/-- The deque after a request, with its length. -/
def slide (now : ℚ) (accountId : String) (windows : Windows) : ℕ × Windows :=
  let q := (windows.deques accountId).dropWhile (· < now - windowSeconds) ++ [now]
  (q.length, { windows with deques := Function.update windows.deques accountId q })

def tooMany (limit : ℤ) (count : ℕ) (detail : String) : Except Failure Unit :=
  if (count : ℤ) > limit then .error (.httpException 429 detail) else .ok ()

/-- The fallback. -/
def limitLocally (limit : ℤ) (now : ℚ) (accountId : String) : Prog Failure Windows Unit := do
  let count ← Prog.act (slide now accountId)
  Prog.ofExcept (tooMany limit count s!"Account rate limit exceeded ({limit}/min).")

def enforceAccountRateLimit (apiRateLimitPerMinute : ℤ) (pipe : Pipe) (now : ℚ)
    (accountId : String) : Prog Failure Windows Unit :=
  let limit := limitOf apiRateLimitPerMinute
  if limit ≤ 0 then return
  else if !pipe.client then limitLocally limit now accountId
  else
    match pipe.fault with
    | none => do
        let count ← Prog.act (pipeline now accountId)
        Prog.ofExcept (tooMany limit count
          s!"Account rate limit exceeded ({limit}/min). Slow down or upgrade plan.")
    | some .refused => limitLocally limit now accountId
    | some .replyLost => do
        Prog.modify fun windows => (pipeline now accountId windows).2
        limitLocally limit now accountId

/-! ## Whose window a request moves -/

/-- The window and the deque of the account. -/
def Windows.records (windows : Windows) (accountId : String) :
    Option (Expiring ℚ (SortedSet ℚ ℚ)) × List ℚ :=
  (windows.redis accountId, windows.deques accountId)

section Frame

variable {limit : ℤ} {now : ℚ} {accountId other : String}

theorem records_pipeline (apart : other ≠ accountId) (windows : Windows) :
    (pipeline now accountId windows).2.records other = windows.records other :=
  Prod.ext (Function.update_of_ne apart _ _) rfl

theorem records_slide (apart : other ≠ accountId) (windows : Windows) :
    (slide now accountId windows).2.records other = windows.records other :=
  Prod.ext rfl (Function.update_of_ne apart _ _)

theorem guarantees_limitLocally (apart : other ≠ accountId) :
    (limitLocally limit now accountId).Guarantees fun before after =>
      after.records other = before.records other :=
  .bind (Prog.guarantees_act (records_slide apart)) fun _ => trivial

/-- A request moves the windows of its own account only. -/
theorem guarantees_enforceAccountRateLimit (apart : other ≠ accountId)
    (apiRateLimitPerMinute : ℤ) (pipe : Pipe) :
    (enforceAccountRateLimit apiRateLimitPerMinute pipe now accountId).Guarantees
      fun before after => after.records other = before.records other := by
  unfold enforceAccountRateLimit
  dsimp only
  split
  · trivial
  · split
    · exact guarantees_limitLocally apart
    · split
      · exact .bind (Prog.guarantees_act (records_pipeline apart)) fun _ => trivial
      · exact guarantees_limitLocally apart
      · exact .bind (Prog.guarantees_modify (records_pipeline apart)) fun _ =>
          guarantees_limitLocally apart

end Frame

end Aegis.Api
