import Aegis.Lib.Run
import Aegis.Subscriptions.Webhook

/-!
# The one-time claim

`credential_reveal_service.py`: a reveal token leads to an account, and what the webhook has
stashed for the account is handed to the first who claims it with the token.  A claim is a
program of four or five Redis commands; `claimControl` lays it out by its points, and a
`Claims` state is where any number of calls stand, between two commands of anybody.

Time passes by calls of its own.  A stash carries its number, which the code does not read
and which tells equal payloads apart.
-/

namespace Aegis.Reveal

open Aegis.Lib Aegis.Subscriptions

/-- `REVEAL_TOKEN_TTL_SECONDS`. -/
def revealTokenTtlSeconds : ℤ := 60 * 60

/-- The value of a `pending_credentials:{account_id}` key. -/
structure Stash where
  serial : ℕ
  credentials : PendingCredentials
  deriving DecidableEq

/-- What a successful claim returns. -/
structure Claimed where
  accountId : String
  portalToken : String
  mobileApiKey : String
  deriving DecidableEq

structure Redis where
  now : ℤ
  /-- the `reveal_token:{token}` keys -/
  revealTokens : String → Option (Expiring ℤ String)
  /-- the `pending_credentials:{account_id}` keys -/
  pendingCredentials : String → Option (Expiring ℤ Stash)
  /-- how many payloads have been stashed -/
  stashes : ℕ

namespace Redis

def empty : Redis := ⟨0, fun _ => none, fun _ => none, 0⟩

def getToken (redis : Redis) (token : String) : Option String :=
  Expiring.read redis.now (redis.revealTokens token)

def getPending (redis : Redis) (accountId : String) : Option Stash :=
  Expiring.read redis.now (redis.pendingCredentials accountId)

/-- `SET reveal_token:{token} {account_id} EX {ex}`. -/
def setToken (token accountId : String) (ex : ℤ) (redis : Redis) : Redis :=
  { redis with
    revealTokens := Function.update redis.revealTokens token
      (some ⟨accountId, some (redis.now + seconds ex)⟩) }

def deleteToken (token : String) (redis : Redis) : Redis :=
  { redis with revealTokens := Function.update redis.revealTokens token none }

/-- `SET pending_credentials:{account_id} ... EX 3600`. -/
def setPending (credentials : PendingCredentials) (redis : Redis) : Redis :=
  { redis with
    pendingCredentials := Function.update redis.pendingCredentials credentials.accountId
      (some ⟨⟨redis.stashes, credentials⟩,
        some (redis.now + seconds pendingCredentialsTtlSeconds)⟩)
    stashes := redis.stashes + 1 }

def deletePending (accountId : String) (redis : Redis) : Redis :=
  { redis with pendingCredentials := Function.update redis.pendingCredentials accountId none }

def sleep (n : ℕ) (redis : Redis) : Redis := { redis with now := redis.now + n }

end Redis

/-! ## The methods -/

/-- What a call returns. -/
inductive Answer where
  | nothing
  | issued (token : String)
  | claimed (claimed : Claimed)

/-- `create_reveal_token` with the drawn token. -/
def createRevealToken (accountId token : String) : Prog Failure Redis Answer := do
  Prog.modify (Redis.setToken token accountId revealTokenTtlSeconds)
  return .issued token

def stashCredentials (accountId portalToken mobileApiKey : String) :
    Prog Failure Redis Answer := do
  Prog.modify (Redis.setPending ⟨portalToken, mobileApiKey, accountId⟩)
  return .nothing

/-- The end of `reveal` when nothing is stashed yet. -/
def putBack (accountId revealToken : String) : Prog Failure Redis Answer := do
  Prog.modify (Redis.setToken revealToken accountId (min 120 revealTokenTtlSeconds))
  return .nothing

/-- The end of `reveal` when something is. -/
def handOver (accountId : String) (stash : Stash) : Prog Failure Redis Answer := do
  Prog.modify (Redis.deletePending accountId)
  return .claimed ⟨accountId, stash.credentials.portalToken, stash.credentials.mobileApiKey⟩

/-- `reveal` once the token is deleted. -/
def claimPending (accountId revealToken : String) : Prog Failure Redis Answer := do
  match ← Prog.read (·.getPending accountId) with
  | none => putBack accountId revealToken
  | some stash => handOver accountId stash

def reveal (accountId revealToken : String) : Prog Failure Redis Answer := do
  match ← Prog.read (·.getToken revealToken) with
  | none => return .nothing
  | some storedAccount =>
      if storedAccount ≠ accountId then return .nothing
      else
        Prog.modify (Redis.deleteToken revealToken)
        claimPending accountId revealToken

/-- A call with its arguments, or the passing of time. -/
inductive Call where
  | createRevealToken (accountId token : String)
  | stashCredentials (accountId portalToken mobileApiKey : String)
  | reveal (accountId revealToken : String)
  | sleep (seconds : ℕ)

def Call.prog : Call → Prog Failure Redis Answer
  | createRevealToken accountId token => Reveal.createRevealToken accountId token
  | stashCredentials accountId portalToken mobileApiKey =>
      Reveal.stashCredentials accountId portalToken mobileApiKey
  | reveal accountId revealToken => Reveal.reveal accountId revealToken
  | sleep n => Prog.modify (Redis.sleep n) >>= fun _ => return .nothing

/-! ## Point by point -/

/-- Where a call stands. -/
inductive Point where
  | start
  /-- before the token is deleted -/
  | matched
  /-- before the payload is read -/
  | taken
  /-- before the token is put back -/
  | unready
  /-- before the payload is deleted -/
  | holding (stash : Stash)
  /-- ended, with the payload that it claims if any -/
  | done (stash : Option Stash)
  deriving DecidableEq

/-- What a call that has ended returns. -/
def Call.answer : Call → Option Stash → Answer
  | createRevealToken _ token, _ => .issued token
  | stashCredentials _ _ _, _ => .nothing
  | reveal _ _, none => .nothing
  | reveal accountId _, some stash =>
      .claimed ⟨accountId, stash.credentials.portalToken, stash.credentials.mobileApiKey⟩
  | sleep _, _ => .nothing

/-- What the next command does. -/
def Point.effect : Call → Point → Redis → Redis
  | .createRevealToken accountId token, start =>
      Redis.setToken token accountId revealTokenTtlSeconds
  | .stashCredentials accountId portalToken mobileApiKey, start =>
      Redis.setPending ⟨portalToken, mobileApiKey, accountId⟩
  | .sleep n, start => Redis.sleep n
  | .reveal _ revealToken, matched => Redis.deleteToken revealToken
  | .reveal accountId revealToken, unready =>
      Redis.setToken revealToken accountId (min 120 revealTokenTtlSeconds)
  | .reveal accountId _, holding _ => Redis.deletePending accountId
  | _, _ => id

/-- The point that the next command leads to. -/
def Point.next : Call → Point → Redis → Point
  | .reveal accountId revealToken, start, redis =>
      if redis.getToken revealToken = some accountId then matched else done none
  | .reveal _ _, matched, _ => taken
  | .reveal accountId _, taken, redis =>
      match redis.getPending accountId with
      | none => unready
      | some stash => holding stash
  | .reveal _ _, unready, _ => done none
  | .reveal _ _, holding stash, _ => done (some stash)
  | _, start, _ => done none
  | _, p, _ => p

/-- What is left to run at a point. -/
def Point.prog : Call → Point → Prog Failure Redis Answer
  | call, start => call.prog
  | call, done stash => .halt (.ok (call.answer stash))
  | .reveal accountId revealToken, matched => do
      Prog.modify (Redis.deleteToken revealToken)
      claimPending accountId revealToken
  | .reveal accountId revealToken, taken => claimPending accountId revealToken
  | .reveal accountId revealToken, unready => putBack accountId revealToken
  | .reveal accountId _, holding stash => handOver accountId stash
  | _, _ => .halt (.ok .nothing)

theorem Point.prog_start (accountId revealToken : String) :
    (start.prog (.reveal accountId revealToken)) = .step id fun redis =>
      (start.next (.reveal accountId revealToken) redis).prog (.reveal accountId revealToken) := by
  change Prog.step _ _ = Prog.step _ _
  congr 1
  funext redis
  change (match redis.getToken revealToken with
    | none => Prog.halt (.ok Answer.nothing)
    | some storedAccount =>
        if storedAccount ≠ accountId then Prog.halt (.ok Answer.nothing)
        else Prog.modify (Redis.deleteToken revealToken) >>= fun _ =>
          claimPending accountId revealToken) = _
  rw [next]
  cases redis.getToken revealToken with
  | none => rfl
  | some storedAccount =>
      by_cases same : storedAccount = accountId
      · rw [if_pos (congrArg some same)]
        exact if_neg (not_not.mpr same)
      · rw [if_neg fun both => same (Option.some.inj both)]
        exact if_pos same

theorem Point.prog_taken (accountId revealToken : String) :
    (taken.prog (.reveal accountId revealToken)) = .step id fun redis =>
      (taken.next (.reveal accountId revealToken) redis).prog (.reveal accountId revealToken) := by
  change Prog.step _ _ = Prog.step _ _
  congr 1
  funext redis
  change (match redis.getPending accountId with
    | none => putBack accountId revealToken
    | some stash => handOver accountId stash) = _
  rw [next]
  cases redis.getPending accountId <;> rfl

/-- A call by its points. -/
def Call.control (call : Call) : Control Failure Redis Answer Point where
  prog := Point.prog call
  effect := Point.effect call
  next := Point.next call
  law p := by
    cases call with
    | reveal accountId revealToken =>
        cases p with
        | start => exact .inr (Point.prog_start accountId revealToken)
        | matched => exact .inr rfl
        | taken => exact .inr (Point.prog_taken accountId revealToken)
        | unready => exact .inr rfl
        | holding stash => exact .inr rfl
        | done stash => exact .inl ⟨_, rfl, fun _ => ⟨rfl, rfl⟩⟩
    | createRevealToken accountId token =>
        cases p with
        | start => exact .inr rfl
        | _ => exact .inl ⟨_, rfl, fun _ => ⟨rfl, rfl⟩⟩
    | stashCredentials accountId portalToken mobileApiKey =>
        cases p with
        | start => exact .inr rfl
        | _ => exact .inl ⟨_, rfl, fun _ => ⟨rfl, rfl⟩⟩
    | sleep n =>
        cases p with
        | start => exact .inr rfl
        | _ => exact .inl ⟨_, rfl, fun _ => ⟨rfl, rfl⟩⟩

/-! ## Any number of calls -/

/-- Where the calls stand. -/
structure Claims (ι : Type) where
  points : ι → Point
  redis : Redis

section Runs

variable {ι : Type} [DecidableEq ι] (calls : ι → Call)

/-- The calls, before their first commands. -/
def running : Pool ι Failure Redis Answer := ⟨.empty, fun i => (calls i).prog⟩

def Claims.start : Claims ι := ⟨fun _ => .start, .empty⟩

/-- Call `i` takes its next command. -/
def Claims.step (claims : Claims ι) (i : ι) : Claims ι where
  points := Function.update claims.points i ((claims.points i).next (calls i) claims.redis)
  redis := (claims.points i).effect (calls i) claims.redis

/-- The calls by their points. -/
def Claims.pool (claims : Claims ι) : Pool ι Failure Redis Answer :=
  Control.pool (fun i => (calls i).control) claims.points claims.redis

/-- **Points.**  A run of the programs is a run from point to point. -/
theorem exec_running (turns : List ι) :
    (running calls).exec turns = (exec (Claims.step calls) Claims.start turns).pool calls := by
  have general (turns : List ι) (claims : Claims ι) :
      (claims.pool calls).exec turns = (exec (Claims.step calls) claims turns).pool calls := by
    induction turns generalizing claims with
    | nil => rfl
    | cons turn rest ih =>
        rw [Pool.exec_cons, Claims.pool, Control.step_pool]
        exact ih (claims.step calls turn)
  exact general turns Claims.start

variable {calls}

omit [DecidableEq ι] in
/-- A call returns credentials where its point says so. -/
theorem claimed_iff {claims : Claims ι} {i : ι} {accountId revealToken : String}
    (call : calls i = .reveal accountId revealToken) (claimed : Claimed) :
    (claims.pool calls).threads i = .halt (.ok (.claimed claimed)) ↔
      ∃ stash, claims.points i = .done (some stash) ∧
        claimed = ⟨accountId, stash.credentials.portalToken, stash.credentials.mobileApiKey⟩ := by
  change (claims.points i).prog (calls i) = _ ↔ _
  rw [call]
  cases claims.points i with
  | done stash =>
      cases stash with
      | none => exact ⟨nofun, fun found => nomatch found.choose_spec.1⟩
      | some stash =>
          constructor
          · intro ended
            cases ended
            exact ⟨stash, rfl, rfl⟩
          · intro held
            rcases held with ⟨_, same, rfl⟩
            cases same
            rfl
  | start =>
      rw [Point.prog_start]
      exact ⟨nofun, fun found => nomatch found.choose_spec.1⟩
  | taken =>
      rw [Point.prog_taken]
      exact ⟨nofun, fun found => nomatch found.choose_spec.1⟩
  | matched => exact ⟨nofun, fun found => nomatch found.choose_spec.1⟩
  | unready => exact ⟨nofun, fun found => nomatch found.choose_spec.1⟩
  | holding stash => exact ⟨nofun, fun found => nomatch found.choose_spec.1⟩

/-! ## What a command can do -/

/-- The moves of call `i`, with the point and the keys that they lead to. -/
inductive Move (calls : ι → Call) (claims : Claims ι) (i : ι) : Point → Redis → Prop
  | stay : Move calls claims i (claims.points i) claims.redis
  | create {accountId token : String} (call : calls i = .createRevealToken accountId token)
      (start : claims.points i = .start) :
      Move calls claims i (.done none)
        (claims.redis.setToken token accountId revealTokenTtlSeconds)
  | stash {accountId portalToken mobileApiKey : String}
      (call : calls i = .stashCredentials accountId portalToken mobileApiKey)
      (start : claims.points i = .start) :
      Move calls claims i (.done none)
        (claims.redis.setPending ⟨portalToken, mobileApiKey, accountId⟩)
  | sleep {n : ℕ} (call : calls i = .sleep n) (start : claims.points i = .start) :
      Move calls claims i (.done none) (claims.redis.sleep n)
  | miss {accountId token : String} (call : calls i = .reveal accountId token)
      (start : claims.points i = .start) : Move calls claims i (.done none) claims.redis
  | find {accountId token : String} (call : calls i = .reveal accountId token)
      (start : claims.points i = .start) (found : claims.redis.getToken token = some accountId) :
      Move calls claims i .matched claims.redis
  | take {accountId token : String} (call : calls i = .reveal accountId token)
      (matched : claims.points i = .matched) :
      Move calls claims i .taken (claims.redis.deleteToken token)
  | lack {accountId token : String} (call : calls i = .reveal accountId token)
      (taken : claims.points i = .taken) : Move calls claims i .unready claims.redis
  | grasp {accountId token : String} {stash : Stash} (call : calls i = .reveal accountId token)
      (taken : claims.points i = .taken) (found : claims.redis.getPending accountId = some stash) :
      Move calls claims i (.holding stash) claims.redis
  | restore {accountId token : String} (call : calls i = .reveal accountId token)
      (unready : claims.points i = .unready) :
      Move calls claims i (.done none)
        (claims.redis.setToken token accountId (min 120 revealTokenTtlSeconds))
  | finish {accountId token : String} {stash : Stash} (call : calls i = .reveal accountId token)
      (holding : claims.points i = .holding stash) :
      Move calls claims i (.done (some stash)) (claims.redis.deletePending accountId)

omit [DecidableEq ι] in
theorem move_stay {claims : Claims ι} {i : ι} {p : Point} (point : claims.points i = p) :
    Move calls claims i p claims.redis := point ▸ .stay

omit [DecidableEq ι] in
theorem move_next (claims : Claims ι) (i : ι) :
    Move calls claims i ((claims.points i).next (calls i) claims.redis)
      ((claims.points i).effect (calls i) claims.redis) := by
  cases call : calls i with
  | reveal accountId token =>
      cases point : claims.points i with
      | start =>
          rw [Point.next]
          by_cases found : claims.redis.getToken token = some accountId
          · rw [if_pos found]
            exact .find call point found
          · rw [if_neg found]
            exact .miss call point
      | matched => exact .take call point
      | taken =>
          rw [Point.next]
          cases found : claims.redis.getPending accountId with
          | none => exact .lack call point
          | some stash => exact .grasp call point found
      | unready => exact .restore call point
      | holding stash => exact .finish call point
      | done stash => exact move_stay point
  | createRevealToken accountId token =>
      cases point : claims.points i with
      | start => exact .create call point
      | _ => exact move_stay point
  | stashCredentials accountId portalToken mobileApiKey =>
      cases point : claims.points i with
      | start => exact .stash call point
      | _ => exact move_stay point
  | sleep n =>
      cases point : claims.points i with
      | start => exact .sleep call point
      | _ => exact move_stay point

/-- The claims after a move of call `i`. -/
def Claims.moved (claims : Claims ι) (i : ι) (p : Point) (redis : Redis) : Claims ι :=
  ⟨Function.update claims.points i p, redis⟩

section Moved

variable {claims : Claims ι} {i j : ι} {p : Point} {redis : Redis}

@[simp]
theorem points_moved_self : (claims.moved i p redis).points i = p := Function.update_self ..

theorem points_moved_of_ne (apart : j ≠ i) : (claims.moved i p redis).points j = claims.points j :=
  Function.update_of_ne apart ..

@[simp]
theorem redis_moved : (claims.moved i p redis).redis = redis := rfl

end Moved

/-- Every step is a move of the call whose turn it is. -/
theorem step_cases (claims : Claims ι) (i : ι) :
    ∃ p redis, Move calls claims i p redis ∧ claims.step calls i = claims.moved i p redis :=
  ⟨_, _, move_next claims i, rfl⟩


end Runs

end Aegis.Reveal
