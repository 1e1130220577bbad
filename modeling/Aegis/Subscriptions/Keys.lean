import Aegis.Lib.Python
import Aegis.Subscriptions.State

/-!
# API keys

`issue_api_key`, `verify_api_key` and the authorization checks of `security.py`.  A key is
stored as its hash only; the hash function is a parameter, and `api_keys.key_hash` is
unique, so issuing a key whose hash is taken raises.
-/

namespace Aegis.Subscriptions

open Aegis.Lib

/-- How a handler can end other than with its result. -/
inductive Failure where
  | integrityError
  | multipleResultsFound
  /-- the database driver refuses an argument -/
  | dataError
  /-- SQLAlchemy has to load a column outside an `await` -/
  | missingGreenlet
  /-- an `import` in the body of a handler fails -/
  | importError
  | python (error : PyError)
  | httpException (statusCode : ℕ) (detail : String)
  deriving DecidableEq

/-- The outcome is an `HTTPException`. -/
def Refused {α : Type} (outcome : Except Failure α) : Prop :=
  ∃ statusCode detail, outcome = .error (.httpException statusCode detail)

/-- The settings that the subscription code reads, with their defaults. -/
structure Settings where
  subscriptionGracePeriodDays : ℤ := 5
  apiKeyDefaultTtlDays : ℤ := 365
  apiKeyRotationDays : ℤ := 90

/-- What the handlers find fixed: the settings and `_hash_key`. -/
structure Env where
  settings : Settings := {}
  hashKey : String → String

/-- The optional arguments of `issue_api_key`. -/
structure KeyRequest where
  accountId : Option String
  isAdmin : Bool := false
  label : Option String := none
  issuedBy : Option String := none
  expiresInDays : Option ℤ := none
  rotationDays : Option ℤ := none
  replacesKeyId : Option ℕ := none
  deriving DecidableEq

structure AuthContext where
  accountId : Option String
  isAdmin : Bool
  label : Option String
  keyId : Option ℕ
  forceRotate : Bool
  expiresAt : Option ℤ
  rotationDueAt : Option ℤ
  deriving DecidableEq

/-- `now + timedelta(days=n)`, or no date when `n` is not positive.  The `OverflowError` of a date
past the year 9999 is left out. -/
def dateAfter (now : ℤ) (n : ℤ) : Option ℤ :=
  if n > 0 then some (now + days n) else none

variable (env : Env)

/-- The row that `issue_api_key` adds. -/
def issuedRow (now : ℤ) (rawKey : String) (request : KeyRequest) (id : ℕ) : ApiKey where
  id := id
  keyHash := env.hashKey rawKey
  accountId := request.accountId
  isAdmin := request.isAdmin
  label := request.label
  revoked := false
  createdAt := now
  lastUsedAt := none
  expiresAt := dateAfter now (request.expiresInDays.getD env.settings.apiKeyDefaultTtlDays)
  rotationDueAt := dateAfter now (request.rotationDays.getD env.settings.apiKeyRotationDays)
  forceRotate := false
  issuedBy := request.issuedBy
  revokedBy := none
  revokedAt := none
  replacesKeyId := request.replacesKeyId

/-- The key hash is not in the table. -/
def World.FreshKey (world : World) (rawKey : String) : Prop :=
  ∀ row ∈ world.apiKeys, row.keyHash ≠ env.hashKey rawKey

instance (world : World) (rawKey : String) : Decidable (world.FreshKey env rawKey) :=
  List.decidableBAll _ _

def addKey (now : ℤ) (rawKey : String) (request : KeyRequest) (world : World) : World :=
  { world with
    apiKeys := world.apiKeys ++ [issuedRow env now rawKey request world.nextKeyId]
    nextKeyId := world.nextKeyId + 1 }

/-- The insert of `issue_api_key` under the unique constraint. -/
def insertKey (now : ℤ) (rawKey : String) (request : KeyRequest) (world : World) :
    Except Failure World :=
  if world.FreshKey env rawKey then .ok (addKey env now rawKey request world)
  else .error .integrityError

/-- `issue_api_key` with the drawn key. -/
def issueApiKey (now : ℤ) (rawKey : String) (request : KeyRequest) :
    Prog Failure World String := do
  Prog.commit (insertKey env now rawKey request)
  return rawKey

/-- What `verify_api_key` answers for the rows its query found. -/
def checkKey (now : ℤ) : List ApiKey → Except Failure ApiKey
  | [] => .error (.httpException 401 "Invalid or revoked API key.")
  | [row] =>
      if row.revoked then .error (.httpException 401 "Invalid or revoked API key.")
      else if row.expiresAt.any (· ≤ now) then
        .error (.httpException 401
          "API key has expired. Request a new key from your operator.")
      else if row.forceRotate then
        .error (.httpException 401
          "API key rotation required. Contact your operator for a new key.")
      else .ok row
  | _ :: _ :: _ => .error .multipleResultsFound

/-- `verify_api_key`: the rows' `last_used_at` is updated when the key is good. -/
def verifyApiKey (now : ℤ) (xApiKey : Option String) (world : World) :
    Except Failure (AuthContext × World) :=
  match xApiKey with
  | none => .error (.httpException 401 "Missing X-API-Key header.")
  | some rawKey => do
      let row ← checkKey now (world.apiKeys.filter (·.keyHash = env.hashKey rawKey))
      let used := world.apiKeys.map fun other =>
        if other.id = row.id then { other with lastUsedAt := some now } else other
      return (⟨row.accountId, row.isAdmin, row.label, some row.id, row.forceRotate,
        row.expiresAt, row.rotationDueAt⟩, { world with apiKeys := used })

def authenticate (now : ℤ) (xApiKey : Option String) : Prog Failure World AuthContext :=
  Prog.transact (verifyApiKey env now xApiKey)

def requireAccountMatch (auth : AuthContext) (requestedAccountId : String) :
    Except Failure Unit :=
  if auth.isAdmin then .ok ()
  else if auth.accountId ≠ some requestedAccountId then
    .error (.httpException 403 "This API key is not authorized for this account.")
  else .ok ()

def requireAdmin (auth : AuthContext) : Except Failure Unit :=
  if auth.isAdmin then .ok ()
  else .error (.httpException 403 "This endpoint requires an admin API key.")

theorem requireAccountMatch_cases (auth : AuthContext) (accountId : String) :
    requireAccountMatch auth accountId = .ok () ∨
      ∃ detail, requireAccountMatch auth accountId = .error (.httpException 403 detail) := by
  unfold requireAccountMatch
  split
  · exact .inl rfl
  · split
    · exact .inr ⟨_, rfl⟩
    · exact .inl rfl

/-- The key opens the account at `now`. -/
def World.Opens (world : World) (now : ℤ) (rawKey accountId : String) : Prop :=
  ∃ auth after, verifyApiKey env now (some rawKey) world = .ok (auth, after) ∧
    auth.accountId = some accountId

/-! ## Issuing a key -/

section Issue

variable {env} {now : ℤ} {rawKey accountId : String} {request : KeyRequest} {world : World}

@[simp]
theorem trace_addKey : (addKey env now rawKey request world).trace = world.trace := rfl

theorem keysOf_addKey :
    (addKey env now rawKey request world).keysOf accountId =
      if request.accountId = some accountId then
        world.keysOf accountId ++ [issuedRow env now rawKey request world.nextKeyId]
      else world.keysOf accountId := by
  have own : (issuedRow env now rawKey request world.nextKeyId).accountId =
      request.accountId := rfl
  simp only [World.keysOf, addKey, List.filter_append, List.filter_cons, List.filter_nil, own]
  by_cases same : request.accountId = some accountId
  · simp only [same, decide_true, if_true]
  · simp only [same, decide_false, if_false, List.append_nil, Bool.false_eq_true]

theorem freshKey_addKey {other : String} :
    (addKey env now rawKey request world).FreshKey env other ↔
      world.FreshKey env other ∧ env.hashKey rawKey ≠ env.hashKey other := by
  simp only [World.FreshKey, addKey, List.mem_append, List.mem_singleton, or_imp,
    forall_and, forall_eq]
  rfl

theorem insertKey_of_fresh (fresh : world.FreshKey env rawKey) :
    insertKey env now rawKey request world = .ok (addKey env now rawKey request world) :=
  if_pos fresh

theorem run_issueApiKey (fresh : world.FreshKey env rawKey) :
    (issueApiKey env now rawKey request).run world =
      (.ok rawKey, addKey env now rawKey request world) :=
  Prog.run_bind_ok (Prog.run_commit_ok (insertKey_of_fresh fresh))

/-- Issuing a key adds its row or changes nothing. -/
theorem guarantees_issueApiKey {R : World → World → Prop} (refl : ∀ world, R world world)
    (adds : ∀ world, R world (addKey env now rawKey request world)) :
    (issueApiKey env now rawKey request).Guarantees R := by
  unfold issueApiKey
  apply Prog.Guarantees.bind
  · apply Prog.guarantees_commit refl
    intro before after inserted
    unfold insertKey at inserted
    split at inserted
    · cases inserted
      exact adds before
    · cases inserted
  · exact fun _ => Prog.guarantees_pure _

theorem dateAfter_later (now n : ℤ) : (dateAfter now n).any (· ≤ now) = false := by
  unfold dateAfter days
  split
  · simp only [Option.any_some, decide_eq_false_iff_not]
    omega
  · rfl

theorem opens_iff :
    world.Opens env now rawKey accountId ↔
      ∃ row, checkKey now (world.apiKeys.filter (·.keyHash = env.hashKey rawKey)) = .ok row ∧
        row.accountId = some accountId := by
  simp only [World.Opens, verifyApiKey]
  cases checkKey now (world.apiKeys.filter (·.keyHash = env.hashKey rawKey)) with
  | error e =>
      constructor
      · intro opens
        rcases opens with ⟨auth, after, failed, _⟩
        cases failed
      · intro checked
        rcases checked with ⟨row, failed, _⟩
        cases failed
  | ok row =>
      constructor
      · intro opens
        rcases opens with ⟨auth, after, verified, owner⟩
        cases verified
        exact ⟨row, rfl, owner⟩
      · intro checked
        rcases checked with ⟨found, same, owner⟩
        cases same
        exact ⟨_, _, rfl, owner⟩

theorem opens_congr {other : World} (keys : other.apiKeys = world.apiKeys) :
    other.Opens env now rawKey accountId ↔ world.Opens env now rawKey accountId := by
  rw [opens_iff, opens_iff, keys]

/-- A key that was just issued opens its account. -/
theorem opens_addKey (fresh : world.FreshKey env rawKey)
    (owner : request.accountId = some accountId) :
    (addKey env now rawKey request world).Opens env now rawKey accountId := by
  have found : (addKey env now rawKey request world).apiKeys.filter
      (·.keyHash = env.hashKey rawKey) =
        [issuedRow env now rawKey request world.nextKeyId] := by
    have none : world.apiKeys.filter (·.keyHash = env.hashKey rawKey) = [] :=
      List.filter_eq_nil_iff.mpr fun row member same =>
        fresh row member (of_decide_eq_true same)
    have own : (issuedRow env now rawKey request world.nextKeyId).keyHash =
      env.hashKey rawKey := rfl
    simp only [addKey, List.filter_append, none, List.nil_append, List.filter_cons, own,
      decide_true, if_true, List.filter_nil]
  have good : checkKey now [issuedRow env now rawKey request world.nextKeyId] =
      .ok (issuedRow env now rawKey request world.nextKeyId) := by
    have lasting := dateAfter_later now
      (request.expiresInDays.getD env.settings.apiKeyDefaultTtlDays)
    simp only [checkKey, issuedRow, lasting]
    rfl
  rw [opens_iff, found]
  exact ⟨issuedRow env now rawKey request world.nextKeyId, good, owner⟩

end Issue

end Aegis.Subscriptions
