import Aegis.Lib.Ledger
import Aegis.Subscriptions.Keys

/-!
# The life of an API key

`issue_api_key`, `revoke_api_key`, `force_rotate_key` and the administrators' endpoints over
them change the flags of the same rows, each in transactions of its own.  Calls run side by
side, statement by statement; `KeyRing.deeds` is a history variable that says in which order
their writes took effect.

`KeyRing.Recorded` says that the table is what the deeds make of it, and `Recorded.accepts_iff`
which keys are good then: no write of any call makes a key good again.
-/

namespace Aegis.Subscriptions

open Aegis.Lib

/-- A write that has taken effect. -/
inductive Deed where
  | issued (keyId : ℕ) (now : ℤ) (rawKey : String) (request : KeyRequest)
  | revoked (keyId : ℤ)
  | forcedToRotate (keyId : ℤ)
  deriving DecidableEq

/-- The database, and what has been done to its keys. -/
structure KeyRing where
  world : World
  deeds : List Deed

namespace KeyRing

def empty : KeyRing := ⟨World.empty, []⟩

def setWorld (world : World) (keyRing : KeyRing) : KeyRing := { keyRing with world := world }

def note (deed : Deed) (keyRing : KeyRing) : KeyRing :=
  { keyRing with deeds := keyRing.deeds ++ [deed] }

/-- The update of the row with the primary key `keyId`. -/
def updateKey (keyId : ℤ) (change : ApiKey → ApiKey) (keyRing : KeyRing) : KeyRing :=
  keyRing.setWorld { keyRing.world with
    apiKeys := keyRing.world.apiKeys.map fun row => if row.id = keyId then change row else row }

end KeyRing

/-! ## The operations -/

variable (env : Env)

/-- `select(ApiKey).where(ApiKey.id == key_id)`; `api_keys.id` is a 32-bit integer. -/
def selectKey (keyId : ℤ) : Prog Failure KeyRing (Option ApiKey) := do
  if keyId < -2147483648 ∨ 2147483648 ≤ keyId then Prog.raise .dataError
  Prog.read fun keyRing => keyRing.world.apiKeys.find? (·.id = keyId)

/-- `issue_api_key`, noted when its insert commits. -/
def issueKey (now : ℤ) (rawKey : String) (request : KeyRequest) :
    Prog Failure KeyRing String :=
  Prog.atomically do
    let keyId ← Prog.read fun keyRing => keyRing.world.nextKeyId
    let issued ← (issueApiKey env now rawKey request).zoom KeyRing.world KeyRing.setWorld
    Prog.modify (·.note (.issued keyId now rawKey request))
    return issued

def revokeApiKey (now : ℤ) (keyId : ℤ) (revokedBy : Option String) :
    Prog Failure KeyRing Bool := do
  let row ← selectKey keyId
  if row.isNone then
    return false
  Prog.modify fun keyRing => (keyRing.updateKey keyId fun row =>
    { row with revoked := true, revokedBy := revokedBy, revokedAt := some now }).note
      (.revoked keyId)
  return true

/-- `force_rotate_key`; it does not use its `actor`. -/
def forceRotateKey (keyId : ℤ) : Prog Failure KeyRing Bool := do
  let row ← selectKey keyId
  if row.all (·.revoked) then
    return false
  Prog.modify fun keyRing => (keyRing.updateKey keyId fun row =>
    { row with forceRotate := true }).note (.forcedToRotate keyId)
  return true

/-- `verify_api_key`, which leaves `last_used_at` behind. -/
def useKey (now : ℤ) (xApiKey : Option String) : Prog Failure KeyRing AuthContext :=
  (authenticate env now xApiKey).zoom KeyRing.world KeyRing.setWorld

/-- `_actor` of `admin_router.py`. -/
def actor (auth : AuthContext) : String :=
  (auth.label.filter (· ≠ "")).getD
    (match auth.keyId with
    | some keyId => "key:" ++ toString keyId
    | none => "admin")

/-- The endpoint `revoke_key`. -/
def revokeKey (auth : AuthContext) (now : ℤ) (keyId : ℤ) : Prog Failure KeyRing Unit := do
  Prog.ofExcept (requireAdmin auth)
  let ok ← revokeApiKey now keyId (some (actor auth))
  if !ok then Prog.raise (.httpException 404 "Key not found")

/-- The endpoint `force_rotate`. -/
def forceRotate (auth : AuthContext) (keyId : ℤ) : Prog Failure KeyRing Unit := do
  Prog.ofExcept (requireAdmin auth)
  let ok ← forceRotateKey keyId
  if !ok then Prog.raise (.httpException 404 "Key not found or already revoked")

structure RotateKeyRequest where
  keyId : ℤ
  label : Option String := none
  expiresInDays : Option ℤ := none
  rotationDays : Option ℤ := none

/-- The row that `rotate_key` asks for in place of the old one. -/
def replacement (auth : AuthContext) (body : RotateKeyRequest) (old : ApiKey) : KeyRequest where
  accountId := old.accountId
  isAdmin := old.isAdmin
  label := ((body.label.filter (· ≠ "")).or (old.label.filter (· ≠ ""))).or
    (some "rotated key")
  issuedBy := some (actor auth)
  expiresInDays := body.expiresInDays
  rotationDays := body.rotationDays
  replacesKeyId := some old.id

/-- The endpoint `rotate_key`: it reads the old key, issues the new one and revokes the old
one in three transactions. -/
def rotateKey (auth : AuthContext) (body : RotateKeyRequest) (issuedAt : ℤ) (rawKey : String)
    (revokedAt : ℤ) : Prog Failure KeyRing String := do
  Prog.ofExcept (requireAdmin auth)
  let some old ← selectKey body.keyId | Prog.raise (.httpException 404 "Key not found")
  let raw ← issueKey env issuedAt rawKey (replacement auth body old)
  let _ ← revokeApiKey revokedAt body.keyId (some (actor auth))
  return raw

/-- A call, with the clock readings and the key that it draws. -/
inductive KeyCall where
  | issueApiKey (now : ℤ) (rawKey : String) (request : KeyRequest)
  | revokeApiKey (now : ℤ) (keyId : ℤ) (revokedBy : Option String)
  | forceRotateKey (keyId : ℤ)
  | verifyApiKey (now : ℤ) (xApiKey : Option String)
  | revokeKey (auth : AuthContext) (now : ℤ) (keyId : ℤ)
  | forceRotate (auth : AuthContext) (keyId : ℤ)
  | rotateKey (auth : AuthContext) (body : RotateKeyRequest) (issuedAt : ℤ) (rawKey : String)
      (revokedAt : ℤ)

/-- What a call returns. -/
inductive KeyAnswer where
  | key (rawKey : String)
  | flag (ok : Bool)
  | context (auth : AuthContext)
  | nothing
  deriving DecidableEq

def KeyCall.prog : KeyCall → Prog Failure KeyRing KeyAnswer
  | issueApiKey now rawKey request => do return .key (← issueKey env now rawKey request)
  | revokeApiKey now keyId revokedBy => do
      return .flag (← Subscriptions.revokeApiKey now keyId revokedBy)
  | forceRotateKey keyId => do return .flag (← Subscriptions.forceRotateKey keyId)
  | verifyApiKey now xApiKey => do return .context (← useKey env now xApiKey)
  | revokeKey auth now keyId => do
      Subscriptions.revokeKey auth now keyId
      return .nothing
  | forceRotate auth keyId => do
      Subscriptions.forceRotate auth keyId
      return .nothing
  | rotateKey auth body issuedAt rawKey revokedAt => do
      return .key (← Subscriptions.rotateKey env auth body issuedAt rawKey revokedAt)

/-- The key that the call draws. -/
def KeyCall.drawn : KeyCall → Option String
  | issueApiKey _ rawKey _ | rotateKey _ _ _ rawKey _ => some rawKey
  | revokeApiKey _ _ _ | forceRotateKey _ | verifyApiKey _ _ | revokeKey _ _ _
  | forceRotate _ _ => none

/-- The write is one of those that the call is there for. -/
def KeyCall.Does : KeyCall → Deed → Prop
  | issueApiKey now rawKey request, .issued _ issuedAt issued asked =>
      issuedAt = now ∧ issued = rawKey ∧ asked = request
  | revokeApiKey _ keyId _, .revoked revoked => revoked = keyId
  | forceRotateKey keyId, .forcedToRotate forced => forced = keyId
  | revokeKey auth _ keyId, .revoked revoked => auth.isAdmin = true ∧ revoked = keyId
  | forceRotate auth keyId, .forcedToRotate forced => auth.isAdmin = true ∧ forced = keyId
  | rotateKey auth body issuedAt rawKey _, .issued _ now issued asked =>
      auth.isAdmin = true ∧ now = issuedAt ∧ issued = rawKey ∧
        ∃ old, asked = replacement auth body old
  | rotateKey auth body _ _ _, .revoked revoked => auth.isAdmin = true ∧ revoked = body.keyId
  | _, _ => False

/-- The calls, before their first steps. -/
def keyCalls {ι : Type} (calls : ι → KeyCall) : Pool ι Failure KeyRing KeyAnswer :=
  ⟨KeyRing.empty, fun i => (calls i).prog env⟩

/-- The date up to which a key issued at `now` is good. -/
def expiryOf (now : ℤ) (request : KeyRequest) : Option ℤ :=
  dateAfter now (request.expiresInDays.getD env.settings.apiKeyDefaultTtlDays)

/-- The key was issued as requested, and nothing has been applied to its row since. -/
def KeyRing.Stands (keyRing : KeyRing) (rawKey : String) (issuedAt : ℤ) (request : KeyRequest) :
    Prop :=
  ∃ keyId before after, keyRing.deeds = before ++ .issued keyId issuedAt rawKey request :: after ∧
    .revoked (keyId : ℤ) ∉ after ∧ .forcedToRotate (keyId : ℤ) ∉ after

/-- The key has been issued. -/
def KeyRing.Issued (keyRing : KeyRing) (rawKey : String) : Prop :=
  ∃ keyId now request, .issued keyId now rawKey request ∈ keyRing.deeds

/-! ## What a call can write -/

/-- The change is that of the flags which the deeds name. -/
structure Revises (more : List Deed) (row after : ApiKey) : Prop where
  id : after.id = row.id
  keyHash : after.keyHash = row.keyHash
  accountId : after.accountId = row.accountId
  isAdmin : after.isAdmin = row.isAdmin
  expiresAt : after.expiresAt = row.expiresAt
  revoked : after.revoked = true ↔ row.revoked = true ∨ .revoked (row.id : ℤ) ∈ more
  forceRotate : after.forceRotate = true ↔
    row.forceRotate = true ∨ .forcedToRotate (row.id : ℤ) ∈ more

/-- What one statement can do: nothing, the insert of a key with a new hash, or a change of
flags in the rows that are there; its deeds are named. -/
inductive KeyMove (Named : Deed → Prop) (keyRing : KeyRing) : KeyRing → Prop where
  | stay : KeyMove Named keyRing keyRing
  | issue {now : ℤ} {rawKey : String} {request : KeyRequest}
      (named : Named (.issued keyRing.world.nextKeyId now rawKey request))
      (fresh : keyRing.world.FreshKey env rawKey) :
      KeyMove Named keyRing ⟨addKey env now rawKey request keyRing.world,
        keyRing.deeds ++ [.issued keyRing.world.nextKeyId now rawKey request]⟩
  | revise {change : ApiKey → ApiKey} {more : List Deed}
      (revises : ∀ row, Revises more row (change row))
      (quiet : ∀ keyId now rawKey request, .issued keyId now rawKey request ∉ more)
      (named : ∀ deed ∈ more, Named deed) :
      KeyMove Named keyRing ⟨{ keyRing.world with apiKeys := keyRing.world.apiKeys.map change },
        keyRing.deeds ++ more⟩

section Moves

variable {env} {Named : Deed → Prop} {keyRing : KeyRing}

theorem revises_refl (row : ApiKey) : Revises [] row row :=
  ⟨rfl, rfl, rfl, rfl, rfl, by simp, by simp⟩

theorem guarantees_selectKey {R : KeyRing → KeyRing → Prop} (refl : ∀ keyRing, R keyRing keyRing)
    (keyId : ℤ) : (selectKey keyId).Guarantees R := by
  unfold selectKey
  dsimp only
  split
  · trivial
  · exact Prog.guarantees_read refl _

theorem keyMove_updateKey {keyId : ℤ} {change : ApiKey → ApiKey} {deed : Deed}
    (revises : ∀ row : ApiKey, row.id = keyId → Revises [deed] row (change row))
    (others : ∀ row : ApiKey, row.id ≠ keyId → Revises [deed] row row)
    (quiet : ∀ keyId now rawKey request, deed ≠ .issued keyId now rawKey request)
    (named : Named deed) :
    KeyMove env Named keyRing ((keyRing.updateKey keyId change).note deed) := by
  refine .revise (fun row => ?_) (fun other now rawKey request issued =>
    quiet other now rawKey request (List.mem_singleton.mp issued).symm)
    (List.forall_mem_singleton.mpr named)
  split
  next same => exact revises row same
  next apart => exact others row apart

/-- The update of `revoke_api_key`. -/
theorem keyMove_revoke {now keyId : ℤ} {revokedBy : Option String}
    (named : Named (.revoked keyId)) :
    KeyMove env Named keyRing ((keyRing.updateKey keyId fun row =>
      { row with revoked := true, revokedBy := revokedBy, revokedAt := some now }).note
        (.revoked keyId)) := by
  refine keyMove_updateKey ?_ ?_ (fun _ _ _ _ issued => by cases issued) named
  · intro row same
    exact ⟨rfl, rfl, rfl, rfl, rfl, by simp [same], by simp⟩
  · intro row apart
    exact ⟨rfl, rfl, rfl, rfl, rfl, by simp [apart], by simp⟩

/-- The update of `force_rotate_key`. -/
theorem keyMove_forceRotate {keyId : ℤ} (named : Named (.forcedToRotate keyId)) :
    KeyMove env Named keyRing ((keyRing.updateKey keyId fun row =>
      { row with forceRotate := true }).note (.forcedToRotate keyId)) := by
  refine keyMove_updateKey ?_ ?_ (fun _ _ _ _ issued => by cases issued) named
  · intro row same
    exact ⟨rfl, rfl, rfl, rfl, rfl, by simp, by simp [same]⟩
  · intro row apart
    exact ⟨rfl, rfl, rfl, rfl, rfl, by simp, by simp [apart]⟩

theorem guarantees_revokeApiKey (now : ℤ) {keyId : ℤ} (revokedBy : Option String)
    (named : Named (.revoked keyId)) :
    (revokeApiKey now keyId revokedBy).Guarantees (KeyMove env Named) := by
  unfold revokeApiKey
  refine (guarantees_selectKey (fun _ => .stay) keyId).bind fun row => ?_
  split
  · trivial
  · exact (Prog.guarantees_modify fun keyRing => keyMove_revoke named).bind fun _ => trivial

theorem guarantees_forceRotateKey {keyId : ℤ} (named : Named (.forcedToRotate keyId)) :
    (forceRotateKey keyId).Guarantees (KeyMove env Named) := by
  unfold forceRotateKey
  refine (guarantees_selectKey (fun _ => .stay) keyId).bind fun row => ?_
  split
  · trivial
  · exact (Prog.guarantees_modify fun keyRing => keyMove_forceRotate named).bind fun _ => trivial

/-- A call of `verify_api_key` changes no more than `last_used_at`. -/
theorem guarantees_useKey (now : ℤ) (xApiKey : Option String) :
    (useKey env now xApiKey).Guarantees (KeyMove env Named) := by
  refine Prog.Guarantees.zoom (R := fun world after => ∃ change : ApiKey → ApiKey,
    (∀ row, Revises [] row (change row)) ∧
      after = { world with apiKeys := world.apiKeys.map change }) ?_ ?_
  · intro _ keyRing changed
    obtain ⟨change, revises, rfl⟩ := changed
    have move : KeyMove env Named keyRing ⟨_, keyRing.deeds ++ []⟩ :=
      .revise revises (fun _ _ _ _ => List.not_mem_nil) nofun
    rwa [List.append_nil] at move
  · refine Prog.guarantees_transact ?_ ?_
    · exact fun world => ⟨id, revises_refl, by rw [List.map_id]⟩
    · intro world auth after verified
      cases xApiKey with
      | none => cases verified
      | some rawKey =>
          obtain ⟨row, _, used⟩ := bind_eq_ok.mp verified
          cases used
          refine ⟨_, fun other => ?_, rfl⟩
          split
          · exact ⟨rfl, rfl, rfl, rfl, rfl, by simp, by simp⟩
          · exact revises_refl other

theorem run_zoom_world {α : Type} (p : Prog Failure World α) (keyRing : KeyRing) :
    (p.zoom KeyRing.world KeyRing.setWorld).run keyRing =
      ((p.run keyRing.world).1, keyRing.setWorld (p.run keyRing.world).2) := by
  refine Prog.run_zoom ?_ ?_ ?_ p keyRing
  · exact fun _ _ => rfl
  · exact fun _ _ _ => rfl
  · exact fun _ => rfl

theorem run_issueKey (now : ℤ) (rawKey : String) (request : KeyRequest) (keyRing : KeyRing) :
    (issueKey env now rawKey request).run keyRing =
      if keyRing.world.FreshKey env rawKey then
        (.ok rawKey, ⟨addKey env now rawKey request keyRing.world,
          keyRing.deeds ++ [.issued keyRing.world.nextKeyId now rawKey request]⟩)
      else (.error .integrityError, keyRing) := by
  have zoomed := run_zoom_world (issueApiKey env now rawKey request) keyRing
  rw [issueKey, Prog.run_atomically, Prog.run_bind_ok (Prog.run_read _ _)]
  split
  next fresh =>
    rw [run_issueApiKey fresh] at zoomed
    exact Prog.run_bind_ok zoomed
  next taken =>
    have failed : (issueApiKey env now rawKey request).run keyRing.world =
        (.error .integrityError, keyRing.world) :=
      Prog.run_bind_error (Prog.run_commit_error (if_neg taken))
    rw [failed] at zoomed
    exact Prog.run_bind_error zoomed

theorem guarantees_issueKey {now : ℤ} {rawKey : String} {request : KeyRequest}
    (named : ∀ keyId, Named (.issued keyId now rawKey request)) :
    (issueKey env now rawKey request).Guarantees (KeyMove env Named) := by
  refine Prog.guarantees_atomically fun keyRing => ?_
  change KeyMove env Named keyRing ((issueKey env now rawKey request).run keyRing).2
  rw [run_issueKey]
  split
  next fresh => exact .issue (named _) fresh
  next => exact .stay

/-- What comes after the check is for administrators. -/
theorem guarantees_guarded {α : Type} {R : KeyRing → KeyRing → Prop} {auth : AuthContext}
    {p : Prog Failure KeyRing α} (allowed : auth.isAdmin = true → p.Guarantees R) :
    (Prog.ofExcept (requireAdmin auth) >>= fun _ => p).Guarantees R := by
  by_cases admin : auth.isAdmin = true
  · have passes : requireAdmin auth = .ok () := if_pos admin
    rw [passes]
    exact allowed admin
  · have denied : requireAdmin auth = .error _ := if_neg admin
    rw [denied]
    trivial

/-- **One call.** -/
theorem guarantees_keyCall (call : KeyCall) (named : ∀ deed, call.Does deed → Named deed) :
    (call.prog env).Guarantees (KeyMove env Named) := by
  cases call with
  | issueApiKey now rawKey request =>
      exact (guarantees_issueKey fun _ => named _ ⟨rfl, rfl, rfl⟩).bind fun _ => trivial
  | revokeApiKey now keyId revokedBy =>
      exact (guarantees_revokeApiKey now revokedBy (named _ rfl)).bind fun _ => trivial
  | forceRotateKey keyId =>
      exact (guarantees_forceRotateKey (named _ rfl)).bind fun _ => trivial
  | verifyApiKey now xApiKey => exact (guarantees_useKey now xApiKey).bind fun _ => trivial
  | revokeKey auth now keyId =>
      refine Prog.Guarantees.bind (guarantees_guarded fun admin => ?_) fun _ => trivial
      refine (guarantees_revokeApiKey now _ (named _ ⟨admin, rfl⟩)).bind fun ok => ?_
      cases ok <;> trivial
  | forceRotate auth keyId =>
      refine Prog.Guarantees.bind (guarantees_guarded fun admin => ?_) fun _ => trivial
      refine (guarantees_forceRotateKey (named _ ⟨admin, rfl⟩)).bind fun ok => ?_
      cases ok <;> trivial
  | rotateKey auth body issuedAt rawKey revokedAt =>
      refine Prog.Guarantees.bind (guarantees_guarded fun admin => ?_) fun _ => trivial
      refine (guarantees_selectKey (fun _ => .stay) body.keyId).bind fun old => ?_
      cases old with
      | none => trivial
      | some old =>
          have issues := fun keyId => named (.issued keyId issuedAt rawKey _)
            ⟨admin, rfl, rfl, old, rfl⟩
          refine (guarantees_issueKey issues).bind fun raw => ?_
          exact (guarantees_revokeApiKey revokedAt _ (named _ ⟨admin, rfl⟩)).bind fun _ => trivial

end Moves

/-! ## The table and the deeds -/

/-- The row is that of a key which was issued so, with the flags that the deeds since say. -/
structure IssuedAs (row : ApiKey) (now : ℤ) (rawKey : String) (request : KeyRequest)
    (since : List Deed) : Prop where
  keyHash : row.keyHash = env.hashKey rawKey
  accountId : row.accountId = request.accountId
  isAdmin : row.isAdmin = request.isAdmin
  expiresAt : row.expiresAt = expiryOf env now request
  revoked : row.revoked = true ↔ .revoked (row.id : ℤ) ∈ since
  forceRotate : row.forceRotate = true ↔ .forcedToRotate (row.id : ℤ) ∈ since

def Deed.Issues : Deed → Prop
  | issued _ _ _ _ => True
  | revoked _ | forcedToRotate _ => False

/-- The row is the record of the deed, which is named, and of the deeds since. -/
def RecordsKey (Named : Deed → Prop) (row : ApiKey) (deed : Deed) (since : List Deed) : Prop :=
  ∃ now rawKey request, deed = .issued row.id now rawKey request ∧ Named deed ∧
    IssuedAs env row now rawKey request since

/-- The table is what the deeds make of it, and each hash stands in it once. -/
structure KeyRing.Recorded (Named : Deed → Prop) (keyRing : KeyRing) : Prop where
  hashes : (keyRing.world.apiKeys.map (·.keyHash)).Nodup
  rows : Tracks Deed.Issues (RecordsKey env Named) keyRing.world.apiKeys keyRing.deeds
  named : ∀ deed ∈ keyRing.deeds, Named deed

section Table

variable {env} {Named : Deed → Prop} {keyRing : KeyRing} {row after : ApiKey}
  {since more : List Deed}

theorem RecordsKey.revise {deed : Deed} (records : RecordsKey env Named row deed since)
    (revises : Revises more row after) : RecordsKey env Named after deed (since ++ more) := by
  obtain ⟨now, rawKey, request, rfl, named, as⟩ := records
  refine ⟨now, rawKey, request, by rw [revises.id], named, ?_⟩
  exact {
    keyHash := revises.keyHash.trans as.keyHash
    accountId := revises.accountId.trans as.accountId
    isAdmin := revises.isAdmin.trans as.isAdmin
    expiresAt := revises.expiresAt.trans as.expiresAt
    revoked := by rw [revises.revoked, revises.id, List.mem_append, as.revoked]
    forceRotate := by rw [revises.forceRotate, revises.id, List.mem_append, as.forceRotate] }

/-- A row that an insert leaves alone. -/
theorem revises_issued (row : ApiKey) (keyId : ℕ) (now : ℤ) (rawKey : String)
    (request : KeyRequest) : Revises [.issued keyId now rawKey request] row row :=
  ⟨rfl, rfl, rfl, rfl, rfl, by simp, by simp⟩

theorem issuedAs_issuedRow (now : ℤ) (rawKey : String) (request : KeyRequest) (keyId : ℕ) :
    IssuedAs env (issuedRow env now rawKey request keyId) now rawKey request [] :=
  ⟨rfl, rfl, rfl, rfl, by simp [issuedRow], by simp [issuedRow]⟩

/-- **One write** keeps the table in step with the deeds. -/
theorem KeyMove.recorded {later : KeyRing} (move : KeyMove env Named keyRing later)
    (recorded : keyRing.Recorded env Named) : later.Recorded env Named := by
  cases move with
  | stay => exact recorded
  | @issue now rawKey request named fresh =>
      refine ⟨nodup_map_append recorded.hashes fresh, recorded.rows.insert ?_ ?_,
        List.forall_mem_append.mpr ⟨recorded.named, List.forall_mem_singleton.mpr named⟩⟩
      · exact ⟨now, rawKey, request, rfl, named, issuedAs_issuedRow now rawKey request _⟩
      · exact fun old _ _ records => records.revise (revises_issued old _ now rawKey request)
  | @revise change more revises quiet named =>
      refine ⟨nodup_map_map recorded.hashes fun old _ => (revises old).keyHash, ?_,
        List.forall_mem_append.mpr ⟨recorded.named, named⟩⟩
      refine recorded.rows.revise (fun old _ _ _ records => records.revise (revises old)) ?_
      intro deed among issues
      cases deed with
      | issued keyId now rawKey request => exact quiet keyId now rawKey request among
      | revoked _ | forcedToRotate _ => exact issues

/-- The row of a key that has been issued. -/
theorem KeyRing.Recorded.row_of_issued (recorded : keyRing.Recorded env Named) {keyId : ℕ}
    {now : ℤ} {rawKey : String} {request : KeyRequest}
    (issued : .issued keyId now rawKey request ∈ keyRing.deeds) :
    ∃ row ∈ keyRing.world.apiKeys, ∃ since, IssuedAs env row now rawKey request since := by
  obtain ⟨row, member, since, _, _, _, same, _, as⟩ := recorded.rows.of_mem issued trivial
  cases same
  exact ⟨row, member, since, as⟩

end Table

/-! ## Which keys are good -/

/-- The row lets its key through at `now`. -/
structure ApiKey.Good (row : ApiKey) (now : ℤ) : Prop where
  revoked : row.revoked = false
  expiry : ∀ expiry ∈ row.expiresAt, now < expiry
  forceRotate : row.forceRotate = false

/-- The row has kept its hash and its date, and no flag has been taken from it. -/
structure ApiKey.Wears (row later : ApiKey) : Prop where
  keyHash : later.keyHash = row.keyHash
  expiresAt : later.expiresAt = row.expiresAt
  revoked : row.revoked = true → later.revoked = true
  forceRotate : row.forceRotate = true → later.forceRotate = true

/-- Each row has stayed, as worn as it was or more. -/
def KeyRing.Worn (before after : KeyRing) : Prop :=
  ∀ row ∈ before.world.apiKeys, ∃ later ∈ after.world.apiKeys, row.Wears later

/-- `verify_api_key` answers with `auth`. -/
def KeyRing.Accepts (keyRing : KeyRing) (now : ℤ) (rawKey : String) (auth : AuthContext) : Prop :=
  ∃ after, verifyApiKey env now (some rawKey) keyRing.world = .ok (auth, after)

section Good

variable {env} {Named : Deed → Prop} {keyRing : KeyRing} {row later : ApiKey} {now now' : ℤ}
  {rawKey : String} {auth : AuthContext}

theorem checkKey_eq_ok {rows : List ApiKey} :
    checkKey now rows = .ok row ↔ rows = [row] ∧ row.Good now := by
  constructor
  · intro checked
    unfold checkKey at checked
    split at checked
    · cases checked
    · split at checked
      · cases checked
      next kept =>
      split at checked
      · cases checked
      next inTime =>
      split at checked
      · cases checked
      next unforced =>
      cases checked
      refine ⟨rfl, eq_false_of_ne_true kept, ?_, eq_false_of_ne_true unforced⟩
      intro expiry own
      rw [own] at inTime
      simpa using inTime
    · cases checked
  · intro held
    rcases held with ⟨rfl, good⟩
    have inTime : row.expiresAt.any (· ≤ now) = false := by
      have dated := good.expiry
      cases expires : row.expiresAt with
      | none => rfl
      | some expiry =>
          rw [expires] at dated
          simpa using dated expiry rfl
    simp [checkKey, good.revoked, inTime, good.forceRotate]

theorem exists_row_of_accepts (accepts : keyRing.Accepts env now rawKey auth) :
    ∃ row ∈ keyRing.world.apiKeys, row.keyHash = env.hashKey rawKey ∧ row.Good now ∧
      auth.accountId = row.accountId ∧ auth.isAdmin = row.isAdmin ∧ auth.keyId = some row.id := by
  obtain ⟨after, verified⟩ := accepts
  obtain ⟨row, checked, used⟩ := bind_eq_ok.mp verified
  obtain ⟨only, good⟩ := checkKey_eq_ok.mp checked
  have found : row ∈ keyRing.world.apiKeys.filter (·.keyHash = env.hashKey rawKey) := by
    rw [only]
    exact List.mem_singleton_self row
  obtain ⟨member, same⟩ := List.mem_filter.mp found
  cases used
  exact ⟨row, member, of_decide_eq_true same, good, rfl, rfl, rfl⟩

/-- A good row lets its key through. -/
theorem accepts_of_row (hashes : (keyRing.world.apiKeys.map (·.keyHash)).Nodup)
    (member : row ∈ keyRing.world.apiKeys) (same : row.keyHash = env.hashKey rawKey)
    (good : row.Good now) : ∃ auth, keyRing.Accepts env now rawKey auth ∧
      auth.accountId = row.accountId ∧ auth.isAdmin = row.isAdmin ∧ auth.keyId = some row.id := by
  have only : keyRing.world.apiKeys.filter (·.keyHash = env.hashKey rawKey) = [row] :=
    filter_of_nodup hashes member (decide_eq_true same) fun other wanted =>
      (of_decide_eq_true wanted).trans same.symm
  exact ⟨_, ⟨_, bind_eq_ok.mpr ⟨row, checkKey_eq_ok.mpr ⟨only, good⟩, rfl⟩⟩, rfl, rfl, rfl⟩

theorem KeyRing.Recorded.accepts (recorded : keyRing.Recorded env Named)
    (member : row ∈ keyRing.world.apiKeys) (same : row.keyHash = env.hashKey rawKey)
    (good : row.Good now) : ∃ auth, keyRing.Accepts env now rawKey auth :=
  (accepts_of_row recorded.hashes member same good).imp fun _ => And.left

/-- Two rows with one hash are one row. -/
theorem KeyRing.Recorded.row_unique (recorded : keyRing.Recorded env Named)
    (member : row ∈ keyRing.world.apiKeys) (among : later ∈ keyRing.world.apiKeys)
    (same : later.keyHash = row.keyHash) : later = row :=
  List.inj_on_of_nodup_map recorded.hashes among member same

theorem KeyMove.worn {after : KeyRing} (move : KeyMove env Named keyRing after) :
    keyRing.Worn after := by
  intro row member
  cases move with
  | stay => exact ⟨row, member, rfl, rfl, id, id⟩
  | issue => exact ⟨row, List.mem_append_left _ member, rfl, rfl, id, id⟩
  | @revise change more revises quiet named =>
      refine ⟨change row, List.mem_map_of_mem member, (revises row).keyHash,
        (revises row).expiresAt, ?_, ?_⟩
      · exact fun revoked => (revises row).revoked.mpr (.inl revoked)
      · exact fun forced => (revises row).forceRotate.mpr (.inl forced)

theorem worn_refl (keyRing : KeyRing) : keyRing.Worn keyRing :=
  fun row member => ⟨row, member, rfl, rfl, id, id⟩

theorem ApiKey.Wears.refl (row : ApiKey) : row.Wears row := ⟨rfl, rfl, (·), (·)⟩

theorem ApiKey.Wears.trans {last : ApiKey} (wears : row.Wears later)
    (wearsOn : later.Wears last) : row.Wears last :=
  ⟨wearsOn.keyHash.trans wears.keyHash, wearsOn.expiresAt.trans wears.expiresAt,
    wearsOn.revoked ∘ wears.revoked, wearsOn.forceRotate ∘ wears.forceRotate⟩

theorem KeyRing.Worn.trans {middle after : KeyRing} (first : keyRing.Worn middle)
    (second : middle.Worn after) : keyRing.Worn after := by
  intro row member
  obtain ⟨next, among, wears⟩ := first row member
  obtain ⟨last, present, wearsOn⟩ := second next among
  exact ⟨last, present, wears.trans wearsOn⟩

/-- A worn row that is good was good. -/
theorem ApiKey.Wears.good (wears : row.Wears later) (later_good : later.Good now')
    (ordered : now ≤ now') : row.Good now where
  revoked := by
    by_contra revoked
    have worn := wears.revoked (Bool.eq_true_of_not_eq_false revoked)
    rw [later_good.revoked] at worn
    cases worn
  expiry := fun expiry own =>
    ordered.trans_lt (later_good.expiry expiry (wears.expiresAt ▸ own))
  forceRotate := by
    by_contra forced
    have worn := wears.forceRotate (Bool.eq_true_of_not_eq_false forced)
    rw [later_good.forceRotate] at worn
    cases worn

/-- The keys that are accepted are those that stand, in time. -/
theorem KeyRing.Recorded.accepts_iff (recorded : keyRing.Recorded env Named)
    (collisionFree : ∀ keyId now key request, Named (.issued keyId now key request) →
      env.hashKey key = env.hashKey rawKey → key = rawKey) :
    (∃ auth, keyRing.Accepts env now rawKey auth) ↔ ∃ issuedAt request,
      keyRing.Stands rawKey issuedAt request ∧
        ∀ expiry ∈ expiryOf env issuedAt request, now < expiry := by
  constructor
  · intro held
    rcases held with ⟨auth, accepts⟩
    obtain ⟨row, member, same, good, _⟩ := exists_row_of_accepts accepts
    obtain ⟨before, _, since, deeds, issuedAt, key, request, rfl, named, as⟩ :=
      recorded.rows.of_row row member
    cases collisionFree _ issuedAt key request named (as.keyHash.symm.trans same)
    refine ⟨issuedAt, request, ⟨row.id, before, since, deeds, ?_, ?_⟩, ?_⟩
    · rw [← as.revoked, good.revoked]
      exact Bool.false_ne_true
    · rw [← as.forceRotate, good.forceRotate]
      exact Bool.false_ne_true
    · rw [← as.expiresAt]
      exact good.expiry
  · intro held
    rcases held with ⟨issuedAt, request, ⟨keyId, before, since, deeds, unrevoked, unforced⟩, inTime⟩
    obtain ⟨row, member, _, _, _, same, _, as⟩ :=
      recorded.rows.of_opening before _ since deeds trivial
    cases same
    refine recorded.accepts member as.keyHash ⟨?_, ?_, ?_⟩
    · rw [← as.revoked] at unrevoked
      exact Bool.eq_false_of_not_eq_true unrevoked
    · rw [as.expiresAt]
      exact inTime
    · rw [← as.forceRotate] at unforced
      exact Bool.eq_false_of_not_eq_true unforced

/-- A key is accepted for what it was issued for. -/
theorem KeyRing.Recorded.scope (recorded : keyRing.Recorded env Named)
    (accepts : keyRing.Accepts env now rawKey auth) {keyId : ℕ} {issuedAt : ℤ}
    {request : KeyRequest} (issued : .issued keyId issuedAt rawKey request ∈ keyRing.deeds) :
    auth.accountId = request.accountId ∧ auth.isAdmin = request.isAdmin := by
  obtain ⟨row, member, same, _, account, admin, _⟩ := exists_row_of_accepts accepts
  obtain ⟨other, among, _, as⟩ := recorded.row_of_issued issued
  cases recorded.row_unique among member (same.trans as.keyHash.symm)
  exact ⟨account.trans as.accountId, admin.trans as.isAdmin⟩

/-- An issued key that is refused is refused from then on. -/
theorem KeyRing.Recorded.refused_later {NamedAlso : Deed → Prop} {after : KeyRing}
    (recorded : keyRing.Recorded env Named) (recordedAlso : after.Recorded env NamedAlso)
    (worn : keyRing.Worn after) (issued : keyRing.Issued rawKey)
    (refused : ¬ ∃ auth, keyRing.Accepts env now rawKey auth) (ordered : now ≤ now') : ¬ ∃ auth, after.Accepts env now' rawKey auth := by
  intro held
  rcases held with ⟨auth, accepts⟩
  obtain ⟨keyId, issuedAt, request, issued⟩ := issued
  obtain ⟨row, member, _, as⟩ := recorded.row_of_issued issued
  obtain ⟨later, present, wears⟩ := worn row member
  obtain ⟨found, among, same, good, _⟩ := exists_row_of_accepts accepts
  cases recordedAlso.row_unique present among
    (same.trans (wears.keyHash.trans as.keyHash).symm)
  exact refused (recorded.accepts member as.keyHash (wears.good good ordered))

end Good

end Aegis.Subscriptions
