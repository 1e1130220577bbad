import Aegis.Lib.Forest
import Aegis.Lib.Run
import Aegis.Lib.Text
import Aegis.Subscriptions.Lifecycle

/-!
# Keys that replace keys

`rotate_key` issues a key in place of another and revokes that one.  It takes any row for the
old key, a revoked one as well: a key that has been replaced can be replaced again, and then
both replacements are good.
-/

namespace Aegis.Subscriptions

open Aegis.Lib

/-! ## The endpoints -/

variable (env : Env)

structure IssueClientKeyRequest where
  accountId : Option String := none
  label : Option String := none
  expiresInDays : Option ℤ := none
  rotationDays : Option ℤ := none

/-- The key that `issue_client_key` asks for; `drawnId` is what it draws for an account. -/
def clientRequest (auth : AuthContext) (body : IssueClientKeyRequest) (drawnId : String) :
    KeyRequest :=
  let named := strip (body.accountId.getD "")
  let accountId := if named = "" then "ACC-" ++ drawnId else named
  { accountId := some accountId
    label := (body.label.filter (· ≠ "")).or (some ("mobile key for " ++ accountId))
    issuedBy := some (actor auth)
    expiresInDays := body.expiresInDays
    rotationDays := body.rotationDays }

/-- The endpoint `issue_client_key`. -/
def issueClientKey (auth : AuthContext) (body : IssueClientKeyRequest) (drawnId : String)
    (now : ℤ) (rawKey : String) : Prog Failure KeyRing String := do
  Prog.ofExcept (requireAdmin auth)
  issueKey env now rawKey (clientRequest auth body drawnId)

/-- The key that `issue_admin_key` asks for. -/
def adminRequest (auth : AuthContext) (label : Option String) : KeyRequest where
  accountId := none
  isAdmin := true
  label := (label.filter (· ≠ "")).or (some "additional admin key")
  issuedBy := some (actor auth)

/-- The endpoint `issue_admin_key`. -/
def issueAdminKey (auth : AuthContext) (label : Option String) (now : ℤ) (rawKey : String) :
    Prog Failure KeyRing String := do
  Prog.ofExcept (requireAdmin auth)
  issueKey env now rawKey (adminRequest auth label)

/-- A request to one of the endpoints, with the time since the last one and what it draws;
`rotateKey` reads the clock once more, `between` later. -/
inductive AdminCall where
  | issueClientKey (auth : AuthContext) (elapsed : ℕ) (body : IssueClientKeyRequest)
      (drawnId rawKey : String)
  | issueAdminKey (auth : AuthContext) (elapsed : ℕ) (label : Option String) (rawKey : String)
  | revokeKey (auth : AuthContext) (elapsed : ℕ) (keyId : ℤ)
  | forceRotate (auth : AuthContext) (elapsed : ℕ) (keyId : ℤ)
  | rotateKey (auth : AuthContext) (elapsed : ℕ) (body : RotateKeyRequest) (rawKey : String)
      (between : ℕ)

/-- The keys, and the last reading of the clock. -/
structure Clocked where
  keyRing : KeyRing
  clock : ℤ

/-- One request after another. -/
def adminStep (s : Clocked) : AdminCall → Clocked
  | .issueClientKey auth elapsed body drawnId rawKey =>
      ⟨((issueClientKey env auth body drawnId (s.clock + elapsed) rawKey).run s.keyRing).2,
        s.clock + elapsed⟩
  | .issueAdminKey auth elapsed label rawKey =>
      ⟨((issueAdminKey env auth label (s.clock + elapsed) rawKey).run s.keyRing).2,
        s.clock + elapsed⟩
  | .revokeKey auth elapsed keyId =>
      ⟨((revokeKey auth (s.clock + elapsed) keyId).run s.keyRing).2, s.clock + elapsed⟩
  | .forceRotate auth elapsed keyId =>
      ⟨((forceRotate auth keyId).run s.keyRing).2, s.clock + elapsed⟩
  | .rotateKey auth elapsed body rawKey between =>
      ⟨((rotateKey env auth body (s.clock + elapsed) rawKey (s.clock + elapsed + between)).run
        s.keyRing).2, s.clock + elapsed + between⟩

/-! ## Trees of keys -/

/-- The row of the child names the parent as the key that it replaces. -/
def World.Replaces (world : World) (child parent : ℕ) : Prop :=
  ∃ row ∈ world.apiKeys, row.id = child ∧ row.replacesKeyId = some parent

/-- `verify_api_key` accepts a key, and finds it in this row. -/
def World.Lives (world : World) (now : ℤ) (keyId : ℕ) : Prop :=
  ∃ rawKey auth, KeyRing.Accepts env ⟨world, []⟩ now rawKey auth ∧ auth.keyId = some keyId

/-- From now on no two keys of one tree are accepted. -/
def OneLive (s : Clocked) : Prop :=
  ∀ now, s.clock ≤ now → ∀ a b, s.keyRing.world.Lives env now a → s.keyRing.world.Lives env now b →
    SameTree s.keyRing.world.Replaces a b → a = b

/-- What the constraints of the table and the sequence of its ids give. -/
structure World.Linked (world : World) : Prop where
  ids : (world.apiKeys.map (·.id)).Nodup
  hashes : (world.apiKeys.map (·.keyHash)).Nodup
  below : ∀ row ∈ world.apiKeys, row.id < world.nextKeyId
  parents : ∀ row ∈ world.apiKeys, ∀ parent ∈ row.replacesKeyId, parent < world.nextKeyId

/-- The rotation is allowed, and finds the key and a new one. -/
structure GoesThrough (keyRing : KeyRing) (auth : AuthContext) (keyId : ℤ)
    (rawKey : String) (old : ApiKey) : Prop where
  admin : auth.isAdmin = true
  inRange : keyId < 2147483648
  fresh : keyRing.world.FreshKey env rawKey
  member : old ∈ keyRing.world.apiKeys
  own : (old.id : ℤ) = keyId

/-- A rotation that goes through finds no other key of the tree accepted, or issues one that has
expired when it ends. -/
def SparesTree (s : Clocked) : AdminCall → Prop
  | .rotateKey auth elapsed body rawKey between =>
      ∀ old, GoesThrough env s.keyRing auth body.keyId rawKey old →
        (∀ expiry ∈ expiryOf env (s.clock + elapsed) (replacement auth body old),
          s.clock + elapsed + between < expiry) →
        ∀ other, s.keyRing.world.Lives env (s.clock + elapsed + between) other →
          SameTree s.keyRing.world.Replaces old.id other → other = old.id
  | _ => True

section Keys

variable {env} {world after : World} {keyRing : KeyRing} {now now' clock clock' : ℤ}
  {rawKey : String} {request : KeyRequest} {a b keyId : ℕ} {call : AdminCall}

theorem lives_iff (hashes : (world.apiKeys.map (·.keyHash)).Nodup) :
    world.Lives env now keyId ↔ ∃ row ∈ world.apiKeys, row.id = keyId ∧ row.Good now ∧
      ∃ rawKey, row.keyHash = env.hashKey rawKey := by
  constructor
  · intro held
    rcases held with ⟨rawKey, auth, accepts, own⟩
    obtain ⟨row, member, same, good, _, _, id⟩ := exists_row_of_accepts accepts
    exact ⟨row, member, Option.some.inj (id.symm.trans own), good, rawKey, same⟩
  · intro held
    rcases held with ⟨row, member, rfl, good, rawKey, same⟩
    obtain ⟨auth, accepts, _, _, id⟩ :
        ∃ auth, KeyRing.Accepts env ⟨world, []⟩ now rawKey auth ∧ _ :=
      accepts_of_row hashes member same good
    exact ⟨rawKey, auth, accepts, id⟩

/-! ## A key more -/

theorem linked_addKey (linked : world.Linked) (fresh : world.FreshKey env rawKey)
    (parents : ∀ parent ∈ request.replacesKeyId, parent < world.nextKeyId) :
    (addKey env now rawKey request world).Linked where
  ids := nodup_map_append linked.ids fun old member => (linked.below old member).ne
  hashes := nodup_map_append linked.hashes fresh
  below := by
    refine List.forall_mem_append.mpr ⟨fun old member => ?_, List.forall_mem_singleton.mpr ?_⟩
    · exact Nat.lt_succ_of_lt (linked.below old member)
    · exact Nat.lt_succ_self _
  parents := by
    refine List.forall_mem_append.mpr ⟨fun old member => ?_, List.forall_mem_singleton.mpr ?_⟩
    · exact fun parent own => Nat.lt_succ_of_lt (linked.parents old member parent own)
    · exact fun parent own => Nat.lt_succ_of_lt (parents parent own)

theorem replaces_addKey : (addKey env now rawKey request world).Replaces a b ↔
    world.Replaces a b ∨ a = world.nextKeyId ∧ request.replacesKeyId = some b := by
  unfold World.Replaces addKey
  simp only [List.mem_append, List.mem_singleton, or_and_right, exists_or, exists_eq_left]
  rw [eq_comm (a := a)]
  rfl

theorem good_issuedRow : (issuedRow env now rawKey request keyId).Good now' ↔
    ∀ expiry ∈ expiryOf env now request, now' < expiry :=
  ⟨fun good => good.expiry, fun inTime => ⟨rfl, inTime, rfl⟩⟩

theorem lives_addKey (linked : world.Linked) (fresh : world.FreshKey env rawKey)
    (parents : ∀ parent ∈ request.replacesKeyId, parent < world.nextKeyId) :
    (addKey env now rawKey request world).Lives env now' keyId ↔ world.Lives env now' keyId ∨
      keyId = world.nextKeyId ∧ ∀ expiry ∈ expiryOf env now request, now' < expiry := by
  rw [lives_iff (linked_addKey linked fresh parents).hashes, lives_iff linked.hashes]
  simp only [addKey, List.mem_append, List.mem_singleton, or_and_right, exists_or, exists_eq_left]
  refine or_congr Iff.rfl ?_
  rw [good_issuedRow, eq_comm (a := keyId)]
  exact and_congr_right fun _ => and_iff_left ⟨rawKey, rfl⟩

/-- The new node has no links yet. -/
theorem World.Linked.childless (linked : world.Linked) (a : ℕ) :
    ¬ world.Replaces a world.nextKeyId := by
  intro held
  rcases held with ⟨row, member, rfl, own⟩
  exact (linked.parents row member _ own).false

theorem World.Linked.orphan (linked : world.Linked) (a : ℕ) :
    ¬ world.Replaces world.nextKeyId a := by
  intro held
  rcases held with ⟨row, member, own, _⟩
  exact (linked.below row member).ne own

theorem World.Linked.lives_lt (linked : world.Linked) (lives : world.Lives env now keyId) :
    keyId < world.nextKeyId := by
  obtain ⟨row, member, rfl, _⟩ := (lives_iff linked.hashes).mp lives
  exact linked.below row member

/-! ## Flags set -/

/-- Rows have only lost. -/
def World.Worsens (world after : World) : Prop :=
  ∃ change : ApiKey → ApiKey, after = { world with apiKeys := world.apiKeys.map change } ∧
    ∀ row, row.Wears (change row) ∧ (change row).id = row.id ∧
      (change row).replacesKeyId = row.replacesKeyId

theorem World.Worsens.refl (world : World) : world.Worsens world :=
  ⟨id, by rw [List.map_id], fun row => ⟨.refl row, rfl, rfl⟩⟩

theorem World.Worsens.trans {last : World} (first : world.Worsens after)
    (second : after.Worsens last) : world.Worsens last := by
  obtain ⟨change, rfl, keeps⟩ := first
  obtain ⟨again, rfl, keepsOn⟩ := second
  refine ⟨again ∘ change, by rw [List.map_map], fun row => ?_⟩
  obtain ⟨wears, id, replaces⟩ := keeps row
  obtain ⟨wearsOn, idAgain, replacesAgain⟩ := keepsOn (change row)
  exact ⟨wears.trans wearsOn, idAgain.trans id, replacesAgain.trans replaces⟩

theorem World.Worsens.linked (worsens : world.Worsens after) (linked : world.Linked) :
    after.Linked := by
  obtain ⟨change, rfl, keeps⟩ := worsens
  refine ⟨nodup_map_map linked.ids fun row _ => (keeps row).2.1,
    nodup_map_map linked.hashes fun row _ => (keeps row).1.keyHash, ?_, ?_⟩
  · rw [List.forall_mem_map]
    intro row member
    rw [(keeps row).2.1]
    exact linked.below row member
  · rw [List.forall_mem_map]
    intro row member
    rw [(keeps row).2.2]
    exact linked.parents row member

theorem World.Worsens.replaces (worsens : world.Worsens after) :
    after.Replaces = world.Replaces := by
  obtain ⟨change, rfl, keeps⟩ := worsens
  funext a b
  unfold World.Replaces
  simp only [List.mem_map, exists_exists_and_eq_and, (keeps _).2.1, (keeps _).2.2]

theorem World.Worsens.lives (worsens : world.Worsens after) (linked : world.Linked)
    (lives : after.Lives env now' keyId) (ordered : now ≤ now') : world.Lives env now keyId := by
  rw [lives_iff (worsens.linked linked).hashes] at lives
  rw [lives_iff linked.hashes]
  obtain ⟨change, rfl, keeps⟩ := worsens
  obtain ⟨_, among, own, good, rawKey, hash⟩ := lives
  obtain ⟨row, member, rfl⟩ := List.mem_map.mp among
  obtain ⟨wears, id, _⟩ := keeps row
  exact ⟨row, member, id.symm.trans own, wears.good good ordered, rawKey,
    wears.keyHash.symm.trans hash⟩

/-! ## What the requests do -/

theorem OneLive.worsens (one : OneLive env ⟨keyRing, clock⟩) (linked : keyRing.world.Linked)
    {later : KeyRing} (worsens : keyRing.world.Worsens later.world) (ordered : clock ≤ clock') :
    OneLive env ⟨later, clock'⟩ := by
  intro now since a b livesA livesB same
  have lives {c : ℕ} (lives : later.world.Lives env now c) : keyRing.world.Lives env now c :=
    worsens.lives linked lives (le_refl now)
  rw [worsens.replaces] at same
  exact one now (ordered.trans since) a b (lives livesA) (lives livesB) same

/-- A key that replaces none is a tree of its own. -/
theorem OneLive.issueKey (one : OneLive env ⟨keyRing, clock⟩) (linked : keyRing.world.Linked)
    (ordered : clock ≤ clock') (root : request.replacesKeyId = none) :
    OneLive env ⟨((issueKey env now rawKey request).run keyRing).2, clock'⟩ := by
  rw [run_issueKey]
  split
  next fresh =>
    have parents : ∀ parent ∈ request.replacesKeyId, parent < keyRing.world.nextKeyId := by
      rw [root]
      exact nofun
    have links : (addKey env now rawKey request keyRing.world).Replaces =
        keyRing.world.Replaces := by
      funext a b
      rw [replaces_addKey, root]
      simp
    intro time since a b livesA livesB same
    dsimp only at livesA livesB same
    rw [lives_addKey linked fresh parents] at livesA livesB
    rw [links] at same
    have alone := same.alone_iff linked.childless linked.orphan
    rcases livesA with livesA | ⟨rfl, _⟩
    · rcases livesB with livesB | ⟨rfl, _⟩
      · exact one time (ordered.trans since) a b livesA livesB same
      · exact alone.mpr rfl
    · exact (alone.mp rfl).symm
  next => exact one.worsens linked (.refl _) ordered

/-- The update of `revoke_api_key`. -/
def KeyRing.revoke (keyRing : KeyRing) (now keyId : ℤ) (revokedBy : Option String) : KeyRing :=
  keyRing.updateKey keyId fun row =>
    { row with revoked := true, revokedBy := revokedBy, revokedAt := some now }

theorem worsens_updateKey {keyId : ℤ} {change : ApiKey → ApiKey}
    (keeps : ∀ row, row.Wears (change row) ∧ (change row).id = row.id ∧
      (change row).replacesKeyId = row.replacesKeyId) :
    keyRing.world.Worsens (keyRing.updateKey keyId change).world := by
  refine ⟨_, rfl, fun row => ?_⟩
  split
  · exact keeps row
  · exact ⟨.refl row, rfl, rfl⟩

theorem worsens_revoke {keyId : ℤ} {revokedBy : Option String} :
    keyRing.world.Worsens (keyRing.revoke now keyId revokedBy).world :=
  worsens_updateKey fun _ => ⟨⟨rfl, rfl, fun _ => rfl, id⟩, rfl, rfl⟩

theorem lives_revoke (linked : keyRing.world.Linked) {revoked : ℤ} {revokedBy : Option String} :
    (keyRing.revoke now revoked revokedBy).world.Lives env now' keyId ↔
      (keyId : ℤ) ≠ revoked ∧ keyRing.world.Lives env now' keyId := by
  have later : (keyRing.revoke now revoked revokedBy).world.Linked := worsens_revoke.linked linked
  rw [lives_iff later.hashes, lives_iff linked.hashes]
  constructor
  · intro held
    rcases held with ⟨_, among, own, good, hash⟩
    obtain ⟨row, member, rfl⟩ := List.mem_map.mp among
    split at good
    next => cases good.revoked
    next other =>
      rw [if_neg other] at own hash
      exact ⟨own ▸ other, row, member, own, good, hash⟩
  · intro held
    rcases held with ⟨other, row, member, rfl, good⟩
    exact ⟨row, List.mem_map.mpr ⟨row, member, if_neg other⟩, rfl, good⟩

theorem run_selectKey {keyId : ℤ} (inRange : -2147483648 ≤ keyId ∧ keyId < 2147483648)
    (keyRing : KeyRing) : (selectKey keyId).run keyRing =
      (.ok (keyRing.world.apiKeys.find? (·.id = keyId)), keyRing) := by
  unfold selectKey
  dsimp only
  rw [if_neg (by omega)]
  rfl

theorem run_revokeApiKey {keyId : ℤ} (inRange : -2147483648 ≤ keyId ∧ keyId < 2147483648)
    {row : ApiKey} (member : row ∈ keyRing.world.apiKeys) (own : (row.id : ℤ) = keyId)
    (revokedBy : Option String) :
    (revokeApiKey now keyId revokedBy).run keyRing =
      (.ok true, (keyRing.revoke now keyId revokedBy).note (.revoked keyId)) := by
  have found : (keyRing.world.apiKeys.find? (·.id = keyId)).isNone = false := by
    rw [← Option.not_isSome, List.find?_isSome.mpr ⟨row, member, decide_eq_true own⟩]
    rfl
  rw [revokeApiKey, Prog.run_bind_ok (run_selectKey inRange keyRing), found]
  rfl

/-- What statements other than an insert do. -/
theorem guarantees_worsens_updateKey {keyId : ℤ} {change : ApiKey → ApiKey} {deed : Deed}
    (keeps : ∀ row, row.Wears (change row) ∧ (change row).id = row.id ∧
      (change row).replacesKeyId = row.replacesKeyId) :
    (Prog.modify fun keyRing => (keyRing.updateKey keyId change).note deed :
      Prog Failure KeyRing Unit).Guarantees fun keyRing later =>
        keyRing.world.Worsens later.world :=
  Prog.guarantees_modify fun _ => worsens_updateKey keeps

theorem worsens_revokeKey (auth : AuthContext) (now keyId : ℤ) (keyRing : KeyRing) :
    keyRing.world.Worsens ((revokeKey auth now keyId).run keyRing).2.world := by
  refine Prog.Guarantees.run (R := fun keyRing later => keyRing.world.Worsens later.world)
    (fun _ => .refl _) .trans ?_ keyRing
  refine .bind (Prog.guarantees_ofExcept _) fun _ => .bind ?_ fun ok => ?_
  · refine .bind (guarantees_selectKey (fun _ => .refl _) keyId) fun row => ?_
    split
    · trivial
    · refine .bind (guarantees_worsens_updateKey ?_) fun _ => trivial
      exact fun _ => ⟨⟨rfl, rfl, fun _ => rfl, id⟩, rfl, rfl⟩
  · cases ok <;> trivial

theorem worsens_forceRotate (auth : AuthContext) (keyId : ℤ) (keyRing : KeyRing) :
    keyRing.world.Worsens ((forceRotate auth keyId).run keyRing).2.world := by
  refine Prog.Guarantees.run (R := fun keyRing later => keyRing.world.Worsens later.world)
    (fun _ => .refl _) .trans ?_ keyRing
  refine .bind (Prog.guarantees_ofExcept _) fun _ => .bind ?_ fun ok => ?_
  · refine .bind (guarantees_selectKey (fun _ => .refl _) keyId) fun row => ?_
    split
    · trivial
    · refine .bind (guarantees_worsens_updateKey ?_) fun _ => trivial
      exact fun _ => ⟨⟨rfl, rfl, id, fun _ => rfl⟩, rfl, rfl⟩
  · cases ok <;> trivial

theorem GoesThrough.unique {auth : AuthContext} {key : ℤ} {old other : ApiKey}
    (goes : GoesThrough env keyRing auth key rawKey old) (linked : keyRing.world.Linked)
    (also : GoesThrough env keyRing auth key rawKey other) : old = other :=
  List.inj_on_of_nodup_map linked.ids goes.member also.member
    (Int.ofNat_inj.mp (goes.own.trans also.own.symm))

theorem GoesThrough.parents {auth : AuthContext} {body : RotateKeyRequest} {old : ApiKey}
    (goes : GoesThrough env keyRing auth body.keyId rawKey old) (linked : keyRing.world.Linked) :
    ∀ parent ∈ (replacement auth body old).replacesKeyId, parent < keyRing.world.nextKeyId := by
  intro parent held
  rcases held with ⟨⟩
  exact linked.below old goes.member

theorem GoesThrough.run {auth : AuthContext} {body : RotateKeyRequest} {issuedAt revokedAt : ℤ}
    {old : ApiKey} (goes : GoesThrough env keyRing auth body.keyId rawKey old)
    (linked : keyRing.world.Linked) :
    ((rotateKey env auth body issuedAt rawKey revokedAt).run keyRing).2.world =
      (KeyRing.revoke ⟨addKey env issuedAt rawKey (replacement auth body old) keyRing.world, []⟩
        revokedAt body.keyId (some (actor auth))).world := by
  have inRange : -2147483648 ≤ body.keyId ∧ body.keyId < 2147483648 :=
    ⟨by have := goes.own; omega, goes.inRange⟩
  have found : keyRing.world.apiKeys.find? (·.id = body.keyId) = some old := by
    cases found : keyRing.world.apiKeys.find? (·.id = body.keyId) with
    | none =>
        exact absurd (decide_eq_true goes.own) (List.find?_eq_none.mp found old goes.member)
    | some row =>
        have own := List.find?_some found
        rw [decide_eq_true_iff] at own
        rw [List.inj_on_of_nodup_map linked.ids (List.mem_of_find?_eq_some found) goes.member
          (Int.ofNat_inj.mp (own.trans goes.own.symm))]
  have allowed : requireAdmin auth = .ok () := if_pos goes.admin
  have issued := (run_issueKey issuedAt rawKey (replacement auth body old) keyRing).trans
    (if_pos goes.fresh)
  have revoked : (revokeApiKey revokedAt body.keyId (some (actor auth))).run
      ((issueKey env issuedAt rawKey (replacement auth body old)).run keyRing).2 = _ :=
    run_revokeApiKey inRange (issued ▸ List.mem_append_left _ goes.member) goes.own _
  rw [issued] at revoked
  rw [rotateKey, allowed, Prog.run_bind_ok (Prog.run_ofExcept _ _),
    Prog.run_bind_ok (run_selectKey inRange keyRing), found]
  dsimp only
  rw [Prog.run_bind_ok issued, Prog.run_bind_ok revoked]
  rfl

/-- A rotation that does not go through changes nothing. -/
theorem run_rotateKey_refused {auth : AuthContext} {body : RotateKeyRequest}
    {issuedAt revokedAt : ℤ}
    (refused : ∀ old, ¬ GoesThrough env keyRing auth body.keyId rawKey old) :
    ((rotateKey env auth body issuedAt rawKey revokedAt).run keyRing).2 = keyRing := by
  by_cases admin : auth.isAdmin = true
  swap
  · have denied : requireAdmin auth = .error _ := if_neg admin
    rw [rotateKey, denied, Prog.run_bind_error (Prog.run_ofExcept _ _)]
  have allowed : requireAdmin auth = .ok () := if_pos admin
  rw [rotateKey, allowed, Prog.run_bind_ok (Prog.run_ofExcept _ _)]
  by_cases inRange : -2147483648 ≤ body.keyId ∧ body.keyId < 2147483648
  swap
  · have failed : (selectKey body.keyId).run keyRing = (.error .dataError, keyRing) := by
      unfold selectKey
      dsimp only
      rw [if_pos (by omega)]
      rfl
    rw [Prog.run_bind_error failed]
  rw [Prog.run_bind_ok (run_selectKey inRange keyRing)]
  cases found : keyRing.world.apiKeys.find? (·.id = body.keyId) with
  | none => rfl
  | some old =>
      have own := List.find?_some found
      rw [decide_eq_true_iff] at own
      have taken : ¬ keyRing.world.FreshKey env rawKey := fun fresh =>
        refused old ⟨admin, inRange.2, fresh, List.mem_of_find?_eq_some found, own⟩
      have failed := (run_issueKey issuedAt rawKey (replacement auth body old) keyRing).trans
        (if_neg taken)
      dsimp only
      rw [Prog.run_bind_error failed]

/-- **A rotation** keeps one key of the tree, if it finds one. -/
theorem GoesThrough.oneLive_rotate_iff {auth : AuthContext} {body : RotateKeyRequest}
    {issuedAt revokedAt : ℤ} {old : ApiKey}
    (goes : GoesThrough env keyRing auth body.keyId rawKey old) (linked : keyRing.world.Linked)
    (one : OneLive env ⟨keyRing, clock⟩) (ordered : clock ≤ revokedAt) :
    OneLive env ⟨((rotateKey env auth body issuedAt rawKey revokedAt).run keyRing).2, revokedAt⟩ ↔
      ((∀ expiry ∈ expiryOf env issuedAt (replacement auth body old), revokedAt < expiry) →
        ∀ other, keyRing.world.Lives env revokedAt other →
          SameTree keyRing.world.Replaces old.id other → other = old.id) := by
  have parents := goes.parents linked
  have proper : old.id ≠ keyRing.world.nextKeyId := (linked.below old goes.member).ne
  have links : ((rotateKey env auth body issuedAt rawKey revokedAt).run keyRing).2.world.Replaces =
      Graft keyRing.world.Replaces keyRing.world.nextKeyId old.id := by
    rw [goes.run linked, worsens_revoke.replaces]
    funext a b
    rw [replaces_addKey, replacement]
    dsimp only
    rw [Option.some_inj, eq_comm (a := old.id)]
    rfl
  have lives (now : ℤ) (keyId : ℕ) :
      ((rotateKey env auth body issuedAt rawKey revokedAt).run keyRing).2.world.Lives env now
          keyId ↔
        keyId ≠ old.id ∧ (keyRing.world.Lives env now keyId ∨ keyId = keyRing.world.nextKeyId ∧
          ∀ expiry ∈ expiryOf env issuedAt (replacement auth body old), now < expiry) := by
    rw [goes.run linked, lives_revoke (linked_addKey linked goes.fresh parents),
      lives_addKey linked goes.fresh parents, ← goes.own, Ne, Int.ofNat_inj]
  constructor
  · intro after inTime other alive same
    by_contra apart
    have newest := after revokedAt (le_refl _) keyRing.world.nextKeyId other
    dsimp only at newest
    rw [links, lives, lives] at newest
    have among := linked.lives_lt alive
    refine among.ne' (newest ⟨proper.symm, .inr ⟨rfl, inTime⟩⟩ ⟨apart, .inl alive⟩ ?_)
    exact (sameTree_graft_leaf linked.childless linked.orphan proper among.ne).mpr same
  · intro spares now since a b livesA livesB same
    dsimp only at livesA livesB same
    rw [lives] at livesA livesB
    rw [links] at same
    -- a key that is good after the rotation was good when it ended
    have before {c : ℕ} (alive : keyRing.world.Lives env now c) :
        keyRing.world.Lives env revokedAt c := (World.Worsens.refl _).lives linked alive since
    have replaced {c : ℕ} (apart : c ≠ old.id) (alive : keyRing.world.Lives env now c)
        (inTime : ∀ expiry ∈ expiryOf env issuedAt (replacement auth body old), now < expiry)
        (same : SameTree (Graft keyRing.world.Replaces keyRing.world.nextKeyId old.id)
          keyRing.world.nextKeyId c) : False := by
      have among := linked.lives_lt alive
      rw [sameTree_graft_leaf linked.childless linked.orphan proper among.ne] at same
      refine apart (spares ?_ c (before alive) same)
      exact fun expiry own => since.trans_lt (inTime expiry own)
    obtain ⟨apartA, oldA | ⟨rfl, inTime⟩⟩ := livesA
    · obtain ⟨apartB, oldB | ⟨rfl, inTime⟩⟩ := livesB
      · rw [sameTree_graft linked.childless linked.orphan proper (linked.lives_lt oldA).ne
          (linked.lives_lt oldB).ne] at same
        exact one now (ordered.trans since) a b oldA oldB same
      · exact (replaced apartA oldA inTime same.symm).elim
    · obtain ⟨apartB, oldB | ⟨rfl, _⟩⟩ := livesB
      · exact (replaced apartB oldB inTime same).elim
      · rfl

/-- The request of somebody who is no administrator changes nothing. -/
theorem run_guarded {α : Type} (auth : AuthContext) (p : Prog Failure KeyRing α)
    (keyRing : KeyRing) :
    ((do Prog.ofExcept (requireAdmin auth); p).run keyRing).2 = keyRing ∨
      ((do Prog.ofExcept (requireAdmin auth); p).run keyRing).2 = (p.run keyRing).2 := by
  cases requireAdmin auth with
  | error e => exact .inl rfl
  | ok _ => exact .inr rfl

theorem linked_issueKey (linked : keyRing.world.Linked) (root : request.replacesKeyId = none) :
    ((issueKey env now rawKey request).run keyRing).2.world.Linked := by
  rw [run_issueKey]
  split
  next fresh =>
    refine linked_addKey linked fresh ?_
    rw [root]
    exact nofun
  next => exact linked

theorem linked_adminStep (s : Clocked) (call : AdminCall) (linked : s.keyRing.world.Linked) :
    (adminStep env s call).keyRing.world.Linked := by
  have issues (auth : AuthContext) (now : ℤ) (rawKey : String) {request : KeyRequest}
      (root : request.replacesKeyId = none) :
      ((do Prog.ofExcept (requireAdmin auth); issueKey env now rawKey request).run
        s.keyRing).2.world.Linked := by
    rcases run_guarded auth (issueKey env now rawKey request) s.keyRing with kept | went
    · rwa [kept]
    · rw [went]
      exact linked_issueKey linked root
  cases call with
  | issueClientKey auth elapsed body drawnId rawKey => exact issues auth _ rawKey rfl
  | issueAdminKey auth elapsed label rawKey => exact issues auth _ rawKey rfl
  | revokeKey auth elapsed keyId => exact (worsens_revokeKey auth _ keyId _).linked linked
  | forceRotate auth elapsed keyId => exact (worsens_forceRotate auth keyId _).linked linked
  | rotateKey auth elapsed body rawKey between =>
      dsimp only [adminStep]
      by_cases goes : ∃ old, GoesThrough env s.keyRing auth body.keyId rawKey old
      · obtain ⟨old, goes⟩ := goes
        rw [goes.run linked]
        exact worsens_revoke.linked (linked_addKey linked goes.fresh (goes.parents linked))
      · rwa [run_rotateKey_refused (not_exists.mp goes)]

/-- **One request.** -/
theorem oneLive_adminStep_iff (s : Clocked) (call : AdminCall) (linked : s.keyRing.world.Linked)
    (one : OneLive env s) : OneLive env (adminStep env s call) ↔ SparesTree env s call := by
  have issues (auth : AuthContext) (elapsed : ℕ) (rawKey : String) {request : KeyRequest}
      (root : request.replacesKeyId = none) :
      OneLive env ⟨((do
          Prog.ofExcept (requireAdmin auth)
          issueKey env (s.clock + elapsed) rawKey request).run s.keyRing).2,
        s.clock + elapsed⟩ := by
    rcases run_guarded auth (issueKey env (s.clock + elapsed) rawKey request) s.keyRing with
      kept | went
    · rw [kept]
      exact one.worsens linked (.refl _) (by omega)
    · rw [went]
      exact one.issueKey linked (by omega) root
  cases call with
  | issueClientKey auth elapsed body drawnId rawKey =>
      exact iff_of_true (issues auth elapsed rawKey rfl) trivial
  | issueAdminKey auth elapsed label rawKey =>
      exact iff_of_true (issues auth elapsed rawKey rfl) trivial
  | revokeKey auth elapsed keyId =>
      have worsens := worsens_revokeKey auth (s.clock + elapsed) keyId s.keyRing
      exact iff_of_true (one.worsens linked worsens (by omega)) trivial
  | forceRotate auth elapsed keyId =>
      have worsens := worsens_forceRotate auth keyId s.keyRing
      exact iff_of_true (one.worsens linked worsens (by omega)) trivial
  | rotateKey auth elapsed body rawKey between =>
      dsimp only [adminStep, SparesTree]
      by_cases goes : ∃ old, GoesThrough env s.keyRing auth body.keyId rawKey old
      · obtain ⟨old, goes⟩ := goes
        rw [goes.oneLive_rotate_iff linked one (by omega)]
        constructor
        · intro spares other goesAlso
          cases goes.unique linked goesAlso
          exact spares
        · exact fun spares => spares old goes
      · rw [run_rotateKey_refused (not_exists.mp goes)]
        refine iff_of_true (one.worsens linked (.refl _) (by omega)) ?_
        exact fun old goesAlso => absurd ⟨old, goesAlso⟩ goes

end Keys

/-- **Rotation trees.**  In every run of requests one after another, no tree of keys ever has two
keys that are accepted, if and only if each rotation that goes through finds no other key of the
tree accepted than the one that it replaces. -/
theorem oneLive_iff (env : Env) (start : Clocked) (linked : start.keyRing.world.Linked)
    (one : OneLive env start) (calls : List AdminCall) :
    Throughout (adminStep env) (OneLive env) start calls ↔
      EachStep (adminStep env) (SparesTree env) start calls :=
  throughout_iff_eachStep (I := fun s => s.keyRing.world.Linked) linked one linked_adminStep
    oneLive_adminStep_iff

def administrator : AuthContext := ⟨none, true, none, none, false, none, none⟩

/-- A key is issued and rotated, and rotated again. -/
def rotatedTwice : List AdminCall :=
  [.issueClientKey administrator 0 { accountId := some "acc" } "" "first",
    .rotateKey administrator 1 { keyId := 1 } "second" 0,
    .rotateKey administrator 1 { keyId := 1 } "third" 0]

theorem linked_empty : World.empty.Linked where
  ids := List.nodup_nil
  hashes := List.nodup_nil
  below := fun _ absent => absurd absent List.not_mem_nil
  parents := fun _ absent => absurd absent List.not_mem_nil

theorem oneLive_iff_rotated :
    Throughout (adminStep ⟨{}, id⟩) (OneLive ⟨{}, id⟩) ⟨.empty, 0⟩ (rotatedTwice.take 2) := by
  have one : OneLive ⟨{}, id⟩ ⟨.empty, 0⟩ := by
    intro now _ a b alive
    obtain ⟨row, absent, _⟩ := (lives_iff linked_empty.hashes).mp alive
    cases absent
  have single : ∀ row ∈ (exec (adminStep ⟨{}, id⟩) ⟨.empty, 0⟩
      (rotatedTwice.take 1)).keyRing.world.apiKeys, row.id = 1 := by decide +kernel
  refine (oneLive_iff ⟨{}, id⟩ ⟨.empty, 0⟩ linked_empty one _).mpr ⟨trivial, ?_, trivial⟩
  intro old goes _ other alive _
  obtain ⟨row, member, rfl, _⟩ := (lives_iff (linked_adminStep _ _ linked_empty).hashes).mp alive
  exact (single row member).trans (single old goes.member).symm

/-- The two replacements of one key are both good. -/
theorem not_oneLive_rotatedTwice :
    ¬ Throughout (adminStep ⟨{}, id⟩) (OneLive ⟨{}, id⟩) ⟨.empty, 0⟩ rotatedTwice := by
  intro always
  have last := throughout_iff.mp always rotatedTwice (List.prefix_refl _)
  have linked : (exec (adminStep ⟨{}, id⟩) ⟨.empty, 0⟩ rotatedTwice).keyRing.world.Linked :=
    exec_inv (I := fun s : Clocked => s.keyRing.world.Linked) linked_empty linked_adminStep _
  have rows : ∀ keyId ∈ [2, 3], ∃ row ∈ (exec (adminStep ⟨{}, id⟩) ⟨.empty, 0⟩
      rotatedTwice).keyRing.world.apiKeys, row.id = keyId ∧ row.replacesKeyId = some 1 ∧
        row.revoked = false ∧ (∀ expiry ∈ row.expiresAt, 2 < expiry) ∧ row.forceRotate = false := by
    decide +kernel
  obtain ⟨second, amongSecond, idSecond, linkSecond, goodSecond⟩ := rows 2 (by decide)
  obtain ⟨third, amongThird, idThird, linkThird, goodThird⟩ := rows 3 (by decide)
  have same := last 2 (by decide +kernel) 2 3
    ((lives_iff linked.hashes).mpr ⟨second, amongSecond, idSecond,
      ⟨goodSecond.1, goodSecond.2.1, goodSecond.2.2⟩, _, rfl⟩)
    ((lives_iff linked.hashes).mpr ⟨third, amongThird, idThird,
      ⟨goodThird.1, goodThird.2.1, goodThird.2.2⟩, _, rfl⟩)
    (.trans (.of_link ⟨second, amongSecond, idSecond, linkSecond⟩)
      (.symm (.of_link ⟨third, amongThird, idThird, linkThird⟩)))
  exact absurd same (by decide)

end Aegis.Subscriptions
