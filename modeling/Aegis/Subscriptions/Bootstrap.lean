import Aegis.Lib.Text
import Aegis.Subscriptions.Lifecycle

/-!
# The administrator's key at a start

`_bootstrap_admin_key` makes sure at each start of the server that there is a key for the
administrators.  Which rows it looks at depends on the settings; `verify_api_key` looks at other
columns of them.
-/

namespace Aegis.Subscriptions

open Aegis.Lib

/-- The settings that the start reads, with their defaults. -/
structure StartSettings where
  adminBootstrapKey : String := ""
  forceAdminKeyReset : Bool := false

def StartSettings.bootstrap (settings : StartSettings) : String := strip settings.adminBootstrapKey

variable (env : Env)

/-- The row of the bootstrap key. -/
def bootstrapRow (now : ℤ) (bootstrap label : String) (id : ℕ) : ApiKey where
  id := id
  keyHash := env.hashKey bootstrap
  accountId := none
  isAdmin := true
  label := some label
  revoked := false
  createdAt := now
  lastUsedAt := none
  expiresAt := none
  rotationDueAt := none
  forceRotate := false
  issuedBy := none
  revokedBy := none
  revokedAt := none
  replacesKeyId := none

/-- `select(ApiKey).where(ApiKey.is_admin == True)`. -/
def World.admins (world : World) : List ApiKey := world.apiKeys.filter (·.isAdmin)

def World.revokeAdmins (world : World) : World :=
  { world with
    apiKeys := world.apiKeys.map fun row =>
      if row.isAdmin then { row with revoked := true } else row }

def addBootstrap (now : ℤ) (bootstrap label : String) (world : World) : World :=
  { world with
    apiKeys := world.apiKeys ++ [bootstrapRow env now bootstrap label world.nextKeyId]
    nextKeyId := world.nextKeyId + 1 }

/-- The insert of the bootstrap key under the unique constraint. -/
def insertBootstrap (now : ℤ) (bootstrap label : String) (world : World) : Except Failure World :=
  if world.FreshKey env bootstrap then .ok (addBootstrap env now bootstrap label world)
  else .error .integrityError

/-- Where there are administrators, the bootstrap key is added or taken back. -/
def syncBootstrap (now : ℤ) (bootstrap : String) (world : World) : Except Failure World :=
  match world.apiKeys.filter (·.keyHash = env.hashKey bootstrap) with
  | [] =>
      insertBootstrap env now bootstrap "bootstrap admin key (synced from ADMIN_BOOTSTRAP_KEY)"
        world
  | [row] =>
      if row.revoked then
        .ok { world with
          apiKeys := world.apiKeys.map fun other =>
            if other.id = row.id then { other with revoked := false, isAdmin := true } else other }
      else .ok world
  | _ :: _ :: _ => .error .multipleResultsFound

/-- `_bootstrap_admin_key`, with the key that `issue_api_key` draws; the result is the key that
it logs. -/
def bootstrapAdminKey (settings : StartSettings) (now : ℤ) (rawKey : String) :
    Prog Failure World (Option String) := do
  let existingAdmins ← Prog.read World.admins
  if settings.forceAdminKeyReset then
    if settings.bootstrap = "" then return none
    else
      Prog.commit fun world =>
        insertBootstrap env now settings.bootstrap "admin key reset from ADMIN_BOOTSTRAP_KEY"
          world.revokeAdmins
      return none
  else if existingAdmins ≠ [] then
    if settings.bootstrap = "" then return none
    else
      Prog.commit (syncBootstrap env now settings.bootstrap)
      return none
  else if settings.bootstrap ≠ "" then
    Prog.commit (insertBootstrap env now settings.bootstrap
      "bootstrap admin key (from ADMIN_BOOTSTRAP_KEY env)")
    return none
  else
    let raw ← issueApiKey env now rawKey
      { accountId := none, isAdmin := true, label := some "auto-generated bootstrap admin key" }
    return some raw

/-- `verify_api_key` lets the key in as an administrator's. -/
def World.AcceptsAdmin (world : World) (now : ℤ) (rawKey : String) : Prop :=
  ∃ auth after, verifyApiKey env now (some rawKey) world = .ok (auth, after) ∧ auth.isAdmin = true

/-- The start ends without an exception, an administrator gets in, with the bootstrap key where
it is set, and a second start leaves the rows as they are. -/
structure Recovers (settings : StartSettings) (now : ℤ) (rawKey : String) (world : World) :
    Prop where
  completes : ∃ logged, ((bootstrapAdminKey env settings now rawKey).run world).1 = .ok logged
  admin : ∃ key, ((bootstrapAdminKey env settings now rawKey).run world).2.AcceptsAdmin env now key
  bootstrap : settings.bootstrap ≠ "" →
    ((bootstrapAdminKey env settings now rawKey).run world).2.AcceptsAdmin env now
      settings.bootstrap
  settles : ∀ now' rawKey',
    ((bootstrapAdminKey env settings now' rawKey').run
      ((bootstrapAdminKey env settings now rawKey).run world).2).2.apiKeys =
        ((bootstrapAdminKey env settings now rawKey).run world).2.apiKeys

/-- The rows that the start needs to find. -/
def Recoverable (settings : StartSettings) (now : ℤ) (rawKey : String) (world : World) : Prop :=
  if settings.bootstrap = "" then
    if world.admins = [] then world.FreshKey env rawKey
    else ∃ row ∈ world.admins, row.Good now ∧ ∃ key, env.hashKey key = row.keyHash
  else if settings.forceAdminKeyReset = true ∨ world.admins = [] then
    world.FreshKey env settings.bootstrap
  else
    ∀ row ∈ world.apiKeys, row.keyHash = env.hashKey settings.bootstrap →
      (row.isAdmin = true ∨ row.revoked = true) ∧ (∀ expiry ∈ row.expiresAt, now < expiry) ∧
        row.forceRotate = false

section Starts

variable {env} {settings : StartSettings} {now : ℤ} {rawKey key label : String} {world : World}
  {row : ApiKey}

/-- An administrator gets in. -/
structure Secured (env : Env) (settings : StartSettings) (now : ℤ) (world : World) : Prop where
  admin : ∃ key, world.AcceptsAdmin env now key
  bootstrap : settings.bootstrap ≠ "" → world.AcceptsAdmin env now settings.bootstrap

theorem acceptsAdmin_iff : world.AcceptsAdmin env now key ↔ ∃ row,
    world.apiKeys.filter (·.keyHash = env.hashKey key) = [row] ∧ row.Good now ∧
      row.isAdmin = true := by
  constructor
  · intro held
    rcases held with ⟨auth, after, verified, admin⟩
    obtain ⟨row, checked, used⟩ := bind_eq_ok.mp verified
    obtain ⟨only, good⟩ := checkKey_eq_ok.mp checked
    cases used
    exact ⟨row, only, good, admin⟩
  · intro held
    rcases held with ⟨row, only, good, admin⟩
    exact ⟨_, _, bind_eq_ok.mpr ⟨row, checkKey_eq_ok.mpr ⟨only, good⟩, rfl⟩, admin⟩

theorem mem_of_filter_eq {wanted : ApiKey → Bool}
    (only : world.apiKeys.filter wanted = [row]) : row ∈ world.apiKeys ∧ wanted row = true := by
  have found : row ∈ world.apiKeys.filter wanted := by
    rw [only]
    exact List.mem_singleton_self row
  exact List.mem_filter.mp found

/-- Where an administrator gets in there are rows of administrators. -/
theorem World.AcceptsAdmin.admins (accepts : world.AcceptsAdmin env now key) :
    world.admins ≠ [] := by
  obtain ⟨row, only, _, admin⟩ := acceptsAdmin_iff.mp accepts
  exact List.ne_nil_of_mem (List.mem_filter.mpr ⟨(mem_of_filter_eq only).1, admin⟩)

theorem filter_eq_nil_iff_fresh :
    world.apiKeys.filter (·.keyHash = env.hashKey key) = [] ↔ world.FreshKey env key := by
  rw [List.filter_eq_nil_iff]
  exact forall₂_congr fun row member => decide_eq_true_iff.not

theorem freshKey_revokeAdmins : world.revokeAdmins.FreshKey env key ↔ world.FreshKey env key := by
  unfold World.FreshKey World.revokeAdmins
  rw [List.forall_mem_map]
  refine forall₂_congr fun row member => ?_
  split <;> rfl

/-! ## The runs of a start -/

theorem run_commit_none (f : World → Except Failure World) :
    (do Prog.commit f; return none : Prog Failure World (Option String)).run world =
      match f world with
      | .ok after => (.ok none, after)
      | .error e => (.error e, world) := by
  cases done : f world with
  | ok after => exact Prog.run_bind_ok (Prog.run_commit_ok done)
  | error e => exact Prog.run_bind_error (Prog.run_commit_error done)

theorem run_forced (force : settings.forceAdminKeyReset = true) (set : settings.bootstrap ≠ "") :
    (bootstrapAdminKey env settings now rawKey).run world =
      match insertBootstrap env now settings.bootstrap
        "admin key reset from ADMIN_BOOTSTRAP_KEY" world.revokeAdmins with
      | .ok after => (.ok none, after)
      | .error e => (.error e, world) := by
  rw [bootstrapAdminKey, Prog.run_bind_ok (Prog.run_read _ _), if_pos force, if_neg set]
  exact run_commit_none _

theorem run_kept (unforced : settings.forceAdminKeyReset = false) (admins : world.admins ≠ [])
    (unset : settings.bootstrap = "") :
    (bootstrapAdminKey env settings now rawKey).run world = (.ok none, world) := by
  rw [bootstrapAdminKey, Prog.run_bind_ok (Prog.run_read _ _)]
  rw [if_neg (by simp [unforced]), if_pos admins, if_pos unset]
  rfl

theorem run_synced (unforced : settings.forceAdminKeyReset = false) (admins : world.admins ≠ [])
    (set : settings.bootstrap ≠ "") :
    (bootstrapAdminKey env settings now rawKey).run world =
      match syncBootstrap env now settings.bootstrap world with
      | .ok after => (.ok none, after)
      | .error e => (.error e, world) := by
  rw [bootstrapAdminKey, Prog.run_bind_ok (Prog.run_read _ _)]
  rw [if_neg (by simp [unforced]), if_pos admins, if_neg set]
  exact run_commit_none _

theorem run_first (unforced : settings.forceAdminKeyReset = false) (admins : world.admins = [])
    (set : settings.bootstrap ≠ "") :
    (bootstrapAdminKey env settings now rawKey).run world =
      match insertBootstrap env now settings.bootstrap
        "bootstrap admin key (from ADMIN_BOOTSTRAP_KEY env)" world with
      | .ok after => (.ok none, after)
      | .error e => (.error e, world) := by
  rw [bootstrapAdminKey, Prog.run_bind_ok (Prog.run_read _ _)]
  rw [if_neg (by simp [unforced]), if_neg (not_not_intro admins), if_pos set]
  exact run_commit_none _

/-- The request for the key that the start draws. -/
def drawnRequest : KeyRequest :=
  { accountId := none, isAdmin := true, label := some "auto-generated bootstrap admin key" }

theorem run_drawn (unforced : settings.forceAdminKeyReset = false) (admins : world.admins = [])
    (unset : settings.bootstrap = "") :
    (bootstrapAdminKey env settings now rawKey).run world =
      if world.FreshKey env rawKey then
        (.ok (some rawKey), addKey env now rawKey drawnRequest world)
      else (.error .integrityError, world) := by
  rw [bootstrapAdminKey, Prog.run_bind_ok (Prog.run_read _ _)]
  rw [if_neg (by simp [unforced]), if_neg (not_not_intro admins), if_neg (not_not_intro unset)]
  split
  next fresh => exact Prog.run_bind_ok (run_issueApiKey fresh)
  next taken =>
    refine Prog.run_bind_error (Prog.run_bind_error (Prog.run_commit_error ?_))
    exact if_neg taken

/-- A start that finds all as it is to be leaves it so. -/
theorem Secured.run_unforced (secured : Secured env settings now world)
    (unforced : settings.forceAdminKeyReset = false) (now' : ℤ) (rawKey' : String) :
    (bootstrapAdminKey env settings now' rawKey').run world = (.ok none, world) := by
  obtain ⟨key, accepts⟩ := secured.admin
  by_cases set : settings.bootstrap = ""
  · exact run_kept unforced accepts.admins set
  · obtain ⟨row, only, good, _⟩ := acceptsAdmin_iff.mp (secured.bootstrap set)
    have synced : syncBootstrap env now' settings.bootstrap world = .ok world := by
      unfold syncBootstrap
      rw [only]
      exact if_neg (by simp [good.revoked])
    rw [run_synced unforced accepts.admins set, synced]

/-- Under force it raises. -/
theorem Secured.run_forced (secured : Secured env settings now world)
    (force : settings.forceAdminKeyReset = true) (set : settings.bootstrap ≠ "") (now' : ℤ)
    (rawKey' : String) :
    (bootstrapAdminKey env settings now' rawKey').run world = (.error .integrityError, world) := by
  obtain ⟨row, only, _⟩ := acceptsAdmin_iff.mp (secured.bootstrap set)
  have taken : ¬ world.revokeAdmins.FreshKey env settings.bootstrap := by
    rw [freshKey_revokeAdmins, ← filter_eq_nil_iff_fresh, only]
    exact List.cons_ne_nil row []
  rw [Subscriptions.run_forced force set, insertBootstrap, if_neg taken]

theorem recovers_iff_secured
    (named : settings.forceAdminKeyReset = true → settings.bootstrap ≠ "") :
    Recovers env settings now rawKey world ↔
      (∃ logged, ((bootstrapAdminKey env settings now rawKey).run world).1 = .ok logged) ∧
        Secured env settings now ((bootstrapAdminKey env settings now rawKey).run world).2 := by
  constructor
  · exact fun recovers => ⟨recovers.completes, recovers.admin, recovers.bootstrap⟩
  · intro held
    rcases held with ⟨completes, secured⟩
    refine ⟨completes, secured.admin, secured.bootstrap, fun now' rawKey' => ?_⟩
    cases force : settings.forceAdminKeyReset with
    | false => rw [secured.run_unforced force]
    | true => rw [secured.run_forced force (named force)]

/-! ## Branch by branch -/

theorem filter_append_fresh (fresh : world.FreshKey env key)
    (own : row.keyHash = env.hashKey key) :
    (world.apiKeys ++ [row]).filter (·.keyHash = env.hashKey key) = [row] := by
  rw [List.filter_append, filter_eq_nil_iff_fresh.mpr fresh, List.nil_append,
    List.filter_singleton, decide_eq_true own]
  rfl

theorem acceptsAdmin_addBootstrap (fresh : world.FreshKey env key) :
    (addBootstrap env now key label world).AcceptsAdmin env now key :=
  acceptsAdmin_iff.mpr ⟨bootstrapRow env now key label world.nextKeyId,
    filter_append_fresh fresh rfl, ⟨rfl, nofun, rfl⟩, rfl⟩

theorem acceptsAdmin_addKey (fresh : world.FreshKey env rawKey) :
    (addKey env now rawKey drawnRequest world).AcceptsAdmin env now rawKey := by
  refine acceptsAdmin_iff.mpr ⟨issuedRow env now rawKey drawnRequest world.nextKeyId,
    filter_append_fresh fresh rfl, ⟨rfl, fun expiry own => ?_, rfl⟩, rfl⟩
  have later := dateAfter_later now env.settings.apiKeyDefaultTtlDays
  have dated : dateAfter now env.settings.apiKeyDefaultTtlDays = some expiry := own
  rw [dated] at later
  simpa using later

/-- A start that registers the bootstrap key needs its hash to be new. -/
theorem secured_iff_fresh {before : World}
    (ran : (bootstrapAdminKey env settings now rawKey).run world =
      match insertBootstrap env now settings.bootstrap label before with
      | .ok after => (.ok none, after)
      | .error e => (.error e, world)) :
    ((∃ logged, ((bootstrapAdminKey env settings now rawKey).run world).1 = .ok logged) ∧
      Secured env settings now ((bootstrapAdminKey env settings now rawKey).run world).2) ↔
        before.FreshKey env settings.bootstrap := by
  rw [ran]
  unfold insertBootstrap
  by_cases fresh : before.FreshKey env settings.bootstrap
  · rw [if_pos fresh]
    have accepts : (addBootstrap env now _ label before).AcceptsAdmin env now _ :=
      acceptsAdmin_addBootstrap fresh
    exact ⟨fun _ => fresh, fun _ => ⟨⟨none, rfl⟩, ⟨_, accepts⟩, fun _ => accepts⟩⟩
  · rw [if_neg fresh]
    refine ⟨?_, fun yes => absurd yes fresh⟩
    intro held
    rcases held with ⟨⟨logged, failed⟩, _⟩
    cases failed

/-- A start that draws a key needs its hash to be new. -/
theorem secured_iff_drawn (unforced : settings.forceAdminKeyReset = false)
    (admins : world.admins = []) (unset : settings.bootstrap = "") :
    ((∃ logged, ((bootstrapAdminKey env settings now rawKey).run world).1 = .ok logged) ∧
      Secured env settings now ((bootstrapAdminKey env settings now rawKey).run world).2) ↔
        world.FreshKey env rawKey := by
  rw [run_drawn unforced admins unset]
  by_cases fresh : world.FreshKey env rawKey
  · rw [if_pos fresh]
    exact ⟨fun _ => fresh, fun _ => ⟨⟨_, rfl⟩, ⟨_, acceptsAdmin_addKey fresh⟩,
      fun set => absurd unset set⟩⟩
  · rw [if_neg fresh]
    refine ⟨?_, fun yes => absurd yes fresh⟩
    intro held
    rcases held with ⟨⟨logged, failed⟩, _⟩
    cases failed

/-- A start that leaves all as it is needs an administrator who gets in. -/
theorem secured_iff_kept (hashes : (world.apiKeys.map (·.keyHash)).Nodup)
    (unforced : settings.forceAdminKeyReset = false) (admins : world.admins ≠ [])
    (unset : settings.bootstrap = "") :
    ((∃ logged, ((bootstrapAdminKey env settings now rawKey).run world).1 = .ok logged) ∧
      Secured env settings now ((bootstrapAdminKey env settings now rawKey).run world).2) ↔
        ∃ row ∈ world.admins, row.Good now ∧ ∃ key, env.hashKey key = row.keyHash := by
  rw [run_kept unforced admins unset]
  constructor
  · intro held
    rcases held with ⟨_, secured⟩
    obtain ⟨key, accepts⟩ := secured.admin
    obtain ⟨row, only, good, admin⟩ := acceptsAdmin_iff.mp accepts
    obtain ⟨member, own⟩ := mem_of_filter_eq only
    exact ⟨row, List.mem_filter.mpr ⟨member, admin⟩, good, key, (of_decide_eq_true own).symm⟩
  · intro held
    rcases held with ⟨row, listed, good, key, own⟩
    obtain ⟨member, admin⟩ := List.mem_filter.mp listed
    refine ⟨⟨none, rfl⟩, ⟨key, acceptsAdmin_iff.mpr ⟨row, ?_, good, admin⟩⟩,
      fun set => absurd unset set⟩
    exact filter_of_nodup hashes member (decide_eq_true own.symm) fun other wanted =>
      (of_decide_eq_true wanted).trans own

/-- The row of the bootstrap key after the start has looked at it. -/
def ApiKey.synced (row : ApiKey) : ApiKey :=
  { row with revoked := false, isAdmin := row.isAdmin || row.revoked }

theorem syncBootstrap_of_row (only : world.apiKeys.filter (·.keyHash = env.hashKey key) = [row]) :
    ∃ after, syncBootstrap env now key world = .ok after ∧
      after.apiKeys.filter (·.keyHash = env.hashKey key) = [row.synced] := by
  unfold syncBootstrap
  rw [only]
  dsimp only
  cases revoked : row.revoked with
  | false =>
      refine ⟨world, rfl, ?_⟩
      rw [only, ApiKey.synced, revoked, Bool.or_false, ← revoked]
  | true =>
      refine ⟨_, rfl, ?_⟩
      dsimp only
      rw [List.filter_map]
      have same : ((decide <| ·.keyHash = env.hashKey key) ∘ fun other : ApiKey =>
          if other.id = row.id then { other with revoked := false, isAdmin := true } else other) =
          (decide <| ·.keyHash = env.hashKey key) := by
        funext other
        dsimp only [Function.comp_apply]
        split <;> rfl
      rw [same, only, List.map_singleton, if_pos rfl, ApiKey.synced, revoked, Bool.or_true]

theorem ApiKey.good_synced : row.synced.Good now ↔
    (∀ expiry ∈ row.expiresAt, now < expiry) ∧ row.forceRotate = false :=
  ⟨fun good => ⟨good.expiry, good.forceRotate⟩, fun good => ⟨rfl, good.1, good.2⟩⟩

/-- A start that finds administrators needs the bootstrap key, if it is there, to be let in. -/
theorem secured_iff_synced (hashes : (world.apiKeys.map (·.keyHash)).Nodup)
    (unforced : settings.forceAdminKeyReset = false) (admins : world.admins ≠ [])
    (set : settings.bootstrap ≠ "") :
    ((∃ logged, ((bootstrapAdminKey env settings now rawKey).run world).1 = .ok logged) ∧
      Secured env settings now ((bootstrapAdminKey env settings now rawKey).run world).2) ↔
        ∀ row ∈ world.apiKeys, row.keyHash = env.hashKey settings.bootstrap →
          (row.isAdmin = true ∨ row.revoked = true) ∧ (∀ expiry ∈ row.expiresAt, now < expiry) ∧
            row.forceRotate = false := by
  rw [run_synced unforced admins set]
  by_cases fresh : world.FreshKey env settings.bootstrap
  · have added : syncBootstrap env now settings.bootstrap world =
        .ok (addBootstrap env now settings.bootstrap
          "bootstrap admin key (synced from ADMIN_BOOTSTRAP_KEY)" world) := by
      unfold syncBootstrap
      rw [filter_eq_nil_iff_fresh.mpr fresh]
      exact if_pos fresh
    rw [added]
    constructor
    · exact fun _ row member own => absurd own (fresh row member)
    · intro _
      refine ⟨⟨none, rfl⟩, ⟨settings.bootstrap, ?_⟩, fun _ => ?_⟩
      · exact acceptsAdmin_addBootstrap fresh
      · exact acceptsAdmin_addBootstrap fresh
  · unfold World.FreshKey at fresh
    push Not at fresh
    obtain ⟨row, member, own⟩ := fresh
    have only : world.apiKeys.filter (·.keyHash = env.hashKey settings.bootstrap) = [row] :=
      filter_of_nodup hashes member (decide_eq_true own) fun other wanted =>
        (of_decide_eq_true wanted).trans own.symm
    obtain ⟨after, synced, found⟩ : ∃ after,
        syncBootstrap env now settings.bootstrap world = .ok after ∧
          after.apiKeys.filter (·.keyHash = env.hashKey settings.bootstrap) = [row.synced] :=
      syncBootstrap_of_row only
    have accepts : after.AcceptsAdmin env now settings.bootstrap ↔
        row.synced.Good now ∧ row.synced.isAdmin = true := by
      rw [acceptsAdmin_iff, found]
      constructor
      · intro held
        rcases held with ⟨_, same, good⟩
        cases same
        exact good
      · exact fun good => ⟨row.synced, rfl, good⟩
    have admin : row.synced.isAdmin = true ↔ row.isAdmin = true ∨ row.revoked = true :=
      Bool.or_eq_true_iff
    rw [ApiKey.good_synced, admin] at accepts
    rw [synced]
    constructor
    · intro held
      rcases held with ⟨_, secured⟩
      intro other among same
      have listed : other ∈ world.apiKeys.filter (·.keyHash = env.hashKey settings.bootstrap) :=
        List.mem_filter.mpr ⟨among, decide_eq_true same⟩
      rw [only, List.mem_singleton] at listed
      cases listed
      exact (accepts.mp (secured.bootstrap set)).symm
    · intro good
      have lets := accepts.mpr (good row member own).symm
      exact ⟨⟨none, rfl⟩, ⟨_, lets⟩, fun _ => lets⟩

/-- **The administrator's key.** -/
theorem recovers_iff (env : Env) (settings : StartSettings) (now : ℤ) (rawKey : String)
    (world : World) (hashes : (world.apiKeys.map (·.keyHash)).Nodup)
    (named : settings.forceAdminKeyReset = true → settings.bootstrap ≠ "") :
    (Recovers env settings now rawKey world ↔ Recoverable env settings now rawKey world) ∧
      (Recovers env settings now rawKey world → ∀ now' rawKey',
        ((∃ logged, ((bootstrapAdminKey env settings now' rawKey').run
          ((bootstrapAdminKey env settings now rawKey).run world).2).1 = .ok logged) ↔
            settings.forceAdminKeyReset = false)) := by
  constructor
  · rw [recovers_iff_secured named]
    unfold Recoverable
    cases force : settings.forceAdminKeyReset with
    | true =>
        rw [if_neg (named force), if_pos (.inl rfl),
          secured_iff_fresh (run_forced force (named force)), freshKey_revokeAdmins]
    | false =>
        by_cases admins : world.admins = []
        · by_cases set : settings.bootstrap = ""
          · rw [if_pos set, if_pos admins, secured_iff_drawn force admins set]
          · rw [if_neg set, if_pos (.inr admins), secured_iff_fresh (run_first force admins set)]
        · by_cases set : settings.bootstrap = ""
          · rw [if_pos set, if_neg admins, secured_iff_kept hashes force admins set]
          · rw [if_neg set, if_neg (by simp [admins]), secured_iff_synced hashes force admins set]
  · intro recovers now' rawKey'
    obtain ⟨_, secured⟩ := (recovers_iff_secured named).mp recovers
    cases force : settings.forceAdminKeyReset with
    | false =>
        rw [secured.run_unforced force]
        exact ⟨fun _ => rfl, fun _ => ⟨none, rfl⟩⟩
    | true =>
        rw [secured.run_forced force (named force)]
        exact ⟨nofun, nofun⟩

end Starts

/-- An administrator's key that has expired, the bootstrap key revoked, and an account's key. -/
def lapsedKeys : World :=
  { World.empty with
    apiKeys :=
      [{ bootstrapRow ⟨{}, id⟩ 0 "old" "label" 1 with expiresAt := some 5 },
        { bootstrapRow ⟨{}, id⟩ 0 "secret" "label" 2 with revoked := true },
        { bootstrapRow ⟨{}, id⟩ 0 "key" "label" 3 with accountId := some "acc", isAdmin := false }]
    nextKeyId := 4 }

/-- A start takes the bootstrap key back, where it is set; without it nobody gets in. -/
theorem recovers_iff_lapsedKeys :
    Recovers ⟨{}, id⟩ { adminBootstrapKey := " secret " } 10 "drawn" lapsedKeys ∧
      (∀ now rawKey, ∃ logged,
        ((bootstrapAdminKey ⟨{}, id⟩ { adminBootstrapKey := " secret " } now rawKey).run
          ((bootstrapAdminKey ⟨{}, id⟩ { adminBootstrapKey := " secret " } 10 "drawn").run
            lapsedKeys).2).1 = .ok logged) ∧
      ¬ Recovers ⟨{}, id⟩ {} 10 "drawn" lapsedKeys := by
  have hashes : (lapsedKeys.apiKeys.map (·.keyHash)).Nodup := by decide
  have start := recovers_iff ⟨{}, id⟩ { adminBootstrapKey := " secret " } 10 "drawn" lapsedKeys
    hashes nofun
  have recovers : Recovers ⟨{}, id⟩ { adminBootstrapKey := " secret " } 10 "drawn"
      lapsedKeys := by
    refine start.1.mpr ?_
    rw [Recoverable, if_neg (by decide), if_neg (by decide)]
    simp [lapsedKeys, bootstrapRow, StartSettings.bootstrap,
      show strip " secret " = "secret" by decide]
  have without := recovers_iff ⟨{}, id⟩ {} 10 "drawn" lapsedKeys hashes nofun
  refine ⟨recovers, fun now rawKey => (start.2 recovers now rawKey).mpr rfl, fun again => ?_⟩
  have good := without.1.mp again
  rw [Recoverable, if_pos (by decide), if_neg (by decide)] at good
  obtain ⟨row, listed, good, _⟩ := good
  have gone : ∀ row ∈ lapsedKeys.admins, row.revoked = true ∨ row.expiresAt = some 5 := by decide
  rcases gone row listed with revoked | expired
  · exact absurd (good.revoked.symm.trans revoked) (by decide)
  · exact absurd (good.expiry 5 expired) (by decide)

/-- The tables after a start under force, and a table whose bootstrap key has expired. -/
def afterReset : World :=
  ((bootstrapAdminKey ⟨{}, id⟩ ⟨"secret", true⟩ 0 "drawn").run .empty).2

def expiredBootstrap : World :=
  { World.empty with
    apiKeys := [{ bootstrapRow ⟨{}, id⟩ 0 "secret" "label" 1 with expiresAt := some 5 }] }

/-- The next start under force raises, and a start leaves the expired key as it is. -/
theorem not_recovers_again : ¬ Recovers ⟨{}, id⟩ ⟨"secret", true⟩ 1 "drawn" afterReset ∧
    ¬ Recovers ⟨{}, id⟩ ⟨"secret", false⟩ 10 "drawn" expiredBootstrap := by
  constructor
  · intro held
    rcases held with ⟨⟨logged, done⟩, _⟩
    have set : StartSettings.bootstrap ⟨"secret", true⟩ ≠ "" := by decide
    have fresh : World.empty.revokeAdmins.FreshKey ⟨{}, id⟩
      (StartSettings.bootstrap ⟨"secret", true⟩) := List.forall_mem_nil _
    have first : Secured ⟨{}, id⟩ ⟨"secret", true⟩ 0 afterReset :=
      ((secured_iff_fresh (run_forced rfl set)).mpr fresh).2
    rw [first.run_forced rfl set] at done
    cases done
  · intro recovers
    have set : StartSettings.bootstrap ⟨"secret", false⟩ ≠ "" := by decide
    have hashes : (expiredBootstrap.apiKeys.map (·.keyHash)).Nodup := List.nodup_singleton _
    have admins : expiredBootstrap.admins ≠ [] := List.cons_ne_nil _ _
    have found := (recovers_iff_secured fun _ => set).mp recovers
    rw [secured_iff_synced hashes rfl admins set] at found
    have inTime := (found _ List.mem_cons_self rfl).2.1 5 rfl
    exact absurd inTime (by decide)

end Aegis.Subscriptions
