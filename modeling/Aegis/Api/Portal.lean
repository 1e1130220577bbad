import Aegis.Api.Download
import Aegis.Subscriptions.PortalToken

/-!
# The client portal

The endpoints of `portal_router.py` that hand something out.  A subscriber comes with her
account id and her portal token; `_authenticate` is what the endpoints share.
-/

namespace Aegis.Api

open Aegis.Lib Aegis.Payments Aegis.Subscriptions

/-- The tables behind the portal. -/
structure Portal where
  world : World
  /-- `download_tokens` by `token` -/
  downloadTokens : AList fun _ : String => DownloadToken

namespace Portal

/-- A program on the tables of `World`. -/
def onWorld {α : Type} (p : Prog Failure World α) : Prog Failure Portal α :=
  p.zoom Portal.world fun world portal => { portal with world := world }

theorem run_onWorld {α : Type} (p : Prog Failure World α) (portal : Portal) :
    (onWorld p).run portal =
      ((p.run portal.world).1, { portal with world := (p.run portal.world).2 }) := by
  unfold onWorld
  apply Prog.run_zoom
  · exact fun _ _ => rfl
  · exact fun _ _ _ => rfl
  · exact fun _ => rfl

end Portal

/-- The dict of `get_status`, with the `is_active` that `_authenticate` adds.  It has no
`plan`. -/
structure StatusRecord where
  accountId : String
  provider : Option String
  providerCustomerId : Option String
  providerSubscriptionId : Option String
  status : String
  currentPeriodEnd : Option ℤ
  gracePeriodEndsAt : Option ℤ
  updatedAt : ℤ
  isActive : Bool

/-- `get_status`, for a row and the answer of `is_active`. -/
def StatusRecord.of (accountId : String) (row : Subscription) (active : Bool) : StatusRecord :=
  ⟨accountId, row.provider, row.providerCustomerId, row.providerSubscriptionId, row.status,
    row.currentPeriodEnd, row.gracePeriodEndsAt, row.updatedAt, active⟩

/-- `_authenticate`. -/
def authenticatePortal (now : ℤ) (accountId token : String) : Prog Failure World StatusRecord := do
  if !(← verifyPortalToken accountId token) then
    Prog.raise (.httpException 401 "Invalid account ID or portal token.")
  else
    match ← Prog.read (·.subscription accountId) with
    | none => Prog.raise (.httpException 404 "No subscription found.")
    | some row =>
        let active ← isActive now accountId
        return .of accountId row active

/-- What `portal_download_url` answers. -/
structure DownloadLink where
  downloadUrl : String
  token : String
  plan : String
  expiresHours : ℕ

/-- `issue_download_token`, with the token drawn. -/
def addDownloadToken (drawn : String) (row : DownloadToken) (portal : Portal) :
    Except Failure Portal :=
  if drawn ∈ portal.downloadTokens then .error .integrityError
  else .ok { portal with downloadTokens := portal.downloadTokens.insert drawn row }

def portalDownloadUrl (now : ℤ) (baseUrl drawn accountId token : String) :
    Prog Failure Portal DownloadLink := do
  let record ← Portal.onWorld (authenticatePortal now accountId token)
  if !record.isActive then
    Prog.raise (.httpException 402 "Subscription is not active.")
  else
    Prog.commit (addDownloadToken drawn (issueDownloadToken now accountId "starter" 1 24))
    return ⟨s!"{baseUrl}/api/download/apk?token={drawn}", drawn, "starter", 24⟩

/-- What `portal_issue_mobile_key` answers, without its fixed texts. -/
structure MobileKeyIssued where
  accountId : String
  mobileApiKey : String
  plan : Option String

/-- `from app.security import issue_api_key, revoke_account_keys`: the module has no function of
the second name. -/
def importRevokeAccountKeys : Except Failure Unit := .error .importError

/-- The loop over the account's keys. -/
def revokeAccountKeys (now : ℤ) (accountId : String) (world : World) : World :=
  { world with
    apiKeys := world.apiKeys.map fun row =>
      if row.accountId = some accountId ∧ !row.isAdmin ∧ !row.revoked then
        { row with revoked := true, revokedAt := some now, revokedBy := some "portal.mobile-key" }
      else row }

def portalKeyRequest (accountId : String) : KeyRequest where
  accountId := some accountId
  label := some "mobile"
  issuedBy := some s!"portal:{accountId}"

def portalIssueMobileKey (env : Env) (now : ℤ) (rawKey accountId token : String) :
    Prog Failure World MobileKeyIssued := do
  let record ← authenticatePortal now accountId token
  if !record.isActive then
    Prog.raise (.httpException 402
      "Subscription is not active. Start a free demo or complete payment first.")
  else
    Prog.ofExcept importRevokeAccountKeys
    Prog.modify (revokeAccountKeys now accountId)
    let raw ← issueApiKey env now rawKey (portalKeyRequest accountId)
    return ⟨accountId, raw, none⟩

/-! ## Who is refused -/

section Refused

variable {env : Env} {now : ℤ} {accountId token rawKey baseUrl drawn : String} {world : World}
  {row : Subscription}

/-- Past the check of the token the record shows what `is_active` answers. -/
theorem run_authenticatePortal (verified : (verifyPortalToken accountId token).run world =
      (.ok true, world)) (present : world.subscription accountId = some row) :
    (authenticatePortal now accountId token).run world =
      (.ok (.of accountId row (world.isActive now accountId)), world) := by
  unfold authenticatePortal
  rw [Prog.run_bind_ok verified]
  simp only [Bool.not_true, Bool.false_eq_true, if_false]
  rw [Prog.run_bind_ok (Prog.run_read _ _), present]
  rfl

/-- An account that is not active gets no key. -/
theorem run_portalIssueMobileKey_inactive
    (verified : (verifyPortalToken accountId token).run world = (.ok true, world))
    (present : world.subscription accountId = some row)
    (inactive : world.isActive now accountId = false) :
    (portalIssueMobileKey env now rawKey accountId token).run world =
      (.error (.httpException 402
        "Subscription is not active. Start a free demo or complete payment first."), world) := by
  unfold portalIssueMobileKey
  rw [Prog.run_bind_ok (run_authenticatePortal verified present), inactive]
  rfl

/-- Nor does it get a link. -/
theorem run_portalDownloadUrl_inactive {portal : Portal}
    (verified : (verifyPortalToken accountId token).run portal.world = (.ok true, portal.world))
    (present : portal.world.subscription accountId = some row)
    (inactive : portal.world.isActive now accountId = false) :
    (portalDownloadUrl now baseUrl drawn accountId token).run portal =
      (.error (.httpException 402 "Subscription is not active."), portal) := by
  have record : (authenticatePortal now accountId token).run portal.world =
      (.ok (.of accountId row false), portal.world) := by
    rw [run_authenticatePortal verified present, inactive]
  unfold portalDownloadUrl
  rw [Prog.run_bind_ok (by rw [Portal.run_onWorld, record])]
  rfl

end Refused

end Aegis.Api
