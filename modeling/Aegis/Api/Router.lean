import Aegis.Api.Server

/-!
# The endpoints of an account

The routers for trading, analysis, signal history, devices and subscription status, on one
state and behind one `verify_api_key`.  The trading router is that of `Aegis.Trading`, with
the one key that it leaves out: `ensure_worker` hands the credentials over by Redis.
-/

namespace Aegis.Trading

/-- The account that a request names. -/
def Request.accountId : Request → String
  | getHealth accountId => accountId
  | connect _ request => request.accountId
  | disconnect accountId => accountId
  | placeMarketOrder request => request.accountId
  | getAccount accountId => accountId
  | getPositions accountId => accountId
  | getPendingOrders accountId => accountId
  | placePendingOrder request => request.accountId
  | modifyPosition request => request.accountId
  | closePosition request => request.accountId
  | cancelOrder accountId _ => accountId
  | getSymbol accountId _ => accountId

end Aegis.Trading

namespace Aegis.Api

open Aegis.Lib Aegis.History Aegis.Payments Aegis.Rulebook Aegis.Subscriptions Aegis.Trading
  Aegis.Vision Aegis.Workers

/-! ## Requests and answers -/

structure DeviceRegisterRequest where
  accountId : String
  deviceId : String
  deviceLabel : Option String := none

inductive Request where
  | trading (request : Trading.Request)
  | analyzeScreenshot (request : AnalyzeRequest)
  | getSignalHistory (accountId : String) (limit : ℤ)
  | receiveHeartbeat (heartbeat : HeartbeatRequest)
  | getDeviceHealth (accountId : String)
  | listDeviceHealth
  | registerDevice (body : DeviceRegisterRequest)
  | clearDeviceBinding (accountId : String)
  | getSubscriptionStatus (accountId : String)

/-- The account that a request names; the fleet is not one account. -/
def Request.accountId : Request → Option String
  | trading request => some request.accountId
  | analyzeScreenshot request => some request.accountId
  | getSignalHistory accountId _ => some accountId
  | receiveHeartbeat heartbeat => some heartbeat.accountId
  | getDeviceHealth accountId => some accountId
  | listDeviceHealth => none
  | registerDevice body => some body.accountId
  | clearDeviceBinding accountId => some accountId
  | getSubscriptionStatus accountId => some accountId

/-- What `get_status` returns, with `is_active`. -/
structure SubscriptionStatus where
  accountId : String
  provider : Option String
  providerCustomerId : Option String
  providerSubscriptionId : Option String
  status : String
  currentPeriodEnd : Option ℤ
  gracePeriodEndsAt : Option ℤ
  updatedAt : ℤ
  isActive : Bool

/-- An entry of the fleet: a device is online since some seconds, or offline. -/
structure DeviceStatus where
  accountId : String
  secondsSinceHeartbeat : Option (ℚ × Heartbeat)

inductive Answer where
  | json (body : Json)
  | analysis (response : Vision.Response)
  | signals (rows : List SignalHistory)
  | health (heartbeat : Heartbeat)
  | fleet (devices : List DeviceStatus)
  | registration (result : Registration)
  | status (record : SubscriptionStatus)

/-- An exception that ends a request. -/
inductive Refusal where
  | failure (failure : Failure)
  | rejection (rejection : Rejection)

/-- What the outside decides about a request, and the request. -/
structure Visit where
  /-- `datetime.now()` -/
  now : ℤ
  /-- `time.time()` and what else the analysis meets -/
  arrival : Vision.Arrival
  link : Link
  pipe : Pipe
  clientHost : Option String
  xApiKey : Option String
  request : Request

/-- What start-up puts together. -/
structure App (Image α : Type) [LinearOrder α] where
  env : Env
  apiRateLimitPerMinute : ℤ := 120
  brain : BrainCVService Image α
  indicatorHistory : IndicatorHistoryService

section Endpoints

variable {Image α : Type} [LinearOrder α] [LinearOrder (Record (FrameState α))] {β : Type}
  (app : App Image α) (visit : Visit) (auth : AuthContext)

/-! ## Parts of the state -/

def onDesk (p : Prog Failure Desk β) : Prog Refusal (Server α) β :=
  p.embed Server.desk (fun desk server => { server with desk := desk }) .failure

def onWorld (p : Prog Failure World β) : Prog Refusal (Server α) β := onDesk (Desk.onWorld p)

def onStores (p : Prog Rejection (Stores α) β) : Prog Refusal (Server α) β :=
  p.embed Server.stores (fun stores server => { server with stores := stores }) .rejection

def onWindows (p : Prog Failure Windows β) : Prog Refusal (Server α) β :=
  p.embed Server.windows (fun windows server => { server with windows := windows }) .failure

def onDevices (p : Prog Failure Devices β) : Prog Refusal (Server α) β :=
  p.embed Server.devices (fun devices server => { server with devices := devices }) .failure

def check (outcome : Except Failure β) : Prog Refusal (Server α) β :=
  Prog.ofExcept (outcome.mapError .failure)

def httpException (statusCode : ℕ) (detail : String) : Prog Refusal (Server α) β :=
  Prog.raise (.failure (.httpException statusCode detail))

/-- `audit_service.record`. -/
def audit (event : AuditEvent) : Prog Refusal (Server α) Unit :=
  Prog.modify fun server => { server with auditEvents := server.auditEvents ++ [event] }

/-! ## Trading -/

/-- `stash_worker_credentials`. -/
def stashWorkerCredentials (accountId : String) (credentials : Credentials) :
    Prog Refusal (Server α) Unit :=
  Prog.modify fun server =>
    { server with
      workerCreds := Function.update server.workerCreds accountId
        (some ⟨credentials, some (visit.arrival.now + 60)⟩) }

def ensureWorker (alive : Bool) (accountId : String) (credentials : Credentials) :
    Prog Refusal (Server α) Bool := do
  if (← onWorld (Prog.read fun world => decide (accountId ∈ world.workers))) && alive then
    return true
  onWorld (Prog.modify fun world => { world with workers := world.workers.erase accountId })
  if (← onWorld (Prog.read fun world => world.workers.card)) ≥ maxConcurrentWorkers then
    return false
  stashWorkerCredentials visit accountId credentials
  onWorld (Prog.modify fun world => { world with workers := insert accountId world.workers })
  onWorld (Prog.modify fun world =>
    { world with workerRegistry := insert accountId world.workerRegistry })
  return true

/-- `connect` after its plan checks. -/
def startWorker (alive : Bool) (request : CredentialCreateRequest) :
    Prog Refusal (Server α) Json := do
  onDesk (saveCredentials request.credential)
  match ← onDesk (getCredentialsByAccount request.accountId) with
  | none => httpException 400 "Execution is disabled for this account."
  | some stored =>
      if !stored.executionEnabled then
        httpException 400 "Execution is disabled for this account."
      else
        let mt5Credentials : Credentials :=
          ⟨request.login, stored.tradingPassword, request.server⟩
        if !(← ensureWorker visit alive request.accountId mt5Credentials) then
          httpException 503 "Worker pool is full. Try again shortly."
        else
          return .dict [("status", .str "connecting"), ("account_id", .str request.accountId)]

def connect (alive : Bool) (request : CredentialCreateRequest) : Prog Refusal (Server α) Json := do
  check (requireAccountMatch auth request.accountId)
  let plan ← onWorld (getPlan request.accountId)
  check (planGate plan)
  startWorker visit alive request

def handleTrading (request : Trading.Request) : Prog Refusal (Server α) Json :=
  match request with
  | .connect alive body => connect visit auth alive body
  | other => onDesk (other.handle visit.now visit.link auth)

/-! ## Analysis and signal history -/

/-- `analyze_screenshot`. -/
def analyze (request : AnalyzeRequest) : Prog Refusal (Server α) Vision.Response := do
  check (requireAccountMatch auth request.accountId)
  onWindows (enforceAccountRateLimit app.apiRateLimitPerMinute visit.pipe visit.arrival.now
    request.accountId)
  onStores (analyzeScreenshot app.brain app.indicatorHistory visit.arrival request)

/-- `MAX_RESULTS_PER_QUERY`. -/
def maxResultsPerQuery : ℤ := 200

/-- `ORDER BY created_at DESC LIMIT ...`; the database refuses a negative limit. -/
def recentFirst (limit : ℤ) (rows : List SignalHistory) : Except Failure (List SignalHistory) :=
  if limit < 0 then .error .dataError
  else .ok ((rows.mergeSort fun row other => other.createdAt ≤ row.createdAt).take limit.toNat)

def getSignalHistory (accountId : String) (limit : ℤ) :
    Prog Refusal (Server α) (List SignalHistory) := do
  check (requireAccountMatch auth accountId)
  let rows ← Prog.read fun server =>
    server.stores.signalHistory.filter (·.accountId = accountId)
  check (recentFirst (min limit maxResultsPerQuery) rows)

/-! ## Devices -/

def receiveHeartbeat (heartbeat : HeartbeatRequest) : Prog Refusal (Server α) Json := do
  check (requireAccountMatch auth heartbeat.accountId)
  onDevices (recordHeartbeat visit.arrival.now heartbeat)
  return .dict [("status", .str "recorded")]

def getDeviceHealth (accountId : String) : Prog Refusal (Server α) Heartbeat := do
  check (requireAccountMatch auth accountId)
  match ← onDevices (getHealth visit.arrival.now accountId) with
  | none => httpException 404 "No recent heartbeat for this account - device may be offline."
  | some health => return health

/-- An entry of `list_all` at `now`. -/
def DeviceStatus.of (now : ℚ) (device : String × Option Heartbeat) : DeviceStatus :=
  ⟨device.1, device.2.map fun health => (roundTenth (now - health.receivedAt), health)⟩

def listDeviceHealth : Prog Refusal (Server α) (List DeviceStatus) := do
  check (requireAdmin auth)
  let devices ← onDevices (listAll visit.arrival.now)
  return devices.map (DeviceStatus.of visit.arrival.now)

/-- `text[-6:]`. -/
def lastSix (text : String) : String := String.ofList (text.toList.rtake 6)

/-- `str(auth.key_id) if auth.key_id else None`. -/
def actorId : Option String := (auth.keyId.filter (· ≠ 0)).map toString

def registerDevice (body : DeviceRegisterRequest) : Prog Refusal (Server α) Registration := do
  check (requireAccountMatch auth body.accountId)
  let deviceId ← check (strippedId body.deviceId)
  let row ← onWorld (Prog.read (·.subscription body.accountId))
  let result ← onDevices
    (bindDevice visit.now (maxDevices row) body.accountId deviceId body.deviceLabel)
  match result with
  | .rejected reason _ _ =>
      audit
        { createdAt := visit.now, actorType := "account_key", actorId := actorId auth
          action := "device.bind_rejected", accountId := some body.accountId
          detail := some reason, ip := visit.clientHost, success := false }
      httpException 403
        "This subscription is already bound to another device. Contact support to transfer."
  | .bound _ _ _ _ =>
      audit
        { createdAt := visit.now, actorType := "account_key", actorId := actorId auth
          action := "device.bind", accountId := some body.accountId
          targetType := some "device", targetId := some (lastSix body.deviceId)
          ip := visit.clientHost }
      return result
  | .ok _ _ _ => return result

def clearDeviceBinding (accountId : String) : Prog Refusal (Server α) Json := do
  check (requireAdmin auth)
  let ok ← onDevices (clearBindings accountId)
  if ok = 0 then
    httpException 404 "No binding found"
  else
    audit
      { createdAt := visit.now, actorType := "admin_key", actorId := actorId auth
        actorLabel := auth.label, action := "device.unbind", accountId := some accountId
        ip := visit.clientHost }
    return .dict [("status", .str "cleared"), ("account_id", .str accountId)]

/-! ## Subscription status -/

def getSubscriptionStatus (accountId : String) : Prog Refusal (Server α) SubscriptionStatus := do
  check (requireAccountMatch auth accountId)
  match ← onWorld (Prog.read (·.subscription accountId)) with
  | none => httpException 404 "No subscription found for this account."
  | some row =>
      let active ← onWorld (isActive visit.now accountId)
      return ⟨accountId, row.provider, row.providerCustomerId, row.providerSubscriptionId,
        row.status, row.currentPeriodEnd, row.gracePeriodEndsAt, row.updatedAt, active⟩

/-! ## All of them -/

def Request.handle : Request → Prog Refusal (Server α) Answer
  | trading request => Answer.json <$> handleTrading visit auth request
  | analyzeScreenshot request => Answer.analysis <$> analyze app visit auth request
  | getSignalHistory accountId limit =>
      Answer.signals <$> Api.getSignalHistory auth accountId limit
  | receiveHeartbeat heartbeat => Answer.json <$> Api.receiveHeartbeat visit auth heartbeat
  | getDeviceHealth accountId => Answer.health <$> Api.getDeviceHealth visit auth accountId
  | listDeviceHealth => Answer.fleet <$> Api.listDeviceHealth visit auth
  | registerDevice body => Answer.registration <$> Api.registerDevice visit auth body
  | clearDeviceBinding accountId => Answer.json <$> Api.clearDeviceBinding visit auth accountId
  | getSubscriptionStatus accountId =>
      Answer.status <$> Api.getSubscriptionStatus visit auth accountId

/-- A request with its `X-API-Key` header. -/
def serve : Prog Refusal (Server α) Answer := do
  let auth ← onWorld (authenticate app.env visit.now visit.xApiKey)
  visit.request.handle app visit auth

/-- The server after a request. -/
def step (server : Server α) (visit : Visit) : Server α := ((serve app visit).run server).2

end Endpoints

end Aegis.Api
