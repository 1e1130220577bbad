import Aegis.Trading.Desk

/-!
# The trading router

Every endpoint of `trading_router.py`, in the order of the source.  `Request.handle` is an
endpoint once `verify_api_key` has answered, `serve` the endpoint with it.
-/

namespace Aegis.Trading

open Aegis.Lib Aegis.Payments Aegis.Subscriptions Aegis.Workers

/-! ## Bodies

A float is given by its `repr`. -/

structure CredentialCreateRequest where
  accountId : String
  brokerName : String
  server : String
  login : String
  tradingPassword : String
  investorPassword : Option String := none
  executionEnabled : Bool := true

structure MarketOrderRequest where
  symbol : String
  volume : String
  orderType : String
  accountId : String
  comment : Option String := none

structure PendingOrderRequest where
  symbol : String
  volume : String
  orderType : String
  price : String
  sl : Option String := none
  tp : Option String := none
  accountId : String

structure ModifyPositionRequest where
  ticket : ℤ
  sl : Option String := none
  tp : Option String := none
  accountId : String

structure ClosePositionRequest where
  ticket : ℤ
  volume : Option String := none
  accountId : String

/-- An optional field in a dump. -/
def optional (json : String → Json) : Option String → Json
  | none => .none
  | some text => json text

def MarketOrderRequest.modelDump (request : MarketOrderRequest) : Json :=
  .dict [("symbol", .str request.symbol), ("volume", .float request.volume),
    ("order_type", .str request.orderType), ("account_id", .str request.accountId),
    ("comment", optional .str request.comment)]

def PendingOrderRequest.modelDump (request : PendingOrderRequest) : Json :=
  .dict [("symbol", .str request.symbol), ("volume", .float request.volume),
    ("order_type", .str request.orderType), ("price", .float request.price),
    ("sl", optional .float request.sl), ("tp", optional .float request.tp),
    ("account_id", .str request.accountId)]

def ModifyPositionRequest.modelDump (request : ModifyPositionRequest) : Json :=
  .dict [("ticket", .int request.ticket), ("sl", optional .float request.sl),
    ("tp", optional .float request.tp), ("account_id", .str request.accountId)]

def ClosePositionRequest.modelDump (request : ClosePositionRequest) : Json :=
  .dict [("ticket", .int request.ticket), ("volume", optional .float request.volume),
    ("account_id", .str request.accountId)]

/-! ## What the endpoints share -/

/-- The last lines of most endpoints: the 409 gate, the job, and the 504. -/
def relay (link : Link) (accountId jobType : String) (payload : Json) :
    Prog Failure Desk JobResult := do
  if !(← Desk.onWorld (isRunning accountId)) then
    Prog.raise (.httpException 409 "Account is not connected. Call /connect first.")
  else
    match ← submitAndWait link accountId jobType payload with
    | none => Prog.raise (.httpException 504 "Worker did not respond in time.")
    | some result => return result

section Relay

variable {link : Link} {accountId jobType : String} {payload : Json} {desk : Desk}

theorem run_submitAndWait :
    (submitAndWait link accountId jobType payload).run desk =
      (.ok link.reply,
        { desk with world := enqueue accountId ⟨link.jobId, jobType, payload⟩ desk.world }) :=
  Prog.run_bind_ok (Desk.run_onWorld_ok (Prog.run_modify _ _))

theorem run_isRunning :
    (Desk.onWorld (isRunning accountId)).run desk = (.ok (decide (desk.Running accountId)), desk) :=
  Desk.run_onWorld_ok (Prog.run_read _ _)

/-- An account without a worker is refused. -/
theorem run_relay_idle (idle : ¬ desk.Running accountId) :
    (relay link accountId jobType payload).run desk =
      (.error (.httpException 409 "Account is not connected. Call /connect first."), desk) := by
  unfold relay
  rw [Prog.run_bind_ok run_isRunning, decide_eq_false idle]
  rfl

/-- Past the gate the job is queued, whatever comes back. -/
theorem run_relay_running (running : desk.Running accountId) :
    ((relay link accountId jobType payload).run desk).2 =
      { desk with world := enqueue accountId ⟨link.jobId, jobType, payload⟩ desk.world } := by
  unfold relay
  rw [Prog.run_bind_ok run_isRunning, decide_eq_true running]
  simp only [Bool.not_true, Bool.false_eq_true, if_false]
  rw [Prog.run_bind_ok run_submitAndWait]
  cases link.reply <;> rfl

end Relay

/-- `result.get("result", default)`. -/
def getResult (default : Json) : JobResult → Json
  | .success result => result
  | .failure _ => default

/-- `result.get("message", default)`. -/
def getMessage (default : String) : JobResult → String
  | .success _ => default
  | .failure message => message

/-- The end of the endpoints that change something: a 400, or `result["result"]`. -/
def requireSuccess (default : String) (result : JobResult) : Except Failure Json :=
  match result with
  | .success json => .ok json
  | .failure _ => .error (.httpException 400 (getMessage default result))

/-! ## Endpoints -/

def getHealth (link : Link) (auth : AuthContext) (accountId : String) : Prog Failure Desk Json := do
  Prog.ofExcept (requireAccountMatch auth accountId)
  if !(← Desk.onWorld (isRunning accountId)) then
    return .dict [("healthy", .bool false), ("connected", .bool false),
      ("message", .str "No worker running for this account.")]
  else
    match ← submitAndWait link accountId "health" (.dict []) with
    | none => Prog.raise (.httpException 504 "Worker did not respond in time.")
    | some result => return getResult result.toJson result

/-- The plan checks of `connect`; for the demo plan the source has an empty branch. -/
def planGate (plan : String) : Except Failure Unit :=
  if plan = "none" then
    .error (.httpException 402
      "No subscription. Start a demo or subscribe to download and trade.")
  else if plan ≠ "live" ∧ plan ≠ "demo" then
    .error (.httpException 402 "Subscription not eligible.")
  else .ok ()

theorem planGate_cases (plan : String) :
    planGate plan = .ok () ∨ ∃ detail, planGate plan = .error (.httpException 402 detail) := by
  unfold planGate
  split
  · exact .inr ⟨_, rfl⟩
  · split
    · exact .inr ⟨_, rfl⟩
    · exact .inl rfl

/-- The credential that `connect` saves. -/
def CredentialCreateRequest.credential (request : CredentialCreateRequest) : Credential :=
  ⟨request.brokerName, request.server, request.accountId, request.tradingPassword,
    request.investorPassword, request.executionEnabled⟩

/-- `connect` after its plan checks. -/
def startWorker (alive : Bool) (request : CredentialCreateRequest) : Prog Failure Desk Json := do
  saveCredentials request.credential
  let stored ← getCredentialsByAccount request.accountId
  if !(stored.any (·.executionEnabled)) then
    Prog.raise (.httpException 400 "Execution is disabled for this account.")
  else
    if !(← Desk.onWorld (ensureWorker alive request.accountId)) then
      Prog.raise (.httpException 503 "Worker pool is full. Try again shortly.")
    else
      return .dict [("status", .str "connecting"), ("account_id", .str request.accountId)]

def connect (alive : Bool) (auth : AuthContext) (request : CredentialCreateRequest) :
    Prog Failure Desk Json := do
  Prog.ofExcept (requireAccountMatch auth request.accountId)
  let plan ← Desk.onWorld (getPlan request.accountId)
  Prog.ofExcept (planGate plan)
  startWorker alive request

def disconnect (link : Link) (auth : AuthContext) (accountId : String) :
    Prog Failure Desk Json := do
  Prog.ofExcept (requireAccountMatch auth accountId)
  if !(← Desk.onWorld (stopWorker link.jobId accountId)) then
    Prog.raise (.httpException 404 "No active worker for this account.")
  else
    return .dict [("status", .str "disconnected"), ("account_id", .str accountId)]

/-- `request.app` in `place_market_order`, where `request` is the body: the body has no
such field, so the lookup raises. -/
def MarketOrderRequest.app (_ : MarketOrderRequest) : Except Failure Unit :=
  .error (.python .attributeError)

def placeMarketOrder (now : ℤ) (link : Link) (auth : AuthContext)
    (request : MarketOrderRequest) : Prog Failure Desk Json := do
  Prog.ofExcept (requireAccountMatch auth request.accountId)
  if !(← Desk.onWorld (allowsLiveTrading now request.accountId)) then
    Prog.raise (.httpException 402
      "Live trading requires an active paid subscription. Demo plan is analysis-only / demo-server only.")
  else
    Prog.ofExcept request.app
    match ← consume now request.accountId 1 with
    | .error message => Prog.raise (.httpException 429 message)
    | .ok _ =>
        let result ← relay link request.accountId "market_order" request.modelDump
        Prog.ofExcept (requireSuccess "Order failed." result)

def getAccount (link : Link) (auth : AuthContext) (accountId : String) :
    Prog Failure Desk Json := do
  Prog.ofExcept (requireAccountMatch auth accountId)
  return getResult .none (← relay link accountId "get_account" (.dict []))

def getPositions (link : Link) (auth : AuthContext) (accountId : String) :
    Prog Failure Desk Json := do
  Prog.ofExcept (requireAccountMatch auth accountId)
  return getResult (.list []) (← relay link accountId "get_positions" (.dict []))

def getPendingOrders (link : Link) (auth : AuthContext) (accountId : String) :
    Prog Failure Desk Json := do
  Prog.ofExcept (requireAccountMatch auth accountId)
  return getResult (.list []) (← relay link accountId "get_orders" (.dict []))

/-- An endpoint that relays a job and requires its success. -/
def command (link : Link) (auth : AuthContext) (accountId jobType : String) (payload : Json)
    (default : String) : Prog Failure Desk Json := do
  Prog.ofExcept (requireAccountMatch auth accountId)
  let result ← relay link accountId jobType payload
  Prog.ofExcept (requireSuccess default result)

def placePendingOrder (link : Link) (auth : AuthContext) (request : PendingOrderRequest) :
    Prog Failure Desk Json :=
  command link auth request.accountId "pending_order" request.modelDump "Order failed."

def modifyPosition (link : Link) (auth : AuthContext) (request : ModifyPositionRequest) :
    Prog Failure Desk Json :=
  command link auth request.accountId "modify_position" request.modelDump "Modify failed."

def closePosition (link : Link) (auth : AuthContext) (request : ClosePositionRequest) :
    Prog Failure Desk Json :=
  command link auth request.accountId "close_position" request.modelDump "Close failed."

def cancelOrder (link : Link) (auth : AuthContext) (accountId : String) (ticket : ℤ) :
    Prog Failure Desk Json :=
  command link auth accountId "cancel_order" (.dict [("ticket", .int ticket)]) "Cancel failed."

def getSymbol (link : Link) (auth : AuthContext) (accountId symbol : String) :
    Prog Failure Desk Json :=
  command link auth accountId "get_symbol" (.dict [("symbol", .str symbol)])
    "Symbol lookup failed."

/-- A request to the router. -/
inductive Request where
  | getHealth (accountId : String)
  | connect (alive : Bool) (request : CredentialCreateRequest)
  | disconnect (accountId : String)
  | placeMarketOrder (request : MarketOrderRequest)
  | getAccount (accountId : String)
  | getPositions (accountId : String)
  | getPendingOrders (accountId : String)
  | placePendingOrder (request : PendingOrderRequest)
  | modifyPosition (request : ModifyPositionRequest)
  | closePosition (request : ClosePositionRequest)
  | cancelOrder (accountId : String) (ticket : ℤ)
  | getSymbol (accountId symbol : String)

def Request.handle (now : ℤ) (link : Link) (auth : AuthContext) : Request → Prog Failure Desk Json
  | getHealth accountId => Trading.getHealth link auth accountId
  | connect alive request => Trading.connect alive auth request
  | disconnect accountId => Trading.disconnect link auth accountId
  | placeMarketOrder request => Trading.placeMarketOrder now link auth request
  | getAccount accountId => Trading.getAccount link auth accountId
  | getPositions accountId => Trading.getPositions link auth accountId
  | getPendingOrders accountId => Trading.getPendingOrders link auth accountId
  | placePendingOrder request => Trading.placePendingOrder link auth request
  | modifyPosition request => Trading.modifyPosition link auth request
  | closePosition request => Trading.closePosition link auth request
  | cancelOrder accountId ticket => Trading.cancelOrder link auth accountId ticket
  | getSymbol accountId symbol => Trading.getSymbol link auth accountId symbol

/-- A request with its `X-API-Key` header. -/
def serve (env : Env) (now : ℤ) (link : Link) (xApiKey : Option String) (request : Request) :
    Prog Failure Desk Json := do
  let auth ← Desk.onWorld (authenticate env now xApiKey)
  request.handle now link auth

end Aegis.Trading
