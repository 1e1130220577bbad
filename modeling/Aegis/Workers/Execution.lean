import Aegis.Workers.Floor

/-!
# The worker and its broker

`run_worker` and `handle_job` of `mt5_worker.py` over `MT5ExecutionService`, with every call that
they make of the broker adapter.

The adapter is a parameter: its answers may depend on all that it has been called with before.
So are the schemas of the requests and the texts of the exceptions that Python raises by itself.
-/

namespace Aegis.Workers

open Aegis.Lib Aegis.Payments Aegis.Subscriptions

/-! ## The adapter -/

/-- An `Exception`, by its text, or one that `except Exception` does not catch. -/
inductive Raised where
  | exception (text : String)
  | baseException

/-- A call of a method of `BrokerAdapter` on orders, positions or data.  A request is given by
the payload that it is built from. -/
inductive BrokerCall where
  | placeMarketOrder (request : Json)
  | placePendingOrder (request : Json)
  | modifyPosition (request : Json)
  | closePosition (request : Json)
  | cancelPendingOrder (ticket : Json)
  | getPositions
  | getOrders
  | getAccountInfo
  | getSymbolInfo (symbol : Json)
  | healthCheck

/-- A call of the adapter, with how it ended. -/
inductive BrokerEvent where
  | connect (credentials : Json) (answer : Except Raised Bool)
  | disconnect (answer : Except Raised Bool)
  | call (call : BrokerCall) (answer : Except Raised Value)

/-- A `BrokerAdapter`, by how it answers after what has happened. -/
structure BrokerAdapter where
  /-- the constructor -/
  create : Except Raised Unit
  connect : List BrokerEvent → Json → Except Raised Bool
  disconnect : List BrokerEvent → Except Raised Bool
  call : List BrokerEvent → BrokerCall → Except Raised Value

/-- What the worker finds fixed. -/
structure Surroundings where
  adapter : BrokerAdapter
  /-- the text of what `schema_cls(**payload)` raises, if it does -/
  schema : Schema → Json → Option String
  /-- `str` of a list or a dict -/
  containerText : Json → String
  /-- the text of what Python raises over a value -/
  errorText : PyError → Json → String

/-- What the worker has done: the calls of the adapter, and the results that have reached
Redis. -/
structure Session where
  trace : List BrokerEvent
  results : List (Json × JobResult)

/-! ## `MT5ExecutionService` -/

/-- The methods of the service. -/
inductive ServiceMethod where
  | connect
  | disconnect
  | healthCheck
  | executeMarketOrder
  | executePendingOrder
  | modifyTrade
  | closeTrade
  | cancelOrder
  | getAccount
  | getPositions
  | getPendingOrders
  | getSymbol
  deriving DecidableEq

/-- `getattr(execution_service, method_name)`. -/
def ServiceMethod.ofName : String → Option ServiceMethod
  | "connect" => some connect
  | "disconnect" => some disconnect
  | "health_check" => some healthCheck
  | "execute_market_order" => some executeMarketOrder
  | "execute_pending_order" => some executePendingOrder
  | "modify_trade" => some modifyTrade
  | "close_trade" => some closeTrade
  | "cancel_order" => some cancelOrder
  | "get_account" => some getAccount
  | "get_positions" => some getPositions
  | "get_pending_orders" => some getPendingOrders
  | "get_symbol" => some getSymbol
  | _ => none

/-- Its parameters, less `self`. -/
def ServiceMethod.parameters : ServiceMethod → List String
  | connect => ["credentials"]
  | executeMarketOrder | executePendingOrder | modifyTrade | closeTrade => ["request"]
  | cancelOrder => ["ticket"]
  | getSymbol => ["symbol"]
  | disconnect | healthCheck | getAccount | getPositions | getPendingOrders => []

/-- `self.DEMO_ONLY`. -/
def demoOnly : Bool := true

/-- `word in text`. -/
def occursIn (word text : String) : Bool := decide (word.toList <:+: text.toList)

section Service

variable (env : Surroundings)

def pyRaise {α : Type} (error : PyError) (value : Json) : Except Raised α :=
  .error (.exception (env.errorText error value))

/-- `value.get(key, default)`. -/
def getItem (value : Json) (key : String) (default : Json) : Except Raised Json :=
  match value.get key default with
  | .ok found => .ok found
  | .error error => pyRaise env error value

/-- `str(credentials.get("server", "")).lower()`. -/
def serverName (credentials : Json) : Except Raised String := do
  let server ← getItem env credentials "server" (.str "")
  return lower (server.toText env.containerText)

def callConnect (credentials : Json) : Prog Raised Session Bool := do
  let answer ← Prog.act fun session =>
    let answer := env.adapter.connect session.trace credentials
    (answer, { session with trace := session.trace ++ [.connect credentials answer] })
  Prog.ofExcept answer

def callDisconnect : Prog Raised Session Bool := do
  let answer ← Prog.act fun session =>
    let answer := env.adapter.disconnect session.trace
    (answer, { session with trace := session.trace ++ [.disconnect answer] })
  Prog.ofExcept answer

def callBroker (call : BrokerCall) : Prog Raised Session Value := do
  let answer ← Prog.act fun session =>
    let answer := env.adapter.call session.trace call
    (answer, { session with trace := session.trace ++ [.call call answer] })
  Prog.ofExcept answer

/-- `connect`. -/
def connectService (credentials : Json) : Prog Raised Session Bool := do
  let server ← Prog.ofExcept (serverName env credentials)
  if demoOnly && !occursIn "demo" server && !occursIn "practice" server then
    return false
  else
    callConnect env credentials

/-- `True` or `False`, as a value that a method returns. -/
def boolValue (answer : Bool) : Value := .one (.plain (.ok (.bool answer)))

/-- The method on arguments that fit its parameters. -/
def ServiceMethod.apply : ServiceMethod → List Json → Prog Raised Session Value
  | connect, [credentials] => boolValue <$> connectService env credentials
  | disconnect, [] => boolValue <$> callDisconnect env
  | healthCheck, [] => callBroker env .healthCheck
  | executeMarketOrder, [request] => callBroker env (.placeMarketOrder request)
  | executePendingOrder, [request] => callBroker env (.placePendingOrder request)
  | modifyTrade, [request] => callBroker env (.modifyPosition request)
  | closeTrade, [request] => callBroker env (.closePosition request)
  | cancelOrder, [ticket] => callBroker env (.cancelPendingOrder ticket)
  | getAccount, [] => callBroker env .getAccountInfo
  | getPositions, [] => callBroker env .getPositions
  | getPendingOrders, [] => callBroker env .getOrders
  | getSymbol, [symbol] => callBroker env (.getSymbolInfo symbol)
  | _, arguments => Prog.ofExcept (pyRaise env .typeError (.list arguments))

/-- The arguments of a call, matched with the parameters. -/
def bindArguments (parameters : List String) : Arguments → Except Raised (List Json)
  | .request schema payload =>
      match env.schema schema payload with
      | some text => .error (.exception text)
      | none =>
          if parameters.length = 1 then .ok [payload] else pyRaise env .typeError payload
  | .keywords (.dict items) =>
      if parameters ⊆ items.map Prod.fst ∧ items.map Prod.fst ⊆ parameters then
        .ok (parameters.map (Json.dict items).item)
      else pyRaise env .typeError (.dict items)
  | .keywords payload => pyRaise env .typeError payload
  | .bare => if parameters = [] then .ok [] else pyRaise env .typeError .none

/-- The call in the `try` block of `handle_job`. -/
def callMethod (method : ServiceMethod) (arguments : Arguments) : Prog Raised Session Value := do
  let bound ← Prog.ofExcept (bindArguments env method.parameters arguments)
  method.apply env bound

end Service

/-! ## The worker -/

/-- What a `push_result` meets: whether the `LPUSH` gets through, and what the call raises. -/
structure Push where
  delivered : Bool
  outcome : Except Raised Unit

def pushResult (push : Push) (jobId : Json) (result : JobResult) : Prog Raised Session Unit := do
  Prog.modify fun session =>
    if push.delivered then { session with results := session.results ++ [(jobId, result)] }
    else session
  Prog.ofExcept push.outcome

/-- `job[key]`. -/
def jobItem (env : Surroundings) (job : Json) (key : String) : Except Raised Json :=
  match job with
  | .dict items =>
      match items.lookup key with
      | some value => .ok value
      | none => .error (.exception (pyRepr (some key)))
  | .none | .bool _ | .int _ | .float _ | .str _ | .list _ => pyRaise env .typeError job

/-- `JOB_DISPATCH.get(job_type)`; lists and dicts are not hashable. -/
def dispatch (env : Surroundings) : Json → Except Raised (Option (Option Schema × String))
  | .str jobType => .ok (jobDispatch.lookup jobType)
  | .list items => pyRaise env .typeError (.list items)
  | .dict items => pyRaise env .typeError (.dict items)
  | .none | .bool _ | .int _ | .float _ => .ok none

/-- How the `try` block calls the method. -/
def argumentsFor (schema : Option Schema) (payload : Json) : Arguments :=
  match schema with
  | some schema => .request schema payload
  | none => if payload.truthy then .keywords payload else .bare

/-- The `try` statement of `handle_job`; `first` is the push of the result, and `second` that
of the text of an exception. -/
def tryMethod (env : Surroundings) (first second : Push) (jobId : Json) (method : ServiceMethod)
    (arguments : Arguments) : Prog Raised Session Unit :=
  (do
    let value ← callMethod env method arguments
    let result ← Prog.ofExcept ((attempt (.ok value)).mapError .exception)
    pushResult first jobId (.success result) : Prog Raised Session Unit).catchWith fun raised =>
      match raised with
      | .exception text => pushResult second jobId (.failure text)
      | .baseException => Prog.raise .baseException

/-- `handle_job`. -/
def handleQueued (env : Surroundings) (first second : Push) (job : Json) :
    Prog Raised Session Unit := do
  let jobId ← Prog.ofExcept (jobItem env job "job_id")
  let jobType ← Prog.ofExcept (jobItem env job "job_type")
  let payload ← Prog.ofExcept (getItem env job "payload" (.dict []))
  match ← Prog.ofExcept (dispatch env jobType) with
  | none =>
      pushResult first jobId
        (.failure s!"Unknown job_type: {jobType.toText env.containerText}")
  | some (schema, methodName) =>
      match ServiceMethod.ofName methodName with
      | none => Prog.ofExcept (pyRaise env .attributeError (.str methodName))
      | some method => tryMethod env first second jobId method (argumentsFor schema payload)

/-- What `pop_job` comes to. -/
inductive Pop where
  /-- the `BRPOP` has run out -/
  | nothing
  | job (job : Json) (first second : Push)
  | raises (raised : Raised)

/-- The loop of `run_worker`: whether it has ended, after these pops. -/
def jobLoop (env : Surroundings) : List Pop → Prog Raised Session Bool
  | [] => return false
  | .nothing :: _ => return true
  | .raises raised :: _ => Prog.raise raised
  | .job job first second :: rest => do
      match ← Prog.ofExcept (jobItem env job "job_type") with
      | .str "STOP" => return true
      | _ =>
          handleQueued env first second job
          jobLoop env rest

/-- What a run of the worker meets in Redis. -/
structure Meets where
  queueConnect : Except Raised Unit
  /-- the value of the credential key, if there is one, and its content if it is JSON -/
  workerCreds : Option (Option Json)
  pops : List Pop
  queueDisconnect : Except Raised Unit

/-- The `finally` block. -/
def shutDown (env : Surroundings) (meets : Meets) : Prog Raised Session Unit := do
  let _ ← callDisconnect env
  Prog.ofExcept meets.queueDisconnect

/-- The `try` statement around the loop. -/
def workJobs (env : Surroundings) (meets : Meets) : Prog Raised Session Unit := do
  let ended ← (jobLoop env meets.pops).catchWith fun raised => do
    shutDown env meets
    Prog.raise raised
  if ended then shutDown env meets else return ()

/-- `run_worker` once it has the credentials. -/
def connectAndWork (env : Surroundings) (meets : Meets) (credentials : Json) :
    Prog Raised Session Unit := do
  Prog.ofExcept env.adapter.create
  if !(← connectService env credentials) then return ()
  else workJobs env meets

/-- `run_worker`. -/
def runWorker (env : Surroundings) (meets : Meets) : Prog Raised Session Unit := do
  Prog.ofExcept meets.queueConnect
  match meets.workerCreds with
  | none | some (some .none) => return ()
  | some none => Prog.ofExcept (pyRaise env .valueError .none)
  | some (some credentials) => connectAndWork env meets credentials

end Aegis.Workers
