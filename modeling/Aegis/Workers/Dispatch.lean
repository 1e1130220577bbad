import Aegis.Subscriptions.State

/-!
# The worker's dispatch

`JOB_DISPATCH` and `handle_job` of `mt5_worker.py`.  The execution methods and the
Pydantic schemas are not modelled: `Outcome` is what a call of them comes to.
-/

namespace Aegis.Workers

open Aegis.Payments Aegis.Subscriptions

/-- The schemas of `trading.py` that `JOB_DISPATCH` names. -/
inductive Schema where
  | marketOrderRequest
  | pendingOrderRequest
  | modifyPositionRequest
  | closePositionRequest
  deriving DecidableEq

/-- The schema class, if any, and the method name of each job type. -/
def jobDispatch : List (String × Option Schema × String) :=
  [("market_order", some .marketOrderRequest, "execute_market_order"),
    ("pending_order", some .pendingOrderRequest, "execute_pending_order"),
    ("modify_position", some .modifyPositionRequest, "modify_trade"),
    ("close_position", some .closePositionRequest, "close_trade"),
    ("cancel_order", none, "cancel_order"),
    ("get_positions", none, "get_positions"),
    ("get_orders", none, "get_pending_orders"),
    ("get_account", none, "get_account"),
    ("get_symbol", none, "get_symbol"),
    ("health", none, "health_check")]

/-- The arguments of an execution method. -/
inductive Arguments where
  /-- `method(schema_cls(**payload))` -/
  | request (schema : Schema) (payload : Json)
  /-- `method(**payload)` -/
  | keywords (payload : Json)
  /-- `method()` -/
  | bare

/-- How `handle_job` calls for a job: nothing for an unknown type. -/
def Job.call (job : Job) : Option (String × Arguments) :=
  match jobDispatch.lookup job.jobType with
  | none => none
  | some (some schema, methodName) => some (methodName, .request schema job.payload)
  | some (none, methodName) =>
      some (methodName, if job.payload.truthy then .keywords job.payload else .bare)

/-- A value that a method returns, or an item of a list that it returns. -/
inductive Item where
  /-- a value with `model_dump`, given by what that returns or raises -/
  | model (dump : Except String Json)
  /-- any other value, given by what `json.dumps` makes of it -/
  | plain (encoded : Except String Json)

inductive Value where
  | one (item : Item)
  | list (items : List Item)

/-- The item in the result payload: `model_dump` raises at once, `json.dumps` when the
result is pushed. -/
def Item.payload : Item → Except String (Except String Json)
  | model (.ok dump) => .ok (.ok dump)
  | model (.error message) => .error message
  | plain encoded => .ok encoded

def Value.payload : Value → Except String (Except String Json)
  | one item => item.payload
  | list items => do
      let payloads ← items.mapM Item.payload
      return (payloads.mapM id).map .list

/-- What building the arguments and calling the method comes to: a value, or the text of
an exception. -/
abbrev Outcome := Except String Value

/-- The dict that `push_result` publishes. -/
inductive JobResult where
  | success (result : Json)
  | failure (message : String)

def JobResult.isSuccess : JobResult → Bool
  | success _ => true
  | failure _ => false

/-- The JSON of the dict. -/
def JobResult.toJson : JobResult → Json
  | success result => .dict [("success", .bool true), ("result", result)]
  | failure message => .dict [("success", .bool false), ("message", .str message)]

/-- The body of the `try` block up to the push. -/
def attempt (outcome : Outcome) : Except String Json := do
  let value ← outcome
  let payload ← value.payload
  payload

/-- The result that `handle_job` pushes.  When `json.dumps` raises inside `push_result`
nothing has been pushed yet, and the handler of the exception pushes its text. -/
def handleJob (job : Job) (outcome : Outcome) : JobResult :=
  match Job.call job with
  | none => .failure s!"Unknown job_type: {job.jobType}"
  | some _ =>
      match attempt outcome with
      | .ok result => .success result
      | .error message => .failure message

/-- The value can be published. -/
def Value.Serialisable (value : Value) : Prop := ∃ json, value.payload = .ok (.ok json)

/-- The method was called and returned. -/
def Returned (job : Job) (outcome : Outcome) : Prop :=
  (Job.call job).isSome ∧ ∃ value, outcome = .ok value

/-- **The success flag** says whether the method returned. -/
theorem isSuccess_handleJob_iff {job : Job} {outcome : Outcome}
    (serialisable : ∀ value, outcome = .ok value → value.Serialisable) :
    (handleJob job outcome).isSuccess = true ↔ Returned job outcome := by
  unfold handleJob Returned
  cases Job.call job with
  | none =>
      constructor
      · nofun
      · exact fun returned => absurd returned.1 (by decide)
  | some call =>
      cases outcome with
      | error message =>
          constructor
          · nofun
          · intro returned
            rcases returned with ⟨_, value, same⟩
            cases same
      | ok value =>
          obtain ⟨json, payload⟩ := serialisable value rfl
          have done : attempt (.ok value) = .ok json := by
            change value.payload >>= id = _
            rw [payload]
            rfl
          rw [done]
          exact ⟨fun _ => ⟨rfl, value, rfl⟩, fun _ => rfl⟩

end Aegis.Workers
