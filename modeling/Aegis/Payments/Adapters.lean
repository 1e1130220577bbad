import Aegis.Payments.Json
import Aegis.Subscriptions.State

/-!
# Payment adapters

`PaystackAdapter` and `FlutterwaveAdapter`: how they check the signature of a webhook
and turn its body into a `PaymentEvent`.  What they take from the standard library
(`json.loads`, HMAC-SHA512, `datetime.fromisoformat`) is a parameter, and so is the
`uuid4` an event without an id of its own is given.
-/

namespace Aegis.Payments

open Aegis.Lib Aegis.Subscriptions

abbrev Bytes := List UInt8

/-- What the adapters use of the standard library. -/
structure Library where
  /-- `json.loads`; `none` is a `ValueError` -/
  loads : Bytes → Option Json
  /-- `hmac.new(key, message, hashlib.sha512).digest()` -/
  hmacSha512 : Bytes → Bytes → Fin 64 → UInt8
  /-- `datetime.fromisoformat`; `none` is a `ValueError` -/
  fromIsoFormat : String → Option ℤ
  /-- `str` of a list or a dict -/
  containerText : Json → String

/-- The secrets of the payment providers in `Settings`, with their defaults. -/
structure ProviderSettings where
  paystackSecretKey : String := ""
  flutterwaveWebhookHash : String := ""

/-! ## Signatures -/

/-- `headers.get(name, "")` in `{k.lower(): v for k, v in request.headers.items()}`. -/
def header (headers : List (String × String)) (name : String) : String :=
  ((headers.reverse.map fun field => (field.1.toLower, field.2)).lookup name).getD ""

def isAscii (text : String) : Bool := text.toList.all (·.val < 128)

/-- `hmac.compare_digest` of two strings. -/
def compareDigest (a b : String) : Except PyError Bool :=
  if isAscii a && isAscii b then .ok (a = b) else .error .typeError

def hexDigit (n : ℕ) : Char :=
  if n < 10 then Char.ofNat (48 + n) else Char.ofNat (87 + n)

/-- `hexdigest()`. -/
def hexdigest (digest : Fin 64 → UInt8) : String :=
  String.ofList ((List.ofFn digest).flatMap fun byte =>
    [hexDigit (byte.toNat / 16), hexDigit (byte.toNat % 16)])

/-! ## Events -/

/-- `PaymentEvent` as the adapters build it.  The fields that come from the payload hold
whatever is there. -/
structure ParsedEvent where
  provider : String
  providerEventId : String
  eventType : PaymentEventType
  accountId : Json
  providerCustomerId : Json
  providerSubscriptionId : Json
  currentPeriodEnd : Option ℤ
  rawPayload : Json

structure Adapter where
  verifyWebhookSignature : Bytes → List (String × String) → Except PyError Bool
  /-- the first argument is the text of the `uuid4` drawn for the event -/
  parseWebhookEvent : String → Bytes → Except PyError ParsedEvent

section Adapters

variable (library : Library) (settings : ProviderSettings)

def Library.json (rawBody : Bytes) : Except PyError Json :=
  match library.loads rawBody with
  | some payload => .ok payload
  | none => .error .valueError

/-- `str(data.get("id") or data.get(reference) or uuid.uuid4())`. -/
def Library.eventId (uuid : String) (id reference : Json) : String :=
  (id.or (reference.or (.str uuid))).toText library.containerText

namespace PaystackAdapter

def verifyWebhookSignature (rawBody : Bytes) (headers : List (String × String)) :
    Except PyError Bool :=
  let received := header headers "x-paystack-signature"
  let expected := hexdigest (library.hmacSha512 settings.paystackSecretKey.toUTF8.toList rawBody)
  compareDigest received expected

/-- `EVENT_MAP.get(event, UNKNOWN)`; lists and dicts cannot be looked up. -/
def eventMap : Json → Except PyError PaymentEventType
  | .str "charge.success" => .ok .paymentSucceeded
  | .str "subscription.create" => .ok .paymentSucceeded
  | .str "invoice.payment_failed" => .ok .paymentFailed
  | .str "subscription.disable" => .ok .subscriptionCanceled
  | .list _ | .dict _ => .error .typeError
  | .none | .bool _ | .int _ | .float _ | .str _ => .ok .unknown

/-- The end of the period, when the payload carries one that can be read. -/
def currentPeriodEnd (nextPaymentDate : Json) : Except PyError (Option ℤ) :=
  if nextPaymentDate.truthy then do
    let text ← nextPaymentDate.text
    return library.fromIsoFormat (text.replace "Z" "+00:00")
  else .ok none

def parseWebhookEvent (uuid : String) (rawBody : Bytes) : Except PyError ParsedEvent := do
  let payload ← library.json rawBody
  let event ← payload.get "event" (.str "")
  let data ← payload.get "data" (.dict [])
  let metadata := (← data.get "metadata" (.dict [])).or (.dict [])
  let currentPeriodEnd ← currentPeriodEnd library (← data.get "next_payment_date" .none)
  let id ← data.get "id" .none
  let reference ← data.get "reference" .none
  let eventType ← eventMap event
  let accountId ← metadata.get "account_id" (.str "")
  let customer := (← data.get "customer" .none).or (.dict [])
  return {
    provider := "paystack"
    providerEventId := library.eventId uuid id reference
    eventType := eventType
    accountId := accountId
    providerCustomerId := ← customer.get "customer_code" .none
    providerSubscriptionId := ← data.get "subscription_code" .none
    currentPeriodEnd := currentPeriodEnd
    rawPayload := payload }

end PaystackAdapter

def paystackAdapter : Adapter :=
  ⟨PaystackAdapter.verifyWebhookSignature library settings,
    PaystackAdapter.parseWebhookEvent library⟩

namespace FlutterwaveAdapter

def verifyWebhookSignature (headers : List (String × String)) : Except PyError Bool :=
  let received := header headers "verif-hash"
  compareDigest received settings.flutterwaveWebhookHash

/-- The type of an event by its name and the lower-cased status. -/
def eventType (event status : String) : PaymentEventType :=
  if "charge.".toList <+: event.toList ∧ status = "successful" then .paymentSucceeded
  else if "charge.".toList <+: event.toList ∧ (status = "failed" ∨ status = "cancelled") then
    .paymentFailed
  else if "subscription".toList <:+: event.toList ∧ "cancel".toList <:+: event.toList then
    .subscriptionCanceled
  else .unknown

def parseWebhookEvent (uuid : String) (rawBody : Bytes) : Except PyError ParsedEvent := do
  let payload ← library.json rawBody
  let event ← payload.get "event" (.str "")
  let data ← payload.get "data" (.dict [])
  let metadata := (← data.get "meta" (.dict [])).or (.dict [])
  let status ← ((← data.get "status" .none).or (.str "")).text
  let event ← event.text
  let id ← data.get "id" .none
  let txRef ← data.get "tx_ref" .none
  let accountId ← metadata.get "account_id" (.str "")
  let customer := (← data.get "customer" .none).or (.dict [])
  return {
    provider := "flutterwave"
    providerEventId := library.eventId uuid id txRef
    eventType := eventType event status.toLower
    accountId := accountId
    providerCustomerId := ← customer.get "id" .none
    providerSubscriptionId := ← data.get "plan" .none
    currentPeriodEnd := none
    rawPayload := payload }

end FlutterwaveAdapter

def flutterwaveAdapter : Adapter :=
  ⟨fun _ => FlutterwaveAdapter.verifyWebhookSignature settings,
    FlutterwaveAdapter.parseWebhookEvent library⟩

end Adapters

end Aegis.Payments
