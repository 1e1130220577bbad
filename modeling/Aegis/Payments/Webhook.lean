import Aegis.Payments.Adapters
import Aegis.Subscriptions.Webhook

/-!
# From the request to the event

`receive_webhook` as a whole: the choice of the adapter, the signature, the body, and then
the handler of the event.  The adapter of Stripe rests on the `stripe` package and is a
parameter.
-/

namespace Aegis.Payments

open Aegis.Lib Aegis.Subscriptions

/-- What `ADAPTERS` is made from. -/
structure Providers where
  library : Library
  settings : ProviderSettings
  stripeAdapter : Adapter

/-- `ADAPTERS.get(provider)`. -/
def Providers.adapter (providers : Providers) : String → Option Adapter
  | "paystack" => some (paystackAdapter providers.library providers.settings)
  | "flutterwave" => some (flutterwaveAdapter providers.library providers.settings)
  | "stripe" => some providers.stripeAdapter
  | _ => none

structure WebhookRequest where
  provider : String
  rawBody : Bytes
  headers : List (String × String)

/-- A value as an argument for a `String` column. -/
def textColumn : Json → Except Failure (Option String)
  | .none => .ok none
  | .str text => .ok (some text)
  | .bool _ | .int _ | .float _ | .list _ | .dict _ => .error .dataError

/-- The event as `apply_event` passes it on to the database.  An account id that is falsy
is no account id; of an event that is not acted on it is never passed on, and neither are
the provider's ids of an event that is not a payment. -/
def ParsedEvent.bindArguments (library : Library) (event : ParsedEvent) :
    Except Failure PaymentEvent :=
  let bound (accountId : String) (customer subscription : Option String) : PaymentEvent :=
    ⟨event.provider, event.providerEventId, event.eventType, accountId, customer, subscription,
      event.currentPeriodEnd⟩
  if !event.accountId.truthy then .ok (bound "" none none)
  else
    match event.eventType with
    | .unknown => .ok (bound (event.accountId.toText library.containerText) none none)
    | .paymentFailed | .subscriptionCanceled => do
        let accountId ← textColumn event.accountId
        return bound (accountId.getD "") none none
    | .paymentSucceeded => do
        let accountId ← textColumn event.accountId
        let customer ← textColumn event.providerCustomerId
        let subscription ← textColumn event.providerSubscriptionId
        return bound (accountId.getD "") customer subscription

/-- The handler of an event that is not refused by the database. -/
def handleParsed (env : Env) (library : Library) (now : ℤ) (draws : Draws)
    (event : ParsedEvent) : Prog Failure World Response :=
  match event.bindArguments library with
  | .ok bound => handleEvent env ⟨bound, now, draws⟩
  | .error e => do
      if ← alreadyProcessed event.provider event.providerEventId then
        return .alreadyProcessed
      Prog.raise e

/-- `receive_webhook`. -/
def receiveWebhook (env : Env) (providers : Providers) (now : ℤ) (draws : Draws)
    (uuid : String) (request : WebhookRequest) : Prog Failure World Response :=
  let provider := request.provider
  match providers.adapter provider with
  | none => Prog.raise (.httpException 404 s!"Unknown provider: {provider}")
  | some adapter =>
      match adapter.verifyWebhookSignature request.rawBody request.headers with
      | .error e => Prog.raise (.python e)
      | .ok false => Prog.raise (.httpException 401 "Invalid webhook signature.")
      | .ok true =>
          match adapter.parseWebhookEvent uuid request.rawBody with
          | .error e => Prog.raise (.python e)
          | .ok event => handleParsed env providers.library now draws event

end Aegis.Payments
