import Aegis.Payments.Adapters

/-!
# Event ids

`provider_event_id` is what deliveries of one event are told by.  Both adapters take the
id of the object the event is about, or its reference, and only when there is neither a
`uuid4`: so a body without both gets a new id each time, and events of different types
about one object share an id.  `identifiesEvents_iff` says that these are the only
ways to go wrong.
-/

namespace Aegis.Payments

open Aegis.Lib Aegis.Subscriptions

/-- The adapters whose event ids are built from the payload. -/
inductive Scheme where
  | paystack
  | flutterwave
  deriving DecidableEq

namespace Scheme

/-- The field of `data` that is tried after `id`. -/
def reference : Scheme → String
  | paystack => "reference"
  | flutterwave => "tx_ref"

def parse (library : Library) : Scheme → String → Bytes → Except PyError ParsedEvent
  | paystack => PaystackAdapter.parseWebhookEvent library
  | flutterwave => FlutterwaveAdapter.parseWebhookEvent library

/-- The text of `data.id`, or else of the reference, if one of them is there. -/
def objectKey (library : Library) (scheme : Scheme) (payload : Json) : Option String :=
  let id := (payload.item "data").item "id"
  let reference := (payload.item "data").item scheme.reference
  if id.truthy then some (id.toText library.containerText)
  else if reference.truthy then some (reference.toText library.containerText)
  else none

end Scheme

/-- The bodies announce events of different types, by the name of the event or by the
type it is given. -/
def ParsedEvent.Differs (first second : ParsedEvent) : Prop :=
  first.rawPayload.item "event" ≠ second.rawPayload.item "event" ∨
    first.eventType ≠ second.eventType

/-- With the ids that `uuid4` drew, the body is always given the same id, and the other
body another one if it announces another type of event. -/
def IdentifiesEvents (library : Library) (scheme : Scheme) (uuid uuid' : String)
    (body other : Bytes) : Prop :=
  (∀ first again, scheme.parse library uuid body = .ok first →
    scheme.parse library uuid' body = .ok again →
      first.providerEventId = again.providerEventId) ∧
  ∀ first second, scheme.parse library uuid body = .ok first →
    scheme.parse library uuid' other = .ok second → first.Differs second →
      first.providerEventId ≠ second.providerEventId

/-! ## What the adapters make of a body -/

section Parse

variable {library : Library} {uuid : String} {body : Bytes} {event : ParsedEvent}

/-- The event id is the key of the object, or else the id that was drawn. -/
theorem eventId_eq (scheme : Scheme) {payload data id reference : Json}
    (hasData : payload.get "data" (.dict []) = .ok data) (hasId : data.get "id" .none = .ok id)
    (hasReference : data.get scheme.reference .none = .ok reference) (uuid : String) :
    library.eventId uuid id reference = (scheme.objectKey library payload).getD uuid := by
  rw [Scheme.objectKey, ← Json.item_get_dict hasData, ← Json.item_get_dict hasData,
    ← Json.get_eq_item hasId, ← Json.get_eq_item hasReference]
  unfold Library.eventId Json.or
  split
  · rfl
  · split <;> rfl

theorem loads_of_json {payload : Json} (loaded : library.json body = .ok payload) :
    library.loads body = some payload := by
  unfold Library.json at loaded
  split at loaded
  next found =>
    cases loaded
    exact found
  · cases loaded

theorem parse_paystack (parsed : PaystackAdapter.parseWebhookEvent library uuid body = .ok event)
    (uuid' : String) :
    library.loads body = some event.rawPayload ∧
      PaystackAdapter.parseWebhookEvent library uuid' body =
        .ok { event with
          providerEventId :=
            (Scheme.paystack.objectKey library event.rawPayload).getD uuid' } := by
  unfold PaystackAdapter.parseWebhookEvent at parsed ⊢
  rcases bind_eq_ok.mp parsed with ⟨payload, loaded, parsed⟩
  rcases bind_eq_ok.mp parsed with ⟨name, hasName, parsed⟩
  rcases bind_eq_ok.mp parsed with ⟨data, hasData, parsed⟩
  rcases bind_eq_ok.mp parsed with ⟨metadata, hasMetadata, parsed⟩
  rcases bind_eq_ok.mp parsed with ⟨date, hasDate, parsed⟩
  rcases bind_eq_ok.mp parsed with ⟨periodEnd, hasEnd, parsed⟩
  rcases bind_eq_ok.mp parsed with ⟨id, hasId, parsed⟩
  rcases bind_eq_ok.mp parsed with ⟨reference, hasReference, parsed⟩
  rcases bind_eq_ok.mp parsed with ⟨eventType, hasType, parsed⟩
  rcases bind_eq_ok.mp parsed with ⟨accountId, hasAccount, parsed⟩
  rcases bind_eq_ok.mp parsed with ⟨customer, hasCustomer, parsed⟩
  rcases bind_eq_ok.mp parsed with ⟨code, hasCode, parsed⟩
  rcases bind_eq_ok.mp parsed with ⟨subscription, hasSubscription, parsed⟩
  cases parsed
  have key : library.eventId uuid' id reference =
      (Scheme.paystack.objectKey library payload).getD uuid' :=
    eventId_eq .paystack hasData hasId hasReference uuid'
  refine ⟨loads_of_json loaded, ?_⟩
  simp only [loaded, hasName, hasData, hasMetadata, hasDate, hasEnd, hasId, hasReference, hasType,
    hasAccount, hasCustomer, hasCode, hasSubscription, ok_bind, key]
  rfl

theorem parse_flutterwave
    (parsed : FlutterwaveAdapter.parseWebhookEvent library uuid body = .ok event)
    (uuid' : String) :
    library.loads body = some event.rawPayload ∧
      FlutterwaveAdapter.parseWebhookEvent library uuid' body =
        .ok { event with
          providerEventId :=
            (Scheme.flutterwave.objectKey library event.rawPayload).getD uuid' } := by
  unfold FlutterwaveAdapter.parseWebhookEvent at parsed ⊢
  rcases bind_eq_ok.mp parsed with ⟨payload, loaded, parsed⟩
  rcases bind_eq_ok.mp parsed with ⟨name, hasName, parsed⟩
  rcases bind_eq_ok.mp parsed with ⟨data, hasData, parsed⟩
  rcases bind_eq_ok.mp parsed with ⟨metadata, hasMetadata, parsed⟩
  rcases bind_eq_ok.mp parsed with ⟨statusItem, hasStatus, parsed⟩
  rcases bind_eq_ok.mp parsed with ⟨status, statusText, parsed⟩
  rcases bind_eq_ok.mp parsed with ⟨event, eventText, parsed⟩
  rcases bind_eq_ok.mp parsed with ⟨id, hasId, parsed⟩
  rcases bind_eq_ok.mp parsed with ⟨txRef, hasReference, parsed⟩
  rcases bind_eq_ok.mp parsed with ⟨accountId, hasAccount, parsed⟩
  rcases bind_eq_ok.mp parsed with ⟨customer, hasCustomer, parsed⟩
  rcases bind_eq_ok.mp parsed with ⟨customerId, hasCustomerId, parsed⟩
  rcases bind_eq_ok.mp parsed with ⟨plan, hasPlan, parsed⟩
  cases parsed
  have key : library.eventId uuid' id txRef =
      (Scheme.flutterwave.objectKey library payload).getD uuid' :=
    eventId_eq .flutterwave hasData hasId hasReference uuid'
  refine ⟨loads_of_json loaded, ?_⟩
  simp only [loaded, hasName, hasData, hasMetadata, hasStatus, statusText, eventText, hasId,
    hasReference, hasAccount, hasCustomer, hasCustomerId, hasPlan, ok_bind, key]
  rfl

/-- **Spec of the adapters.**  Another draw changes the event id only, and that only when
the payload carries no key. -/
theorem parse_redraw {scheme : Scheme} (parsed : scheme.parse library uuid body = .ok event)
    (uuid' : String) :
    library.loads body = some event.rawPayload ∧
      scheme.parse library uuid' body =
        .ok { event with
          providerEventId := (scheme.objectKey library event.rawPayload).getD uuid' } := by
  cases scheme with
  | paystack => exact parse_paystack parsed uuid'
  | flutterwave => exact parse_flutterwave parsed uuid'

theorem providerEventId_eq {scheme : Scheme}
    (parsed : scheme.parse library uuid body = .ok event) :
    event.providerEventId = (scheme.objectKey library event.rawPayload).getD uuid := by
  have again := (parse_redraw parsed uuid).2
  rw [parsed] at again
  exact congrArg ParsedEvent.providerEventId (Except.ok.inj again)

end Parse

/-! ## When an id identifies its event -/

section Identify

variable {library : Library} {scheme : Scheme} {uuid uuid' : String} {body other : Bytes}

/-- The drawn ids are new: they differ, and the body does not carry the second as its key. -/
structure Drawn (library : Library) (scheme : Scheme) (uuid uuid' : String) (body : Bytes) :
    Prop where
  distinct : uuid ≠ uuid'
  unused : ∀ payload, library.loads body = some payload →
    scheme.objectKey library payload ≠ some uuid'

/-- The id of a body is always the same exactly when its payload carries a key. -/
theorem stable_iff (drawn : Drawn library scheme uuid uuid' body) :
    (∀ first again, scheme.parse library uuid body = .ok first →
      scheme.parse library uuid' body = .ok again →
        first.providerEventId = again.providerEventId) ↔
      ∀ first, scheme.parse library uuid body = .ok first →
        scheme.objectKey library first.rawPayload ≠ none := by
  constructor
  · intro stable first parsed unkeyed
    have same := stable first _ parsed (parse_redraw parsed uuid').2
    rw [providerEventId_eq parsed, unkeyed] at same
    exact drawn.distinct same
  · intro keyed first again parsed parsed'
    obtain ⟨key, found⟩ := Option.ne_none_iff_exists'.mp (keyed first parsed)
    have redrawn := (parse_redraw parsed uuid').2
    rw [parsed'] at redrawn
    cases redrawn
    rw [providerEventId_eq parsed, found]
    rfl

/-- A body whose payload carries a key has the id of another body exactly when that
carries the same key. -/
theorem providerEventId_eq_iff (drawn : Drawn library scheme uuid uuid' body)
    {first second : ParsedEvent} (parsed : scheme.parse library uuid body = .ok first)
    (parsed' : scheme.parse library uuid' other = .ok second)
    (keyed : scheme.objectKey library first.rawPayload ≠ none) :
    first.providerEventId = second.providerEventId ↔
      scheme.objectKey library first.rawPayload = scheme.objectKey library second.rawPayload := by
  obtain ⟨key, found⟩ := Option.ne_none_iff_exists'.mp keyed
  rw [providerEventId_eq parsed, providerEventId_eq parsed', found]
  cases other : scheme.objectKey library second.rawPayload with
  | some key' => exact Option.some_inj.symm
  | none =>
      constructor
      · intro same
        -- then the body carries the id that was drawn for the other
        refine (drawn.unused _ (parse_redraw parsed uuid).1 ?_).elim
        rw [found]
        exact congrArg some same
      · intro same
        cases same

/-- **Event ids.**  The id that an adapter gives to a body identifies its event, against
another body, exactly when the payload carries a key and the other payload, if it
announces another type of event, does not carry the same. -/
theorem identifiesEvents_iff (drawn : Drawn library scheme uuid uuid' body) :
    IdentifiesEvents library scheme uuid uuid' body other ↔
      (∀ first, scheme.parse library uuid body = .ok first →
        scheme.objectKey library first.rawPayload ≠ none) ∧
      ∀ first second, scheme.parse library uuid body = .ok first →
        scheme.parse library uuid' other = .ok second → first.Differs second →
          scheme.objectKey library first.rawPayload ≠
            scheme.objectKey library second.rawPayload := by
  rw [IdentifiesEvents, stable_iff drawn]
  refine and_congr_right fun keyed => ?_
  constructor
  · intro apart first second parsed parsed' differs same
    have ids := (providerEventId_eq_iff drawn parsed parsed' (keyed first parsed)).mpr same
    exact apart first second parsed parsed' differs ids
  · intro apart first second parsed parsed' differs same
    have keys := (providerEventId_eq_iff drawn parsed parsed' (keyed first parsed)).mp same
    exact apart first second parsed parsed' differs keys

end Identify

/-! ## One subscription -/

/-- What Paystack announces about a subscription. -/
def subscriptionPayload (event : String) : Json :=
  .dict [("event", .str event),
    ("data", .dict [("id", .int 42), ("subscription_code", .str "SUB_1"),
      ("metadata", .dict [("account_id", .str "acc")])])]

def subscriptionBody (event : String) : Bytes :=
  ("\x7b\"event\": \"" ++ event ++ "\", \"data\": \x7b\"id\": 42, " ++
    "\"subscription_code\": \"SUB_1\", " ++
    "\"metadata\": \x7b\"account_id\": \"acc\"\x7d\x7d\x7d").toUTF8.toList

/-- A library that reads the bodies about the subscription. -/
def subscriptionLibrary : Library where
  loads rawBody :=
    if rawBody = subscriptionBody "subscription.create" then
      some (subscriptionPayload "subscription.create")
    else if rawBody = subscriptionBody "subscription.disable" then
      some (subscriptionPayload "subscription.disable")
    else none
  hmacSha512 _ _ _ := 0
  fromIsoFormat _ := none
  containerText _ := ""

theorem loads_create : subscriptionLibrary.loads (subscriptionBody "subscription.create") =
    some (subscriptionPayload "subscription.create") := if_pos rfl

theorem loads_disable : subscriptionLibrary.loads (subscriptionBody "subscription.disable") =
    some (subscriptionPayload "subscription.disable") := by
  have other : subscriptionBody "subscription.disable" ≠
      subscriptionBody "subscription.create" := by
    decide +kernel
  exact (if_neg other).trans (if_pos rfl)

/-- What the adapter makes of an announcement. -/
def subscriptionEvent (event : String) (eventType : PaymentEventType) : ParsedEvent where
  provider := "paystack"
  providerEventId := "42"
  eventType := eventType
  accountId := .str "acc"
  providerCustomerId := .none
  providerSubscriptionId := .str "SUB_1"
  currentPeriodEnd := none
  rawPayload := subscriptionPayload event

theorem parse_create (uuid : String) :
    Scheme.paystack.parse subscriptionLibrary uuid (subscriptionBody "subscription.create") =
      .ok (subscriptionEvent "subscription.create" .paymentSucceeded) := by
  simp only [Scheme.parse, PaystackAdapter.parseWebhookEvent, Library.json, loads_create, ok_bind]
  rfl

theorem parse_disable (uuid : String) :
    Scheme.paystack.parse subscriptionLibrary uuid (subscriptionBody "subscription.disable") =
      .ok (subscriptionEvent "subscription.disable" .subscriptionCanceled) := by
  simp only [Scheme.parse, PaystackAdapter.parseWebhookEvent, Library.json, loads_disable, ok_bind]
  rfl

/-- The end of a subscription has the id of its beginning. -/
theorem not_identifiesEvents_disable :
    ¬ IdentifiesEvents subscriptionLibrary .paystack "uuid1" "uuid2"
      (subscriptionBody "subscription.create") (subscriptionBody "subscription.disable") := by
  intro identifies
  rcases identifies with ⟨_, apart⟩
  exact apart (subscriptionEvent "subscription.create" .paymentSucceeded)
    (subscriptionEvent "subscription.disable" .subscriptionCanceled) (parse_create _)
    (parse_disable _) (Or.inr nofun) rfl

/-- The beginning of a subscription, delivered again. -/
theorem identifiesEvents_iff_create :
    IdentifiesEvents subscriptionLibrary .paystack "uuid1" "uuid2"
      (subscriptionBody "subscription.create") (subscriptionBody "subscription.create") := by
  have drawn : Drawn subscriptionLibrary .paystack "uuid1" "uuid2"
      (subscriptionBody "subscription.create") := by
    refine ⟨by decide, fun payload loaded => ?_⟩
    rw [loads_create] at loaded
    cases loaded
    decide
  refine (identifiesEvents_iff drawn).mpr ⟨?_, ?_⟩
  · intro first parsed
    rw [parse_create] at parsed
    cases parsed
    exact nofun
  · intro first second parsed again
    rw [parse_create] at parsed again
    cases parsed
    cases again
    exact fun differs => (differs.elim (fun name => name rfl) fun type => type rfl).elim

end Aegis.Payments
