import Aegis.Payments.Webhook

/-!
# Requests without a signature

A request without the provider's signature header is compared as if the header were
empty.  An HMAC is never empty, but Flutterwave's hash is whatever is configured, and
by default nothing: then a request without a signature is accepted.
`receiveWebhook_unsigned_iff` says exactly when it is refused.
-/

namespace Aegis.Payments

open Aegis.Lib Aegis.Subscriptions

/-! ## Headers and digests -/

theorem header_eq_empty {headers : List (String × String)} {name : String}
    (unsigned : ∀ field ∈ headers, field.1.toLower ≠ name) : header headers name = "" := by
  have missing : (headers.reverse.map fun field => (field.1.toLower, field.2)).lookup name =
      none := by
    refine List.lookup_eq_none_iff.mpr fun field member => ?_
    obtain ⟨original, found, rfl⟩ := List.mem_map.mp member
    simpa using (unsigned original (List.mem_reverse.mp found)).symm
  rw [header, missing]
  rfl

theorem compareDigest_empty (expected : String) :
    compareDigest "" expected =
      if isAscii expected then .ok (decide ("" = expected)) else .error .typeError := by
  have empty : isAscii "" = true := rfl
  rw [compareDigest, empty, Bool.true_and]

theorem hexDigit_ascii : ∀ n < 16, (hexDigit n).val < 128 := by decide

theorem isAscii_hexdigest (digest : Fin 64 → UInt8) : isAscii (hexdigest digest) = true := by
  rw [isAscii, hexdigest, String.toList_ofList, List.all_eq_true]
  intro c member
  obtain ⟨byte, _, digits⟩ := List.mem_flatMap.mp member
  have bound : byte.toNat < 256 := byte.toNat_lt
  rw [decide_eq_true_eq]
  rcases List.mem_pair.mp digits with rfl | rfl
  · exact hexDigit_ascii _ (by omega)
  · exact hexDigit_ascii _ (by omega)

theorem hexdigest_ne_empty (digest : Fin 64 → UInt8) : "" ≠ hexdigest digest := by
  intro empty
  have length := congrArg (fun text => text.toList.length) empty
  simp [hexdigest, List.ofFn_succ] at length

/-! ## After the signature -/

theorem textColumn_error {value : Json} {e : Failure} (refused : textColumn value = .error e) :
    e = .dataError := by
  cases value with
  | none => cases refused
  | str text => cases refused
  | bool _ | int _ | float _ | list _ | dict _ =>
      cases refused
      rfl

theorem bindArguments_error {library : Library} {event : ParsedEvent} {e : Failure}
    (refused : event.bindArguments library = .error e) : e = .dataError := by
  unfold ParsedEvent.bindArguments at refused
  dsimp only at refused
  split at refused
  · cases refused
  · split at refused
    · cases refused
    · rcases bind_eq_error.mp refused with account | ⟨accountId, _, returned⟩
      · exact textColumn_error account
      · cases returned
    · rcases bind_eq_error.mp refused with account | ⟨accountId, _, returned⟩
      · exact textColumn_error account
      · cases returned
    · rcases bind_eq_error.mp refused with account | ⟨accountId, _, refused⟩
      · exact textColumn_error account
      · rcases bind_eq_error.mp refused with customer | ⟨customerId, _, refused⟩
        · exact textColumn_error customer
        · rcases bind_eq_error.mp refused with subscription | ⟨subscriptionId, _, returned⟩
          · exact textColumn_error subscription
          · cases returned

theorem raises_handleParsed (env : Env) (library : Library) (now : ℤ) (draws : Draws)
    (event : ParsedEvent) : (handleParsed env library now draws event).Raises Crash := by
  unfold handleParsed
  split
  · exact raises_handleEvent env _
  next e refused =>
    refine Prog.Raises.bind (fun _ => trivial) fun seen => ?_
    split
    · trivial
    · obtain rfl := bindArguments_error refused
      exact nofun

theorem run_parsed_ne {env : Env} {library : Library} {now : ℤ} {draws : Draws}
    {event : ParsedEvent} {world after : World} {statusCode : ℕ} {detail : String} :
    (handleParsed env library now draws event).run world ≠
      (.error (.httpException statusCode detail), after) := fun ended =>
  (raises_handleParsed env library now draws event).run ended statusCode detail rfl

/-! ## Unsigned requests -/

section Unsigned

variable {env : Env} {providers : Providers} {now : ℤ} {draws : Draws} {uuid : String}
  {request : WebhookRequest} {world : World}

theorem paystack_unsigned (unsigned : ∀ field ∈ request.headers,
    field.1.toLower ≠ "x-paystack-signature") :
    PaystackAdapter.verifyWebhookSignature providers.library providers.settings request.rawBody
      request.headers = .ok false := by
  rw [PaystackAdapter.verifyWebhookSignature, header_eq_empty unsigned, compareDigest_empty,
    isAscii_hexdigest, if_pos rfl, decide_eq_false (hexdigest_ne_empty _)]

theorem flutterwave_unsigned (unsigned : ∀ field ∈ request.headers,
    field.1.toLower ≠ "verif-hash") :
    FlutterwaveAdapter.verifyWebhookSignature providers.settings request.headers =
      if isAscii providers.settings.flutterwaveWebhookHash then
        .ok (decide ("" = providers.settings.flutterwaveWebhookHash))
      else .error .typeError := by
  rw [FlutterwaveAdapter.verifyWebhookSignature, header_eq_empty unsigned, compareDigest_empty]

/-- The header a provider signs its requests with. -/
def signatureHeader (provider : String) : String :=
  if provider = "paystack" then "x-paystack-signature" else "verif-hash"

/-- **Unsigned requests** to Paystack's and Flutterwave's webhooks are refused with 401
and change nothing exactly when they are Paystack's or the configured hash is not empty
and plain ASCII. -/
theorem receiveWebhook_unsigned_iff
    (known : request.provider = "paystack" ∨ request.provider = "flutterwave")
    (unsigned : ∀ field ∈ request.headers,
      field.1.toLower ≠ signatureHeader request.provider) :
    (receiveWebhook env providers now draws uuid request).run world =
        (.error (.httpException 401 "Invalid webhook signature."), world) ↔
      request.provider = "paystack" ∨
        providers.settings.flutterwaveWebhookHash ≠ "" ∧
          isAscii providers.settings.flutterwaveWebhookHash = true := by
  rcases known with paystack | flutterwave
  · rw [paystack] at unsigned
    have refused : PaystackAdapter.verifyWebhookSignature providers.library providers.settings
        request.rawBody request.headers = .ok false := paystack_unsigned unsigned
    simp only [receiveWebhook, paystack, Providers.adapter, paystackAdapter, refused]
    exact ⟨fun _ => Or.inl trivial, fun _ => rfl⟩
  · rw [flutterwave] at unsigned
    have verified : FlutterwaveAdapter.verifyWebhookSignature providers.settings request.headers =
        _ := flutterwave_unsigned unsigned
    have other : ¬ "flutterwave" = "paystack" := by decide
    simp only [receiveWebhook, flutterwave, Providers.adapter, flutterwaveAdapter, verified, other,
      false_or]
    by_cases ascii : isAscii providers.settings.flutterwaveWebhookHash = true
    · by_cases empty : "" = providers.settings.flutterwaveWebhookHash
      · -- the empty hash: the request is handled like a signed one
        simp only [ascii, if_true, empty, decide_true]
        refine ⟨fun answered => ?_, fun ⟨configured, _⟩ => (configured rfl).elim⟩
        split at answered
        · cases answered
        · exact (run_parsed_ne answered).elim
      · simp only [ascii, if_true, empty, decide_false]
        exact ⟨fun _ => ⟨Ne.symm empty, trivial⟩, fun _ => rfl⟩
    · simp only [ascii, Bool.false_eq_true, if_false]
      exact ⟨fun answered => (nomatch answered), fun ⟨_, configured⟩ => configured.elim⟩

end Unsigned

/-! ## A forged payment -/

/-- A charge of the account `acc`. -/
def chargeBody : Bytes :=
  ("\x7b\"event\": \"charge.completed\", \"data\": \x7b\"id\": 99, " ++
    "\"status\": \"successful\", \"meta\": \x7b\"account_id\": \"acc\"\x7d\x7d\x7d").toUTF8.toList

def chargePayload : Json :=
  .dict [("event", .str "charge.completed"),
    ("data", .dict [("id", .int 99), ("status", .str "successful"),
      ("meta", .dict [("account_id", .str "acc")])])]

/-- The default settings, and a library that reads one body. -/
def sampleProviders (settings : ProviderSettings) (reads : Bytes → Option Json) : Providers where
  library := ⟨reads, fun _ _ _ => 0, fun _ => none, fun _ => ""⟩
  settings := settings
  stripeAdapter := ⟨fun _ _ => .ok false, fun _ _ => .error .valueError⟩

def readsCharge (rawBody : Bytes) : Option Json :=
  if rawBody = chargeBody then some chargePayload else none

/-- With the default settings a request without any header activates an account. -/
theorem receiveWebhook_forged :
    ((receiveWebhook sampleEnv (sampleProviders {} readsCharge) 10 (sampleDraws 1) "uuid"
      ⟨"flutterwave", chargeBody, []⟩).run .empty).1 = .ok .processed ∧
    ((receiveWebhook sampleEnv (sampleProviders {} readsCharge) 10 (sampleDraws 1) "uuid"
      ⟨"flutterwave", chargeBody, []⟩).run .empty).2.isActive 10 "acc" = true := by
  constructor
  · decide +kernel
  · decide +kernel

/-- With a configured hash it is refused. -/
theorem receiveWebhook_unsigned_iff_configured :
    (receiveWebhook sampleEnv (sampleProviders ⟨"", "hash"⟩ readsCharge) 10 (sampleDraws 1)
        "uuid" ⟨"flutterwave", chargeBody, []⟩).run .empty =
        (.error (.httpException 401 "Invalid webhook signature."), .empty) ↔
      "flutterwave" = "paystack" ∨ "hash" ≠ "" ∧ isAscii "hash" = true :=
  receiveWebhook_unsigned_iff (Or.inr rfl) nofun

end Aegis.Payments
