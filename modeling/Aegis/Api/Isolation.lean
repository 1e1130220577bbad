import Aegis.Api.Router
import Aegis.Lib.Run

/-!
# Accounts are isolated

A request writes records of the account that it names and of no other, whoever sends it
(`guarantees_handle`), and a key without admin rights gets a 403 for an account that is not
its own before anything is read (`run_handle_foreign`).  Hence no sequence of requests with keys
of one account changes a record of another one.

The proof goes part by part: `SameDesk`, `SameStores` and their like say that one part of
the state has the same records for an account, and `SameFor` is their conjunction.
-/

namespace Aegis.Api

open Aegis.Lib Aegis.History Aegis.Payments Aegis.Rulebook Aegis.Subscriptions Aegis.Trading
  Aegis.Vision Aegis.Workers

/-! ## The trading router -/

/-- The account's part of the tables and keys of `World` is left alone. -/
structure SameWorld (accountId : String) (before after : World) : Prop where
  subscription : after.subscription accountId = before.subscription accountId := by rfl
  pending : after.pendingCredentials accountId = before.pendingCredentials accountId := by rfl
  registered : accountId ∈ after.workerRegistry ↔ accountId ∈ before.workerRegistry := by rfl
  worker : accountId ∈ after.workers ↔ accountId ∈ before.workers := by rfl
  queue : after.queues accountId = before.queues accountId := by rfl

structure SameDesk (accountId : String) (before after : Desk) : Prop where
  world : SameWorld accountId before.world after.world := by exact {}
  credential : after.vault accountId = before.vault accountId := by rfl
  tradeCounts : after.tradeCounts accountId = before.tradeCounts accountId := by rfl

section Trading

variable {accountId other : String} {β : Type}

theorem SameWorld.refl (world : World) : SameWorld other world world := {}

theorem SameDesk.refl (desk : Desk) : SameDesk other desk desk := {}

theorem guarantees_onWorld {p : Prog Failure World β} (same : p.Guarantees (SameWorld other)) :
    (Desk.onWorld p).Guarantees (SameDesk other) :=
  same.zoom fun _ _ world => { world := world }

theorem sameWorld_enqueue (apart : other ≠ accountId) (job : Job) (world : World) :
    SameWorld other world (enqueue accountId job world) where
  queue := Function.update_of_ne apart _ _

theorem guarantees_submitAndWait (apart : other ≠ accountId) (link : Link) (jobType : String)
    (payload : Json) :
    (submitAndWait link accountId jobType payload).Guarantees (SameDesk other) :=
  .bind (guarantees_onWorld (Prog.guarantees_modify (sameWorld_enqueue apart _))) fun _ => trivial

theorem guarantees_isRunning (accountId : String) :
    (Desk.onWorld (isRunning accountId)).Guarantees (SameDesk other) :=
  guarantees_onWorld (Prog.guarantees_read SameWorld.refl _)

theorem guarantees_relay (apart : other ≠ accountId) (link : Link) (jobType : String)
    (payload : Json) : (relay link accountId jobType payload).Guarantees (SameDesk other) := by
  refine .bind (guarantees_isRunning accountId) fun running => ?_
  split
  · trivial
  · refine .bind (guarantees_submitAndWait apart link jobType payload) fun reply => ?_
    cases reply <;> trivial

theorem guarantees_stopWorker (apart : other ≠ accountId) (jobId : String) :
    (stopWorker jobId accountId).Guarantees (SameWorld other) := by
  refine .bind (Prog.guarantees_modify fun world => ?_) fun _ =>
    .bind (Prog.guarantees_modify fun world => ?_) fun _ => trivial
  · exact
      { registered := Finset.mem_erase.trans (and_iff_right apart)
        worker := Finset.mem_erase.trans (and_iff_right apart) }
  · exact { queue := Function.update_of_ne apart _ _ }

theorem guarantees_allowsLiveTrading (now : ℤ) (accountId : String) :
    (allowsLiveTrading now accountId).Guarantees (SameWorld other) := by
  refine .bind (Prog.guarantees_read SameWorld.refl _) fun planCode => ?_
  split
  · trivial
  · refine .bind (Prog.guarantees_read SameWorld.refl _) fun active => ?_
    split <;> trivial

theorem sameDesk_consumeUnits (apart : other ≠ accountId) (day limit n : ℤ) (desk after : Desk)
    (outcome : Except String ℤ)
    (done : consumeUnits accountId day limit n desk = .ok (outcome, after)) :
    SameDesk other desk after := by
  unfold consumeUnits at done
  dsimp only at done
  split at done
  · cases refused : tradeCountAfterRollback (desk.tradeCounts accountId day) with
    | error e =>
        rw [refused] at done
        cases done
    | ok tradeCount =>
        rw [refused] at done
        cases done
        exact .refl desk
  · split at done
    · cases done
    · cases done
      exact { tradeCounts := Function.update_of_ne apart _ _ }

theorem guarantees_consume (apart : other ≠ accountId) (now n : ℤ) :
    (consume now accountId n).Guarantees (SameDesk other) :=
  .bind (Prog.guarantees_read SameDesk.refl _) fun _ =>
    .bind (Prog.guarantees_transact SameDesk.refl fun desk outcome after =>
      sameDesk_consumeUnits apart _ _ _ desk after outcome) fun _ => trivial

theorem guarantees_relayed (apart : other ≠ accountId) (link : Link) (auth : AuthContext)
    (jobType : String) (payload : Json) (default : String) :
    (command link auth accountId jobType payload default).Guarantees (SameDesk other) :=
  .bind trivial fun _ => .bind (guarantees_relay apart link jobType payload) fun _ => trivial

theorem guarantees_getHealth (apart : other ≠ accountId) (link : Link) (auth : AuthContext) :
    (Trading.getHealth link auth accountId).Guarantees (SameDesk other) := by
  refine .bind trivial fun _ => .bind (guarantees_isRunning accountId) fun running => ?_
  split
  · trivial
  · refine .bind (guarantees_submitAndWait apart link _ _) fun reply => ?_
    cases reply <;> trivial

theorem guarantees_disconnect (apart : other ≠ accountId) (link : Link) (auth : AuthContext) :
    (Trading.disconnect link auth accountId).Guarantees (SameDesk other) := by
  refine .bind trivial fun _ => .bind (guarantees_onWorld (guarantees_stopWorker apart _))
    fun stopped => ?_
  split <;> trivial

theorem guarantees_placeMarketOrder {request : MarketOrderRequest}
    (apart : other ≠ request.accountId) (now : ℤ) (link : Link) (auth : AuthContext) :
    (placeMarketOrder now link auth request).Guarantees (SameDesk other) := by
  refine .bind trivial fun _ =>
    .bind (guarantees_onWorld (guarantees_allowsLiveTrading now _)) fun allowed => ?_
  split
  · trivial
  · refine .bind trivial fun _ => .bind (guarantees_consume apart now 1) fun quota => ?_
    cases quota with
    | error message => trivial
    | ok used => exact .bind (guarantees_relay apart link _ _) fun _ => trivial

end Trading

/-! ## The other services -/

/-- The account's frames, signals and uploads are left alone. -/
structure SameStores {α : Type} [LinearOrder (Record (FrameState α))] (accountId : String)
    (before after : Stores α) : Prop where
  frames : after.indicatorHistory accountId = before.indicatorHistory accountId := by rfl
  signals : after.signalHistory.filter (·.accountId = accountId) =
    before.signalHistory.filter (·.accountId = accountId) := by rfl
  uploads : after.uploadDiagnostics.filter (·.accountId = accountId) =
    before.uploadDiagnostics.filter (·.accountId = accountId) := by rfl

-- The content type stays a name below: working it out on an unknown header goes nowhere.
attribute [local irreducible] AnalyzeRequest.ct

section Analysis

variable {α β : Type} [LinearOrder (Record (FrameState α))] {arrival : Vision.Arrival}
  {request : AnalyzeRequest} {other : String}

theorem SameStores.refl (stores : Stores α) : SameStores other stores stores := {}

theorem guarantees_onHistory (fault : Option Fault)
    {f : Redis (FrameState α) → Redis (FrameState α)}
    (same : ∀ redis, f redis other = redis other) :
    (command fault (onHistory f)).Guarantees (SameStores other) :=
  guarantees_command fun stores => { frames := same stores.indicatorHistory }

theorem guarantees_appendFrame (apart : other ≠ request.accountId)
    (service : IndicatorHistoryService) (frame : FrameState α) :
    (appendFrame service arrival request frame).Guarantees (SameStores other) :=
  .bind trivial fun _ =>
    .bind (guarantees_onHistory _ fun _ => Function.update_of_ne apart _ _) fun _ =>
      .bind (guarantees_onHistory _ fun _ => Function.update_of_ne apart _ _) fun _ =>
        guarantees_onHistory _ fun _ => Function.update_of_ne apart _ _

theorem sameStores_recordUpload (apart : other ≠ request.accountId) (success : Bool)
    (httpStatus : ℕ) (imageBytes : Option ℕ) (errorCode detail : Option String) :
    (recordUpload (α := α) arrival request success httpStatus imageBytes errorCode
      detail).Guarantees (SameStores other) :=
  .catchWith (guarantees_command fun _ =>
    { uploads := filter_append_singleton (decide_eq_false apart.symm) }) fun _ => trivial

theorem sameStores_refuse (apart : other ≠ request.accountId) (statusCode : ℕ)
    (imageBytes : Option ℕ) (errorCode : String) (noted : Option String) (detail : String) :
    (refuse (α := α) (β := β) arrival request statusCode imageBytes errorCode noted
      detail).Guarantees (SameStores other) :=
  .bind (sameStores_recordUpload apart _ _ _ _ _) fun _ => trivial

theorem sameStores_refuseRaised (apart : other ≠ request.accountId) (raised : Raised) :
    (refuseRaised (α := α) arrival request raised).Guarantees (SameStores other) := by
  cases raised with
  | valueError text => exact sameStores_refuse apart _ _ _ _ _
  | other => exact sameStores_refuse apart _ _ _ _ _

theorem sameStores_recordSignal (apart : other ≠ request.accountId) (analysis : Analysis) :
    (recordSignal (α := α) arrival request analysis).Guarantees (SameStores other) :=
  .catchWith (guarantees_command fun _ =>
    { signals := filter_append_singleton (decide_eq_false apart.symm) }) fun _ => trivial

theorem guarantees_analyze {Image : Type} [LinearOrder α] (apart : other ≠ request.accountId)
    (brain : BrainCVService Image α) (service : IndicatorHistoryService) :
    (Vision.analyze brain service arrival request).Guarantees (SameStores other) :=
  .bind trivial fun frame => .bind (guarantees_appendFrame apart service frame) fun _ =>
    .bind (guarantees_command SameStores.refl) fun _ => trivial

theorem guarantees_analyzeScreenshot {Image : Type} [LinearOrder α]
    (apart : other ≠ request.accountId) (brain : BrainCVService Image α)
    (service : IndicatorHistoryService) :
    (analyzeScreenshot brain service arrival request).Guarantees (SameStores other) := by
  apply Prog.Guarantees.ite
  · exact sameStores_refuse apart _ _ _ _ _
  apply Prog.Guarantees.ite
  · exact sameStores_refuse apart _ _ _ _ _
  apply Prog.Guarantees.ite
  · exact sameStores_refuse apart _ _ _ _ _
  refine .bind (.catchWith (guarantees_analyze apart brain service)
    (sameStores_refuseRaised apart)) fun analysis => ?_
  exact .bind (sameStores_recordUpload apart _ _ _ _ _) fun _ =>
    .bind (sameStores_recordSignal apart analysis) fun _ => trivial

end Analysis

/-! ## The whole state -/

/-- Every record of the account is left alone. -/
structure SameFor {α : Type} [LinearOrder (Record (FrameState α))] (accountId : String)
    (before after : Server α) : Prop where
  desk : SameDesk accountId before.desk after.desk := by exact {}
  stores : SameStores accountId before.stores after.stores := by exact {}
  workerCreds : after.workerCreds accountId = before.workerCreds accountId := by rfl
  windows : after.windows.records accountId = before.windows.records accountId := by rfl
  devices : SameDevices accountId before.devices after.devices := by rfl
  auditEvents : after.auditEvents.filter (·.accountId = some accountId) =
    before.auditEvents.filter (·.accountId = some accountId) := by rfl

section Whole

variable {α β : Type} [LinearOrder (Record (FrameState α))] {before after : Server α}
  {visit : Visit} {auth : AuthContext} {accountId other : String}

/-- All that there is of the account is what it was. -/
def SameRecords (accountId : String) (before after : Server α) : Prop :=
  after.records accountId = before.records accountId

theorem SameRecords.refl (server : Server α) : SameRecords other server server := rfl

theorem SameRecords.trans {first second third : Server α} (early : SameRecords other first second)
    (late : SameRecords other second third) : SameRecords other first third :=
  Eq.trans late early

theorem SameFor.refl (server : Server α) : SameFor other server server := {}

theorem SameFor.entry (same : SameFor accountId before after) (family : Family) :
    after.entry (.account family) accountId = before.entry (.account family) accountId := by
  cases family with
  | queue => simp only [Server.entry, same.desk.world.queue]
  | workerCreds => simp only [Server.entry, same.workerCreds]
  | indicatorHistory => simp only [Server.entry, same.stores.frames]
  | deviceHealth => exact congrArg (Option.map Value.heartbeat) (congrArg (·.health) same.devices)
  | rateLimit => exact congrArg (Option.map Value.window) (congrArg Prod.fst same.windows)
  | pendingCredentials => simp only [Server.entry, same.desk.world.pending]

/-- What is the same part by part is the same in all, key by key of Redis. -/
theorem SameFor.records (same : SameFor accountId before after) :
    SameRecords accountId before after := by
  unfold SameRecords Server.records
  congr 1
  · funext family
    rw [keyspace_accountKey, keyspace_accountKey, same.entry]
  · exact propext same.desk.world.registered
  · exact propext same.desk.world.worker
  · exact same.desk.world.subscription
  · exact same.desk.credential
  · exact same.desk.tradeCounts
  · exact same.stores.signals
  · exact same.stores.uploads
  · exact same.devices
  · exact congrArg Prod.snd same.windows
  · exact same.auditEvents

theorem sameFor_onDesk {p : Prog Failure Desk β} (same : p.Guarantees (SameDesk other)) :
    (onDesk (α := α) p).Guarantees (SameFor other) :=
  same.embed fun _ _ desk => ⟨desk, .refl _, rfl, rfl, rfl, rfl⟩

theorem sameFor_onWorld {p : Prog Failure World β} (same : p.Guarantees (SameWorld other)) :
    (onWorld (α := α) p).Guarantees (SameFor other) :=
  sameFor_onDesk (guarantees_onWorld same)

theorem sameFor_onDevices {p : Prog Failure Devices β} (same : p.Guarantees (SameDevices other)) :
    (onDevices (α := α) p).Guarantees (SameFor other) :=
  same.embed fun _ _ devices => ⟨.refl _, .refl _, rfl, rfl, devices, rfl⟩

theorem sameFor_readWorld (f : World → β) :
    (onWorld (α := α) (Prog.read f)).Guarantees (SameFor other) :=
  sameFor_onWorld (Prog.guarantees_read SameWorld.refl f)

theorem sameFor_audit {event : AuditEvent} (apart : event.accountId ≠ some other) :
    (audit (α := α) event).Guarantees (SameFor other) :=
  Prog.guarantees_modify fun _ =>
    ⟨.refl _, .refl _, rfl, rfl, rfl, filter_append_singleton (decide_eq_false apart)⟩

/-! ## The endpoints -/

theorem sameFor_ensureWorker (apart : other ≠ accountId) (alive : Bool)
    (credentials : Credentials) :
    (ensureWorker (α := α) visit alive accountId credentials).Guarantees (SameFor other) := by
  refine .bind (sameFor_readWorld _) fun held => ?_
  split
  · trivial
  · refine .bind (sameFor_onWorld (Prog.guarantees_modify fun world => ?_)) fun _ =>
      .bind (sameFor_readWorld _) fun count => ?_
    · exact { worker := Finset.mem_erase.trans (and_iff_right apart) }
    · split
      · trivial
      · refine .bind (Prog.guarantees_modify fun server => ?_) fun _ =>
          .bind (sameFor_onWorld (Prog.guarantees_modify fun world => ?_)) fun _ =>
            .bind (sameFor_onWorld (Prog.guarantees_modify fun world => ?_)) fun _ => trivial
        · exact { workerCreds := Function.update_of_ne apart _ _ }
        · exact { worker := Finset.mem_insert.trans (or_iff_right apart) }
        · exact { registered := Finset.mem_insert.trans (or_iff_right apart) }

theorem sameFor_startWorker {request : CredentialCreateRequest}
    (apart : other ≠ request.accountId) (alive : Bool) :
    (startWorker (α := α) visit alive request).Guarantees (SameFor other) := by
  refine .bind (sameFor_onDesk (Prog.guarantees_modify fun desk => ?_)) fun _ =>
    .bind (sameFor_onDesk (Prog.guarantees_read SameDesk.refl _)) fun stored => ?_
  · exact { credential := Function.update_of_ne apart _ _ }
  · cases stored with
    | none => trivial
    | some stored =>
        dsimp only
        split
        · trivial
        · refine .bind (sameFor_ensureWorker apart alive _) fun started => ?_
          split <;> trivial

theorem sameFor_handleTrading {request : Trading.Request}
    (apart : other ≠ request.accountId) :
    (handleTrading (α := α) visit auth request).Guarantees (SameFor other) := by
  cases request with
  | connect alive request =>
      exact .bind trivial fun _ => .bind (sameFor_readWorld _) fun plan =>
        .bind trivial fun _ => sameFor_startWorker apart alive
  | getHealth accountId => exact sameFor_onDesk (guarantees_getHealth apart _ _)
  | disconnect accountId => exact sameFor_onDesk (guarantees_disconnect apart _ _)
  | placeMarketOrder request => exact sameFor_onDesk (guarantees_placeMarketOrder apart _ _ _)
  | getAccount accountId =>
      exact sameFor_onDesk (.bind trivial fun _ => .bind (guarantees_relay apart _ _ _)
        fun _ => trivial)
  | getPositions accountId =>
      exact sameFor_onDesk (.bind trivial fun _ => .bind (guarantees_relay apart _ _ _)
        fun _ => trivial)
  | getPendingOrders accountId =>
      exact sameFor_onDesk (.bind trivial fun _ => .bind (guarantees_relay apart _ _ _)
        fun _ => trivial)
  | placePendingOrder request => exact sameFor_onDesk (guarantees_relayed apart _ _ _ _ _)
  | modifyPosition request => exact sameFor_onDesk (guarantees_relayed apart _ _ _ _ _)
  | closePosition request => exact sameFor_onDesk (guarantees_relayed apart _ _ _ _ _)
  | cancelOrder accountId ticket => exact sameFor_onDesk (guarantees_relayed apart _ _ _ _ _)
  | getSymbol accountId symbol => exact sameFor_onDesk (guarantees_relayed apart _ _ _ _ _)

theorem sameFor_analyze {Image : Type} [LinearOrder α] {request : AnalyzeRequest}
    (apart : other ≠ request.accountId) (app : App Image α) :
    (analyze app visit auth request).Guarantees (SameFor other) := by
  refine .bind trivial fun _ => .bind ?_ fun _ => ?_
  · exact (guarantees_enforceAccountRateLimit apart _ _).embed
      fun _ _ windows => { windows := windows }
  · exact (guarantees_analyzeScreenshot apart app.brain app.indicatorHistory).embed
      fun _ _ stores => { stores := stores }

theorem sameFor_getSignalHistory (accountId : String) (limit : ℤ) :
    (getSignalHistory (α := α) auth accountId limit).Guarantees (SameFor other) :=
  .bind trivial fun _ => .bind (Prog.guarantees_read SameFor.refl _) fun _ => trivial

theorem sameFor_receiveHeartbeat {heartbeat : HeartbeatRequest}
    (apart : other ≠ heartbeat.accountId) :
    (receiveHeartbeat (α := α) visit auth heartbeat).Guarantees (SameFor other) :=
  .bind trivial fun _ => .bind (sameFor_onDevices (guarantees_recordHeartbeat apart))
    fun _ => trivial

theorem sameFor_getDeviceHealth (accountId : String) :
    (getDeviceHealth (α := α) visit auth accountId).Guarantees (SameFor other) := by
  refine .bind trivial fun _ =>
    .bind (sameFor_onDevices (Prog.guarantees_read SameDevices.refl _)) fun health => ?_
  cases health <;> trivial

theorem sameFor_listDeviceHealth :
    (listDeviceHealth (α := α) visit auth).Guarantees (SameFor other) := by
  refine .bind trivial fun _ => .bind (sameFor_onDevices ?_) fun _ => trivial
  refine .bind (Prog.guarantees_read SameDevices.refl _) fun known =>
    Prog.guarantees_mapM (fun accountId => ?_) known
  exact .bind (Prog.guarantees_read SameDevices.refl _) fun _ => trivial

theorem sameFor_registerDevice {body : DeviceRegisterRequest} (apart : other ≠ body.accountId) :
    (registerDevice (α := α) visit auth body).Guarantees (SameFor other) := by
  have elsewhere : some body.accountId ≠ some other := fun same => apart (Option.some.inj same).symm
  unfold registerDevice
  generalize strippedId body.deviceId = stripped
  refine .bind trivial fun _ => .bind trivial fun deviceId => .bind (sameFor_readWorld _)
    fun row => .bind (sameFor_onDevices (guarantees_bindDevice apart)) fun result => ?_
  cases result with
  | ok => trivial
  | rejected => exact .bind (sameFor_audit elsewhere) fun _ => trivial
  | bound => exact .bind (sameFor_audit elsewhere) fun _ => trivial

theorem sameFor_clearDeviceBinding (apart : other ≠ accountId) :
    (clearDeviceBinding (α := α) visit auth accountId).Guarantees (SameFor other) := by
  have elsewhere : some accountId ≠ some other := fun same => apart (Option.some.inj same).symm
  refine .bind trivial fun _ => .bind (sameFor_onDevices
    (Prog.guarantees_act (sameDevices_clearBindings apart))) fun ok => ?_
  split
  · trivial
  · exact .bind (sameFor_audit elsewhere) fun _ => trivial

theorem sameFor_getSubscriptionStatus (accountId : String) :
    (getSubscriptionStatus (α := α) visit auth accountId).Guarantees (SameFor other) := by
  refine .bind trivial fun _ => .bind (sameFor_readWorld _) fun row => ?_
  cases row with
  | none => trivial
  | some row => exact .bind (sameFor_readWorld _) fun _ => trivial

/-- A request that names another account, or none, leaves the account's records alone. -/
theorem guarantees_handle {Image : Type} [LinearOrder α] (app : App Image α) {request : Request}
    (elsewhere : request.accountId ≠ some other) :
    (request.handle app visit auth).Guarantees (SameFor other) := by
  have apart : ∀ {accountId}, request.accountId = some accountId → other ≠ accountId :=
    fun named same => elsewhere (same ▸ named)
  cases request with
  | trading request => exact (sameFor_handleTrading (apart rfl)).map _
  | analyzeScreenshot request => exact (sameFor_analyze (apart rfl) app).map _
  | getSignalHistory accountId limit => exact (sameFor_getSignalHistory accountId limit).map _
  | receiveHeartbeat heartbeat => exact (sameFor_receiveHeartbeat (apart rfl)).map _
  | getDeviceHealth accountId => exact (sameFor_getDeviceHealth accountId).map _
  | listDeviceHealth => exact sameFor_listDeviceHealth.map _
  | registerDevice body => exact (sameFor_registerDevice (apart rfl)).map _
  | clearDeviceBinding accountId => exact (sameFor_clearDeviceBinding (apart rfl)).map _
  | getSubscriptionStatus accountId => exact (sameFor_getSubscriptionStatus accountId).map _

end Whole

/-! ## Keys of one account -/

/-- The answer is a 403. -/
def Forbidden {β : Type} (outcome : Except Refusal β) : Prop :=
  ∃ detail, outcome = .error (.failure (.httpException 403 detail))

/-- The key of the request is accepted, has no admin rights and is bound to the account. -/
def Authenticated {Image α : Type} [LinearOrder α] [LinearOrder (Record (FrameState α))]
    (app : App Image α) (accountId : String) (server : Server α) (visit : Visit) : Prop :=
  ∃ auth after, verifyApiKey app.env visit.now visit.xApiKey server.desk.world = .ok (auth, after) ∧
    auth.isAdmin = false ∧ auth.accountId = some accountId

section Keys

variable {α β : Type} [LinearOrder (Record (FrameState α))] {server : Server α} {visit : Visit}
  {auth : AuthContext} {accountId other : String}

theorem requireAccountMatch_foreign (plain : auth.isAdmin = false)
    (foreign : auth.accountId ≠ some accountId) :
    requireAccountMatch auth accountId =
      .error (.httpException 403 "This API key is not authorized for this account.") := by
  simp only [requireAccountMatch, plain, foreign, Bool.false_eq_true, if_false, ne_eq,
    not_false_eq_true, if_true]

/-- What begins with a check that fails ends there. -/
theorem run_check_error {outcome : Except Failure Unit} {failure : Failure}
    (failed : outcome = .error failure) (rest : Unit → Prog Refusal (Server α) β) :
    (check outcome >>= rest).run server = (.error (.failure failure), server) := by
  rw [failed]
  rfl

theorem run_onDesk (p : Prog Failure Desk β) :
    (onDesk p).run server =
      ((p.run server.desk).1.mapError .failure,
        { server with desk := (p.run server.desk).2 }) := by
  apply Prog.run_embed
  · exact fun _ _ => rfl
  · exact fun _ _ _ => rfl
  · exact fun _ => rfl

/-- Each endpoint of the trading router checks the account before anything else. -/
theorem run_handleTrading_foreign {request : Trading.Request} (plain : auth.isAdmin = false)
    (foreign : auth.accountId ≠ some request.accountId) :
    (handleTrading visit auth request).run server =
      (.error (.failure (.httpException 403 "This API key is not authorized for this account.")),
        server) := by
  have refused := requireAccountMatch_foreign plain foreign
  have onDesk_refused : ∀ rest : Unit → Prog Failure Desk Json,
      (onDesk (Prog.ofExcept (requireAccountMatch auth request.accountId) >>= rest)).run server =
        (.error (.failure (.httpException 403
          "This API key is not authorized for this account.")), server) := by
    intro rest
    rw [run_onDesk, refused]
    rfl
  cases request with
  | connect alive request => exact run_check_error refused _
  | getHealth accountId => exact onDesk_refused _
  | disconnect accountId => exact onDesk_refused _
  | placeMarketOrder request => exact onDesk_refused _
  | getAccount accountId => exact onDesk_refused _
  | getPositions accountId => exact onDesk_refused _
  | getPendingOrders accountId => exact onDesk_refused _
  | placePendingOrder request => exact onDesk_refused _
  | modifyPosition request => exact onDesk_refused _
  | closePosition request => exact onDesk_refused _
  | cancelOrder accountId ticket => exact onDesk_refused _
  | getSymbol accountId symbol => exact onDesk_refused _

variable {Image : Type} [LinearOrder α] {app : App Image α}

/-- Without admin rights a request for an account that is not the key's own is refused before
it does anything. -/
theorem run_handle_foreign {request : Request} (plain : auth.isAdmin = false)
    (named : request.accountId = some accountId) (foreign : auth.accountId ≠ some accountId) :
    ∃ detail, (request.handle app visit auth).run server =
      (.error (.failure (.httpException 403 detail)), server) := by
  cases request with
  | listDeviceHealth => cases named
  | clearDeviceBinding owner =>
      have admin : requireAdmin auth =
          .error (.httpException 403 "This endpoint requires an admin API key.") := by
        rw [requireAdmin, plain]
        rfl
      exact ⟨_, Prog.run_map_error _ (run_check_error admin _)⟩
  | trading request =>
      cases named
      exact ⟨_, Prog.run_map_error _ (run_handleTrading_foreign plain foreign)⟩
  | analyzeScreenshot _ | getSignalHistory _ _ | receiveHeartbeat _ | getDeviceHealth _
  | registerDevice _ | getSubscriptionStatus _ =>
      cases named
      have refused := requireAccountMatch_foreign plain foreign
      exact ⟨_, Prog.run_map_error _ (run_check_error refused _)⟩

/-- A key that is accepted changes its own row of `api_keys` at most. -/
theorem sameWorld_verifyApiKey {env : Env} {now : ℤ} {xApiKey : Option String}
    {world after : World} (verified : verifyApiKey env now xApiKey world = .ok (auth, after)) :
    SameWorld other world after := by
  cases xApiKey with
  | none => cases verified
  | some rawKey =>
      obtain ⟨row, _, rest⟩ := bind_eq_ok.mp verified
      cases rest
      exact {}

/-- A request with a key of the account, from the answer of `verify_api_key` on. -/
theorem Authenticated.run_serve (own : Authenticated app accountId server visit) :
    ∃ auth found, auth.isAdmin = false ∧ auth.accountId = some accountId ∧
      (∀ other, SameFor other server found) ∧
      (serve app visit).run server = (visit.request.handle app visit auth).run found := by
  rcases own with ⟨auth, after, verified, plain, bound⟩
  refine ⟨auth, { server with desk := { server.desk with world := after } }, plain, bound, ?_, ?_⟩
  · exact fun other => { desk := { world := sameWorld_verifyApiKey verified } }
  · have accepted : (authenticate app.env visit.now visit.xApiKey).run server.desk.world =
        (.ok auth, after) := Prog.run_transact_ok verified
    refine Prog.run_bind_ok ?_
    rw [onWorld, run_onDesk, Desk.run_onWorld_ok accepted]
    rfl

/-- **Step lemma.** -/
theorem Authenticated.step (own : Authenticated app accountId server visit)
    (apart : other ≠ accountId) :
    SameRecords other server (step app server visit) ∧
      (visit.request.accountId = some other → Forbidden ((serve app visit).run server).1) := by
  obtain ⟨auth, found, plain, bound, same, run⟩ := own.run_serve
  have foreign : auth.accountId ≠ some other := by
    rw [bound]
    exact fun equal => apart (Option.some.inj equal).symm
  rw [Api.step, run]
  by_cases named : visit.request.accountId = some other
  · have refused : ∃ detail, (visit.request.handle app visit auth).run found =
        (.error (.failure (.httpException 403 detail)), found) :=
      run_handle_foreign plain named foreign
    rcases refused with ⟨detail, ended⟩
    rw [ended]
    exact ⟨(same other).records, fun _ => ⟨detail, rfl⟩⟩
  · refine ⟨(same other).records.trans ?_, fun equal => absurd equal named⟩
    have kept : (visit.request.handle app visit auth).Guarantees (SameRecords other) :=
      (guarantees_handle app named).mono fun _ _ same => same.records
    exact kept.run SameRecords.refl SameRecords.trans found

/-- **Accounts are isolated.**  Throughout a run of requests with keys of one account the
records of another one are what they were, and a request for it is answered 403. -/
theorem accounts_isolated {visits : List Visit} (apart : other ≠ accountId)
    (own : EachStep (step app) (Authenticated app accountId) server visits) :
    Throughout (step app) (SameRecords other server) server visits ∧
      EachStep (step app) (fun found visit => visit.request.accountId = some other →
        Forbidden ((serve app visit).run found).1) server visits := by
  constructor
  · refine Throughout.of_inv (.refl server) (fun found visit same authenticated => ?_) own
    exact same.trans (authenticated.step apart).1
  · refine EachStep.of_inv (I := fun _ => True) trivial (fun _ _ _ _ => trivial)
      (fun found visit _ authenticated => ?_) own
    exact (authenticated.step apart).2

/-! ## An account with a key -/

/-- A server on which `acc` has a key. -/
noncomputable def sampleServer : Server ℚ where
  desk := { Desk.empty with world := addKey sampleEnv 0 "key" { accountId := some "acc" } .empty }
  stores := ⟨fun _ => none, [], []⟩
  workerCreds := fun _ => none
  windows := ⟨fun _ => none, fun _ => []⟩
  devices := ⟨fun _ => none, [], []⟩
  auditEvents := []

/-- No screenshot can be decoded. -/
def sampleApp : App Unit ℚ where
  env := sampleEnv
  brain := ⟨⟨fun _ => none, fun _ => .error .other⟩, OrderHom.id, ⟨12⟩⟩
  indicatorHistory := ⟨60, 600⟩

/-- A request with the key of `acc`. -/
def sampleVisit (request : Request) : Visit :=
  ⟨1, ⟨1, 0, "nonce", fun _ => none⟩, ⟨"job", none⟩, ⟨true, none⟩, none, some "key", request⟩

/-- The account sends a heartbeat, then asks for the signals of another one. -/
def sampleVisits : List Visit :=
  [sampleVisit (.receiveHeartbeat ⟨"acc", 80, true, 0, true, 0, 1, true, true, 0, "1.0"⟩),
    sampleVisit (.getSignalHistory "acc:2" 50)]

theorem accounts_isolated_acc :
    Throughout (step sampleApp) (SameRecords "acc:2" sampleServer) sampleServer sampleVisits ∧
      EachStep (step sampleApp) (fun found visit => visit.request.accountId = some "acc:2" →
        Forbidden ((serve sampleApp visit).run found).1) sampleServer sampleVisits := by
  have own : EachStep (step sampleApp) (Authenticated sampleApp "acc") sampleServer
      sampleVisits := ⟨⟨_, _, rfl, rfl, rfl⟩, ⟨_, _, rfl, rfl, rfl⟩, trivial⟩
  exact accounts_isolated (by decide) own

end Keys

end Aegis.Api
