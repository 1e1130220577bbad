import Mathlib.Data.Rat.Defs
import Aegis.Lib.Relational

/-!
# Migrations

The revisions of `alembic/versions`, each with the statements of its `upgrade` and `downgrade`.
PostgreSQL names the constraints that a revision does not name: `<table>_pkey` and
`<table>_<column>_key`.

The first six are taken back exactly (`downgrade_upgrade`).  The seventh builds
`device_bindings` anew, and its way back (`downgrade_commercialPlans`) leaves that table empty
and without the index that the sixth expects.
-/

namespace Aegis.Storage

open Aegis.Lib

/-- What a cell of a row can hold, apart from null. -/
inductive Cell where
  | text (value : String)
  | integer (value : ℤ)
  | float (value : ℚ)
  | boolean (value : Bool)
  | dateTime (seconds : ℚ)
  deriving DecidableEq

/-- `sa.Column(..., nullable=False)`. -/
def required (name : String) (type : ColumnType) : Column Cell := ⟨name, type, false, none⟩

/-- `sa.Column(..., nullable=True)`. -/
def optional (name : String) (type : ColumnType) : Column Cell := ⟨name, type, true, none⟩

/-- `sa.Column(..., nullable=False, server_default=...)`. -/
def defaulting (name : String) (type : ColumnType) (value : Cell) : Column Cell :=
  ⟨name, type, false, some value⟩

structure Revision where
  revision : String
  downRevision : Option String
  upgrade : List (Ddl Cell)
  downgrade : List (Ddl Cell)

/-! ## The versions -/

/-- `0001_initial.py`. -/
def initial : Revision where
  revision := "0001_initial"
  downRevision := none
  upgrade := [
    .createTable "credentials" [
      required "credential_id" .string,
      required "broker_name" .string,
      required "server" .string,
      required "account_id" .string,
      required "trading_nonce" .string,
      required "trading_ciphertext" .string,
      optional "investor_nonce" .string,
      optional "investor_ciphertext" .string,
      defaulting "execution_enabled" .boolean (.boolean false),
      required "created_at" .dateTime,
      required "updated_at" .dateTime]
      [("credentials_pkey", ["credential_id"])],
    .createIndex "ix_credentials_account_id" "credentials" ["account_id"] false,
    .createTable "subscriptions" [
      required "account_id" .string,
      optional "provider" .string,
      optional "provider_customer_id" .string,
      optional "provider_subscription_id" .string,
      required "status" .string,
      optional "current_period_end" .dateTime,
      optional "grace_period_ends_at" .dateTime,
      required "updated_at" .dateTime]
      [("subscriptions_pkey", ["account_id"])],
    .createTable "processed_payment_events" [
      required "id" .integer,
      required "provider" .string,
      required "provider_event_id" .string,
      required "processed_at" .dateTime]
      [("processed_payment_events_pkey", ["id"]),
        ("uq_provider_event", ["provider", "provider_event_id"])]]
  downgrade := [
    .dropTable "processed_payment_events",
    .dropTable "subscriptions",
    .dropIndex "ix_credentials_account_id",
    .dropTable "credentials"]

/-- `0002_portal_token.py`. -/
def portalToken : Revision where
  revision := "0002_portal_token"
  downRevision := some "0001_initial"
  upgrade := [
    .addColumn "subscriptions" (optional "portal_token" .string),
    .createUniqueConstraint "uq_subscriptions_portal_token" "subscriptions" ["portal_token"]]
  downgrade := [
    .dropConstraint "uq_subscriptions_portal_token" "subscriptions",
    .dropColumn "subscriptions" "portal_token"]

/-- `0003_api_keys.py`. -/
def apiKeys : Revision where
  revision := "0003_api_keys"
  downRevision := some "0002_portal_token"
  upgrade := [
    .createTable "api_keys" [
      required "id" .integer,
      required "key_hash" .string,
      optional "account_id" .string,
      defaulting "is_admin" .boolean (.boolean false),
      optional "label" .string,
      defaulting "revoked" .boolean (.boolean false),
      required "created_at" .dateTime,
      optional "last_used_at" .dateTime]
      [("api_keys_pkey", ["id"]), ("api_keys_key_hash_key", ["key_hash"])],
    .createIndex "ix_api_keys_key_hash" "api_keys" ["key_hash"] true,
    .createIndex "ix_api_keys_account_id" "api_keys" ["account_id"] false]
  downgrade := [
    .dropIndex "ix_api_keys_account_id",
    .dropIndex "ix_api_keys_key_hash",
    .dropTable "api_keys"]

/-- `0004_signal_history.py`. -/
def signalHistory : Revision where
  revision := "0004_signal_history"
  downRevision := some "0003_api_keys"
  upgrade := [
    .createTable "signal_history" [
      required "id" .integer,
      required "account_id" .string,
      required "signal" .string,
      required "confidence" .float,
      required "rule_name" .string,
      required "details" .string,
      required "created_at" .dateTime]
      [("signal_history_pkey", ["id"])],
    .createIndex "ix_signal_history_account_id" "signal_history" ["account_id"] false,
    .createIndex "ix_signal_history_created_at" "signal_history" ["created_at"] false]
  downgrade := [
    .dropIndex "ix_signal_history_created_at",
    .dropIndex "ix_signal_history_account_id",
    .dropTable "signal_history"]

/-- `0005_audit_keys_upload_diag.py`. -/
def auditKeysUploadDiag : Revision where
  revision := "0005_audit_keys_upload_diag"
  downRevision := some "0004_signal_history"
  upgrade := [
    .addColumn "api_keys" (optional "expires_at" .dateTime),
    .addColumn "api_keys" (optional "rotation_due_at" .dateTime),
    .addColumn "api_keys" (defaulting "force_rotate" .boolean (.boolean false)),
    .addColumn "api_keys" (optional "issued_by" .string),
    .addColumn "api_keys" (optional "revoked_by" .string),
    .addColumn "api_keys" (optional "revoked_at" .dateTime),
    .addColumn "api_keys" (optional "replaces_key_id" .integer),
    .createTable "audit_events" [
      required "id" .integer,
      required "created_at" .dateTime,
      required "actor_type" .string,
      optional "actor_id" .string,
      optional "actor_label" .string,
      required "action" .string,
      optional "target_type" .string,
      optional "target_id" .string,
      optional "account_id" .string,
      optional "detail" .text,
      optional "ip" .string,
      defaulting "success" .boolean (.boolean true)]
      [("audit_events_pkey", ["id"])],
    .createIndex "ix_audit_events_created_at" "audit_events" ["created_at"] false,
    .createIndex "ix_audit_events_action" "audit_events" ["action"] false,
    .createIndex "ix_audit_events_actor_id" "audit_events" ["actor_id"] false,
    .createIndex "ix_audit_events_target_id" "audit_events" ["target_id"] false,
    .createIndex "ix_audit_events_account_id" "audit_events" ["account_id"] false,
    .createTable "upload_diagnostics" [
      required "id" .integer,
      required "created_at" .dateTime,
      required "account_id" .string,
      required "success" .boolean,
      optional "http_status" .integer,
      optional "latency_ms" .float,
      optional "image_bytes" .integer,
      optional "error_code" .string,
      optional "detail" .string]
      [("upload_diagnostics_pkey", ["id"])],
    .createIndex "ix_upload_diagnostics_created_at" "upload_diagnostics" ["created_at"] false,
    .createIndex "ix_upload_diagnostics_account_id" "upload_diagnostics" ["account_id"] false]
  downgrade := [
    .dropIndex "ix_upload_diagnostics_account_id",
    .dropIndex "ix_upload_diagnostics_created_at",
    .dropTable "upload_diagnostics",
    .dropIndex "ix_audit_events_account_id",
    .dropIndex "ix_audit_events_target_id",
    .dropIndex "ix_audit_events_actor_id",
    .dropIndex "ix_audit_events_action",
    .dropIndex "ix_audit_events_created_at",
    .dropTable "audit_events",
    .dropColumn "api_keys" "replaces_key_id",
    .dropColumn "api_keys" "revoked_at",
    .dropColumn "api_keys" "revoked_by",
    .dropColumn "api_keys" "issued_by",
    .dropColumn "api_keys" "force_rotate",
    .dropColumn "api_keys" "rotation_due_at",
    .dropColumn "api_keys" "expires_at"]

/-- `device_bindings` as revision 0006 creates it, one device for each account. -/
def singleBinding : Ddl Cell :=
  .createTable "device_bindings" [
    required "account_id" .string,
    required "device_id" .string,
    optional "device_label" .string,
    required "bound_at" .dateTime,
    optional "last_seen_at" .dateTime]
    [("device_bindings_pkey", ["account_id"])]

/-- `0006_devices_download_plan.py`. -/
def devicesDownloadPlan : Revision where
  revision := "0006_devices_download_plan"
  downRevision := some "0005_audit_keys_upload_diag"
  upgrade := [
    .addColumn "subscriptions" (defaulting "plan" .string (.text "live")),
    singleBinding,
    .createIndex "ix_device_bindings_device_id" "device_bindings" ["device_id"] false,
    .createTable "download_tokens" [
      required "token" .string,
      required "account_id" .string,
      defaulting "plan" .string (.text "live"),
      defaulting "max_uses" .integer (.integer 1),
      defaulting "uses" .integer (.integer 0),
      optional "expires_at" .dateTime,
      required "created_at" .dateTime,
      defaulting "revoked" .boolean (.boolean false)]
      [("download_tokens_pkey", ["token"])],
    .createIndex "ix_download_tokens_account_id" "download_tokens" ["account_id"] false]
  downgrade := [
    .dropIndex "ix_download_tokens_account_id",
    .dropTable "download_tokens",
    .dropIndex "ix_device_bindings_device_id",
    .dropTable "device_bindings",
    .dropColumn "subscriptions" "plan"]

/-- `0007_commercial_plans.py`.  Its `downgrade` does not create the index of 0006 again. -/
def commercialPlans : Revision where
  revision := "0007_commercial_plans"
  downRevision := some "0006_devices_download_plan"
  upgrade := [
    .addColumn "subscriptions" (defaulting "max_devices" .integer (.integer 1)),
    .addColumn "subscriptions" (defaulting "max_trades_per_day" .integer (.integer 10)),
    .dropTable "device_bindings",
    .createTable "device_bindings" [
      required "id" .integer,
      required "account_id" .string,
      required "device_id" .string,
      optional "device_label" .string,
      required "bound_at" .dateTime,
      optional "last_seen_at" .dateTime]
      [("device_bindings_pkey", ["id"]), ("uq_account_device", ["account_id", "device_id"])],
    .createIndex "ix_device_bindings_account_id" "device_bindings" ["account_id"] false,
    .createIndex "ix_device_bindings_device_id" "device_bindings" ["device_id"] false,
    .createTable "trade_daily_counters" [
      required "id" .integer,
      required "account_id" .string,
      required "day" .string,
      defaulting "trade_count" .integer (.integer 0)]
      [("trade_daily_counters_pkey", ["id"]), ("uq_account_day", ["account_id", "day"])],
    .createIndex "ix_trade_daily_counters_account_id" "trade_daily_counters" ["account_id"] false]
  downgrade := [
    .dropTable "trade_daily_counters",
    .dropTable "device_bindings",
    singleBinding,
    .dropColumn "subscriptions" "max_trades_per_day",
    .dropColumn "subscriptions" "max_devices"]

/-- From the base to the head. -/
def revisions : List Revision :=
  [initial, portalToken, apiKeys, signalHistory, auditKeysUploadDiag, devicesDownloadPlan,
    commercialPlans]

example : revisions.map (·.downRevision) =
    none :: (revisions.dropLast.map fun earlier => some earlier.revision) := by decide

/-- `alembic upgrade` over a stretch of revisions. -/
def upgradeScript (stretch : List Revision) : List (Ddl Cell) := stretch.flatMap (·.upgrade)

/-- `alembic downgrade` over it, the last one first. -/
def downgradeScript (stretch : List Revision) : List (Ddl Cell) :=
  stretch.reverse.flatMap (·.downgrade)

/-! ## Down and up again -/

/-- The statements of `downgrade` are the inverses of those of `upgrade`, in reverse order. -/
def Revision.Mirrored (revision : Revision) : Prop :=
  revision.upgrade.map Ddl.inverse = revision.downgrade.reverse.map some

theorem mirrored_of_mem {revision : Revision} (member : revision ∈ revisions.take 6) :
    revision.Mirrored := by
  simp only [revisions, List.take_succ_cons, List.take_zero, List.mem_cons, List.not_mem_nil,
    or_false] at member
  rcases member with rfl | rfl | rfl | rfl | rfl | rfl <;> rfl

theorem inverses_upgradeScript {stretch : List Revision}
    (mirrored : ∀ revision ∈ stretch, revision.Mirrored) :
    (upgradeScript stretch).map Ddl.inverse = (downgradeScript stretch).reverse.map some := by
  induction stretch with
  | nil => rfl
  | cons revision rest ih =>
      rw [List.forall_mem_cons] at mirrored
      have last : downgradeScript (revision :: rest) =
          downgradeScript rest ++ revision.downgrade := by
        rw [downgradeScript, List.reverse_cons, List.flatMap_append, List.flatMap_singleton,
          downgradeScript]
      rw [last, List.reverse_append, List.map_append, ← ih mirrored.2, ← mirrored.1, upgradeScript,
        List.flatMap_cons, List.map_append, upgradeScript]

def smallSubscriptions : Table Cell :=
  ⟨[required "account_id" .string], [[some (.text "acc")]], by decide⟩

/-- A database with one subscription and one bound device. -/
def smallDatabase : Database Cell where
  tables name :=
    if name = "subscriptions" then some smallSubscriptions
    else if name = "device_bindings" then
      some ⟨[required "account_id" .string, required "device_id" .string],
        [[some (.text "acc"), some (.text "phone")]], by decide⟩
    else none
  indexes _ := none
  grounded := nofun

def smallAfter (script : List (Ddl Cell)) : Database Cell :=
  (runAll smallDatabase script).toOption.getD smallDatabase

/-- **Round trip.**  Over any stretch of the first six revisions the way down takes back the way
up, rows and all. -/
theorem downgrade_upgrade {stretch : List Revision} (within : stretch <:+: revisions.take 6)
    {db after : Database Cell} (ran : runAll db (upgradeScript stretch) = .ok after) :
    runAll after (downgradeScript stretch) = .ok db := by
  have inverses := inverses_upgradeScript fun revision member =>
    mirrored_of_mem (within.subset member)
  have undone := undo_runAll inverses ran
  rwa [List.reverse_reverse] at undone

theorem downgrade_upgrade_portalToken :
    runAll (smallAfter (upgradeScript [portalToken])) (downgradeScript [portalToken]) =
      .ok smallDatabase :=
  downgrade_upgrade ⟨[initial], [apiKeys, signalHistory, auditKeysUploadDiag, devicesDownloadPlan],
    rfl⟩ rfl

/-! ## What the way up keeps -/

theorem shrinks_upgradeScript {stretch : List Revision} (within : stretch <:+: revisions)
    {statement : Ddl Cell} (member : statement ∈ upgradeScript stretch) {name : String}
    (shrinks : statement.shrinks = some name) : name = "device_bindings" := by
  have only : (upgradeScript revisions).filterMap Ddl.shrinks = ["device_bindings"] := rfl
  have listed : statement ∈ upgradeScript revisions := by
    obtain ⟨revision, among, member⟩ := List.mem_flatMap.mp member
    exact List.mem_flatMap.mpr ⟨revision, within.subset among, member⟩
  have shrunk := List.mem_filterMap.mpr ⟨statement, listed, shrinks⟩
  rw [only] at shrunk
  exact List.mem_singleton.mp shrunk

/-- **Rows stay.**  Over any stretch of revisions each table but one keeps its rows, in their
order; to each the defaults of the new columns are added. -/
theorem rows_upgrade {stretch : List Revision} (within : stretch <:+: revisions) {name : String}
    (other : name ≠ "device_bindings") {db after : Database Cell} {table : Table Cell}
    (found : db.tables name = some table)
    (ran : runAll db (upgradeScript stretch) = .ok after) :
    ∃ later, after.tables name = some later ∧
      table.Extends (addedColumns name (upgradeScript stretch)) later :=
  rows_runAll (fun _ member shrinks => other (shrinks_upgradeScript within member shrinks)) found
    ran

theorem rows_upgrade_portalToken :
    ∃ later, (smallAfter (upgradeScript [portalToken])).tables "subscriptions" = some later ∧
      smallSubscriptions.Extends (addedColumns "subscriptions" (upgradeScript [portalToken]))
        later := by
  have found : smallDatabase.tables "subscriptions" = some smallSubscriptions := rfl
  exact rows_upgrade ⟨[initial], [apiKeys, signalHistory, auditKeysUploadDiag,
    devicesDownloadPlan, commercialPlans], rfl⟩ (by decide) found rfl

example : addedColumns "subscriptions" (upgradeScript [devicesDownloadPlan, commercialPlans]) =
    [defaulting "plan" .string (.text "live"), defaulting "max_devices" .integer (.integer 1),
      defaulting "max_trades_per_day" .integer (.integer 10)] := rfl

/-! ## The seventh revision -/

section CommercialPlans

variable {db after : Database Cell}

def maxDevicesColumn : Column Cell := defaulting "max_devices" .integer (.integer 1)

def maxTradesColumn : Column Cell := defaulting "max_trades_per_day" .integer (.integer 10)

/-- The database with the caps of the subscriptions and without the bindings. -/
structure Rebuilt (db rebuilt : Database Cell) : Prop where
  subscriptions : ∃ table, db.tables "subscriptions" = some table ∧
    maxDevicesColumn.name ∉ table.names ∧
    maxTradesColumn.name ∉ (table.addColumn maxDevicesColumn).names ∧
    rebuilt.tables = Function.update (Function.update db.tables "subscriptions"
      (some ((table.addColumn maxDevicesColumn).addColumn maxTradesColumn))) "device_bindings" none
  indexes : rebuilt.indexes = fun name => (db.indexes name).filter (·.table ≠ "device_bindings")
  free : ∀ name ∈ ["device_bindings", "device_bindings_pkey", "ix_device_bindings_device_id"],
    rebuilt.Free name

/-- What `upgrade` has built, and that dropping the two tables leads back there. -/
theorem rebuilt_of_upgrade (ran : runAll db commercialPlans.upgrade = .ok after) :
    ∃ rebuilt, Rebuilt db rebuilt ∧
      runAll after [.dropTable "trade_daily_counters", .dropTable "device_bindings"] =
        .ok rebuilt := by
  obtain ⟨devices, added, ran⟩ := bind_eq_ok.mp ran
  obtain ⟨table, found, newDevices, tables, indexes⟩ := Database.addColumn_eq_ok added
  obtain ⟨trades, added, ran⟩ := bind_eq_ok.mp ran
  obtain ⟨capped, found', newTrades, tables', indexes'⟩ := Database.addColumn_eq_ok added
  rw [tables, Function.update_self] at found'
  cases found'
  obtain ⟨rebuilt, dropped, ran⟩ := bind_eq_ok.mp ran
  have rebuiltIs := Database.dropTable_eq_ok dropped
  obtain ⟨bindings, created, ran⟩ := bind_eq_ok.mp ran
  obtain ⟨unused, free, bindingTables, bindingIndexes⟩ := Database.createTable_eq_ok created
  obtain ⟨byAccount, indexed, ran⟩ := bind_eq_ok.mp ran
  obtain ⟨unusedAccount, onAccount, rfl⟩ := Database.createIndexOn_eq_ok indexed
  obtain ⟨byDevice, indexed, ran⟩ := bind_eq_ok.mp ran
  obtain ⟨unusedDevice, onDevice, rfl⟩ := Database.createIndexOn_eq_ok indexed
  obtain ⟨counters, counted, ran⟩ := bind_eq_ok.mp ran
  obtain ⟨last, indexed, ran⟩ := bind_eq_ok.mp ran
  obtain ⟨unusedCounter, onCounter, rfl⟩ := Database.createIndexOn_eq_ok indexed
  cases ran
  refine ⟨rebuilt, ⟨⟨table, found, newDevices, newTrades, ?_⟩, ?_, ?_⟩, ?_⟩
  · rw [rebuiltIs, Database.tables_without, tables', tables, Function.update_idem]
    rfl
  · rw [rebuiltIs, Database.indexes_without, indexes', indexes]
  · intro name member
    simp only [List.mem_cons, List.not_mem_nil, or_false] at member
    rcases member with rfl | rfl | rfl
    · exact unused
    · exact free ("device_bindings_pkey", ["id"]) List.mem_cons_self
    · obtain ⟨noTable, noIndex⟩ := unusedDevice
      rw [Database.tables_addIndex, bindingTables, Function.update_of_ne (by decide)] at noTable
      rw [Database.indexes_addIndex, Function.update_of_ne (by decide), bindingIndexes] at noIndex
      exact ⟨noTable, (Option.or_eq_none_iff.mp noIndex).2⟩
  · have counterless := Database.dropTable_addIndex onCounter unusedCounter.2
    have deviceless := Database.dropTable_addIndex onDevice unusedDevice.2
    have accountless := Database.dropTable_addIndex onAccount unusedAccount.2
    rw [runAll, Ddl.run]
    dsimp only at counterless deviceless accountless
    rw [counterless, Database.dropTable_createTable counted, ok_bind, runAll, Ddl.run, deviceless,
      accountless, Database.dropTable_createTable created, ok_bind, runAll]

/-- `device_bindings` without rows, in the form of 0006. -/
def emptyBindings : Table Cell :=
  .empty [
    required "account_id" .string,
    required "device_id" .string,
    optional "device_label" .string,
    required "bound_at" .dateTime,
    optional "last_seen_at" .dateTime]

/-- What is left after the way up and the way down. -/
structure BindingsLost (db back : Database Cell) : Prop where
  tables : back.tables = Function.update db.tables "device_bindings" (some emptyBindings)
  indexes : back.indexes = fun name =>
    if name = "device_bindings_pkey" then some ⟨"device_bindings", ["account_id"], true, true⟩
    else (db.indexes name).filter (·.table ≠ "device_bindings")
  unindexed : back.indexes "ix_device_bindings_device_id" = none

theorem bindingsLost_of_rebuilt {rebuilt : Database Cell} (is : Rebuilt db rebuilt) :
    ∃ back, runAll rebuilt [singleBinding, .dropColumn "subscriptions" "max_trades_per_day",
      .dropColumn "subscriptions" "max_devices"] = .ok back ∧ BindingsLost db back := by
  obtain ⟨⟨table, found, newDevices, newTrades, tables⟩, indexes, free⟩ := is
  have unused := free "device_bindings" (by simp)
  have distinct : (emptyBindings.columns.map (·.name)).Nodup := by decide
  have freeKey : ∀ entry ∈ [("device_bindings_pkey", ["account_id"])], rebuilt.Free entry.1 := by
    simpa using free "device_bindings_pkey" (by simp)
  obtain ⟨single, created⟩ :=
    Database.createTable_ok unused distinct (by decide) freeKey (by decide)
  obtain ⟨_, _, singleTables, singleIndexes⟩ := Database.createTable_eq_ok created
  have capped : single.tables "subscriptions" =
      some ((table.addColumn maxDevicesColumn).addColumn maxTradesColumn) := by
    rw [singleTables, Function.update_of_ne (by decide), tables,
      Function.update_of_ne (by decide), Function.update_self]
  have last (table : Table Cell) (column : Column Cell) :
      column.name ∈ (table.addColumn column).names := by
    rw [Table.names_addColumn]
    exact List.mem_append_right _ (List.mem_singleton_self _)
  obtain ⟨one, droppedTrades, oneTables, oneIndexes⟩ :=
    Database.dropColumn_ok capped (last (table.addColumn maxDevicesColumn) maxTradesColumn)
  rw [Table.dropColumn_addColumn newTrades] at oneTables
  have uncapped : one.tables "subscriptions" = some (table.addColumn maxDevicesColumn) := by
    rw [oneTables, Function.update_self]
  obtain ⟨back, droppedDevices, backTables, backIndexes⟩ :=
    Database.dropColumn_ok uncapped (last table maxDevicesColumn)
  rw [Table.dropColumn_addColumn newDevices, oneTables, Function.update_idem, singleTables,
    tables] at backTables
  have left : back.indexes = fun name =>
      if name = "device_bindings_pkey" then some ⟨"device_bindings", ["account_id"], true, true⟩
      else (db.indexes name).filter (·.table ≠ "device_bindings") := by
    funext name
    rw [backIndexes, oneIndexes, singleIndexes, indexes]
    dsimp only
    by_cases own : name = "device_bindings_pkey"
    · subst own
      rfl
    · have other : Database.constraintIndexes "device_bindings"
          [("device_bindings_pkey", ["account_id"])] name = none := by
        rw [Database.constraintIndexes, List.lookup_cons, beq_eq_false_iff_ne.mpr own]
        rfl
      rw [other, Option.none_or, if_neg own]
      cases held : db.indexes name with
      | none => rfl
      | some index =>
          have fresh : maxTradesColumn.name ∉ table.names := fun member =>
            newTrades (by rw [Table.names_addColumn]; exact List.mem_append_left _ member)
          have noDevices := Database.not_mentions found newDevices held
          have noTrades := Database.not_mentions found fresh held
          by_cases binding : index.table = "device_bindings"
          · rw [Option.filter_some, if_neg (by simp [binding]), Option.filter_none,
              Option.filter_none]
          · rw [Option.filter_some, if_pos (decide_eq_true binding), Option.filter_some,
              if_pos (decide_eq_true noTrades), Option.filter_some,
              if_pos (decide_eq_true noDevices)]
  refine ⟨back, ?_, ?_, left, ?_⟩
  · have bound : singleBinding.run rebuilt = .ok single := created
    have tradeless : (Ddl.dropColumn "subscriptions" "max_trades_per_day").run single = .ok one :=
      droppedTrades
    have deviceless : (Ddl.dropColumn "subscriptions" "max_devices").run one = .ok back :=
      droppedDevices
    rw [runAll, bound, ok_bind, runAll, tradeless, ok_bind, runAll, deviceless, ok_bind, runAll]
  · rw [backTables, Function.update_idem, Function.update_comm (by decide), Function.update_idem,
      ← found, Function.update_eq_self]
    rfl
  · rw [left]
    dsimp only
    rw [if_neg (by decide)]
    exact (congrFun indexes _).symm.trans (free "ix_device_bindings_device_id" (by simp)).2

/-- The way down from 0006 looks for an index. -/
theorem downgrade_refused (unindexed : db.indexes "ix_device_bindings_device_id" = none) :
    ∃ e, runAll db devicesDownloadPlan.downgrade = .error e := by
  cases ran : runAll db devicesDownloadPlan.downgrade with
  | error e => exact ⟨e, rfl⟩
  | ok after =>
      obtain ⟨tokens, dropped, ran⟩ := bind_eq_ok.mp ran
      have withoutIndex := Database.dropIndex_eq_ok dropped
      obtain ⟨bindings, dropped, ran⟩ := bind_eq_ok.mp ran
      have withoutTable := Database.dropTable_eq_ok dropped
      obtain ⟨_, dropped, _⟩ := bind_eq_ok.mp ran
      have missing : bindings.indexes "ix_device_bindings_device_id" = none := by
        rw [withoutTable, Database.indexes_without, withoutIndex, Database.indexes_removeIndex]
        dsimp only
        rw [Function.update_of_ne (by decide), unindexed, Option.filter_none]
      rw [Ddl.run, Database.dropIndex, missing] at dropped
      cases dropped

/-- **The seventh revision.**  Its way back always works, gives back every other table as it was,
loses the bindings, and blocks the next way down. -/
theorem downgrade_commercialPlans (ran : runAll db commercialPlans.upgrade = .ok after) :
    ∃ back, runAll after commercialPlans.downgrade = .ok back ∧ BindingsLost db back ∧
      ∃ e, runAll back devicesDownloadPlan.downgrade = .error e := by
  obtain ⟨rebuilt, is, dropped⟩ := rebuilt_of_upgrade ran
  obtain ⟨back, ran, lost⟩ := bindingsLost_of_rebuilt is
  refine ⟨back, ?_, lost, downgrade_refused lost.unindexed⟩
  have split : commercialPlans.downgrade =
      [.dropTable "trade_daily_counters", .dropTable "device_bindings"] ++
        [singleBinding, .dropColumn "subscriptions" "max_trades_per_day",
          .dropColumn "subscriptions" "max_devices"] := rfl
  rw [split, runAll_append, dropped, ok_bind, ran]

theorem downgrade_commercialPlans_small :
    ∃ back, runAll (smallAfter commercialPlans.upgrade) commercialPlans.downgrade = .ok back ∧
      BindingsLost smallDatabase back ∧
        ∃ e, runAll back devicesDownloadPlan.downgrade = .error e :=
  downgrade_commercialPlans rfl

end CommercialPlans

end Aegis.Storage
