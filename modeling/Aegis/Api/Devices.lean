import Mathlib.Algebra.Order.Field.Rat
import Aegis.Lib.Expiring
import Aegis.Lib.Ledger
import Aegis.Subscriptions.Plans

/-!
# Devices

`DeviceHealthService`, with its heartbeat keys and its set of known accounts, and
`DeviceBindingService` with the rows of `device_bindings`.
-/

namespace Aegis.Api

open Aegis.Lib Aegis.Subscriptions

/-! ## Tables and keys -/

structure HeartbeatRequest where
  accountId : String
  batteryPercent : ℤ
  isCharging : Bool
  lastCaptureTimeMs : ℤ
  lastCaptureSucceeded : Bool
  consecutiveFailures : ℤ
  captureCount : ℤ
  mediaProjectionActive : Bool
  batteryOptimizationExempt : Bool
  cachedScreenshotCount : ℤ
  appVersion : String
  deriving DecidableEq

/-- The payload of a `device_health:{account_id}` key. -/
structure Heartbeat extends HeartbeatRequest where
  receivedAt : ℚ
  deriving DecidableEq

/-- A row of `device_bindings`, without its primary key. -/
structure DeviceBinding where
  accountId : String
  deviceId : String
  deviceLabel : Option String
  boundAt : ℤ
  lastSeenAt : Option ℤ
  deriving DecidableEq

structure Devices where
  health : String → Option (Expiring ℚ Heartbeat)
  /-- the members of `devices:known`; `SMEMBERS` answers them in some order -/
  known : List String
  bindings : List DeviceBinding

namespace Devices

variable (devices : Devices)

/-- The rows of the account. -/
def bindingsOf (accountId : String) : List DeviceBinding :=
  devices.bindings.filter (·.accountId = accountId)

def binding (accountId deviceId : String) : Option DeviceBinding :=
  (devices.bindingsOf accountId).find? (·.deviceId = deviceId)

/-- What there is of an account. -/
structure Records where
  health : Option (Expiring ℚ Heartbeat)
  known : Prop
  bindings : List DeviceBinding

def records (accountId : String) : Records :=
  ⟨devices.health accountId, accountId ∈ devices.known, devices.bindingsOf accountId⟩

end Devices

/-! ## `DeviceHealthService` -/

/-- `HEARTBEAT_TTL_SECONDS`. -/
def heartbeatTtlSeconds : ℚ := 180

/-- `SET device_health:{account_id} ... EX 180`. -/
def setHealth (now : ℚ) (heartbeat : HeartbeatRequest) (devices : Devices) : Devices :=
  { devices with
    health := Function.update devices.health heartbeat.accountId
      (some ⟨⟨heartbeat, now⟩, some (now + heartbeatTtlSeconds)⟩) }

/-- `SADD devices:known`. -/
def addKnown (accountId : String) (devices : Devices) : Devices :=
  { devices with known := devices.known.insert accountId }

def recordHeartbeat (now : ℚ) (heartbeat : HeartbeatRequest) : Prog Failure Devices Unit := do
  Prog.modify (setHealth now heartbeat)
  Prog.modify (addKnown heartbeat.accountId)

def getHealth (now : ℚ) (accountId : String) : Prog Failure Devices (Option Heartbeat) :=
  Prog.read fun devices => Expiring.read now (devices.health accountId)

/-- `list_all`: a device without a heartbeat is offline. -/
def listAll (now : ℚ) : Prog Failure Devices (List (String × Option Heartbeat)) := do
  let accountIds ← Prog.read (·.known)
  accountIds.mapM fun accountId => do
    return (accountId, ← getHealth now accountId)

/-! ## `DeviceBindingService` -/

/-- `_max_devices`: a row whose cap is 0 has that of its plan. -/
def maxDevices : Option Subscription → ℤ
  | none => 1
  | some row => if row.maxDevices ≠ 0 then row.maxDevices else (resolvePlan row.plan).maxDevices

/-- What `register` returns. -/
inductive Registration where
  | ok (accountId deviceId : String) (maxDevices : ℤ)
  | rejected (reason : String) (maxDevices : ℤ) (boundCount : ℕ)
  | bound (accountId deviceId : String) (maxDevices : ℤ) (boundCount : ℕ)
  deriving DecidableEq

/-- The row of a device that comes back. -/
def DeviceBinding.seen (now : ℤ) (deviceLabel : Option String) (row : DeviceBinding) :
    DeviceBinding :=
  { row with
    lastSeenAt := some now
    deviceLabel := (deviceLabel.filter (· ≠ "")).or row.deviceLabel }

def touchBinding (now : ℤ) (accountId deviceId : String) (deviceLabel : Option String)
    (devices : Devices) : Devices :=
  { devices with
    bindings := devices.bindings.map fun row =>
      if row.accountId = accountId ∧ row.deviceId = deviceId then row.seen now deviceLabel
      else row }

/-- The insert under the unique constraint. -/
def insertBinding (now : ℤ) (accountId deviceId : String) (deviceLabel : Option String)
    (devices : Devices) : Except Failure Devices :=
  if (devices.binding accountId deviceId).isSome then .error .integrityError
  else
    .ok { devices with
      bindings := devices.bindings ++ [⟨accountId, deviceId, deviceLabel, now, some now⟩] }

/-- `device_id.strip()`, which may not be empty. -/
def strippedId (deviceId : String) : Except Failure String :=
  if strip deviceId = "" then .error (.python .valueError) else .ok (strip deviceId)

/-- `register` once it has stripped the id and read the cap. -/
def bindDevice (now maxDev : ℤ) (accountId deviceId : String) (deviceLabel : Option String) :
    Prog Failure Devices Registration := do
  match ← Prog.read (·.binding accountId deviceId) with
  | some _ =>
      Prog.modify (touchBinding now accountId deviceId deviceLabel)
      return .ok accountId deviceId maxDev
  | none =>
      let count ← Prog.read fun devices => (devices.bindingsOf accountId).length
      if count ≥ maxDev then
        return .rejected "device_limit_reached" maxDev count
      else
        Prog.commit (insertBinding now accountId deviceId deviceLabel)
        return .bound accountId deviceId maxDev (count + 1)

/-- `clear`: how many rows the account had. -/
def clearBindings (accountId : String) : Prog Failure Devices ℕ :=
  Prog.act fun devices =>
    ((devices.bindingsOf accountId).length,
      { devices with bindings := devices.bindings.filter (·.accountId ≠ accountId) })

/-! ## Whose records a call changes -/

section Frame

variable {now : ℚ} {clock maxDev : ℤ} {accountId deviceId other : String}
  {deviceLabel : Option String}

/-- The records of the other account are left alone. -/
def SameDevices (other : String) (before after : Devices) : Prop :=
  after.records other = before.records other

theorem SameDevices.refl (devices : Devices) : SameDevices other devices devices := rfl

theorem sameDevices_setHealth {heartbeat : HeartbeatRequest} (apart : other ≠ heartbeat.accountId)
    (devices : Devices) : SameDevices other devices (setHealth now heartbeat devices) := by
  unfold SameDevices Devices.records setHealth
  congr 1
  exact Function.update_of_ne apart _ _

theorem sameDevices_addKnown (apart : other ≠ accountId) (devices : Devices) :
    SameDevices other devices (addKnown accountId devices) := by
  unfold SameDevices Devices.records addKnown
  congr 1
  rw [List.mem_insert_iff, or_iff_right apart]

theorem sameDevices_touchBinding (apart : other ≠ accountId) (devices : Devices) :
    SameDevices other devices (touchBinding clock accountId deviceId deviceLabel devices) := by
  unfold SameDevices Devices.records Devices.bindingsOf touchBinding
  congr 1
  apply filter_map_elsewhere
  · intro row
    split <;> rfl
  · intro row asked
    refine if_neg fun same => apart ?_
    rw [← of_decide_eq_true asked, same.1]

theorem sameDevices_insertBinding (apart : other ≠ accountId) {devices after : Devices}
    (inserted : insertBinding clock accountId deviceId deviceLabel devices = .ok after) :
    SameDevices other devices after := by
  unfold insertBinding at inserted
  split at inserted
  · cases inserted
  · cases inserted
    unfold SameDevices Devices.records Devices.bindingsOf
    congr 1
    exact filter_append_singleton (decide_eq_false apart.symm)

theorem sameDevices_clearBindings (apart : other ≠ accountId) (devices : Devices) :
    SameDevices other devices { devices with
      bindings := devices.bindings.filter (·.accountId ≠ accountId) } := by
  unfold SameDevices Devices.records Devices.bindingsOf
  congr 1
  rw [List.filter_filter]
  refine List.filter_congr fun row _ => ?_
  by_cases own : row.accountId = other
  · simp [own, apart]
  · simp [own]

theorem guarantees_recordHeartbeat {heartbeat : HeartbeatRequest}
    (apart : other ≠ heartbeat.accountId) :
    (recordHeartbeat now heartbeat).Guarantees (SameDevices other) :=
  .bind (Prog.guarantees_modify (sameDevices_setHealth apart)) fun _ =>
    Prog.guarantees_modify (sameDevices_addKnown apart)

theorem guarantees_bindDevice (apart : other ≠ accountId) :
    (bindDevice clock maxDev accountId deviceId deviceLabel).Guarantees (SameDevices other) := by
  unfold bindDevice
  refine .bind (Prog.guarantees_read SameDevices.refl _) fun existing => ?_
  cases existing with
  | some row =>
      exact .bind (Prog.guarantees_modify (sameDevices_touchBinding apart)) fun _ => trivial
  | none =>
      refine .bind (Prog.guarantees_read SameDevices.refl _) fun count => ?_
      split
      · trivial
      · refine .bind ?_ fun _ => trivial
        exact Prog.guarantees_commit SameDevices.refl fun _ _ inserted =>
          sameDevices_insertBinding apart inserted

end Frame

end Aegis.Api
