import Mathlib.Tactic.NormNum
import Aegis.Api.Devices
import Aegis.Lib.Leases

/-!
# The fleet

`DeviceHealthService` keeps a set of known accounts, which only grows, and one key for each
account's last heartbeat, which expires.  A heartbeat is two commands, and may end after the
first one.

`listAll_exec` says what the operator's list shows after any run of heartbeats: every account
that ever completed one, once, with its last heartbeat while that is younger than the time to
live.
-/

namespace Aegis.Api

open Aegis.Lib Aegis.Subscriptions

/-- A heartbeat as the service handles it, and how many of its commands are executed. -/
structure Beat where
  now : ℚ
  heartbeat : HeartbeatRequest
  commands : ℕ

namespace Beat

variable (beat : Beat)

def accountId : String := beat.heartbeat.accountId

/-- The payload is set. -/
def Stored : Prop := 1 ≤ beat.commands

/-- The account is added to the set, too. -/
def Completed : Prop := 2 ≤ beat.commands

instance : Decidable beat.Stored := inferInstanceAs (Decidable (_ ≤ _))

instance : Decidable beat.Completed := inferInstanceAs (Decidable (_ ≤ _))

def step (devices : Devices) (beat : Beat) : Devices :=
  (recordHeartbeat beat.now beat.heartbeat).crash beat.commands devices

def payload : Heartbeat := ⟨beat.heartbeat, beat.now⟩

end Beat

/-- No device has reported yet. -/
def noDevices : Devices := ⟨fun _ => none, [], []⟩

/-- The last payload of the account, as long as it lives. -/
def lastHeartbeat (now : ℚ) (beats : List Beat) (accountId : String) : Option Heartbeat :=
  let stored := beats.filter fun beat => beat.accountId = accountId ∧ beat.Stored
  (stored.getLast?.filter fun last => now < last.now + heartbeatTtlSeconds).map Beat.payload

variable {beats : List Beat} {now : ℚ} {devices : Devices} {accountId : String}

/-- What a heartbeat does, by how far it gets. -/
theorem Beat.step_cases (beat : Beat) (devices : Devices) :
    ¬ beat.Stored ∧ beat.step devices = devices ∨
    beat.Stored ∧ ¬ beat.Completed ∧ beat.step devices = setHealth beat.now beat.heartbeat devices ∨
    beat.Stored ∧ beat.Completed ∧ beat.step devices =
      addKnown beat.accountId (setHealth beat.now beat.heartbeat devices) := by
  unfold Beat.step Beat.Stored Beat.Completed
  rcases commands : beat.commands with _ | _ | n
  · exact .inl ⟨by omega, rfl⟩
  · exact .inr (.inl ⟨by omega, by omega, rfl⟩)
  · refine .inr (.inr ⟨by omega, by omega, ?_⟩)
    cases n with
    | zero => rfl
    | succ n => rfl

/-! ## The keys -/

theorem read_health_step {beat : Beat} (stored : beat.Stored) :
    Expiring.read now ((Beat.step devices beat).health beat.accountId) =
      if now < beat.now + heartbeatTtlSeconds then some beat.payload else none := by
  have set : (Beat.step devices beat).health beat.accountId =
      some ⟨beat.payload, some (beat.now + heartbeatTtlSeconds)⟩ := by
    obtain ⟨unstored, _⟩ | ⟨_, _, after⟩ | ⟨_, _, after⟩ := beat.step_cases devices
    · exact absurd stored unstored
    · rw [after]
      exact Function.update_self ..
    · rw [after]
      exact Function.update_self ..
  rw [set, Expiring.read, Expiring.alive, Option.filter_some]
  split
  next lives => rw [if_pos (by simpa using lives), Option.map_some]
  next gone => rw [if_neg (by simpa using gone), Option.map_none]

theorem health_step_of_ne {beat : Beat} (other : accountId ≠ beat.accountId) :
    (Beat.step devices beat).health accountId = devices.health accountId := by
  obtain ⟨_, after⟩ | ⟨_, _, after⟩ | ⟨_, _, after⟩ := beat.step_cases devices
  · rw [after]
  · rw [after]
    exact Function.update_of_ne other ..
  · rw [after]
    exact Function.update_of_ne other ..

theorem health_step_unstored {beat : Beat} (unstored : ¬ beat.Stored) :
    Beat.step devices beat = devices := by
  obtain ⟨_, after⟩ | ⟨stored, _⟩ | ⟨stored, _⟩ := beat.step_cases devices
  · exact after
  · exact absurd stored unstored
  · exact absurd stored unstored

/-- The last use of a key is all that it shows. -/
theorem foldl_payload (uses : List Beat) :
    uses.foldl (fun _ beat => some beat.payload) none = uses.getLast?.map Beat.payload := by
  rcases List.eq_nil_or_concat uses with rfl | ⟨before, last, rfl⟩
  · rfl
  · rw [List.concat_eq_append, List.foldl_append, List.getLast?_concat]
    rfl

/-- **What a key shows** after any run. -/
theorem read_health_exec
    (clock : beats.Pairwise fun earlier later => earlier.now ≤ later.now)
    (past : ∀ beat ∈ beats, beat.now ≤ now) (accountId : String) :
    Expiring.read now ((exec Beat.step noDevices beats).health accountId) =
      lastHeartbeat now beats accountId := by
  have stored : exec Beat.step noDevices beats =
      exec Beat.step noDevices (beats.filter fun beat => beat.Stored) :=
    exec_filter fun devices beat _ unstored => health_step_unstored (of_decide_eq_false unstored)
  have seen := @Lease.seen_exec ℚ Beat _ Devices String _ _ Beat.now heartbeatTtlSeconds now
    (beats.filter fun beat => beat.Stored) (fun _ beat => some beat.payload) none _ Beat.accountId
    Beat.step (fun devices accountId now => Expiring.read now (devices.health accountId)) noDevices
    (fun beat member _ _ _ => read_health_step (of_decide_eq_true (List.mem_filter.mp member).2))
    (fun _ _ _ other => by rw [health_step_of_ne other]) (fun _ _ => rfl)
    (clock.sublist List.filter_sublist)
    (fun beat member => past beat (List.mem_of_mem_filter member)) accountId
  have both : (fun beat : Beat => decide (beat.accountId = accountId) && decide beat.Stored) =
      fun beat => decide (beat.accountId = accountId ∧ beat.Stored) := by
    funext beat
    exact (Bool.decide_and _ _).symm
  rw [stored, seen, foldl_payload, Lease.getLast?_live, Lease.getLast?_uses, List.filter_filter,
    both, lastHeartbeat]

/-! ## The list -/

/-- The accounts that are known: those with a heartbeat that was completed. -/
theorem known_exec : (exec Beat.step noDevices beats).known.Nodup ∧
    ∀ accountId, accountId ∈ (exec Beat.step noDevices beats).known ↔
      ∃ beat ∈ beats, beat.accountId = accountId ∧ beat.Completed := by
  refine exec_induction (fun (beats : List Beat) (devices : Devices) => devices.known.Nodup ∧
    ∀ accountId, accountId ∈ devices.known ↔
      ∃ beat ∈ beats, beat.accountId = accountId ∧ beat.Completed)
    ⟨List.nodup_nil, by simp [noDevices]⟩ ?_ beats
  intro beats beat ⟨nodup, known⟩
  generalize exec Beat.step noDevices beats = devices at nodup known ⊢
  have mem_concat (accountId : String) :
      (∃ other ∈ beats ++ [beat], other.accountId = accountId ∧ other.Completed) ↔
        (accountId = beat.accountId ∧ beat.Completed) ∨
          ∃ other ∈ beats, other.accountId = accountId ∧ other.Completed := by
    simp only [List.mem_append, List.mem_singleton, or_and_right, exists_or, exists_eq_left]
    rw [or_comm, eq_comm]
  obtain ⟨unstored, after⟩ | ⟨_, incomplete, after⟩ | ⟨_, completed, after⟩ :=
    beat.step_cases devices
  · have incomplete : ¬ beat.Completed := fun completed => unstored (Nat.le_of_succ_le completed)
    rw [after]
    refine ⟨nodup, fun accountId => ?_⟩
    rw [mem_concat, known, or_iff_right fun both => incomplete both.2]
  · rw [after]
    refine ⟨nodup, fun accountId => ?_⟩
    rw [mem_concat, or_iff_right fun both => incomplete both.2]
    exact known accountId
  · rw [after]
    refine ⟨nodup.insert, fun accountId => ?_⟩
    rw [mem_concat, and_iff_left completed, ← known]
    exact List.mem_insert_iff

/-- **The fleet.**  Every account that ever completed a heartbeat is listed once, and no other: with
the last heartbeat that was stored for it, or as offline from the time on when that expires. -/
theorem listAll_exec (clock : beats.Pairwise fun earlier later => earlier.now ≤ later.now)
    (past : ∀ beat ∈ beats, beat.now ≤ now) :
    let devices := exec Beat.step noDevices beats
    ∃ accountIds : List String, accountIds.Nodup ∧
      (∀ accountId, accountId ∈ accountIds ↔
        ∃ beat ∈ beats, beat.accountId = accountId ∧ beat.Completed) ∧
      (listAll now).run devices =
        (.ok (accountIds.map fun accountId => (accountId, lastHeartbeat now beats accountId)),
          devices) := by
  intro devices
  obtain ⟨nodup, known⟩ := @known_exec beats
  refine ⟨devices.known, nodup, known, ?_⟩
  have looked (accountId : String) :
      (do return (accountId, ← getHealth now accountId) :
        Prog Failure Devices (String × Option Heartbeat)).run devices =
        (.ok (accountId, lastHeartbeat now beats accountId), devices) := by
    rw [← read_health_exec clock past accountId]
    rfl
  exact Prog.run_mapM looked devices.known

/-- One that was cut off, and one that expired. -/
def threeBeats : List Beat :=
  [⟨0, ⟨"a", 80, true, 0, true, 0, 1, true, true, 0, "1.0"⟩, 2⟩,
    ⟨100, ⟨"b", 70, false, 0, true, 0, 2, true, true, 0, "1.0"⟩, 1⟩,
    ⟨150, ⟨"c", 60, false, 0, true, 0, 3, true, true, 0, "1.0"⟩, 2⟩]

theorem listAll_exec_threeBeats :
    let devices := exec Beat.step noDevices threeBeats
    ∃ accountIds : List String, accountIds.Nodup ∧
      (∀ accountId, accountId ∈ accountIds ↔
        ∃ beat ∈ threeBeats, beat.accountId = accountId ∧ beat.Completed) ∧
      (listAll 200).run devices =
        (.ok (accountIds.map fun accountId => (accountId, lastHeartbeat 200 threeBeats accountId)),
          devices) :=
  listAll_exec (by norm_num [threeBeats]) (by norm_num [threeBeats])

end Aegis.Api
