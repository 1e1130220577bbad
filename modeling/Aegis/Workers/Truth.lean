import Aegis.Workers.Abandoned

/-!
# What the registry says

`is_running` reads a Redis hash that only `ensure_worker` and `stop_worker` write, and a
worker process has five ways to end on its own.  `truthful_of_keeps` says in which runs the
registry is right all the same, and `inTune_iff` makes the condition exact.
-/

namespace Aegis.Workers

open Aegis.Lib Aegis.Subscriptions

/-! ## The state of an account -/

namespace Turn

/-- The account of the call that holds the lock. -/
def about : Turn → Option String
  | .idle => none
  | .stashing accountId _ | .spawning accountId | .registering accountId
  | .removing accountId _ | .stopping accountId _ | .waiting accountId _ _ => some accountId

/-- The registry field is about to be written. -/
def Registers (accountId : String) (turn : Turn) : Prop := turn = .registering accountId

/-- The registry field is about to be removed. -/
def Removes (accountId : String) : Turn → Prop
  | .removing other _ => other = accountId
  | _ => False

/-- The registry field is removed, and the process will be gone. -/
def Condemns (accountId : String) (pid : ℕ) : Turn → Prop
  | .stopping other (some process) | .waiting other process _ =>
      other = accountId ∧ process = pid
  | _ => False

/-- The call goes by the process. -/
def Mentions (pid : ℕ) : Turn → Prop
  | .removing _ (some process) | .stopping _ (some process) | .waiting _ process _ =>
      process = pid
  | _ => False

variable {accountId : String} {pid : ℕ} {turn : Turn}

theorem about_of_removes (removes : turn.Removes accountId) : turn.about = some accountId := by
  cases turn <;> cases removes
  rfl

theorem about_of_condemns (condemns : turn.Condemns accountId pid) :
    turn.about = some accountId := by
  unfold Condemns at condemns
  split at condemns
  · exact congrArg some condemns.1
  · exact congrArg some condemns.1
  · exact condemns.elim

theorem mentions_of_condemns (condemns : turn.Condemns accountId pid) : turn.Mentions pid := by
  unfold Condemns at condemns
  split at condemns
  · exact condemns.2
  · exact condemns.2
  · exact condemns.elim

end Turn

namespace Floor

variable {ι : Type}

/-- `is_running`. -/
def Running (s : Floor ι) (accountId : String) : Prop := accountId ∈ s.workerRegistry

/-- The account has a live worker process. -/
def Staffed (s : Floor ι) (accountId : String) : Prop :=
  ∃ pid, s.aliveFor accountId pid = true

/-- A call of `ensure_worker` or `stop_worker` for the account is under way. -/
def Busy (s : Floor ι) (accountId : String) : Prop :=
  ∃ i, (s.instances i).turn.about = some accountId

/-- The registry tells the truth about every account that is not being worked on. -/
def Truthful (s : Floor ι) : Prop :=
  ∀ accountId, ¬ s.Busy accountId → (s.Running accountId ↔ s.Staffed accountId)

def Registering (s : Floor ι) (accountId : String) : Prop :=
  ∃ i, (s.instances i).turn.Registers accountId

def Removing (s : Floor ι) (accountId : String) : Prop :=
  ∃ i, (s.instances i).turn.Removes accountId

def Condemned (s : Floor ι) (accountId : String) (pid : ℕ) : Prop :=
  ∃ i, (s.instances i).turn.Condemns accountId pid

/-- The process is alive, and no `stop_worker` is about to end it. -/
def Serves (s : Floor ι) (accountId : String) (pid : ℕ) : Prop :=
  s.aliveFor accountId pid = true ∧ ¬ s.Condemned accountId pid

/-- The account is in the registry, or will be. -/
def Claimed (s : Floor ι) (accountId : String) : Prop :=
  s.Running accountId ∨ s.Registering accountId

/-- What the registry says of the account agrees with its workers, when the calls that are
under way are taken into account. -/
def TunedFor (s : Floor ι) (accountId : String) : Prop :=
  ¬ s.Removing accountId → (s.Claimed accountId ↔ ∃ pid, s.Serves accountId pid)

def InTune (s : Floor ι) : Prop := ∀ accountId, s.TunedFor accountId

/-- A process that ends on its own now leaves another one behind, unless it is being
stopped. -/
def EndsStaffed (s : Floor ι) (pid : ℕ) : Prop :=
  ∀ accountId, s.Serves accountId pid → ¬ s.Removing accountId →
    ∃ other, other ≠ pid ∧ s.Serves accountId other

/-- A field of the registry that is removed now is that of an account whose workers are all
being stopped, or are about to be registered. -/
def RemovesLast (s : Floor ι) [DecidableEq ι] (i : ι) : Prop :=
  ∀ accountId process, (s.instances i).turn = .removing accountId process →
    (∀ j, j ≠ i → ¬ (s.instances j).turn.Removes accountId) →
      (s.Registering accountId ↔ ∃ pid, process ≠ some pid ∧ s.Serves accountId pid)

/-- What an event that may put the registry out of tune has to find. -/
def Keeps [DecidableEq ι] (s : Floor ι) : Event ι → Prop
  | .worker pid .exit => (∃ accountId, s.processes[pid]? = some ⟨accountId, .leaving⟩) →
      s.EndsStaffed pid
  | .worker pid .crash => s.EndsStaffed pid
  | .manager i .registryRemove => s.RemovesLast i
  | _ => True

variable {s after : Floor ι} {accountId : String}

/-- Between the calls, being in tune is telling the truth. -/
theorem InTune.truthful (tuned : s.InTune) : s.Truthful := by
  intro accountId free
  have still : ¬ s.Removing accountId := fun ⟨i, removes⟩ =>
    free ⟨i, Turn.about_of_removes removes⟩
  have calm : ¬ s.Registering accountId := fun ⟨i, registers⟩ =>
    free ⟨i, by rw [registers]; rfl⟩
  have spared (pid : ℕ) : ¬ s.Condemned accountId pid := fun ⟨i, condemns⟩ =>
    free ⟨i, Turn.about_of_condemns condemns⟩
  calc s.Running accountId ↔ s.Claimed accountId := (or_iff_left calm).symm
    _ ↔ ∃ pid, s.Serves accountId pid := tuned accountId still
    _ ↔ s.Staffed accountId := exists_congr fun pid => and_iff_left (spared pid)

/-! ## Live processes after a step -/

theorem aliveFor_setPhase_exited {pid other : ℕ}
    (processes : after.processes = (s.setPhase pid .exited).processes) :
    after.aliveFor accountId other = true ↔ other ≠ pid ∧ s.aliveFor accountId other = true := by
  unfold aliveFor
  rw [processes, processes_setPhase]
  by_cases own : pid = other
  · subst own
    cases s.processes[pid]? <;> simp [Phase.alive]
  · rw [if_neg own]
    exact (and_iff_right (Ne.symm own)).symm

theorem aliveFor_append {account : String} {pid : ℕ}
    (processes : after.processes = s.processes ++ [⟨account, .starting⟩]) :
    after.aliveFor accountId pid = true ↔
      s.aliveFor accountId pid = true ∨ pid = s.processes.length ∧ account = accountId := by
  unfold aliveFor
  rw [processes, List.getElem?_append]
  by_cases within : pid < s.processes.length
  · rw [if_pos within]
    exact (or_iff_left fun new => absurd new.1 (Nat.ne_of_lt within)).symm
  · rw [if_neg within, List.getElem?_eq_none (not_lt.mp within)]
    by_cases last : pid = s.processes.length
    · subst last
      simp [Phase.alive]
    · have beyond : pid - s.processes.length ≠ 0 := by omega
      obtain ⟨more, same⟩ := Nat.exists_eq_succ_of_ne_zero beyond
      rw [same]
      simp [last]

theorem Works.aliveFor {pid other : ℕ} {account : String} {phase : Phase} {event : WorkerEvent}
    (process : s.processes[pid]? = some ⟨account, phase⟩)
    (works : Works s pid account phase event after) (stays : event ≠ .exit)
    (lives : event ≠ .crash) : after.aliveFor accountId other = s.aliveFor accountId other := by
  have alike (next : Phase) (processes : after.processes = (s.setPhase pid next).processes)
      (same : next.alive = phase.alive) :
      after.aliveFor accountId other = s.aliveFor accountId other := by
    unfold Floor.aliveFor
    rw [processes, processes_setPhase]
    by_cases own : pid = other
    · subst own
      rw [if_pos rfl, process]
      simp [same]
    · rw [if_neg own]
  cases works with
  | exit => exact (stays rfl).elim
  | crash => exact (lives rfl).elim
  | _ => exact alike _ rfl rfl

/-! ## Turns after a step -/

section Turns

variable [DecidableEq ι] {i : ι} {held : Instance}

theorem exists_turn_iff {P : Turn → Prop}
    (update : after.instances = Function.update s.instances i held) :
    (∃ j, P (after.instances j).turn) ↔ P held.turn ∨ ∃ j, j ≠ i ∧ P (s.instances j).turn := by
  rw [update]
  constructor
  · intro held
    rcases held with ⟨j, holds⟩
    by_cases own : j = i
    · subst own
      rw [Function.update_self] at holds
      exact .inl holds
    · rw [Function.update_of_ne own] at holds
      exact .inr ⟨j, own, holds⟩
  · intro either
    rcases either with holds | ⟨j, other, holds⟩
    · exact ⟨i, by rw [Function.update_self]; exact holds⟩
    · exact ⟨j, by rw [Function.update_of_ne other]; exact holds⟩

theorem exists_turn_congr {P : Turn → Prop}
    (update : after.instances = Function.update s.instances i held)
    (same : P held.turn ↔ P (s.instances i).turn) :
    (∃ j, P (after.instances j).turn) ↔ ∃ j, P (s.instances j).turn := by
  rw [exists_turn_iff update, same]
  constructor
  · intro either
    rcases either with holds | ⟨j, _, holds⟩
    · exact ⟨i, holds⟩
    · exact ⟨j, holds⟩
  · intro held
    rcases held with ⟨j, holds⟩
    by_cases own : j = i
    · exact .inl (own ▸ holds)
    · exact .inr ⟨j, own, holds⟩

end Turns

/-! ## Steps that keep the registry in tune -/

/-- Nothing has changed for the account that `InTune` speaks of. -/
structure Alike (s after : Floor ι) (accountId : String) : Prop where
  removing : after.Removing accountId ↔ s.Removing accountId
  claimed : after.Claimed accountId ↔ s.Claimed accountId
  serves : (∃ pid, after.Serves accountId pid) ↔ ∃ pid, s.Serves accountId pid

theorem Alike.of_instances (instances : after.instances = s.instances)
    (registry : after.workerRegistry = s.workerRegistry)
    (alive : ∀ pid, after.aliveFor accountId pid = s.aliveFor accountId pid) :
    Alike s after accountId := by
  constructor
  · rw [Removing, Removing, instances]
  · rw [Claimed, Claimed, Running, Running, Registering, Registering, registry, instances]
  · refine exists_congr fun pid => ?_
    rw [Serves, Serves, Condemned, Condemned, instances, alive]

theorem Alike.tuned_iff (alike : Alike s after accountId) :
    after.TunedFor accountId ↔ s.TunedFor accountId := by
  rw [TunedFor, TunedFor, alike.removing, alike.claimed, alike.serves]

theorem Works.alike {pid : ℕ} {account : String} {phase : Phase} {event : WorkerEvent}
    (process : s.processes[pid]? = some ⟨account, phase⟩)
    (works : Works s pid account phase event after) (stays : event ≠ .exit)
    (lives : event ≠ .crash) : Alike s after accountId := by
  refine .of_instances ?_ ?_ fun _ => works.aliveFor process stays lives
  · cases works <;> rfl
  · cases works <;> rfl

/-- The processes that calls go by were spawned. -/
structure Tidy (s : Floor ι) : Prop where
  workers : ∀ i accountId pid, (s.instances i).workers.lookup accountId = some pid →
    pid < s.processes.length
  turns : ∀ i pid, (s.instances i).turn.Mentions pid → pid < s.processes.length

theorem Tidy.not_condemned (tidy : s.Tidy) : ¬ s.Condemned accountId s.processes.length :=
  fun ⟨i, condemns⟩ => Nat.lt_irrefl _ (tidy.turns i _ (Turn.mentions_of_condemns condemns))

section Manager

variable [DecidableEq ι] {i : ι} {held : Instance}

theorem Alike.of_turn (update : after.instances = Function.update s.instances i held)
    (registry : after.Running accountId ↔ s.Running accountId)
    (alive : ∀ pid, after.aliveFor accountId pid = s.aliveFor accountId pid)
    (removes : held.turn.Removes accountId ↔ (s.instances i).turn.Removes accountId)
    (registers : held.turn.Registers accountId ↔ (s.instances i).turn.Registers accountId)
    (condemns : ∀ pid, held.turn.Condemns accountId pid ↔
      (s.instances i).turn.Condemns accountId pid) : Alike s after accountId := by
  constructor
  · exact exists_turn_congr update removes
  · exact or_congr registry (exists_turn_congr update registers)
  · refine exists_congr fun pid => ?_
    rw [Serves, Serves, alive, Condemned, Condemned, exists_turn_congr update (condemns pid)]

theorem inTune_spawn (tidy : s.Tidy) (tuned : s.InTune) {account : String}
    (turn : (s.instances i).turn = .spawning account)
    (update : after.instances = Function.update s.instances i held)
    (next : held.turn = .registering account)
    (processes : after.processes = s.processes ++ [⟨account, .starting⟩])
    (registry : after.workerRegistry = s.workerRegistry) : after.InTune := by
  intro accountId still
  by_cases own : account = accountId
  · subst own
    refine iff_of_true (.inr ⟨i, ?_⟩) ⟨s.processes.length, ?_, ?_⟩
    · rw [update, Function.update_self]
      exact next
    · exact (aliveFor_append processes).mpr (.inr ⟨rfl, rfl⟩)
    · intro condemned
      refine tidy.not_condemned ((exists_turn_congr update ?_).mp condemned)
      rw [next, turn]
      exact Iff.rfl
  · have alike : Alike s after accountId := by
      apply Alike.of_turn update
      · rw [Running, Running, registry]
      · intro pid
        rw [Bool.eq_iff_iff, aliveFor_append processes]
        exact or_iff_left fun new => own new.2
      · rw [next, turn]
        exact Iff.rfl
      · rw [next, turn]
        refine iff_of_false (fun same => own ?_) nofun
        cases same
        rfl
      · intro pid
        rw [next, turn]
        exact Iff.rfl
    exact alike.tuned_iff.mpr (tuned accountId) still

theorem alike_register {account : String} (turn : (s.instances i).turn = .registering account)
    (update : after.instances = Function.update s.instances i held) (next : held.turn = .idle)
    (processes : after.processes = s.processes)
    (registry : after.workerRegistry = insert account s.workerRegistry) :
    Alike s after accountId := by
  have removing : after.Removing accountId ↔ s.Removing accountId := by
    apply exists_turn_congr update
    rw [next, turn]
    exact Iff.rfl
  have serves (pid : ℕ) : after.Serves accountId pid ↔ s.Serves accountId pid := by
    rw [Serves, Serves, aliveFor, aliveFor, processes]
    refine and_congr_right' (not_congr (exists_turn_congr update ?_))
    rw [next, turn]
    exact Iff.rfl
  refine ⟨removing, ?_, exists_congr serves⟩
  unfold Claimed Running
  rw [registry, Finset.mem_insert]
  by_cases own : accountId = account
  · subst own
    exact iff_of_true (.inl (.inl rfl)) (.inr ⟨i, turn⟩)
  · rw [or_iff_right own]
    refine or_congr_right (exists_turn_congr update ?_)
    rw [next, turn]
    refine iff_of_false nofun (fun same => own ?_)
    cases same
    rfl

/-- The wait of a `stop_worker` is over, and the process is gone. -/
theorem alike_waited {account : String} {pid : ℕ} {since : ℤ}
    (turn : (s.instances i).turn = .waiting account pid since)
    (update : after.instances = Function.update s.instances i held) (next : held.turn = .idle)
    (registry : after.workerRegistry = s.workerRegistry)
    (alive : ∀ accountId other, after.aliveFor accountId other = true ↔
      s.aliveFor accountId other = true ∧ ¬ (accountId = account ∧ other = pid)) :
    Alike s after accountId := by
  have removing : after.Removing accountId ↔ s.Removing accountId := by
    apply exists_turn_congr update
    rw [next, turn]
    exact Iff.rfl
  have registering : after.Registering accountId ↔ s.Registering accountId := by
    apply exists_turn_congr update
    rw [next, turn]
    exact iff_of_false nofun nofun
  refine ⟨removing, ?_, exists_congr fun other => ?_⟩
  · rw [Claimed, Claimed, Running, Running, registry, registering]
  · unfold Serves
    rw [alive]
    by_cases own : accountId = account ∧ other = pid
    · refine iff_of_false (fun serves => serves.1.2 own) fun serves => serves.2 ⟨i, ?_⟩
      rw [turn, own.1, own.2]
      exact ⟨rfl, rfl⟩
    · rw [and_iff_left own]
      refine and_congr_right' (not_congr (exists_turn_congr update ?_))
      rw [next, turn]
      exact iff_of_false nofun fun same => own ⟨same.1.symm, same.2.symm⟩

theorem Manages.inTune {event : ManagerEvent} (manages : Manages s i event after)
    (tidy : s.Tidy) (tuned : s.InTune) (other : event ≠ .registryRemove) : after.InTune := by
  -- a turn that none of the three notions looks at
  have quiet {held : Instance} (update : after.instances = Function.update s.instances i held)
      (registry : after.workerRegistry = s.workerRegistry)
      (processes : after.processes = s.processes) (accountId : String)
      (removes : held.turn.Removes accountId ↔ (s.instances i).turn.Removes accountId)
      (registers : held.turn.Registers accountId ↔ (s.instances i).turn.Registers accountId)
      (condemns : ∀ pid, held.turn.Condemns accountId pid ↔
        (s.instances i).turn.Condemns accountId pid) : after.TunedFor accountId := by
    refine (Alike.of_turn update ?_ ?_ removes registers condemns).tuned_iff.mpr (tuned accountId)
    · rw [Running, Running, registry]
    · intro pid
      rw [aliveFor, aliveFor, processes]
  cases manages with
  | full turn | ensureWorker turn | stash turn =>
      intro accountId
      refine quiet rfl rfl rfl accountId ?_ ?_ fun pid => ?_ <;> rw [turn]
      all_goals exact iff_of_false nofun nofun
  | spawn turn => exact inTune_spawn tidy tuned turn rfl rfl rfl rfl
  | register turn =>
      intro accountId
      refine (Alike.tuned_iff ?_).mpr (tuned accountId)
      exact alike_register turn rfl rfl rfl rfl
  | @stopWorker account turn =>
      intro accountId
      by_cases own : account = accountId
      · subst own
        intro still
        refine (still ⟨i, ?_⟩).elim
        change ((Function.update s.instances i _) i).turn.Removes account
        rw [Function.update_self]
        rfl
      · refine quiet rfl rfl rfl accountId ?_ ?_ fun pid => ?_ <;> rw [turn]
        · exact iff_of_false own nofun
        · exact iff_of_false nofun nofun
        · exact iff_of_false nofun nofun
  | remove => exact (other rfl).elim
  | release turn fresh =>
      intro accountId
      refine quiet rfl rfl rfl accountId ?_ ?_ fun pid => ?_ <;> rw [turn]
      all_goals exact iff_of_false nofun nofun
  | await turn fresh =>
      intro accountId
      refine quiet rfl rfl rfl accountId ?_ ?_ fun pid => ?_ <;> rw [turn]
      · exact Iff.rfl
      · exact iff_of_false nofun nofun
      · exact Iff.rfl
  | @gone account pid since turn dead =>
      intro accountId
      refine (Alike.tuned_iff ?_).mpr (tuned accountId)
      refine alike_waited turn rfl rfl rfl fun accountId other => ?_
      refine (and_iff_left_of_imp ?_).symm
      intro alive held
      rcases held with ⟨rfl, rfl⟩
      exact Bool.false_ne_true (dead.symm.trans alive)
  | @kill account pid since turn alive late =>
      intro accountId
      refine (Alike.tuned_iff ?_).mpr (tuned accountId)
      refine alike_waited turn rfl rfl rfl fun accountId other => ?_
      obtain ⟨phase, process, _⟩ := aliveFor_iff.mp alive
      refine (aliveFor_setPhase_exited rfl).trans
        (and_comm.trans (and_congr_right fun living => ?_))
      refine not_congr (iff_and_self.mpr ?_)
      intro same
      rcases same with rfl
      obtain ⟨_, found, _⟩ := aliveFor_iff.mp living
      rw [process] at found
      cases found
      rfl

/-- `_registry_remove` keeps the registry in tune exactly when the account's other workers
are in it anew. -/
theorem inTune_remove_iff (tuned : s.InTune) {account : String} {process : Option ℕ}
    (turn : (s.instances i).turn = .removing account process)
    (update : after.instances = Function.update s.instances i held)
    (next : held.turn = .stopping account process) (processes : after.processes = s.processes)
    (registry : after.workerRegistry = s.workerRegistry.erase account) :
    after.InTune ↔ s.RemovesLast i := by
  have alive (accountId : String) (pid : ℕ) :
      after.aliveFor accountId pid = s.aliveFor accountId pid := by
    rw [aliveFor, aliveFor, processes]
  have removing : ¬ after.Removing account ↔
      ∀ j, j ≠ i → ¬ (s.instances j).turn.Removes account := by
    rw [Removing, exists_turn_iff update, next, or_iff_right nofun]
    push Not
    exact Iff.rfl
  have claimed : after.Claimed account ↔ s.Registering account := by
    rw [Claimed, Running, registry, or_iff_right (Finset.notMem_erase _ _)]
    refine exists_turn_congr update ?_
    rw [next, turn]
    exact iff_of_false nofun nofun
  have serves (pid : ℕ) :
      after.Serves account pid ↔ process ≠ some pid ∧ s.Serves account pid := by
    have condemned : after.Condemned account pid ↔
        process = some pid ∨ s.Condemned account pid := by
      rw [Condemned, exists_turn_iff update, next]
      refine or_congr ?_ (exists_congr fun j => and_iff_right_of_imp ?_)
      · cases process with
        | none => exact iff_of_false id nofun
        | some other => exact (and_iff_right rfl).trans Option.some_inj.symm
      · intro condemns same
        rcases same with rfl
        rw [turn] at condemns
        exact condemns
    rw [Serves, alive, condemned, not_or]
    exact and_left_comm
  have mine : after.TunedFor account ↔ s.RemovesLast i := by
    rw [TunedFor, removing, claimed, exists_congr serves, RemovesLast]
    constructor
    · intro agree accountId other same
      cases turn.symm.trans same
      exact agree
    · exact fun agree => agree account process turn
  constructor
  · exact fun all => mine.mp (all account)
  · intro last accountId
    by_cases own : account = accountId
    · subst own
      exact mine.mpr last
    · have alike : Alike s after accountId := by
        apply Alike.of_turn update
        · rw [Running, Running, registry, Finset.mem_erase, and_iff_right (Ne.symm own)]
        · exact alive accountId
        · rw [next, turn]
          exact iff_of_false nofun own
        · rw [next, turn]
          exact iff_of_false nofun nofun
        · intro pid
          rw [next, turn]
          refine iff_of_false ?_ nofun
          cases process with
          | none => nofun
          | some _ => exact fun same => own same.1
      exact alike.tuned_iff.mpr (tuned accountId)

end Manager

/-- A process that ends. -/
theorem inTune_end_iff (tuned : s.InTune) {pid : ℕ} (instances : after.instances = s.instances)
    (registry : after.workerRegistry = s.workerRegistry)
    (processes : after.processes = (s.setPhase pid .exited).processes) :
    after.InTune ↔ s.EndsStaffed pid := by
  have serves (accountId : String) (other : ℕ) :
      after.Serves accountId other ↔ other ≠ pid ∧ s.Serves accountId other := by
    rw [Serves, Serves, aliveFor_setPhase_exited processes, Condemned, Condemned, instances,
      and_assoc]
  have agrees (accountId : String) : after.TunedFor accountId ↔ (¬ s.Removing accountId →
      (s.Claimed accountId ↔ ∃ other, other ≠ pid ∧ s.Serves accountId other)) := by
    rw [TunedFor, exists_congr (serves accountId), Removing, Removing, instances, Claimed, Claimed,
      Running, Running, registry, Registering, Registering, instances]
  constructor
  · intro all accountId serving still
    have claimed := (tuned accountId still).mpr ⟨pid, serving⟩
    exact ((agrees accountId).mp (all accountId) still).mp claimed
  · intro staffed accountId
    rw [agrees]
    intro still
    rw [tuned accountId still]
    constructor
    · intro held
      rcases held with ⟨other, serving⟩
      by_cases own : other = pid
      · subst own
        exact staffed accountId serving still
      · exact ⟨other, own, serving⟩
    · intro held
      rcases held with ⟨other, _, serving⟩
      exact ⟨other, serving⟩

section Run

theorem Tidy.opening (now : ℤ) : (opening ι now).Tidy where
  workers := nofun
  turns := nofun

theorem InTune.opening (now : ℤ) : (opening ι now).InTune := by
  intro accountId _
  refine iff_of_false ?_ nofun
  intro either
  rcases either with running | ⟨i, registers⟩
  · cases running
  · cases registers

theorem Tidy.of_instances (tidy : s.Tidy) (instances : after.instances = s.instances)
    (length : after.processes.length = s.processes.length) : after.Tidy := by
  constructor
  · rw [instances, length]
    exact tidy.workers
  · rw [instances, length]
    exact tidy.turns

variable [DecidableEq ι] {event : Event ι}

theorem Tidy.of_update (tidy : s.Tidy) {i : ι} {held : Instance}
    (update : after.instances = Function.update s.instances i held)
    (grown : s.processes.length ≤ after.processes.length)
    (workers : ∀ accountId pid, held.workers.lookup accountId = some pid →
      pid < after.processes.length)
    (turn : ∀ pid, held.turn.Mentions pid → pid < after.processes.length) : after.Tidy := by
  constructor
  · intro j accountId pid found
    rw [update] at found
    by_cases own : j = i
    · subst own
      rw [Function.update_self] at found
      exact workers accountId pid found
    · rw [Function.update_of_ne own] at found
      exact (tidy.workers j accountId pid found).trans_le grown
  · intro j pid mentions
    rw [update] at mentions
    by_cases own : j = i
    · subst own
      rw [Function.update_self] at mentions
      exact turn pid mentions
    · rw [Function.update_of_ne own] at mentions
      exact (tidy.turns j pid mentions).trans_le grown

theorem lookup_of_erase {workers : AList fun _ : String => ℕ} {account accountId : String} {pid : ℕ}
    (found : (workers.erase account).lookup accountId = some pid) :
    workers.lookup accountId = some pid := by
  by_cases own : accountId = account
  · subst own
    rw [AList.lookup_erase] at found
    cases found
  · rwa [AList.lookup_erase_ne own] at found

theorem Manages.tidy {i : ι} {event : ManagerEvent} (manages : Manages s i event after)
    (tidy : s.Tidy) : after.Tidy := by
  cases manages with
  | full turn | ensureWorker turn =>
      refine tidy.of_update rfl le_rfl ?_ nofun
      exact fun accountId pid found => tidy.workers i accountId pid (lookup_of_erase found)
  | stash turn | register turn | release turn | gone turn =>
      exact tidy.of_update rfl le_rfl (tidy.workers i) nofun
  | @spawn account turn =>
      have grown : s.processes.length <
          (s.processes ++ [(⟨account, .starting⟩ : Process)]).length := by
        rw [List.length_append]
        exact Nat.lt_succ_self _
      refine tidy.of_update rfl grown.le ?_ nofun
      intro accountId pid found
      by_cases own : accountId = account
      · subst own
        cases (AList.lookup_insert _).symm.trans found
        exact grown
      · rw [AList.lookup_insert_ne own] at found
        exact (tidy.workers i accountId pid found).trans grown
  | @stopWorker account turn =>
      refine tidy.of_update rfl le_rfl ?_ ?_
      · exact fun accountId pid found => tidy.workers i accountId pid (lookup_of_erase found)
      · intro pid mentions
        cases found : (s.instances i).workers.lookup account with
        | none =>
            rw [found] at mentions
            cases mentions
        | some other =>
            rw [found] at mentions
            cases mentions
            exact tidy.workers i account pid found
  | @remove account process turn =>
      refine tidy.of_update rfl le_rfl (tidy.workers i) fun pid mentions => ?_
      refine tidy.turns i pid ?_
      rw [turn]
      cases process with
      | none => exact mentions
      | some _ => exact mentions
  | await turn fresh =>
      refine tidy.of_update rfl le_rfl (tidy.workers i) fun pid mentions => ?_
      refine tidy.turns i pid ?_
      rw [turn]
      exact mentions
  | kill turn alive late =>
      refine tidy.of_update rfl ?_ ?_ nofun
      · exact (List.length_modify _ _ _).ge
      · intro accountId pid found
        rw [setTurn, setPhase, setInstance, List.length_modify]
        exact tidy.workers i accountId pid found

theorem Tidy.step (tidy : s.Tidy) (event : Event ι) : (s.step event).Tidy := by
  apply step_of tidy
  intro after steps
  cases steps with
  | pass => exact tidy.of_instances rfl rfl
  | caller calls => cases calls <;> exact tidy.of_instances rfl rfl
  | manager manages => exact manages.tidy tidy
  | worker process works =>
      obtain ⟨next, processes, _⟩ := works.follows
      refine tidy.of_instances ?_ ?_
      · cases works <;> rfl
      · rw [processes]
        exact List.length_modify _ _ _

/-- A step that is neither the end of a process nor the removal of a field. -/
theorem InTune.step (tuned : s.InTune) (tidy : s.Tidy)
    (removes : ∀ i, event ≠ .manager i .registryRemove)
    (exits : ∀ pid, event ≠ .worker pid .exit) (crashes : ∀ pid, event ≠ .worker pid .crash) :
    (s.step event).InTune := by
  apply step_of tuned
  intro after steps
  cases steps with
  | pass => exact tuned
  | caller calls =>
      have same : after.instances = s.instances ∧ after.workerRegistry = s.workerRegistry ∧
          after.processes = s.processes := by
        cases calls <;> exact ⟨rfl, rfl, rfl⟩
      intro accountId
      refine (Alike.of_instances same.1 same.2.1 fun pid => ?_).tuned_iff.mpr (tuned accountId)
      rw [aliveFor, aliveFor, same.2.2]
  | @manager i _ _ manages =>
      refine manages.inTune tidy tuned ?_
      intro same
      rcases same with rfl
      exact removes i rfl
  | @worker pid _ _ _ _ process works =>
      intro accountId
      refine (works.alike process ?_ ?_).tuned_iff.mpr (tuned accountId)
      · intro same
        rcases same with rfl
        exact exits pid rfl
      · intro same
        rcases same with rfl
        exact crashes pid rfl

theorem inTune_registryRemove_iff (tuned : s.InTune) (i : ι) :
    (s.registryRemove i).InTune ↔ s.RemovesLast i := by
  unfold registryRemove
  split
  · next turn => exact inTune_remove_iff tuned turn rfl rfl rfl rfl
  · next other =>
      refine iff_of_true tuned fun accountId process turn => ?_
      exact (other accountId process turn).elim

omit [DecidableEq ι] in
theorem inTune_exit_iff (tuned : s.InTune) (pid : ℕ) :
    (s.exit pid).InTune ↔
      ((∃ accountId, s.processes[pid]? = some ⟨accountId, .leaving⟩) → s.EndsStaffed pid) := by
  unfold exit
  split
  · next accountId process =>
      have ended : (s.setPhase pid .exited).InTune ↔ s.EndsStaffed pid :=
        inTune_end_iff tuned rfl rfl rfl
      exact ended.trans ⟨fun ends _ => ends, fun ends => ends ⟨accountId, process⟩⟩
  · next other =>
      refine iff_of_true tuned ?_
      intro held
      rcases held with ⟨accountId, process⟩
      exact (other accountId process).elim

/-- **Step lemma.** -/
theorem inTune_step_iff (tidy : s.Tidy) (tuned : s.InTune) :
    (s.step event).InTune ↔ s.Keeps event := by
  by_cases removes : ∃ i, event = .manager i .registryRemove
  · obtain ⟨i, rfl⟩ := removes
    exact inTune_registryRemove_iff tuned i
  by_cases exits : ∃ pid, event = .worker pid .exit
  · obtain ⟨pid, rfl⟩ := exits
    exact inTune_exit_iff tuned pid
  by_cases crashes : ∃ pid, event = .worker pid .crash
  · obtain ⟨pid, rfl⟩ := crashes
    change (s.crash pid).InTune ↔ s.EndsStaffed pid
    exact inTune_end_iff tuned rfl rfl rfl
  have kept : s.Keeps event := by
    unfold Keeps
    split
    · exact (exits ⟨_, rfl⟩).elim
    · exact (crashes ⟨_, rfl⟩).elim
    · exact (removes ⟨_, rfl⟩).elim
    · trivial
  refine iff_of_true (tuned.step tidy ?_ ?_ ?_) kept
  · exact fun i same => removes ⟨i, same⟩
  · exact fun pid same => exits ⟨pid, same⟩
  · exact fun pid same => crashes ⟨pid, same⟩

end Run

end Floor

open Floor

/-- **The registry stays in tune** in a run exactly when its steps keep it so. -/
theorem inTune_iff {ι : Type} [DecidableEq ι] {now : ℤ} {events : List (Event ι)} :
    Throughout step InTune (opening ι now) events ↔ EachStep step Keeps (opening ι now) events :=
  throughout_iff_eachStep (Tidy.opening now) (InTune.opening now)
    (fun _ event tidy => tidy.step event) fun _ _ tidy tuned => inTune_step_iff tidy tuned

/-- **The registry tells the truth** in a run whose steps all keep it in tune. -/
theorem truthful_of_keeps {ι : Type} [DecidableEq ι] {now : ℤ} {events : List (Event ι)}
    (each : EachStep step Keeps (opening ι now) events) :
    Throughout step Truthful (opening ι now) events :=
  (inTune_iff.mpr each).mono fun _ tuned => tuned.truthful

/-- A worker is connected and stopped. -/
def stopped : List (Event Unit) :=
  hire () "acc" sampleCredentials ++ logIn 0 ++ dismiss () "acc" "j" ++
    [.worker 0 .popJob, .worker 0 .exit, .manager () .waited]

theorem truthful_of_keeps_stopped :
    EachStep step Keeps (opening Unit 0) stopped ∧
      Throughout step Truthful (opening Unit 0) stopped := by
  have keeps : EachStep step Keeps (opening Unit 0) stopped := by
    refine ⟨trivial, trivial, trivial, trivial, trivial, trivial, trivial, trivial, ?_, trivial,
      trivial, ?_, trivial, trivial⟩
    · intro accountId process turn _
      cases turn
      refine iff_of_false ?_ ?_
      · intro held
        rcases held with ⟨i, registers⟩
        cases registers
      · intro held
        rcases held with ⟨pid, other, alive, _⟩
        cases pid with
        | zero => exact other rfl
        | succ pid => cases alive
    · intro _ accountId serves
      refine (serves.2 ⟨(), ?_⟩).elim
      have own : (decide ("acc" = accountId) && true) = true := serves.1
      exact ⟨of_decide_eq_true ((Bool.and_true _).symm.trans own), rfl⟩
  exact ⟨keeps, truthful_of_keeps keeps⟩

/-- Nobody asks anything of a worker for a quarter of an hour. -/
def idledOut : List (Event Unit) :=
  hire () "acc" sampleCredentials ++ logIn 0 ++
    [.pass 900000000, .worker 0 .idleOut, .worker 0 .exit]

theorem not_truthful_idledOut : ¬ Throughout step Truthful (opening Unit 0) idledOut := by
  intro always
  have last := throughout_iff.mp always idledOut (List.prefix_refl _) "acc"
  have turn : ((exec step (opening Unit 0) idledOut).instances ()).turn = .idle := rfl
  have registry : (exec step (opening Unit 0) idledOut).workerRegistry = {"acc"} := rfl
  have processes : (exec step (opening Unit 0) idledOut).processes = [⟨"acc", .exited⟩] := rfl
  have free : ¬ (exec step (opening Unit 0) idledOut).Busy "acc" := by
    intro held
    rcases held with ⟨i, about⟩
    rw [turn] at about
    cases about
  have running : (exec step (opening Unit 0) idledOut).Running "acc" := by
    rw [Running, registry]
    exact Finset.mem_singleton_self _
  obtain ⟨pid, alive⟩ := (last free).mp running
  rw [aliveFor, processes] at alive
  cases pid with
  | zero => cases alive
  | succ pid => cases alive

end Aegis.Workers
