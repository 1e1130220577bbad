import Aegis.Workers.Bridge
import Aegis.Workers.Frames

/-!
# The room in the pool

`ensure_worker` counts the entries of `_workers`, dead or alive, and the entry of a process that
has exited stays until a call for the same account.  `candid_iff` says when a pool that is
refused for being full is full of workers that run.
-/

namespace Aegis.Workers

open Aegis.Lib Aegis.Trading

namespace Floor

variable {ι : Type}

section Pool

variable (s : Floor ι) (i : ι) (accountId : String)

/-- `active_worker_count`. -/
def activeWorkerCount : ℕ :=
  (s.instances i).workers.entries.countP fun entry => s.aliveFor entry.1 entry.2

/-- What `ensure_worker` returns before its first `await`, if it returns there. -/
def ensured : Option Bool :=
  match (s.instances i).turn with
  | .idle =>
      let workers := (s.instances i).workers
      if (workers.lookup accountId).any (s.aliveFor accountId) then some true
      else if (workers.erase accountId).entries.length ≥ maxConcurrentWorkers then some false
      else none
  | _ => none

/-- The other accounts fill the pool, and one of their processes has exited. -/
structure Clogged : Prop where
  idle : (s.instances i).turn = .idle
  full : maxConcurrentWorkers ≤ ((s.instances i).workers.erase accountId).entries.length
  exited : ∃ other pid, other ≠ accountId ∧ (s.instances i).workers.lookup other = some pid ∧
    s.aliveFor other pid = false

end Pool

/-- A call of `ensure_worker` on the instance that returns `False` leaves the pool with as many
running workers as it may have. -/
def Candid [DecidableEq ι] (i : ι) (s : Floor ι) (event : Event ι) : Prop :=
  ∀ accountId credentials, event = .manager i (.ensureWorker accountId credentials) →
    s.ensured i accountId = some false → maxConcurrentWorkers ≤ (s.step event).activeWorkerCount i

/-- A call of `ensure_worker` on the instance does not find the pool clogged. -/
def Unclogged (i : ι) (s : Floor ι) (event : Event ι) : Prop :=
  ∀ accountId credentials, event = .manager i (.ensureWorker accountId credentials) →
    ¬ s.Clogged i accountId

end Floor

/-- The call is about to spawn. -/
def Turn.Hires : Turn → Prop
  | stashing _ _ | spawning _ => True
  | _ => False

/-- There are no more entries than there may be, and fewer before a process is spawned. -/
structure Instance.Roomy (held : Instance) : Prop where
  bounded : held.workers.entries.length ≤ maxConcurrentWorkers
  spare : held.turn.Hires → held.workers.entries.length < maxConcurrentWorkers

theorem Instance.Roomy.turned {held : Instance} {turn : Turn} (roomy : held.Roomy)
    (hires : turn.Hires → held.turn.Hires) : Instance.Roomy ⟨held.workers, turn⟩ :=
  ⟨roomy.bounded, fun hiring => roomy.spare (hires hiring)⟩

theorem length_erase_le (workers : AList fun _ : String => ℕ) (accountId : String) :
    (workers.erase accountId).entries.length ≤ workers.entries.length :=
  (List.kerase_sublist accountId workers.entries).length_le

/-- Nothing is erased where nothing gets shorter. -/
theorem lookup_eq_none_of_length {workers : AList fun _ : String => ℕ} {accountId : String}
    (same : workers.entries.length ≤ (workers.erase accountId).entries.length) :
    workers.lookup accountId = none := by
  have kept : workers.erase accountId = workers :=
    AList.ext ((List.kerase_sublist accountId workers.entries).eq_of_length_le same)
  rw [← kept]
  exact AList.lookup_erase accountId workers

theorem mem_entries_erase {workers : AList fun _ : String => ℕ} {accountId other : String}
    {pid : ℕ} :
    ⟨other, pid⟩ ∈ (workers.erase accountId).entries ↔
      other ≠ accountId ∧ workers.lookup other = some pid := by
  rw [← AList.mem_lookup_iff, Option.mem_def]
  by_cases own : other = accountId
  · subst own
    rw [AList.lookup_erase]
    exact ⟨nofun, fun both => absurd rfl both.1⟩
  · rw [AList.lookup_erase_ne own]
    exact (and_iff_right own).symm

namespace Floor

variable {ι : Type} [DecidableEq ι] {s after : Floor ι} {i : ι} {accountId : String}
  {credentials : Credentials}

theorem instances_setInstance (s : Floor ι) (i : ι) (held : Instance) :
    (s.setInstance i held).instances i = held := by
  change Function.update s.instances i held i = held
  exact Function.update_self i held s.instances

/-! ## `ensure_worker` up to its first `await` -/

theorem ensureWorker_full (turn : (s.instances i).turn = .idle)
    (free : ¬ s.holds i accountId = true)
    (full : maxConcurrentWorkers ≤ ((s.instances i).workers.erase accountId).entries.length) :
    s.ensureWorker i accountId credentials =
      s.setInstance i ⟨(s.instances i).workers.erase accountId, .idle⟩ := by
  unfold ensureWorker
  rw [turn]
  exact (if_neg free).trans (if_pos full)

/-- One step, with the conditions that `ensure_worker` checks. -/
theorem step_of_guarded {P : Floor ι → Prop} {event : Event ι} (same : P s)
    (full : ∀ i accountId, (s.instances i).turn = .idle → ¬ s.holds i accountId = true →
      P (s.setInstance i ⟨(s.instances i).workers.erase accountId, .idle⟩))
    (hires : ∀ i accountId credentials, (s.instances i).turn = .idle →
      ¬ s.holds i accountId = true →
        ((s.instances i).workers.erase accountId).entries.length < maxConcurrentWorkers →
          P (s.setInstance i
            ⟨(s.instances i).workers.erase accountId, .stashing accountId credentials⟩))
    (others : ∀ after, Steps s event after →
      (∀ i accountId credentials, event ≠ .manager i (.ensureWorker accountId credentials)) →
        P after) :
    P (s.step event) := by
  by_cases call : ∃ i accountId credentials,
      event = .manager i (.ensureWorker accountId credentials)
  · obtain ⟨i, accountId, credentials, rfl⟩ := call
    exact ensureWorker_of same (full i accountId) (hires i accountId credentials)
  · refine step_of same fun after steps => others after steps ?_
    exact fun i accountId credentials own => call ⟨i, accountId, credentials, own⟩

omit [DecidableEq ι] in
theorem ensured_eq_false_iff :
    s.ensured i accountId = some false ↔ (s.instances i).turn = .idle ∧
      ¬ s.holds i accountId = true ∧
        maxConcurrentWorkers ≤ ((s.instances i).workers.erase accountId).entries.length := by
  unfold ensured holds
  split
  · next turn =>
      dsimp only
      split
      · next held => exact ⟨nofun, fun all => absurd held all.2.1⟩
      · next free =>
          split
          · next full => exact ⟨fun _ => ⟨turn, free, full⟩, fun _ => rfl⟩
          · next room => exact ⟨nofun, fun all => absurd all.2.2 room⟩
  · next busy => exact ⟨nofun, fun all => absurd all.1 busy⟩

/-! ## The room on a run -/

/-- Every instance is roomy. -/
def Roomy (s : Floor ι) : Prop := ∀ i, (s.instances i).Roomy

omit [DecidableEq ι] in
theorem Roomy.opening (now : ℤ) : (opening ι now).Roomy :=
  fun _ => ⟨Nat.zero_le _, False.elim⟩

theorem Roomy.update {held : Instance} (roomy : s.Roomy)
    (update : after.instances = Function.update s.instances i held) (own : held.Roomy) :
    after.Roomy := by
  unfold Roomy
  rw [update]
  exact (Function.forall_update_iff _ fun _ held => Instance.Roomy held).mpr
    ⟨own, fun j _ => roomy j⟩

theorem Manages.roomy {event : ManagerEvent} (manages : Manages s i event after)
    (later : ∀ accountId credentials, event ≠ .ensureWorker accountId credentials)
    (roomy : s.Roomy) : after.Roomy := by
  cases manages with
  | full turn | ensureWorker turn => exact (later _ _ rfl).elim
  | stash turn =>
      exact roomy.update rfl ((roomy i).turned fun _ => by rw [turn]; trivial)
  | @spawn accountId turn =>
      have spare := (roomy i).spare (by rw [turn]; trivial)
      have grown : ((s.instances i).workers.insert accountId s.processes.length).entries.length ≤
          maxConcurrentWorkers :=
        Nat.succ_le_of_lt ((length_erase_le _ accountId).trans_lt spare)
      exact roomy.update rfl ⟨grown, False.elim⟩
  | @stopWorker accountId turn =>
      have shrunk := (length_erase_le (s.instances i).workers accountId).trans (roomy i).bounded
      exact roomy.update rfl ⟨shrunk, False.elim⟩
  | register | remove | release | await | gone | kill =>
      exact roomy.update rfl ((roomy i).turned False.elim)

/-- **Step lemma.** -/
theorem Roomy.step (roomy : s.Roomy) (event : Event ι) : (s.step event).Roomy := by
  have shrunk (i : ι) (accountId : String) :
      ((s.instances i).workers.erase accountId).entries.length ≤ maxConcurrentWorkers :=
    (length_erase_le (s.instances i).workers accountId).trans (roomy i).bounded
  refine step_of_guarded roomy (fun i accountId _ _ => ?_) (fun i accountId _ _ _ room => ?_)
    fun after steps later => ?_
  · exact roomy.update rfl ⟨shrunk i accountId, False.elim⟩
  · exact roomy.update rfl ⟨shrunk i accountId, fun _ => room⟩
  · cases steps with
    | pass => exact roomy
    | caller calls => cases calls <;> exact roomy
    | manager manages =>
        refine manages.roomy (fun accountId credentials own => ?_) roomy
        exact later _ accountId credentials (congrArg _ own)
    | worker process works => cases works <;> exact roomy

/-! ## What a refusal says -/

omit [DecidableEq ι] in
/-- A full pool is full of running workers when none of its entries is dead. -/
theorem le_activeWorkerCount_iff {workers : AList fun _ : String => ℕ}
    (pool : (s.instances i).workers = workers)
    (bounded : workers.entries.length ≤ maxConcurrentWorkers)
    (full : maxConcurrentWorkers ≤ workers.entries.length) :
    maxConcurrentWorkers ≤ s.activeWorkerCount i ↔
      ∀ entry ∈ workers.entries, s.aliveFor entry.1 entry.2 = true := by
  unfold activeWorkerCount
  rw [pool, ← List.countP_eq_length]
  constructor
  · exact fun many => List.countP_le_length.antisymm (bounded.trans many)
  · intro all
    rw [all]
    exact full

omit [DecidableEq ι] in
/-- Where the other accounts fill the pool, the account has no entry. -/
theorem not_holds_of_full (roomy : s.Roomy)
    (full : maxConcurrentWorkers ≤ ((s.instances i).workers.erase accountId).entries.length) :
    ¬ s.holds i accountId = true := by
  have missing := lookup_eq_none_of_length ((roomy i).bounded.trans full)
  unfold holds
  rw [missing]
  nofun

/-- **One call.** -/
theorem candid_iff_unclogged (roomy : s.Roomy) {event : Event ι} :
    Candid i s event ↔ Unclogged i s event := by
  refine forall_congr' fun accountId => forall_congr' fun credentials => ?_
  refine imp_congr_right fun call => ?_
  subst call
  rw [ensured_eq_false_iff]
  change (_ → _ ≤ (s.ensureWorker i accountId credentials).activeWorkerCount i) ↔ _
  have bounded := (length_erase_le (s.instances i).workers accountId).trans (roomy i).bounded
  have pool : ((s.setInstance i ⟨(s.instances i).workers.erase accountId, .idle⟩).instances
      i).workers = (s.instances i).workers.erase accountId := by
    rw [instances_setInstance]
  constructor
  · intro candid held
    rcases held with ⟨turn, full, other, pid, apart, found, dead⟩
    have free := not_holds_of_full roomy full
    have many := candid ⟨turn, free, full⟩
    rw [ensureWorker_full turn free full, le_activeWorkerCount_iff pool bounded full] at many
    have lives : s.aliveFor other pid = true :=
      many ⟨other, pid⟩ (mem_entries_erase.mpr ⟨apart, found⟩)
    rw [dead] at lives
    cases lives
  · intro unclogged held
    rcases held with ⟨turn, free, full⟩
    rw [ensureWorker_full turn free full, le_activeWorkerCount_iff pool bounded full]
    intro entry member
    obtain ⟨apart, found⟩ := mem_entries_erase.mp member
    change s.aliveFor entry.1 entry.2 = true
    by_contra dead
    exact unclogged ⟨turn, full, entry.1, entry.2, apart, found, Bool.not_eq_true _ ▸ dead⟩

end Floor

open Floor

/-- **Capacity.**  `ensure_worker` refuses for lack of room only when that many workers run, as
long as it never finds the pool clogged. -/
theorem candid_iff {ι : Type} [DecidableEq ι] {now : ℤ} {i : ι} {events : List (Event ι)} :
    EachStep step (Candid i) (opening ι now) events ↔
      EachStep step (Unclogged i) (opening ι now) events := by
  constructor
  · exact EachStep.of_inv (Roomy.opening now) (fun _ event roomy _ => roomy.step event)
      fun _ _ roomy => (candid_iff_unclogged roomy).mp
  · exact EachStep.of_inv (Roomy.opening now) (fun _ event roomy _ => roomy.step event)
      fun _ _ roomy => (candid_iff_unclogged roomy).mpr

/-- A worker for each place that there is, the first of which exits. -/
def crowd : List (Event Unit) :=
  (List.range maxConcurrentWorkers).flatMap (fun n =>
    hire () (toString n) ⟨"12345678", "secret", "ICMarketsSC-Demo"⟩) ++ [.worker 0 .crash]

def crowded : Floor Unit := exec step (opening Unit 0) crowd

/-- The next account is refused, although there is a place for it. -/
theorem not_candid_exited :
    ¬ EachStep step (Candid ()) (opening Unit 0)
      (crowd ++
        [.manager () (.ensureWorker "acc" ⟨"12345678", "secret", "ICMarketsSC-Demo"⟩)]) := by
  intro each
  have refused : crowded.ensured () "acc" = some false ∧
      (crowded.ensureWorker () "acc"
        ⟨"12345678", "secret", "ICMarketsSC-Demo"⟩).activeWorkerCount () <
          maxConcurrentWorkers := by
    decide +kernel
  have last := eachStep_iff.mp each crowd _ (List.prefix_refl _)
  exact absurd (last "acc" _ rfl refused.1) (not_le.mpr refused.2)

end Aegis.Workers
