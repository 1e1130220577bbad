import Aegis.Trading.Connected
import Aegis.Workers.Floor

/-!
# The handlers' view of the floor

The handlers see the floor through `World`: the registry, the queues, and the accounts
whose processes their instance holds.  Run alone, the events of a whole `stop_worker` or
`ensure_worker` do to the floor what `stopWorker` and `ensureWorker` do to that view.
-/

namespace Aegis.Workers

open Aegis.Lib Aegis.Subscriptions Aegis.Trading

variable {ι : Type} [DecidableEq ι]

namespace Floor

variable (s : Floor ι) (i : ι)

/-- What the handlers of an instance see of the floor, in place of what they saw before. -/
def view (world : World) : World :=
  { world with
    workerRegistry := s.workerRegistry
    workers := (s.instances i).workers.keys.toFinset
    queues := s.queues }

/-- The instance holds a process of the account, and it runs. -/
def holds (accountId : String) : Bool :=
  ((s.instances i).workers.lookup accountId).any (s.aliveFor accountId)

variable {s i} {accountId jobId : String} {credentials : Credentials} {world : World}

theorem toFinset_keys_erase (workers : AList fun _ : String => ℕ) (accountId : String) :
    (workers.erase accountId).keys.toFinset = workers.keys.toFinset.erase accountId := by
  ext other
  rw [List.mem_toFinset, Finset.mem_erase, List.mem_toFinset]
  exact AList.mem_erase

theorem toFinset_keys_insert (workers : AList fun _ : String => ℕ) (accountId : String) (pid : ℕ) :
    (workers.insert accountId pid).keys.toFinset = insert accountId workers.keys.toFinset := by
  ext other
  rw [List.mem_toFinset, Finset.mem_insert, List.mem_toFinset]
  exact AList.mem_insert _

omit [DecidableEq ι] in
theorem mem_of_holds (holds : s.holds i accountId = true) :
    accountId ∈ (s.instances i).workers.keys.toFinset := by
  rw [List.mem_toFinset]
  apply AList.lookup_isSome.mp
  unfold Floor.holds at holds
  cases found : (s.instances i).workers.lookup accountId with
  | none =>
      rw [found] at holds
      cases holds
  | some pid => rfl

/-- **`stop_worker`** on the floor and in the handlers' view. -/
theorem view_dismiss (turn : (s.instances i).turn = .idle) (fresh : jobId ∉ s.drawn) :
    (exec step s (dismiss i accountId jobId)).view i world =
      ((Subscriptions.stopWorker jobId accountId).run (s.view i world)).2 := by
  change (((s.stopWorker i accountId).registryRemove i).submitStop i jobId).view i world =
    stopped jobId accountId (s.view i world)
  simp only [Floor.stopWorker, turn, registryRemove, submitStop, setTurn, setInstance,
    Function.update_self, fresh, if_false, view, stopped, submitJob, log, setQueue,
    toFinset_keys_erase]
  rfl

/-- `ensure_worker` on the floor: a live process, a full pool, or a process to spawn. -/
theorem ensureWorker_eq (world : World) (turn : (s.instances i).turn = .idle) :
    s.ensureWorker i accountId credentials =
      if s.holds i accountId then s
      else s.setInstance i ⟨(s.instances i).workers.erase accountId,
        if ((s.view i world).workers.erase accountId).card ≥ maxConcurrentWorkers then .idle
        else .stashing accountId credentials⟩ := by
  have count : ((s.instances i).workers.erase accountId).entries.length =
      ((s.view i world).workers.erase accountId).card := by
    rw [view, ← toFinset_keys_erase, List.toFinset_card_of_nodup (AList.keys_nodup _)]
    exact (List.length_map _).symm
  unfold Floor.ensureWorker holds
  rw [turn]
  dsimp only
  rw [count]
  split
  · rfl
  · split <;> rfl

/-- **`ensure_worker`** on the floor and in the handlers' view. -/
theorem view_hire (turn : (s.instances i).turn = .idle) :
    (exec step s (hire i accountId credentials)).view i world =
      ((Trading.ensureWorker (s.holds i accountId) accountId).run (s.view i world)).2 := by
  change ((((s.ensureWorker i accountId credentials).stashWorkerCredentials i).spawn
    i).registrySet i).view i world = _
  rw [ensureWorker_eq world turn]
  unfold Trading.ensureWorker
  rw [Prog.run_bind_ok (Prog.run_read _ _)]
  by_cases held : s.holds i accountId = true
  · have here : accountId ∈ (s.view i world).workers := mem_of_holds held
    simp only [held, here, decide_true, Bool.and_self, if_true]
    simp only [stashWorkerCredentials, spawn, registrySet, turn]
    rfl
  · have free : (decide (accountId ∈ (s.view i world).workers) && s.holds i accountId) = false := by
      rw [Bool.eq_false_iff.mpr held, Bool.and_false]
    rw [if_neg held]
    simp only [free, Bool.false_eq_true, if_false]
    rw [Prog.run_bind_ok (Prog.run_modify _ _), Prog.run_bind_ok (Prog.run_read _ _)]
    by_cases full : ((s.view i world).workers.erase accountId).card ≥ maxConcurrentWorkers
    · rw [if_pos full, if_pos full]
      simp only [stashWorkerCredentials, spawn, registrySet, setInstance, Function.update_self,
        view, toFinset_keys_erase]
      rfl
    · rw [if_neg full, if_neg full, Prog.run_bind_ok (Prog.run_modify _ _),
        Prog.run_bind_ok (Prog.run_modify _ _)]
      simp only [stashWorkerCredentials, spawn, registrySet, setTurn, setWorkerCreds, setInstance,
        Function.update_self, view, toFinset_keys_erase, toFinset_keys_insert]
      rfl

end Floor

end Aegis.Workers
