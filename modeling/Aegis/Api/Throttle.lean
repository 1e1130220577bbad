import Mathlib.Data.Finset.Dedup
import Mathlib.Tactic.Linarith
import Aegis.Api.RateLimit
import Aegis.Lib.Run
import Aegis.Lib.Window

/-!
# What the rate limit admits

The requests of one account, one after another, counted by Redis throughout or by the deque
throughout.  Both store an attempt before they decide on it, and leave it there when they refuse
it.
-/

namespace Aegis.Api

open Aegis.Lib Aegis.Subscriptions

/-- The two ways to count. -/
inductive RatePath where
  | redis
  | deque

namespace RatePath

/-- A request that finds Redis so is counted that way. -/
def Serves : RatePath → Pipe → Prop
  | redis, pipe => pipe.client = true ∧ pipe.fault = none
  | deque, pipe => pipe.client = false ∨ pipe.fault = some .refused

/-- An attempt of just a minute ago is removed by `ZREMRANGEBYSCORE` and kept by the deque. -/
def window : RatePath → Window ℚ
  | redis =>
      { holds now s := now - windowSeconds < s
        later := fun held le => decide_eq_true ((of_decide_eq_true held).trans_le le)
        earlier := fun held le =>
          decide_eq_true ((sub_le_sub_right le _).trans_lt (of_decide_eq_true held)) }
  | deque =>
      { holds now s := now - windowSeconds ≤ s
        later := fun held le => decide_eq_true ((of_decide_eq_true held).trans le)
        earlier := fun held le =>
          decide_eq_true ((sub_le_sub_right le _).trans (of_decide_eq_true held)) }

/-- The count that decides, and what is left. -/
def count : RatePath → ℚ → String → Windows → ℕ × Windows
  | redis => pipeline
  | deque => slide

def detail (limit : ℤ) : RatePath → String
  | redis => s!"Account rate limit exceeded ({limit}/min). Slow down or upgrade plan."
  | deque => s!"Account rate limit exceeded ({limit}/min)."

variable {path : RatePath} {limit : ℤ} {pipe : Pipe} {now : ℚ} {accountId : String}

theorem run_enforce (serves : path.Serves pipe) (positive : 1 ≤ limit) (windows : Windows) :
    (enforceAccountRateLimit limit pipe now accountId).run windows =
      (tooMany limit (path.count now accountId windows).1 (path.detail limit),
        (path.count now accountId windows).2) := by
  have given : limitOf limit = limit := if_neg (by omega)
  have some : ¬ limit ≤ 0 := by omega
  unfold enforceAccountRateLimit
  dsimp only
  rw [given, if_neg some]
  cases path with
  | redis =>
      obtain ⟨client, fault⟩ := serves
      rw [client, fault]
      rfl
  | deque =>
      rcases serves with client | fault
      · rw [client]
        rfl
      · rw [fault]
        split <;> rfl

end RatePath

/-- The stores, and the times of the requests that were let through. -/
structure RateLog where
  windows : Windows
  admitted : List ℚ

/-- One request of the account. -/
def RateLog.serve (limit : ℤ) (pipes : ℚ → Pipe) (accountId : String) (log : RateLog) (now : ℚ) :
    RateLog :=
  match (enforceAccountRateLimit limit (pipes now) now accountId).run log.windows with
  | (.ok _, after) => ⟨after, log.admitted ++ [now]⟩
  | (.error _, after) => ⟨after, log.admitted⟩

/-! ## What the stores recall -/

section Redis

variable {now later : ℚ} {key : Option (Expiring ℚ (SortedSet ℚ ℚ))} {entry : ℚ ×ₗ ℚ}
  {early : List ℚ}

/-- The set that `ZREMRANGEBYSCORE` leaves to `ZADD`. -/
def prune (now : ℚ) (key : Option (Expiring ℚ (SortedSet ℚ ℚ))) : SortedSet ℚ ℚ :=
  (Expiring.read now (Expiring.modify now
    (fun set => (set.zremrangebyscore 0 (now - windowSeconds)).orMissing) key)).getD .empty

/-- The key after the pipeline. -/
def nextKey (now : ℚ) (key : Option (Expiring ℚ (SortedSet ℚ ℚ))) :
    Option (Expiring ℚ (SortedSet ℚ ℚ)) :=
  Expiring.expire now (windowSeconds + 5) (addRequest now key)

theorem read_addRequest (now : ℚ) (key : Option (Expiring ℚ (SortedSet ℚ ℚ))) :
    Expiring.read now (addRequest now key) = some ((prune now key).zadd now now) :=
  Expiring.read_write now _ _ _

theorem mem_prune : entry ∈ (prune now key).entries ↔
    entry ∈ ((Expiring.read now key).getD .empty).entries ∧
      ¬ (0 ≤ (ofLex entry).1 ∧ (ofLex entry).1 ≤ now - windowSeconds) := by
  unfold prune
  rw [Expiring.read_modify]
  cases Expiring.read now key with
  | none =>
      rw [Option.bind_none, Option.getD_none, SortedSet.entries_empty]
      simp
  | some set =>
      rw [Option.bind_some, SortedSet.getD_orMissing, Option.getD_some,
        SortedSet.zremrangebyscore, List.mem_filter, decide_eq_true_iff]

/-- What a later request finds. -/
theorem mem_prune_nextKey : entry ∈ (prune later (nextKey now key)).entries ↔
    later < now + (windowSeconds + 5) ∧ entry ∈ ((prune now key).zadd now now).entries ∧
      ¬ (0 ≤ (ofLex entry).1 ∧ (ofLex entry).1 ≤ later - windowSeconds) := by
  rw [mem_prune, nextKey]
  by_cases alive : later < now + (windowSeconds + 5)
  · rw [Expiring.read_expire (by norm_num [windowSeconds]) alive, read_addRequest,
      Option.getD_some]
    exact (and_iff_right alive).symm
  · rw [Expiring.read_expired (not_lt.mp alive)]
    simp [alive]

/-- The set holds the attempts of the last minute, and nothing else that a clock has shown. -/
structure Stored (early : List ℚ) (key : Option (Expiring ℚ (SortedSet ℚ ℚ))) : Prop where
  covers : ∀ later, (∀ s ∈ early, s < later) → ∀ s ∈ early, later - windowSeconds < s →
    toLex (s, s) ∈ (prune later key).entries
  only : ∀ later, (∀ s ∈ early, s < later) → ∀ entry ∈ (prune later key).entries,
    ∃ s ∈ early, entry = toLex (s, s) ∧ (0 ≤ s → later - windowSeconds < s)

theorem Stored.start : Stored [] none where
  covers later _ s member := absurd member List.not_mem_nil
  only later _ entry member := by
    rw [mem_prune] at member
    exact absurd member.1 List.not_mem_nil

theorem Stored.next (stored : Stored early key) (increasing : ∀ s ∈ early, s < now) :
    Stored (early ++ [now]) (nextKey now key) where
  covers later after s member recent := by
    have passed : now < later := after now (by simp)
    have small : windowSeconds = 60 := rfl
    have notAfter : s ≤ now := by
      rcases List.mem_append.mp member with old | new
      · exact (increasing s old).le
      · exact (List.mem_singleton.mp new).le
    refine mem_prune_nextKey.mpr ⟨by linarith, SortedSet.mem_zadd.mpr ?_, fun removed => ?_⟩
    · rcases List.mem_append.mp member with old | new
      · refine .inr ⟨stored.covers now increasing s old (by linarith), ?_⟩
        exact (increasing s old).ne
      · exact .inl (by rw [List.mem_singleton.mp new])
    · exact absurd removed.2 (not_le.mpr recent)
  only later after entry member := by
    obtain ⟨_, added, kept⟩ := mem_prune_nextKey.mp member
    have found : ∃ s ∈ early ++ [now], entry = toLex (s, s) := by
      rcases SortedSet.mem_zadd.mp added with rfl | ⟨old, _⟩
      · exact ⟨now, by simp, rfl⟩
      · obtain ⟨s, held, same, _⟩ := stored.only now increasing entry old
        exact ⟨s, List.mem_append_left _ held, same⟩
    obtain ⟨s, held, rfl⟩ := found
    exact ⟨s, held, rfl, fun nonneg => not_le.mp fun old => kept ⟨nonneg, old⟩⟩

/-- The members are the attempts of the window, and the new one. -/
theorem Stored.card (stored : Stored early key) (increasing : ∀ s ∈ early, s < now) :
    (RatePath.redis.window.recent early.toFinset now).card + 1 ≤
        ((prune now key).zadd now now).zcard ∧
      ((∀ s ∈ early, 0 ≤ s) → ((prune now key).zadd now now).zcard =
        (RatePath.redis.window.recent early.toFinset now).card + 1) := by
  have members := List.toFinset_card_of_nodup ((prune now key).zadd now now).nodup
  rw [List.length_map, ← SortedSet.zcard] at members
  have new : now ∉ RatePath.redis.window.recent early.toFinset now :=
    fun recent => lt_irrefl now (Window.mem_recent.mp recent).2.1
  rw [← members, ← Finset.card_insert_of_notMem new]
  have held : insert now (RatePath.redis.window.recent early.toFinset now) ⊆
      (((prune now key).zadd now now).entries.map fun entry => (ofLex entry).2).toFinset := by
    intro s recent
    rw [List.mem_toFinset, List.mem_map]
    refine ⟨toLex (s, s), SortedSet.mem_zadd.mpr ?_, rfl⟩
    rcases Finset.mem_insert.mp recent with rfl | recent
    · exact .inl rfl
    · obtain ⟨requested, before, within⟩ := Window.mem_recent.mp recent
      exact .inr ⟨stored.covers now increasing s (List.mem_toFinset.mp requested)
        (of_decide_eq_true within), before.ne⟩
  refine ⟨Finset.card_le_card held, fun sinceEpoch => ?_⟩
  refine (Finset.card_le_card fun s member => ?_).antisymm (Finset.card_le_card held)
  rw [List.mem_toFinset, List.mem_map] at member
  obtain ⟨entry, added, rfl⟩ := member
  rcases SortedSet.mem_zadd.mp added with rfl | ⟨old, _⟩
  · exact Finset.mem_insert_self _ _
  · obtain ⟨s, earlier, rfl, within⟩ := stored.only now increasing entry old
    refine Finset.mem_insert_of_mem (Window.mem_recent.mpr ?_)
    exact ⟨List.mem_toFinset.mpr earlier, increasing s earlier,
      decide_eq_true (within (sinceEpoch s earlier))⟩

end Redis

section Deque

variable {now : ℚ} {early q : List ℚ} {least s : ℚ}

theorem mem_dropWhile (sorted : q.Pairwise (· < ·)) :
    s ∈ q.dropWhile (· < least) ↔ s ∈ q ∧ least ≤ s := by
  induction q with
  | nil => simp
  | cons head rest ih =>
      rw [List.pairwise_cons] at sorted
      by_cases old : head < least
      · rw [List.dropWhile_cons_of_pos (by simpa using old), ih sorted.2, List.mem_cons]
        refine ⟨fun held => ⟨.inr held.1, held.2⟩, fun held => ⟨?_, held.2⟩⟩
        rcases held.1 with rfl | later
        · exact absurd held.2 (not_le.mpr old)
        · exact later
      · rw [List.dropWhile_cons_of_neg (by simpa using old)]
        refine (and_iff_left_of_imp fun member => ?_).symm
        rcases List.mem_cons.mp member with rfl | later
        · exact not_lt.mp old
        · exact (not_lt.mp old).trans (sorted.1 s later).le

/-- The deque holds the attempts of the last minute, in order. -/
structure Queued (early q : List ℚ) : Prop where
  sorted : q.Pairwise (· < ·)
  only : ∀ s ∈ q, s ∈ early
  covers : ∀ later, (∀ s ∈ early, s < later) → ∀ s ∈ early, later - windowSeconds ≤ s → s ∈ q

theorem Queued.start : Queued [] [] := ⟨.nil, nofun, nofun⟩

theorem Queued.next (queued : Queued early q) (increasing : ∀ s ∈ early, s < now) :
    Queued (early ++ [now]) (q.dropWhile (· < now - windowSeconds) ++ [now]) where
  sorted := by
    refine List.pairwise_append.mpr ⟨queued.sorted.sublist (List.dropWhile_sublist _),
      List.pairwise_singleton _ _, fun s kept t new => ?_⟩
    rw [List.mem_singleton.mp new]
    exact increasing s (queued.only s ((List.dropWhile_sublist _).subset kept))
  only s member := by
    rcases List.mem_append.mp member with kept | new
    · exact List.mem_append_left _ (queued.only s ((List.dropWhile_sublist _).subset kept))
    · exact List.mem_append_right _ new
  covers later after s member recent := by
    have passed : now < later := after now (by simp)
    rcases List.mem_append.mp member with old | new
    · have within : now - windowSeconds ≤ s := (sub_le_sub_right passed.le _).trans recent
      refine List.mem_append_left _ ((mem_dropWhile queued.sorted).mpr ⟨?_, within⟩)
      exact queued.covers now increasing s old within
    · exact List.mem_append_right _ new

theorem Queued.card (queued : Queued early q) (increasing : ∀ s ∈ early, s < now) :
    (q.dropWhile (· < now - windowSeconds) ++ [now]).length =
      (RatePath.deque.window.recent early.toFinset now).card + 1 := by
  have apart : (q.dropWhile (· < now - windowSeconds)).Nodup :=
    (queued.sorted.sublist (List.dropWhile_sublist _)).imp ne_of_lt
  rw [List.length_append, List.length_singleton, ← List.toFinset_card_of_nodup apart]
  congr 2
  ext s
  rw [List.mem_toFinset, mem_dropWhile queued.sorted, Window.mem_recent, List.mem_toFinset]
  refine ⟨fun held => ?_, fun recent => ?_⟩
  · have earlier := queued.only s held.1
    exact ⟨earlier, increasing s earlier, decide_eq_true held.2⟩
  · have within := of_decide_eq_true recent.2.2
    exact ⟨queued.covers now increasing s recent.1 within, within⟩

end Deque

/-- What the store knows of the requests so far. -/
def RatePath.Recalls : RatePath → String → List ℚ → Windows → Prop
  | redis, accountId, early, windows => Stored early (windows.redis accountId)
  | deque, accountId, early, windows => Queued early (windows.deques accountId)

section Recalls

variable {path : RatePath} {now : ℚ} {accountId : String} {early : List ℚ} {windows : Windows}

theorem RatePath.recalls_start (unused : windows.records accountId = (none, [])) :
    path.Recalls accountId [] windows := by
  obtain ⟨key, q⟩ := Prod.mk.inj unused
  cases path with
  | redis =>
      rw [RatePath.Recalls, key]
      exact Stored.start
  | deque =>
      rw [RatePath.Recalls, q]
      exact Queued.start

/-- **One request**: the count, and what is recalled after it. -/
theorem RatePath.Recalls.next (recalls : path.Recalls accountId early windows)
    (increasing : ∀ s ∈ early, s < now) :
    path.Recalls accountId (early ++ [now]) (path.count now accountId windows).2 ∧
      (path.window.recent early.toFinset now).card + 1 ≤ (path.count now accountId windows).1 ∧
        ((∀ s ∈ early, 0 ≤ s) → (path.count now accountId windows).1 =
          (path.window.recent early.toFinset now).card + 1) := by
  cases path with
  | redis =>
      have counted : (pipeline now accountId windows).1 =
          ((prune now (windows.redis accountId)).zadd now now).zcard := by
        unfold pipeline
        dsimp only
        rw [read_addRequest, Option.getD_some]
      have kept : (pipeline now accountId windows).2.redis accountId =
          nextKey now (windows.redis accountId) := Function.update_self _ _ _
      simp only [RatePath.Recalls, RatePath.count, counted, kept]
      exact ⟨Stored.next recalls increasing, Stored.card recalls increasing⟩
  | deque =>
      have kept : (slide now accountId windows).2.deques accountId =
          (windows.deques accountId).dropWhile (· < now - windowSeconds) ++ [now] :=
        Function.update_self _ _ _
      have counted := Queued.card recalls increasing
      simp only [RatePath.Recalls, RatePath.count, kept]
      exact ⟨Queued.next recalls increasing, counted.ge, fun _ => counted⟩

end Recalls

/-! ## Runs -/

section Runs

variable {path : RatePath} {limit : ℤ} {pipes : ℚ → Pipe} {now : ℚ} {accountId : String}
  {early times : List ℚ} {windows : Windows} {log : RateLog}

theorem RateLog.serve_eq (serves : path.Serves (pipes now)) (positive : 1 ≤ limit) :
    log.serve limit pipes accountId now =
      ⟨(path.count now accountId log.windows).2,
        if (path.count now accountId log.windows).1 ≤ limit then log.admitted ++ [now]
        else log.admitted⟩ := by
  unfold RateLog.serve
  rw [RatePath.run_enforce serves positive, tooMany]
  by_cases within : (path.count now accountId log.windows).1 ≤ limit
  · rw [if_neg (not_lt.mpr within), if_pos within]
  · rw [if_pos (not_le.mp within), if_neg within]

/-- The requests so far, in a run. -/
structure RateLog.After (path : RatePath) (limit : ℤ) (accountId : String) (early : List ℚ)
    (log : RateLog) : Prop where
  recalls : path.Recalls accountId early log.windows
  admitted : log.admitted.Sublist
    (early.filter (path.window.Admits limit.toNat early.toFinset))
  all : (∀ s ∈ early, 0 ≤ s) →
    log.admitted = early.filter (path.window.Admits limit.toNat early.toFinset)

/-- The next request changes nothing for the earlier ones. -/
theorem filter_admits_append (increasing : ∀ s ∈ early, s < now) (window : Window ℚ) (n : ℕ) :
    (early ++ [now]).filter (window.Admits n (early ++ [now]).toFinset) =
      early.filter (window.Admits n early.toFinset) ++
        if window.Admits n early.toFinset now then [now] else [] := by
  have same : ∀ t ≤ now, window.Admits n (early ++ [now]).toFinset t ↔
      window.Admits n early.toFinset t := by
    intro t le
    refine Window.admits_congr fun s less => ?_
    rw [List.mem_toFinset, List.mem_toFinset, List.mem_append, List.mem_singleton]
    exact or_iff_left (less.trans_le le).ne
  rw [List.filter_append]
  congr 1
  · refine List.filter_congr fun s member => ?_
    rw [decide_eq_decide]
    exact same s (increasing s member).le
  · rw [List.filter_singleton, decide_eq_decide.mpr (same now le_rfl), Bool.cond_decide]

theorem RateLog.After.next (after : log.After path limit accountId early)
    (serves : path.Serves (pipes now)) (positive : 1 ≤ limit)
    (increasing : ∀ s ∈ early, s < now) :
    (log.serve limit pipes accountId now).After path limit accountId (early ++ [now]) := by
  obtain ⟨recalls, atLeast, exactly⟩ := after.recalls.next increasing
  rw [RateLog.serve_eq serves positive]
  have admits : (path.count now accountId log.windows).1 ≤ limit →
      path.window.Admits limit.toNat early.toFinset now := by
    intro within
    unfold Window.Admits
    omega
  refine ⟨recalls, ?_, fun sinceEpoch => ?_⟩
  · rw [filter_admits_append increasing]
    dsimp only
    split
    next within =>
      rw [if_pos (admits within)]
      exact after.admitted.append_right _
    next => exact after.admitted.trans (List.sublist_append_left _ _)
  · have before : ∀ s ∈ early, 0 ≤ s := fun s member => sinceEpoch s (List.mem_append_left _ member)
    rw [filter_admits_append increasing, ← after.all before]
    dsimp only
    split
    next within => rw [if_pos (admits within)]
    next beyond =>
      have refused : ¬ path.window.Admits limit.toNat early.toFinset now := by
        unfold Window.Admits
        have count := exactly before
        omega
      rw [if_neg refused, List.append_nil]

theorem RateLog.after_exec (positive : 1 ≤ limit)
    (unused : windows.records accountId = (none, []))
    (served : ∀ now ∈ times, path.Serves (pipes now)) (increasing : times.Pairwise (· < ·)) :
    (exec (RateLog.serve limit pipes accountId) ⟨windows, []⟩ times).After path limit accountId
      times := by
  induction times using List.reverseRecOn with
  | nil => exact ⟨RatePath.recalls_start unused, .refl _, fun _ => rfl⟩
  | append_singleton early now ih =>
      rw [List.forall_mem_append, List.forall_mem_singleton] at served
      obtain ⟨sorted, _, before⟩ := List.pairwise_append.mp increasing
      rw [exec_concat]
      exact (ih served.1 sorted).next served.2 positive
        fun s member => before s member now (List.mem_singleton_self now)

/-- The request is refused. -/
def RateLog.Refuses (limit : ℤ) (pipes : ℚ → Pipe) (accountId : String) (log : RateLog)
    (now : ℚ) : Prop :=
  ∃ detail, ((enforceAccountRateLimit limit (pipes now) now accountId).run log.windows).1 =
    .error (.httpException 429 detail)

/-- A refusal finds that the limit was admitted in the minute before. -/
def RateLog.Justifies (path : RatePath) (limit : ℤ) (pipes : ℚ → Pipe) (accountId : String)
    (log : RateLog) (now : ℚ) : Prop :=
  log.Refuses limit pipes accountId now →
    limit ≤ (log.admitted.filter (path.window.holds now)).length

theorem RateLog.refuses_iff_count (serves : path.Serves (pipes now)) (positive : 1 ≤ limit) :
    log.Refuses limit pipes accountId now ↔
      limit < (path.count now accountId log.windows).1 := by
  unfold RateLog.Refuses
  rw [RatePath.run_enforce serves positive, tooMany]
  dsimp only
  split
  next beyond => exact iff_of_true ⟨_, rfl⟩ beyond
  next within =>
    refine iff_of_false (fun refused => ?_) within
    obtain ⟨_, raised⟩ := refused
    cases raised

theorem RateLog.After.refuses_iff (after : log.After path limit accountId early)
    (serves : path.Serves (pipes now)) (positive : 1 ≤ limit)
    (increasing : ∀ s ∈ early, s < now) (sinceEpoch : ∀ s ∈ early, 0 ≤ s) :
    log.Refuses limit pipes accountId now ↔
      ¬ path.window.Admits limit.toNat early.toFinset now := by
  obtain ⟨_, _, exactly⟩ := after.recalls.next increasing
  have count := exactly sinceEpoch
  rw [RateLog.refuses_iff_count serves positive, Window.Admits]
  omega

/-- Each request by what came before it. -/
theorem RateLog.After.justifies_iff (after : log.After path limit accountId early)
    (serves : path.Serves (pipes now)) (positive : 1 ≤ limit)
    (distinct : early.Nodup) (increasing : ∀ s ∈ early, s < now) (sinceEpoch : ∀ s ∈ early, 0 ≤ s) :
    log.Justifies path limit pipes accountId now ↔
      (¬ path.window.Admits limit.toNat early.toFinset now →
        limit.toNat ≤ ((path.window.recent early.toFinset now).filter
          (path.window.Admits limit.toNat early.toFinset)).card) := by
  have counted : (log.admitted.filter (path.window.holds now)).length =
      ((path.window.recent early.toFinset now).filter
        (path.window.Admits limit.toNat early.toFinset)).card := by
    rw [after.all sinceEpoch, ← List.toFinset_card_of_nodup ((distinct.filter _).filter _)]
    congr 1
    ext s
    rw [List.mem_toFinset, List.mem_filter, List.mem_filter, Finset.mem_filter,
      Window.mem_recent, List.mem_toFinset, decide_eq_true_iff]
    refine ⟨fun held => ?_, fun held => ?_⟩
    · exact ⟨⟨held.1.1, increasing s held.1.1, held.2⟩, held.1.2⟩
    · exact ⟨⟨held.1.1, held.2⟩, held.1.2.2⟩
  unfold RateLog.Justifies
  rw [after.refuses_iff serves positive increasing sinceEpoch, counted]
  refine forall_congr' fun _ => ?_
  omega

/-- Each request of a run; what comes later does not matter to it. -/
theorem RateLog.justifies_iff_of_split {late : List ℚ} (positive : 1 ≤ limit)
    (unused : windows.records accountId = (none, []))
    (served : ∀ s ∈ early ++ now :: late, path.Serves (pipes s))
    (increasing : (early ++ now :: late).Pairwise (· < ·))
    (sinceEpoch : ∀ s ∈ early ++ now :: late, 0 ≤ s) :
    RateLog.Justifies path limit pipes accountId
        (exec (RateLog.serve limit pipes accountId) ⟨windows, []⟩ early) now ↔
      (¬ path.window.Admits limit.toNat (early ++ now :: late).toFinset now →
        limit.toNat ≤ ((path.window.recent (early ++ now :: late).toFinset now).filter
          (path.window.Admits limit.toNat (early ++ now :: late).toFinset)).card) := by
  obtain ⟨sorted, rest, before⟩ := List.pairwise_append.mp increasing
  rw [List.forall_mem_append, List.forall_mem_cons] at served sinceEpoch
  have past : ∀ s ∈ early, s < now := fun s member => before s member now List.mem_cons_self
  have after := RateLog.after_exec positive unused served.1 sorted
  rw [after.justifies_iff served.2.1 positive (sorted.imp ne_of_lt) past sinceEpoch.1]
  have same : ∀ s < now, s ∈ early.toFinset ↔ s ∈ (early ++ now :: late).toFinset := by
    intro s less
    rw [List.mem_toFinset, List.mem_toFinset, List.mem_append, List.mem_cons]
    refine (or_iff_left fun notBefore => ?_).symm
    rcases notBefore with rfl | member
    · exact lt_irrefl _ less
    · exact lt_asymm less ((List.pairwise_cons.mp rest).1 s member)
  rw [Window.admits_congr same, Window.recent_congr same]
  have admits : ∀ s ∈ path.window.recent (early ++ now :: late).toFinset now,
      path.window.Admits limit.toNat early.toFinset s ↔
        path.window.Admits limit.toNat (early ++ now :: late).toFinset s := by
    intro s recent
    have earlier := (Window.mem_recent.mp recent).2.1
    exact Window.admits_congr fun u less => same u (less.trans earlier)
  rw [Finset.filter_congr admits]

end Runs

/-- **Bound.**  In no window of a minute are more requests admitted than the limit. -/
theorem admitted_le_limit {path : RatePath} {limit : ℤ} (positive : 1 ≤ limit)
    {pipes : ℚ → Pipe} {accountId : String} {windows : Windows} {times : List ℚ}
    (unused : windows.records accountId = (none, []))
    (served : ∀ now ∈ times, path.Serves (pipes now)) (increasing : times.Pairwise (· < ·))
    (t : ℚ) :
    ((exec (RateLog.serve limit pipes accountId) ⟨windows, []⟩ times).admitted.filter
      fun s => t - 60 < s ∧ s ≤ t).length ≤ limit := by
  have after := RateLog.after_exec positive unused served increasing
  have apart : times.Nodup := increasing.imp ne_of_lt
  have bound : (times.toFinset.filter fun s =>
      path.window.Admits limit.toNat times.toFinset s ∧ s ≤ t ∧ path.window.holds t s).card ≤
        limit.toNat := Window.card_admitted_le t
  have part := (after.admitted.filter fun s => t - 60 < s ∧ s ≤ t).length_le
  rw [← List.toFinset_card_of_nodup ((apart.filter _).filter _)] at part
  have within : ((times.filter (path.window.Admits limit.toNat times.toFinset)).filter
      fun s => t - 60 < s ∧ s ≤ t).toFinset ⊆ times.toFinset.filter fun s =>
        path.window.Admits limit.toNat times.toFinset s ∧ s ≤ t ∧ path.window.holds t s := by
    intro s member
    simp only [List.mem_toFinset, List.mem_filter, decide_eq_true_eq] at member
    obtain ⟨⟨requested, admits⟩, recent, before⟩ := member
    refine Finset.mem_filter.mpr ⟨List.mem_toFinset.mpr requested, admits, before, ?_⟩
    cases path with
    | redis => exact decide_eq_true recent
    | deque => exact decide_eq_true recent.le
  have all := (part.trans (Finset.card_le_card within)).trans bound
  omega

/-- **Refusals.**  Each is justified exactly when, of the requests that are refused, one that has
another in its window also has as many requests from before that other as the limit says. -/
theorem refusals_justified_iff {path : RatePath} {limit : ℤ} (positive : 1 ≤ limit)
    {pipes : ℚ → Pipe} {accountId : String} {windows : Windows} {times : List ℚ}
    (unused : windows.records accountId = (none, []))
    (served : ∀ now ∈ times, path.Serves (pipes now)) (increasing : times.Pairwise (· < ·))
    (sinceEpoch : ∀ now ∈ times, 0 ≤ now) :
    EachStep (RateLog.serve limit pipes accountId) (RateLog.Justifies path limit pipes accountId)
        ⟨windows, []⟩ times ↔ path.window.Spaced limit.toNat times.toFinset := by
  rw [← Window.justified_iff_spaced, eachStep_iff]
  constructor
  · intro each now member
    obtain ⟨early, late, split⟩ := List.append_of_mem (List.mem_toFinset.mp member)
    have justified := each early now
      ⟨late, by rw [split, List.append_assoc, List.singleton_append]⟩
    subst split
    exact (RateLog.justifies_iff_of_split positive unused served increasing sinceEpoch).mp
      justified
  · intro justified early now within
    obtain ⟨late, split⟩ := within
    rw [List.append_assoc, List.singleton_append] at split
    subst split
    have member : now ∈ (early ++ now :: late).toFinset :=
      List.mem_toFinset.mpr (List.mem_append_right _ List.mem_cons_self)
    exact (RateLog.justifies_iff_of_split positive unused served increasing sinceEpoch).mpr
      (justified now member)

/-- No request has been counted yet, and Redis answers. -/
def freshWindows : Windows := ⟨fun _ => none, fun _ => []⟩

def answering : ℚ → Pipe := fun _ => ⟨true, none⟩

theorem answering_serves (now : ℚ) : RatePath.redis.Serves (answering now) := ⟨rfl, rfl⟩

theorem admitted_le_limit_twice :
    ((exec (RateLog.serve 1 answering "acc") ⟨freshWindows, []⟩ [1000, 1030]).admitted.filter
      fun s => (1059 : ℚ) - 60 < s ∧ s ≤ 1059).length ≤ (1 : ℤ) :=
  admitted_le_limit (by decide) rfl (fun now _ => answering_serves now) (by norm_num) 1059

theorem refusals_justified_iff_twice :
    EachStep (RateLog.serve 1 answering "acc") (RateLog.Justifies .redis 1 answering "acc")
      ⟨freshWindows, []⟩ [1000, 1030] :=
  (refusals_justified_iff (by decide) rfl (fun now _ => answering_serves now) (by norm_num)
    (by norm_num)).mpr (by decide +kernel)

/-- Nothing was admitted in the minute before the third request; the second was refused in it. -/
theorem not_refusals_justified_impatient :
    ¬ EachStep (RateLog.serve 1 answering "acc") (RateLog.Justifies .redis 1 answering "acc")
      ⟨freshWindows, []⟩ [1000, 1030, 1061] := by
  intro each
  obtain ⟨_, _, third, _⟩ := each
  refine absurd (third ?_) (by decide +kernel)
  exact (RateLog.refuses_iff_count (answering_serves 1061) (by decide)).mpr (by decide +kernel)

end Aegis.Api
