import Aegis.Api.Throttle

/-!
# The rate limit across instances and outages

Several instances of the server share one Redis, and each has its own deques.  A request may
find Redis in order or out of reach, or may lose the answer of the pipeline.
`admitted_le_failover` bounds what one account is admitted in a minute, over any run of requests at
any of the instances: the limit for Redis, and the limit once more for every instance.
-/

namespace Aegis.Api

open Aegis.Lib Aegis.Subscriptions

variable {ι : Type}

/-- A request for an account at one of the instances. -/
structure RateRequest (ι : Type) where
  host : ι
  accountId : String
  pipe : Pipe
  now : ℚ

/-- The shared keys, the deques of each instance, and the requests that were let through. -/
structure Hosts (ι : Type) where
  redis : String → Option (Expiring ℚ (SortedSet ℚ ℚ))
  deques : ι → String → List ℚ
  admitted : List (RateRequest ι)

namespace RateRequest

variable (request : RateRequest ι)

/-- What decides on the request: Redis, or a deque. -/
def counter : Option ι :=
  match request.pipe.client, request.pipe.fault with
  | true, none => none
  | _, _ => some request.host

/-- The request is counted there; one whose answer is lost is counted twice. -/
def Touches (counter : Option ι) : Prop :=
  request.counter = counter ∨
    counter = none ∧ request.pipe.client = true ∧ request.pipe.fault = some .replyLost

instance [DecidableEq ι] (counter : Option ι) : Decidable (request.Touches counter) :=
  inferInstanceAs (Decidable (_ ∨ _))

end RateRequest

def pathOf : Option ι → RatePath
  | none => .redis
  | some _ => .deque

namespace Hosts

/-- What one counter has stored. -/
def view (hosts : Hosts ι) : Option ι → Windows
  | none => ⟨hosts.redis, fun _ => []⟩
  | some host => ⟨fun _ => none, hosts.deques host⟩

variable [DecidableEq ι]

def serve (limit : ℤ) (hosts : Hosts ι) (request : RateRequest ι) : Hosts ι :=
  let ran := (enforceAccountRateLimit limit request.pipe request.now request.accountId).run
    ⟨hosts.redis, hosts.deques request.host⟩
  { redis := ran.2.redis
    deques := Function.update hosts.deques request.host ran.2.deques
    admitted :=
      match ran.1 with
      | .ok _ => hosts.admitted ++ [request]
      | .error _ => hosts.admitted }

/-- Nothing has been counted. -/
def idle : Hosts ι := ⟨fun _ => none, fun _ _ => [], []⟩

variable {limit : ℤ} {hosts : Hosts ι} {request : RateRequest ι}

omit [DecidableEq ι] in
/-- The three ways of a request. -/
theorem serve_cases (positive : 1 ≤ limit) :
    request.counter = none ∧ request.pipe.fault ≠ some .replyLost ∧
      (enforceAccountRateLimit limit request.pipe request.now request.accountId).run =
        (fun windows => (tooMany limit (pipeline request.now request.accountId windows).1
          (RatePath.redis.detail limit), (pipeline request.now request.accountId windows).2)) ∨
    request.counter = some request.host ∧
      ¬ (request.pipe.client = true ∧ request.pipe.fault = some .replyLost) ∧
      (enforceAccountRateLimit limit request.pipe request.now request.accountId).run =
        (fun windows => (tooMany limit (slide request.now request.accountId windows).1
          (RatePath.deque.detail limit), (slide request.now request.accountId windows).2)) ∨
    request.counter = some request.host ∧
      (request.pipe.client = true ∧ request.pipe.fault = some .replyLost) ∧
      (enforceAccountRateLimit limit request.pipe request.now request.accountId).run =
        (fun windows =>
          let counted := (pipeline request.now request.accountId windows).2
          (tooMany limit (slide request.now request.accountId counted).1
            (RatePath.deque.detail limit), (slide request.now request.accountId counted).2)) := by
  have given : limitOf limit = limit := if_neg (by omega)
  have some : ¬ limit ≤ 0 := by omega
  obtain ⟨host, accountId, ⟨client, fault⟩, now⟩ := request
  unfold enforceAccountRateLimit RateRequest.counter
  simp only [given, if_neg some]
  cases client with
  | false => exact .inr (.inl ⟨rfl, by simp, rfl⟩)
  | true =>
      cases fault with
      | none => exact .inl ⟨rfl, by simp, rfl⟩
      | some fault =>
          cases fault with
          | refused => exact .inr (.inl ⟨rfl, by simp, rfl⟩)
          | replyLost => exact .inr (.inr ⟨rfl, ⟨rfl, rfl⟩, rfl⟩)

theorem serve_of_run {count : ℕ} {detail : String} {after : Windows}
    (ran : (enforceAccountRateLimit limit request.pipe request.now request.accountId).run
      ⟨hosts.redis, hosts.deques request.host⟩ = (tooMany limit count detail, after)) :
    hosts.serve limit request =
      { redis := after.redis
        deques := Function.update hosts.deques request.host after.deques
        admitted := hosts.admitted ++ if (count : ℤ) ≤ limit then [request] else [] } := by
  unfold serve
  rw [ran, tooMany]
  by_cases within : (count : ℤ) ≤ limit
  · rw [if_neg (not_lt.mpr within), if_pos within]
  · rw [if_pos (not_le.mp within), if_neg within, List.append_nil]

/-- What a request leaves in a counter. -/
theorem view_serve (positive : 1 ≤ limit) (counter : Option ι) :
    (hosts.serve limit request).view counter =
      if request.Touches counter then
        ((pathOf counter).count request.now request.accountId (hosts.view counter)).2
      else hosts.view counter := by
  have cases := @serve_cases _ limit request positive
  cases counter with
  | none =>
      obtain ⟨decides, kept, ran⟩ | ⟨decides, kept, ran⟩ | ⟨decides, lost, ran⟩ := cases
      · have touches : request.Touches none := .inl decides
        rw [serve_of_run (congrFun ran _), if_pos touches]
        rfl
      · have untouched : ¬ request.Touches none := by simp [RateRequest.Touches, decides, kept]
        rw [serve_of_run (congrFun ran _), if_neg untouched]
        rfl
      · have touches : request.Touches none := .inr ⟨rfl, lost⟩
        rw [serve_of_run (congrFun ran _), if_pos touches]
        rfl
  | some host =>
      by_cases same : host = request.host
      · subst same
        obtain ⟨decides, _, ran⟩ | ⟨decides, _, ran⟩ | ⟨decides, _, ran⟩ := cases
        · have untouched : ¬ request.Touches (some request.host) := by
            simp [RateRequest.Touches, decides]
          rw [serve_of_run (congrFun ran _), if_neg untouched]
          simp only [view, Function.update_self]
          rfl
        · have touches : request.Touches (some request.host) := .inl decides
          rw [serve_of_run (congrFun ran _), if_pos touches]
          simp only [view, Function.update_self]
          rfl
        · have touches : request.Touches (some request.host) := .inl decides
          rw [serve_of_run (congrFun ran _), if_pos touches]
          simp only [view, Function.update_self]
          rfl
      · have untouched : ¬ request.Touches (some host) := by
          obtain ⟨decides, _⟩ | ⟨decides, _⟩ | ⟨decides, _⟩ := cases
          · simp [RateRequest.Touches, decides]
          · simpa [RateRequest.Touches, decides] using Ne.symm same
          · simpa [RateRequest.Touches, decides] using Ne.symm same
        rw [if_neg untouched]
        simp only [serve, view, Function.update_of_ne same]

/-- What lets a request through: the count of its counter. -/
theorem admitted_serve (positive : 1 ≤ limit) :
    (hosts.serve limit request).admitted = hosts.admitted ++
      if ((pathOf request.counter).count request.now request.accountId
        (hosts.view request.counter)).1 ≤ limit then [request] else [] := by
  obtain ⟨decides, _, ran⟩ | ⟨decides, _, ran⟩ | ⟨decides, _, ran⟩ :=
    @serve_cases _ limit request positive
  all_goals
    rw [serve_of_run (congrFun ran _), decides]
    rfl

end Hosts

/-! ## One counter -/

section Counter

variable [DecidableEq ι]

/-- The times of an account's requests that are counted there. -/
def touched (accountId : String) (counter : Option ι) (requests : List (RateRequest ι)) : List ℚ :=
  (requests.filter fun request => request.accountId = accountId ∧ request.Touches counter).map
    (·.now)

/-- The times of those that the counter has let through. -/
def passed (accountId : String) (counter : Option ι) (admitted : List (RateRequest ι)) : List ℚ :=
  (admitted.filter fun request => request.accountId = accountId ∧ request.counter = counter).map
    (·.now)

variable {limit : ℤ} {accountId : String} {counter : Option ι} {request : RateRequest ι}
  {requests early : List (RateRequest ι)} {hosts : Hosts ι} {windows before : Windows}

theorem touched_concat : touched accountId counter (early ++ [request]) =
    touched accountId counter early ++
      if request.accountId = accountId ∧ request.Touches counter then [request.now] else [] := by
  unfold touched
  rw [List.filter_append, List.map_append, List.filter_singleton]
  by_cases counts : request.accountId = accountId ∧ request.Touches counter <;> simp [counts]

theorem passed_concat : passed accountId counter (early ++ [request]) =
    passed accountId counter early ++
      if request.accountId = accountId ∧ request.counter = counter then [request.now] else [] := by
  unfold passed
  rw [List.filter_append, List.map_append, List.filter_singleton]
  by_cases counts : request.accountId = accountId ∧ request.counter = counter <;> simp [counts]

theorem touched_sublist : (touched accountId counter requests).Sublist
    ((requests.filter fun request => request.accountId = accountId).map (·.now)) :=
  (List.monotone_filter_right requests fun request counts => by
    rw [decide_eq_true_iff] at counts ⊢
    exact counts.1).map _

omit [DecidableEq ι] in
/-- A counter keeps the accounts apart. -/
theorem records_count (path : RatePath) (apart : accountId ≠ request.accountId) :
    (path.count request.now request.accountId windows).2.records accountId =
      windows.records accountId := by
  cases path with
  | redis => exact records_pipeline apart windows
  | deque => exact records_slide apart windows

theorem RatePath.Recalls.of_records {path : RatePath} {times : List ℚ}
    (recalls : path.Recalls accountId times before)
    (same : windows.records accountId = before.records accountId) :
    path.Recalls accountId times windows := by
  obtain ⟨key, q⟩ := Prod.mk.inj same
  cases path with
  | redis =>
      rw [RatePath.Recalls, key]
      exact recalls
  | deque =>
      rw [RatePath.Recalls, q]
      exact recalls

/-- What a counter has of an account after some requests. -/
structure Hosts.Counted (limit : ℤ) (accountId : String) (counter : Option ι)
    (requests : List (RateRequest ι)) (hosts : Hosts ι) : Prop where
  recalls : (pathOf counter).Recalls accountId (touched accountId counter requests)
    (hosts.view counter)
  admitted : (passed accountId counter hosts.admitted).Sublist
    ((touched accountId counter requests).filter ((pathOf counter).window.Admits limit.toNat
      (touched accountId counter requests).toFinset))

theorem passed_serve (positive : 1 ≤ limit) :
    passed accountId counter (hosts.serve limit request).admitted =
      passed accountId counter hosts.admitted ++
        if (request.accountId = accountId ∧ request.counter = counter) ∧
          ((pathOf counter).count request.now accountId (hosts.view counter)).1 ≤ limit
        then [request.now] else [] := by
  rw [Hosts.admitted_serve positive]
  by_cases own : request.accountId = accountId ∧ request.counter = counter
  · have concat := @passed_concat _ _ accountId counter request hosts.admitted
    rw [if_pos own] at concat
    obtain ⟨rfl, rfl⟩ := own
    by_cases within : ((pathOf request.counter).count request.now request.accountId
      (hosts.view request.counter)).1 ≤ limit
    · rw [if_pos within, if_pos ⟨⟨rfl, rfl⟩, within⟩, concat]
    · rw [if_neg within, if_neg (not_and_of_not_right _ within), List.append_nil, List.append_nil]
  · have concat := @passed_concat _ _ accountId counter request hosts.admitted
    rw [if_neg own, List.append_nil] at concat
    rw [if_neg (not_and_of_not_left _ own), List.append_nil]
    split
    next => exact concat
    next => rw [List.append_nil]

/-- **One request**, at any of the instances. -/
theorem Hosts.Counted.next (counted : hosts.Counted limit accountId counter early)
    (positive : 1 ≤ limit)
    (increasing : request.accountId = accountId → ∀ s ∈ touched accountId counter early,
      s < request.now) :
    (hosts.serve limit request).Counted limit accountId counter (early ++ [request]) := by
  obtain ⟨recalls, admitted⟩ := counted
  by_cases counts : request.accountId = accountId ∧ request.Touches counter
  · obtain ⟨rfl, touches⟩ := counts
    obtain ⟨recalls', atLeast, _⟩ := recalls.next (increasing rfl)
    refine ⟨?_, ?_⟩
    · rw [touched_concat, if_pos ⟨rfl, touches⟩, view_serve positive, if_pos touches]
      exact recalls'
    · rw [touched_concat, if_pos ⟨rfl, touches⟩, filter_admits_append (increasing rfl),
        passed_serve positive]
      split
      next decided =>
        have admits : (pathOf counter).window.Admits limit.toNat
            (touched request.accountId counter early).toFinset request.now := by
          have within := decided.2
          unfold Window.Admits
          omega
        rw [if_pos admits]
        exact admitted.append_right _
      next =>
        rw [List.append_nil]
        exact admitted.trans (List.sublist_append_left _ _)
  · have notPassed : ¬ (request.accountId = accountId ∧ request.counter = counter) :=
      fun both => counts ⟨both.1, .inl both.2⟩
    have same : touched accountId counter (early ++ [request]) =
        touched accountId counter early := by
      rw [touched_concat, if_neg counts, List.append_nil]
    refine ⟨?_, ?_⟩
    · rw [same, view_serve positive]
      split
      next touches =>
        exact recalls.of_records (records_count _ fun own => counts ⟨own.symm, touches⟩)
      next => exact recalls
    · rw [same, passed_serve positive, if_neg fun both => notPassed both.1, List.append_nil]
      exact admitted

/-- The account's requests come one after another, wherever they go. -/
def InOrder (accountId : String) (requests : List (RateRequest ι)) : Prop :=
  ((requests.filter fun request => request.accountId = accountId).map (·.now)).Pairwise (· < ·)

theorem Hosts.counted_exec (positive : 1 ≤ limit) (inOrder : InOrder accountId requests) :
    (exec (Hosts.serve limit) Hosts.idle requests).Counted limit accountId counter requests := by
  induction requests using List.reverseRecOn with
  | nil =>
      refine ⟨?_, .refl _⟩
      cases counter with
      | none => exact RatePath.recalls_start rfl
      | some host => exact RatePath.recalls_start rfl
  | append_singleton early request ih =>
      unfold InOrder at inOrder
      rw [List.filter_append, List.map_append] at inOrder
      obtain ⟨sorted, _, before⟩ := List.pairwise_append.mp inOrder
      rw [exec_concat]
      refine (ih sorted).next positive fun own s member => ?_
      exact before s (touched_sublist.subset member) request.now (by simp [own])

theorem Hosts.Counted.length_le (counted : hosts.Counted limit accountId counter requests)
    (distinct : (touched accountId counter requests).Nodup) (t : ℚ) :
    ((passed accountId counter hosts.admitted).filter fun s => t - 60 < s ∧ s ≤ t).length ≤
      limit.toNat := by
  have part : ((passed accountId counter hosts.admitted).filter
      fun s => t - 60 < s ∧ s ≤ t).Sublist _ := List.filter_sublist.trans counted.admitted
  refine @Window.length_admitted_le _ _ _ _ t _ _ distinct part fun s member => ?_
  obtain ⟨_, within⟩ := List.mem_filter.mp member
  obtain ⟨recent, notAfter⟩ := of_decide_eq_true within
  refine ⟨notAfter, ?_⟩
  cases counter with
  | none => exact decide_eq_true recent
  | some host => exact decide_eq_true recent.le

end Counter

/-- **Bound.**  Whatever becomes of Redis, in no minute are more requests of an account admitted
than the limit for Redis and for each instance. -/
theorem admitted_le_failover [Fintype ι] [DecidableEq ι] {limit : ℤ} (positive : 1 ≤ limit)
    {accountId : String} {requests : List (RateRequest ι)} (inOrder : InOrder accountId requests)
    (t : ℚ) :
    ((exec (Hosts.serve limit) Hosts.idle requests).admitted.filter fun request =>
      request.accountId = accountId ∧ t - 60 < request.now ∧ request.now ≤ t).length ≤
        (Fintype.card ι + 1) * limit := by
  have each : ∀ counter : Option ι, (((exec (Hosts.serve limit) Hosts.idle requests).admitted.filter
      fun request => request.accountId = accountId ∧ t - 60 < request.now ∧ request.now ≤ t).filter
        fun request => request.counter = counter).length ≤ limit.toNat := by
    intro counter
    have distinct : (touched accountId counter requests).Nodup :=
      (List.Pairwise.sublist touched_sublist inOrder).imp ne_of_lt
    have counted := @Hosts.counted_exec _ _ _ _ counter _ positive inOrder
    refine (le_of_eq ?_).trans (counted.length_le distinct t)
    rw [passed, List.filter_map, List.length_map, List.filter_filter, List.filter_filter]
    congr 2
    funext request
    rw [Function.comp_apply, ← Bool.decide_and, ← Bool.decide_and, decide_eq_decide]
    tauto
  have total := length_le_of_each each
  rw [Fintype.card_option] at total
  zify at total
  rw [Int.toNat_of_nonneg (by omega)] at total
  exact total

/-- Redis goes away after the first request. -/
def outage : List (RateRequest Bool) :=
  [⟨true, "acc", ⟨true, none⟩, 1000⟩, ⟨true, "acc", ⟨false, none⟩, 1010⟩,
    ⟨false, "acc", ⟨true, some .refused⟩, 1020⟩]

-- The bound is met.
example : (exec (Hosts.serve 1) Hosts.idle outage).admitted.length = 3 := by decide +kernel

theorem admitted_le_failover_outage :
    ((exec (Hosts.serve 1) Hosts.idle outage).admitted.filter fun request =>
      request.accountId = "acc" ∧ (1059 : ℚ) - 60 < request.now ∧ request.now ≤ 1059).length ≤
        ((Fintype.card Bool + 1) * 1 : ℤ) :=
  admitted_le_failover (by decide) (by unfold InOrder outage; decide +kernel) 1059

end Aegis.Api
