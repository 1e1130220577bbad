import Mathlib.Data.Prod.Lex
import Aegis.Lib.Suffix

/-!
# Redis sorted sets

A sorted set holds distinct members, each with one score, in the order of
`(score, member)`.  `SortedSet` carries both facts as fields, and `zadd`,
`zremrangebyrank` and `zrange` follow the documented commands, negative ranks
included.

`SortedSet.zaddTrim` is the usual bounded log: add one member, then drop all but
the last `k` ranks.  `entries_foldl_zaddTrim` is its specification over whole
runs: whatever the arrival order of distinct members, what is left are the last
`k` of all entries ever added, in order.
-/

namespace Aegis.Lib

variable {S M : Type*} [LinearOrder S] [LinearOrder M]

/-- Entries in rank order; every member occurs once. -/
structure SortedSet (S M : Type*) [LinearOrder S] [LinearOrder M] where
  entries : List (S ×ₗ M)
  sorted : entries.Pairwise (· ≤ ·)
  nodup : (entries.map fun entry => (ofLex entry).2).Nodup

namespace SortedSet

@[ext]
theorem ext {a b : SortedSet S M} (entries : a.entries = b.entries) : a = b := by
  cases a
  cases b
  cases entries
  rfl

/-- The missing key. -/
def empty : SortedSet S M := ⟨[], List.Pairwise.nil, List.nodup_nil⟩

@[simp]
theorem entries_empty : (empty : SortedSet S M).entries = [] := rfl

/-- The entries other than `member`'s. -/
def without (set : SortedSet S M) (member : M) : List (S ×ₗ M) :=
  set.entries.filter fun entry => (ofLex entry).2 ≠ member

theorem without_sublist (set : SortedSet S M) (member : M) :
    (set.without member).Sublist set.entries := List.filter_sublist

/-- `ZADD key score member`: a member already present gets the new score. -/
def zadd (set : SortedSet S M) (score : S) (member : M) : SortedSet S M where
  entries := (set.without member).orderedInsert (· ≤ ·) (toLex (score, member))
  sorted := (set.sorted.sublist (set.without_sublist member)).orderedInsert _ _
  nodup := by
    rw [((List.perm_orderedInsert (· ≤ ·) _ _).map _).nodup_iff, List.map_cons,
      List.nodup_cons]
    refine ⟨?_, set.nodup.sublist ((set.without_sublist member).map _)⟩
    simp only [without, List.mem_map, List.mem_filter, decide_eq_true_eq, not_exists,
      not_and]
    exact fun entry held same => held.2 same

/-- A rank argument: negative ranks count from the end. -/
def rank (length : ℕ) (i : ℤ) : ℤ := if i < 0 then length + i else i

/-- What is left after removing the ranks `start` to `stop`, both included. -/
def outsideRanks {α : Type*} (xs : List α) (start stop : ℤ) : List α :=
  let first := (rank xs.length start).toNat
  let past := (rank xs.length stop + 1).toNat
  xs.take first ++ xs.drop (max first past)

theorem outsideRanks_sublist {α : Type*} (xs : List α) (start stop : ℤ) :
    (outsideRanks xs start stop).Sublist xs := by
  conv_rhs => rw [← List.take_append_drop (rank xs.length start).toNat xs]
  exact (List.Sublist.refl _).append
    (List.drop_sublist_drop_left _ (Nat.le_max_left _ _))

/-- Removing the ranks `0` to `-(k + 1)` keeps the last `k` items; for a negative
`k` there is nothing to keep once the list is no longer than `-k`. -/
theorem outsideRanks_eq_rtake {α : Type*} (xs : List α) (k : ℤ)
    (enough : 0 ≤ k ∨ (xs.length : ℤ) ≤ -k) :
    outsideRanks xs 0 (-(k + 1)) = xs.rtake k.toNat := by
  have start : (rank xs.length 0).toNat = 0 := by simp [rank]
  simp only [outsideRanks, start, List.take_zero, List.nil_append, Nat.zero_max]
  rcases lt_or_ge k 0 with negative | nonneg
  · have none : k.toNat = 0 := by omega
    rw [none, List.rtake_zero, rank, if_neg (by omega)]
    exact List.drop_eq_nil_of_le (by omega)
  · rw [rank, if_pos (by omega), List.rtake]
    congr 1
    omega

/-- `ZREMRANGEBYRANK key start stop`: both ranks are included. -/
def zremrangebyrank (set : SortedSet S M) (start stop : ℤ) : SortedSet S M where
  entries := outsideRanks set.entries start stop
  sorted := set.sorted.sublist (outsideRanks_sublist _ _ _)
  nodup := set.nodup.sublist ((outsideRanks_sublist _ _ _).map _)

/-- `ZREMRANGEBYSCORE key low high`: both scores are included. -/
def zremrangebyscore (set : SortedSet S M) (low high : S) : SortedSet S M where
  entries := set.entries.filter fun entry => ¬ (low ≤ (ofLex entry).1 ∧ (ofLex entry).1 ≤ high)
  sorted := set.sorted.sublist List.filter_sublist
  nodup := set.nodup.sublist (List.filter_sublist.map _)

/-- `ZCARD key`. -/
def zcard (set : SortedSet S M) : ℕ := set.entries.length

/-- Redis removes a key with its last member. -/
def orMissing (set : SortedSet S M) : Option (SortedSet S M) :=
  if set.entries = [] then none else some set

/-- `ZRANGE key start stop`: both ranks are included. -/
def zrange (set : SortedSet S M) (start stop : ℤ) : List M :=
  let first := (rank set.entries.length start).toNat
  let past := (rank set.entries.length stop + 1).toNat
  ((set.entries.take past).drop first).map fun entry => (ofLex entry).2

theorem zrange_all (set : SortedSet S M) :
    set.zrange 0 (-1) = set.entries.map fun entry => (ofLex entry).2 := by
  have first : (rank set.entries.length 0).toNat = 0 := by simp [rank]
  have past : (rank set.entries.length (-1) + 1).toNat = set.entries.length := by
    rw [rank, if_pos (by omega)]
    omega
  simp only [zrange, first, past, List.drop_zero, List.take_length]

/-! ## The bounded log -/

/-- Add one member, then keep the `k` highest ranks. -/
def zaddTrim (k : ℤ) (set : SortedSet S M) (score : S) (member : M) : SortedSet S M :=
  (set.zadd score member).zremrangebyrank 0 (-(k + 1))

theorem mem_zadd {set : SortedSet S M} {score : S} {member : M} {entry : S ×ₗ M} :
    entry ∈ (set.zadd score member).entries ↔
      entry = toLex (score, member) ∨ entry ∈ set.entries ∧ (ofLex entry).2 ≠ member := by
  simp only [zadd, List.mem_orderedInsert, without, List.mem_filter, decide_eq_true_eq]

theorem getD_orMissing (set : SortedSet S M) : set.orMissing.getD empty = set := by
  unfold orMissing
  split
  next none => exact ext none.symm
  next => rfl

theorem entries_zadd {set : SortedSet S M} {score : S} {member : M}
    (fresh : member ∉ set.entries.map fun entry => (ofLex entry).2) :
    (set.zadd score member).entries =
      set.entries.orderedInsert (· ≤ ·) (toLex (score, member)) := by
  have same : set.without member = set.entries := by
    refine List.filter_eq_self.mpr fun entry held => ?_
    simp only [decide_eq_true_eq]
    intro same
    rcases same with rfl
    exact fresh (List.mem_map_of_mem held)
  simp only [zadd, same]

theorem entries_zaddTrim {k : ℤ} {set : SortedSet S M} {score : S} {member : M}
    (bounded : set.entries.length ≤ k.toNat)
    (fresh : member ∉ set.entries.map fun entry => (ofLex entry).2) :
    (set.zaddTrim k score member).entries =
      (set.entries.orderedInsert (· ≤ ·) (toLex (score, member))).rtake k.toNat := by
  simp only [zaddTrim, zremrangebyrank, entries_zadd fresh]
  refine outsideRanks_eq_rtake _ _ ?_
  rw [List.orderedInsert_length]
  omega

/-- The entries of a list of additions, ranked. -/
def ranked (added : List (S × M)) : List (S ×ₗ M) :=
  (added.map toLex).insertionSort (· ≤ ·)

theorem ranked_perm (added : List (S × M)) : (ranked added).Perm (added.map toLex) :=
  List.perm_insertionSort _ _

theorem ranked_sorted (added : List (S × M)) : (ranked added).Pairwise (· ≤ ·) :=
  List.pairwise_insertionSort _ _

/-- Entries in order are determined by what was added, not by the arrival order. -/
theorem ranked_eq_of_perm {xs ys : List (S × M)} (perm : xs.Perm ys) :
    ranked xs = ranked ys :=
  List.Perm.eq_of_pairwise' (ranked_sorted xs) (ranked_sorted ys)
    ((ranked_perm xs).trans ((perm.map _).trans (ranked_perm ys).symm))

theorem ranked_append_singleton (added : List (S × M)) (last : S × M) :
    ranked (added ++ [last]) = (ranked added).orderedInsert (· ≤ ·) (toLex last) := by
  rw [ranked_eq_of_perm (List.perm_append_singleton last added)]
  rfl

/-- **The bounded log keeps the highest ranks.**  Whatever the arrival order of
members that occur once each, what is left are the last `k` of all entries ever
added. -/
theorem entries_foldl_zaddTrim (k : ℤ) (added : List (S × M))
    (distinct : (added.map Prod.snd).Nodup) :
    (added.foldl (fun set entry => set.zaddTrim k entry.1 entry.2) empty).entries =
      (ranked added).rtake k.toNat := by
  -- From the right, so that the hypothesis speaks of the log before the last addition.
  induction added using List.reverseRecOn with
  | nil => simp [ranked]
  | append_singleton added last ih =>
      rw [List.map_append, List.nodup_append] at distinct
      rcases distinct with ⟨distinct, -, fresh⟩
      have kept := ih distinct
      rw [List.foldl_append, List.foldl_cons, List.foldl_nil, entries_zaddTrim, kept,
        ranked_append_singleton]
      · exact rtake_orderedInsert_rtake (· ≤ ·) (ranked_sorted added)
      · rw [kept, length_rtake]
        exact Nat.min_le_left _ _
      · rw [kept]
        intro member
        obtain ⟨entry, held, same⟩ := List.mem_map.mp member
        have before := (ranked_perm added).subset ((rtake_sublist _ _).subset held)
        obtain ⟨earlier, earlierHeld, rfl⟩ := List.mem_map.mp before
        exact fresh _ (List.mem_map_of_mem earlierHeld) last.2 (by simp) same

end SortedSet

end Aegis.Lib
