import Mathlib.Algebra.GroupWithZero.Nat
import Mathlib.Algebra.BigOperators.Group.List.Basic
import Mathlib.Data.List.Count
import Mathlib.Data.List.Induction
import Mathlib.Order.Lattice

/-!
# Counting

`counts` is the loop `counts[key] = counts.get(key, 0) + 1` over a dict: it says of each key how
often it comes (`lookup_counts`), and all together come to the number of keys (`sum_counts`).

The last section is about the sample at a position of the sorted samples: how many are not
greater, and how many not less.
-/

namespace Aegis.Lib

variable {κ : Type*} [DecidableEq κ]

/-- `counts[key] = counts.get(key, 0) + 1`; a new key comes last. -/
def bump (key : κ) : List (κ × ℕ) → List (κ × ℕ)
  | [] => [(key, 1)]
  | (other, n) :: rest =>
      if other = key then (other, n + 1) :: rest else (other, n) :: bump key rest

def counts (keys : List κ) : List (κ × ℕ) := keys.foldl (fun counted key => bump key counted) []

variable {key other : κ} {counted : List (κ × ℕ)} {keys : List κ}

theorem sum_bump : ((bump key counted).map (·.2)).sum = (counted.map (·.2)).sum + 1 := by
  induction counted with
  | nil => rfl
  | cons first rest ih =>
      rw [bump]
      split
      · rw [List.map_cons, List.map_cons, List.sum_cons, List.sum_cons]
        omega
      · rw [List.map_cons, List.map_cons, List.sum_cons, List.sum_cons, ih]
        omega

/-- What the dict says of a key, 0 without an entry. -/
def countOf (key : κ) (counted : List (κ × ℕ)) : ℕ := (counted.lookup key).getD 0

theorem countOf_bump :
    countOf other (bump key counted) = countOf other counted + if other = key then 1 else 0 := by
  unfold countOf
  induction counted with
  | nil =>
      rw [bump, List.lookup_cons]
      by_cases same : other = key
      · simp [same]
      · simp [same, beq_eq_false_iff_ne.mpr same]
  | cons first rest ih =>
      obtain ⟨held, n⟩ := first
      rw [bump]
      split
      next found =>
        by_cases same : other = held
        · simp [same, found]
        · have apart : ¬ other = key := fun equal => same (equal.trans found.symm)
          simp [List.lookup_cons, beq_eq_false_iff_ne.mpr same, apart]
      next missed =>
        by_cases same : other = held
        · simp [same, missed]
        · simpa [List.lookup_cons, beq_eq_false_iff_ne.mpr same] using ih

theorem counts_concat : counts (keys ++ [key]) = bump key (counts keys) :=
  List.foldl_concat _ _ _ _

theorem sum_counts : ((counts keys).map (·.2)).sum = keys.length := by
  induction keys using List.reverseRecOn with
  | nil => rfl
  | append_singleton early key ih =>
      rw [counts_concat, sum_bump, ih, List.length_append, List.length_singleton]

/-- **Counts** are counts. -/
theorem countOf_counts : countOf key (counts keys) = keys.count key := by
  induction keys using List.reverseRecOn with
  | nil => rfl
  | append_singleton early last ih =>
      rw [counts_concat, countOf_bump, ih, List.count_append, List.count_singleton]
      by_cases same : key = last
      · simp [same]
      · simp [same, beq_eq_false_iff_ne.mpr (Ne.symm same)]

/-! ## Positions of sorted samples -/

section Samples

variable {T : Type*} [LinearOrder T] {sorted : List T} {i : ℕ}

theorem le_countP_le (ordered : sorted.Pairwise (· ≤ ·)) (inside : i < sorted.length) :
    i + 1 ≤ sorted.countP (· ≤ sorted[i]) := by
  have early : (sorted.take (i + 1)).countP (· ≤ sorted[i]) = (sorted.take (i + 1)).length := by
    refine List.countP_eq_length.mpr fun sample member => decide_eq_true ?_
    obtain ⟨j, short, rfl⟩ := List.getElem_of_mem member
    rw [List.length_take] at short
    rw [List.getElem_take]
    rcases Nat.lt_or_ge j i with before | after
    · have first : j < sorted.length := Nat.lt_trans before inside
      exact List.pairwise_iff_getElem.mp ordered j i first inside before
    · have same : j = i := by omega
      subst same
      exact le_rfl
  have length : (sorted.take (i + 1)).length = i + 1 := by
    rw [List.length_take]
    omega
  rw [← length, ← early]
  exact (List.take_sublist (i + 1) sorted).countP_le

theorem sub_le_countP_ge (ordered : sorted.Pairwise (· ≤ ·)) (inside : i < sorted.length) :
    sorted.length - i ≤ sorted.countP (sorted[i] ≤ ·) := by
  have late : (sorted.drop i).countP (sorted[i] ≤ ·) = (sorted.drop i).length := by
    refine List.countP_eq_length.mpr fun sample member => decide_eq_true ?_
    obtain ⟨j, short, rfl⟩ := List.getElem_of_mem member
    rw [List.getElem_drop]
    rcases Nat.eq_zero_or_pos j with rfl | positive
    · exact le_rfl
    · rw [List.length_drop] at short
      exact List.pairwise_iff_getElem.mp ordered i (i + j) inside (by omega) (by omega)
  rw [← List.length_drop, ← late]
  exact (List.drop_sublist i sorted).countP_le

end Samples

end Aegis.Lib
