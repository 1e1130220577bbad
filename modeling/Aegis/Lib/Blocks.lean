import Mathlib.Algebra.Group.Action.Defs
import Mathlib.Algebra.Order.BigOperators.Group.List
import Mathlib.Algebra.Order.Field.Basic
import Mathlib.Data.List.SplitLengths
import Mathlib.Data.List.Sort
import Mathlib.Tactic.Ring

/-!
# Block means of a sorted list

`numpy.array_split` cuts a list into consecutive blocks of nearly equal length.
On a list with at least as many items as blocks no block is empty
(`arraySplit_nonempty`), and the means of consecutive blocks of a sorted list are in
order (`means_sorted`).
-/

namespace Aegis.Lib

/-! ## Means -/

section Mean

variable {K : Type*} [Field K] [LinearOrder K] [IsStrictOrderedRing K]

/-- The arithmetic mean; the mean of nothing is zero and is never taken. -/
def mean (xs : List K) : K := xs.sum / xs.length

theorem mean_le {xs : List K} {bound : K} (nonempty : xs ≠ [])
    (below : ∀ x ∈ xs, x ≤ bound) : mean xs ≤ bound := by
  have positive : (0 : K) < xs.length := by
    exact_mod_cast List.length_pos_iff.mpr nonempty
  rw [mean, div_le_iff₀ positive, mul_comm, ← nsmul_eq_mul]
  exact xs.sum_le_card_nsmul bound below

theorem le_mean {xs : List K} {bound : K} (nonempty : xs ≠ [])
    (above : ∀ x ∈ xs, bound ≤ x) : bound ≤ mean xs := by
  have positive : (0 : K) < xs.length := by
    exact_mod_cast List.length_pos_iff.mpr nonempty
  rw [mean, le_div_iff₀ positive, mul_comm, ← nsmul_eq_mul]
  exact xs.card_nsmul_le_sum bound above

theorem mean_le_mean {xs ys : List K} (left : xs ≠ []) (right : ys ≠ [])
    (ordered : ∀ x ∈ xs, ∀ y ∈ ys, x ≤ y) : mean xs ≤ mean ys :=
  le_mean right fun y member => mean_le left fun x held => ordered x held y member

/-- Consecutive nonempty blocks of a sorted list have sorted means. -/
theorem means_sorted {blocks : List (List K)} (sorted : blocks.flatten.Pairwise (· ≤ ·))
    (nonempty : ∀ block ∈ blocks, block ≠ []) :
    (blocks.map mean).Pairwise (· ≤ ·) := by
  rw [List.pairwise_map]
  have apart := (List.pairwise_flatten.mp sorted).2
  exact apart.imp_of_mem fun left right ordered =>
    mean_le_mean (nonempty _ left) (nonempty _ right) ordered

end Mean

/-! ## Nearly equal blocks -/

section ArraySplit

variable {α : Type*}

/-- The block lengths of `numpy.array_split`: the remainder goes to the first
blocks, one item each. -/
def splitSizes (length parts : ℕ) : List ℕ :=
  List.replicate (length % parts) (length / parts + 1) ++
    List.replicate (parts - length % parts) (length / parts)

/-- `numpy.array_split(xs, parts)`. -/
def arraySplit (xs : List α) (parts : ℕ) : List (List α) :=
  (splitSizes xs.length parts).splitLengths xs

theorem sum_splitSizes (length : ℕ) {parts : ℕ} (positive : 0 < parts) :
    (splitSizes length parts).sum = length := by
  have small := Nat.mod_lt length positive
  have division := Nat.div_add_mod length parts
  simp only [splitSizes, List.sum_append, List.sum_replicate, smul_eq_mul]
  calc length % parts * (length / parts + 1) + (parts - length % parts) * (length / parts)
      = (length % parts + (parts - length % parts)) * (length / parts) + length % parts := by
        ring
    _ = length := by rw [Nat.add_sub_cancel' small.le, division]

theorem length_splitSizes (length : ℕ) {parts : ℕ} (positive : 0 < parts) :
    (splitSizes length parts).length = parts := by
  have small := Nat.mod_lt length positive
  simp only [splitSizes, List.length_append, List.length_replicate]
  omega

theorem length_arraySplit (xs : List α) {parts : ℕ} (positive : 0 < parts) :
    (arraySplit xs parts).length = parts := by
  rw [arraySplit, List.length_splitLengths, length_splitSizes _ positive]

theorem flatten_arraySplit (xs : List α) {parts : ℕ} (positive : 0 < parts) :
    (arraySplit xs parts).flatten = xs :=
  List.flatten_splitLengths _ _ (sum_splitSizes _ positive).ge

/-- With at least as many items as blocks, no block is empty. -/
theorem arraySplit_nonempty {xs : List α} {parts : ℕ} (positive : 0 < parts)
    (enough : parts ≤ xs.length) : ∀ block ∈ arraySplit xs parts, block ≠ [] := by
  intro block member same
  rcases same with rfl
  have sizes := List.map_splitLengths_length xs _ (sum_splitSizes xs.length positive).le
  have zero : (0 : ℕ) ∈ splitSizes xs.length parts := by
    rw [← sizes]
    exact List.mem_map.mpr ⟨[], member, rfl⟩
  have quotient : 0 < xs.length / parts := Nat.div_pos enough positive
  simp only [splitSizes, List.mem_append, List.mem_replicate] at zero
  omega

/-- The sizes of three blocks. -/
theorem splitSizes_three (length : ℕ) :
    splitSizes length 3 = [(length + 2) / 3, (length + 1) / 3, length / 3] := by
  have rest : length % 3 = 0 ∨ length % 3 = 1 ∨ length % 3 = 2 := by omega
  rcases rest with rest | rest | rest <;>
    simp only [splitSizes, rest, List.replicate, List.nil_append, List.cons_append,
      List.cons.injEq, Nat.sub_zero, Nat.add_one_sub_one, Nat.reduceSub, and_true] <;> omega

/-- Three runs are the three blocks when their lengths do not increase and differ by one at
most. -/
theorem arraySplit_three {xs ys zs : List α} (second : ys.length ≤ xs.length)
    (third : zs.length ≤ ys.length) (near : xs.length ≤ zs.length + 1) :
    arraySplit (xs ++ ys ++ zs) 3 = [xs, ys, zs] := by
  have first : (xs.length + ys.length + zs.length + 2) / 3 = xs.length := by omega
  have middle : (xs.length + ys.length + zs.length + 1) / 3 = ys.length := by omega
  have last : (xs.length + ys.length + zs.length) / 3 = zs.length := by omega
  rw [arraySplit, List.length_append, List.length_append, splitSizes_three, first, middle, last]
  simp only [List.splitLengths_cons, List.splitLengths_nil, List.append_assoc, List.take_left,
    List.drop_left, List.take_length]

end ArraySplit

end Aegis.Lib
