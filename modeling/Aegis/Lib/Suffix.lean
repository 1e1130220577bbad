import Mathlib.Data.List.DropRight
import Mathlib.Data.List.Sort

/-!
# Suffixes of a list

Python's slice `xs[i:]` for an arbitrary integer `i`, and the last `k` items
(`List.rtake`) of a sorted list under insertion.  `rtake_orderedInsert_rtake` is
the reason a bounded list may be trimmed after every insertion: an item dropped
early would be dropped by the final trim as well.
-/

namespace Aegis.Lib

variable {α β : Type*}

/-- Python's `xs[i:]`: a negative `i` counts from the end and is clamped. -/
def sliceFrom (xs : List α) (i : ℤ) : List α :=
  if i < 0 then xs.rtake i.natAbs else xs.drop i.toNat

@[simp]
theorem length_rtake (xs : List α) (k : ℕ) : (xs.rtake k).length = min k xs.length := by
  simp only [List.rtake, List.length_drop]
  omega

theorem map_rtake (f : α → β) (xs : List α) (k : ℕ) :
    (xs.rtake k).map f = (xs.map f).rtake k := by
  simp only [List.rtake, List.map_drop, List.length_map]

theorem map_sliceFrom (f : α → β) (xs : List α) (i : ℤ) :
    (sliceFrom xs i).map f = sliceFrom (xs.map f) i := by
  unfold sliceFrom
  split
  · exact map_rtake f xs _
  · exact List.map_drop

theorem rtake_of_length_le {xs : List α} {k : ℕ} (short : xs.length ≤ k) :
    xs.rtake k = xs := by
  simp [List.rtake, Nat.sub_eq_zero_of_le short]

/-- Taking fewer items from the end of a suffix ignores the earlier cut. -/
theorem rtake_rtake {xs : List α} {j k : ℕ} (le : j ≤ k) :
    (xs.rtake k).rtake j = xs.rtake j := by
  simp only [List.rtake, List.drop_drop, List.length_drop]
  congr 1
  omega

/-- A suffix of length at least `j` has the same negative slice. -/
theorem sliceFrom_rtake {xs : List α} {i : ℤ} {k : ℕ} (negative : i < 0)
    (le : i.natAbs ≤ k) : sliceFrom (xs.rtake k) i = sliceFrom xs i := by
  simp only [sliceFrom, if_pos negative]
  exact rtake_rtake le

/-- Positions counted from the end do not see the cut. -/
theorem getElem_rtake {xs : List α} {k j : ℕ} (reach : j ≤ k)
    (kept : (xs.rtake k).length - j < (xs.rtake k).length) (whole : xs.length - j < xs.length) :
    (xs.rtake k)[(xs.rtake k).length - j] = xs[xs.length - j] := by
  have length := length_rtake xs k
  simp only [List.rtake, List.getElem_drop, List.length_drop] at *
  congr 1
  omega

theorem rtake_sublist (xs : List α) (k : ℕ) : (xs.rtake k).Sublist xs :=
  List.drop_sublist _ _

/-- Only the last `k` items matter once a list has that many. -/
theorem rtake_append_of_le_length (xs : List α) {ys : List α} {k : ℕ} (long : k ≤ ys.length) :
    (xs ++ ys).rtake k = ys.rtake k := by
  simp only [List.rtake, List.length_append]
  have split : xs.length + ys.length - k = xs.length + (ys.length - k) := by omega
  rw [split, List.drop_append]
  simp

section OrderedInsert

variable (r : α → α → Prop) [DecidableRel r]

/-- Inserting below a dropped front does not change the last items. -/
theorem rtake_orderedInsert_append [IsTrans α r] (x : α) {kept : List α} :
    ∀ {front : List α}, (front ++ kept).Pairwise r →
      ((front ++ kept).orderedInsert r x).rtake kept.length =
        (kept.orderedInsert r x).rtake kept.length
  | [], _ => rfl
  | head :: rest, sorted => by
      have tail : (rest ++ kept).Pairwise r := sorted.of_cons
      simp only [List.cons_append, List.orderedInsert_cons]
      split
      next below =>
        have above : ∀ y ∈ kept, r x y := fun y member =>
          trans_of r below (List.rel_of_pairwise_cons sorted (by simp [member]))
        have front : kept.orderedInsert r x = x :: kept := by
          cases kept with
          | nil => rfl
          | cons y ys => simp [above y (by simp)]
        rw [front, ← List.cons_append, ← List.cons_append,
          rtake_append_of_le_length _ (Nat.le_refl _)]
        exact (rtake_append_of_le_length [x] (Nat.le_refl _)).symm
      next =>
        rw [← rtake_orderedInsert_append x tail]
        refine rtake_append_of_le_length [head] ?_
        rw [List.orderedInsert_length, List.length_append]
        omega

/-- Trimming to the last `k` items before an insertion loses nothing that the
trim after it would keep. -/
theorem rtake_orderedInsert_rtake [IsTrans α r] {x : α} {xs : List α} {k : ℕ}
    (sorted : xs.Pairwise r) :
    ((xs.rtake k).orderedInsert r x).rtake k = (xs.orderedInsert r x).rtake k := by
  by_cases short : xs.length ≤ k
  · rw [rtake_of_length_le short]
  · have length : (xs.rtake k).length = k := by rw [length_rtake]; omega
    have split : xs.rdrop k ++ xs.rtake k = xs := List.take_append_drop _ xs
    have cut : (xs.rdrop k ++ xs.rtake k).Pairwise r := by rwa [split]
    have inserted := rtake_orderedInsert_append r x cut
    rw [split, length] at inserted
    exact inserted.symm

end OrderedInsert

/-- An item above a front goes behind it. -/
theorem orderedInsert_append_of_lt [LinearOrder α] {x : α} (back : List α) :
    ∀ {front : List α}, (∀ y ∈ front, y < x) →
      (front ++ back).orderedInsert (· ≤ ·) x = front ++ back.orderedInsert (· ≤ ·) x
  | [], _ => rfl
  | head :: rest, below => by
      have inner := orderedInsert_append_of_lt back fun y member => below y (.tail _ member)
      rw [List.cons_append, List.orderedInsert_cons, if_neg (below head (.head _)).not_ge, inner]
      rfl

/-! ## Insertions that do not show -/

/-- Inserting `x` behind items that all look like `c` and like each other. -/
theorem map_orderedInsert_eq_cons_iff [LinearOrder α] (f : α → β) (x : α) {c : β}
    {xs : List α} (sorted : xs.Pairwise (· ≤ ·)) :
    (xs.orderedInsert (· ≤ ·) x).map f = c :: xs.map f ↔
      f x = c ∧ ∀ y ∈ xs, y < x → f y = c := by
  induction xs generalizing c with
  | nil => simp
  | cons first rest ih =>
      obtain ⟨below, sortedRest⟩ := List.pairwise_cons.mp sorted
      rw [List.orderedInsert_cons]
      by_cases front : x ≤ first
      · rw [if_pos front, List.map_cons, List.map_cons, List.cons.injEq, and_iff_left rfl]
        refine (and_iff_left fun y member before => ?_).symm
        rcases List.mem_cons.mp member with rfl | later
        · exact absurd before front.not_gt
        · exact absurd before (front.trans (below y later)).not_gt
      · rw [if_neg front, List.map_cons, List.cons.injEq, List.map_cons, ih sortedRest]
        rw [not_le] at front
        constructor
        · intro held
          rcases held with ⟨rfl, same, others⟩
          refine ⟨same, fun y member before => ?_⟩
          rcases List.mem_cons.mp member with rfl | later
          · rfl
          · exact others y later before
        · intro held
          rcases held with ⟨same, others⟩
          have head : f first = c := others first (.head _) front
          exact ⟨head, same.trans head.symm, fun y member before =>
            (others y (.tail _ member) before).trans head.symm⟩

/-- Inserting and dropping the first item. -/
theorem map_tail_orderedInsert_iff [LinearOrder α] (f : α → β) (x : α)
    {xs : List α} (sorted : xs.Pairwise (· ≤ ·)) :
    ((xs.orderedInsert (· ≤ ·) x).tail).map f = xs.map f ↔ ∀ y ∈ xs, y < x → f y = f x := by
  cases xs with
  | nil => simp
  | cons first rest =>
      obtain ⟨below, sortedRest⟩ := List.pairwise_cons.mp sorted
      rw [List.orderedInsert_cons]
      by_cases front : x ≤ first
      · rw [if_pos front, List.tail_cons]
        refine iff_of_true rfl fun y member before => ?_
        rcases List.mem_cons.mp member with rfl | later
        · exact absurd before front.not_gt
        · exact absurd before (front.trans (below y later)).not_gt
      · rw [if_neg front, List.tail_cons, List.map_cons,
          map_orderedInsert_eq_cons_iff f x sortedRest]
        rw [not_le] at front
        constructor
        · intro held
          rcases held with ⟨same, others⟩
          intro y member before
          rcases List.mem_cons.mp member with rfl | later
          · exact same.symm
          · exact (others y later before).trans same.symm
        · intro others
          have head : f first = f x := others first (.head _) front
          exact ⟨head.symm, fun y member before =>
            (others y (.tail _ member) before).trans head.symm⟩

end Aegis.Lib
