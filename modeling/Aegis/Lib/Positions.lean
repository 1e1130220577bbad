import Mathlib.Data.List.Basic

/-!
# Where a comprehension takes its items from

`[read(x) for x in xs if read(x) is not None]` drops what cannot be read, and with it the
positions.  `Aligned` says of two such comprehensions over one list that they have dropped the
same ones; `aligned_iff` that this takes no comparison of positions when they are of one length.
-/

namespace Aegis.Lib

variable {α β γ : Type*}

/-- The positions of what the comprehension keeps. -/
def positions (read : α → Option β) (xs : List α) : List ℕ :=
  xs.findIdxs fun x => (read x).isSome

/-- Items at one index come from one position. -/
def Aligned (first : α → Option β) (second : α → Option γ) (xs : List α) : Prop :=
  ∀ k i j : ℕ, (positions first xs)[k]? = some i → (positions second xs)[k]? = some j → i = j

variable {read : α → Option β} {first : α → Option β} {second : α → Option γ} {xs : List α}

theorem positions_cons (x : α) (xs : List α) :
    positions read (x :: xs) =
      if (read x).isSome then 0 :: (positions read xs).map (· + 1)
      else (positions read xs).map (· + 1) := by
  unfold positions
  rw [List.findIdxs_cons, List.findIdxs_start (s := 0 + 1)]

/-- **Provenance.**  The item at an index is what is read at the position of that index. -/
theorem getElem?_filterMap (read : α → Option β) (xs : List α) (k : ℕ) :
    (xs.filterMap read)[k]? = ((positions read xs)[k]?).bind fun i => xs[i]?.bind read := by
  induction xs generalizing k with
  | nil => rfl
  | cons x xs ih =>
      have later : ∀ k : ℕ, (((positions read xs).map (· + 1))[k]?).bind
          (fun i : ℕ => (x :: xs)[i]?.bind read) = (xs.filterMap read)[k]? := by
        intro k
        rw [ih, List.getElem?_map]
        cases (positions read xs)[k]? <;> rfl
      rw [positions_cons, List.filterMap_cons]
      cases item : read x with
      | none => exact (later k).symm
      | some value =>
          cases k with
          | zero => exact item.symm
          | succ k => exact (later k).symm

/-- Where the comprehensions are aligned, the items at an index are read from one and the same. -/
theorem Aligned.same {k : ℕ} {y : β} {z : γ} (aligned : Aligned first second xs)
    (firstAt : (xs.filterMap first)[k]? = some y) (secondAt : (xs.filterMap second)[k]? = some z) :
    ∃ x ∈ xs, first x = some y ∧ second x = some z := by
  rw [getElem?_filterMap] at firstAt secondAt
  obtain ⟨i, positionAt, readAt⟩ := Option.bind_eq_some_iff.mp firstAt
  obtain ⟨j, otherAt, alsoAt⟩ := Option.bind_eq_some_iff.mp secondAt
  have equal := aligned k i j positionAt otherAt
  subst equal
  obtain ⟨x, found, first⟩ := Option.bind_eq_some_iff.mp readAt
  obtain ⟨x', again, second⟩ := Option.bind_eq_some_iff.mp alsoAt
  cases found.symm.trans again
  exact ⟨x, List.mem_of_getElem? found, first, second⟩

theorem length_positions (read : α → Option β) (xs : List α) :
    (positions read xs).length = (xs.filterMap read).length := by
  rw [List.length_filterMap_eq_countP, positions, List.length_findIdxs]

theorem mem_positions {i : ℕ} (within : i < xs.length) :
    i ∈ positions read xs ↔ (read xs[i]).isSome = true :=
  List.mem_findIdxs_iff_pos_getElem within

/-- What reads the same items keeps the same positions. -/
theorem positions_eq_iff : positions first xs = positions second xs ↔
    ∀ x ∈ xs, (first x).isSome = (second x).isSome := by
  refine ⟨fun same x member => ?_, fun same => ?_⟩
  · obtain ⟨i, within, rfl⟩ := List.getElem_of_mem member
    rw [Bool.eq_iff_iff, ← mem_positions within, ← mem_positions within, same]
  · induction xs with
    | nil => rfl
    | cons x xs ih =>
        rw [List.forall_mem_cons] at same
        rw [positions_cons, positions_cons, same.1, ih same.2]

/-- **Alignment**, for comprehensions of one length. -/
theorem aligned_iff (same : (xs.filterMap first).length = (xs.filterMap second).length) :
    Aligned first second xs ↔ ∀ x ∈ xs, (first x).isSome = (second x).isSome := by
  rw [← positions_eq_iff]
  rw [← length_positions, ← length_positions] at same
  refine ⟨fun aligned => List.ext_getElem same fun k low high => ?_, fun equal k i j at_ also => ?_⟩
  · exact aligned k _ _ (List.getElem?_eq_getElem low) (List.getElem?_eq_getElem high)
  · rw [equal, also] at at_
    exact (Option.some.inj at_).symm

end Aegis.Lib
