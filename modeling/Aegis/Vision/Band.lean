import Mathlib.Algebra.Order.Ring.Rat
import Mathlib.Data.List.Sort
import Mathlib.Order.Hom.Basic
import Aegis.Lib.Blocks
import Aegis.Rulebook.Engine

/-!
# Reading a band off the screenshot

`BrainCVService._rightmost_y_values` and `_band_ulm`.  The three lines of a band
share one colour, so the rightmost points are sorted by height and cut into three
blocks whose means become `U`, `M` and `L`.

`np.mean` of pixel heights sums integers exactly and rounds the quotient once.
The rounding is the parameter `fl`, a monotone map into the heights the engine
compares; `OrderHom.id` is exact arithmetic.
-/

namespace Aegis.Vision

open Aegis.Rulebook

/-- A contour centre, `[cx, cy]`. -/
structure Point where
  x : ℤ
  y : ℤ
  deriving DecidableEq

/-- How many columns from the right edge count as current. -/
def rightEdgeWindowPx : ℤ := 6

def rightmostYValues (points : List Point) : List ℤ :=
  match points with
  | [] => []
  | p :: rest =>
      let maxX := (rest.map (·.x)).foldl max p.x
      let cutoff := max 0 (maxX - rightEdgeWindowPx)
      ((p :: rest).filter fun q => cutoff ≤ q.x).map (·.y)

variable {α : Type} [LinearOrder α]

/-- `float(np.mean(t))` for a block of heights. -/
def meanHeight (fl : ℚ →o α) (ys : List ℤ) : α :=
  fl (Lib.mean (ys.map fun y : ℤ => (y : ℚ)))

def bandUlm (fl : ℚ →o α) (points : List Point) : Option (Band α) :=
  let ys := (rightmostYValues points).insertionSort (· ≤ ·)
  if ys.length < 3 then none
  else
    match (Lib.arraySplit ys 3).map (meanHeight fl) with
    | [u, m, l] => some ⟨u, m, l⟩
    | _ => none

/-! ## The lines come out in order -/

theorem meanHeights_sorted (fl : ℚ →o α) {ys : List ℤ} {parts : ℕ}
    (sorted : ys.Pairwise (· ≤ ·)) (positive : 0 < parts) (enough : parts ≤ ys.length) :
    ((Lib.arraySplit ys parts).map (meanHeight fl)).Pairwise (· ≤ ·) := by
  let blocks := (Lib.arraySplit ys parts).map (List.map fun y : ℤ => (y : ℚ))
  have flat : blocks.flatten.Pairwise (· ≤ ·) := by
    rw [← List.map_flatten, Lib.flatten_arraySplit ys positive, List.pairwise_map]
    exact sorted.imp fun below => by exact_mod_cast below
  have nonempty : ∀ block ∈ blocks, block ≠ [] := by
    simp only [blocks, List.mem_map, forall_exists_index, and_imp,
      forall_apply_eq_imp_iff₂, ne_eq, List.map_eq_nil_iff]
    exact Lib.arraySplit_nonempty positive enough
  have means := Lib.means_sorted flat nonempty
  rw [List.map_map, List.pairwise_map] at means
  rw [List.pairwise_map]
  exact means.imp fun below => fl.monotone below

/-- **Line order.**  A band that was read has its upper line highest on screen and
its lower line lowest. -/
theorem bandUlm_ordered {fl : ℚ →o α} {points : List Point} {band : Band α}
    (read : bandUlm fl points = some band) : band.U ≤ band.M ∧ band.M ≤ band.L := by
  simp only [bandUlm] at read
  split at read
  · cases read
  next enough =>
    have ordered := meanHeights_sorted fl
      (List.pairwise_insertionSort (· ≤ ·) (rightmostYValues points)) (by decide : 0 < 3)
      (not_lt.mp enough)
    split at read
    next u m l shape =>
      cases read
      rw [shape] at ordered
      simp only [List.pairwise_cons, List.mem_cons, List.not_mem_nil, or_false,
        forall_eq_or_imp, forall_eq] at ordered
      exact ⟨ordered.1.1, ordered.2.1⟩
    · cases read

end Aegis.Vision
