import Mathlib.Algebra.BigOperators.Ring.List
import Mathlib.Data.Finset.Max
import Mathlib.Tactic.Linarith
import Aegis.Vision.Band

/-!
# Three lines cut into thirds

`_band_ulm` cuts the heights of a band into equal thirds, however many of them each line has left
behind.  `separates_iff` says for which numbers of heights it reads every line where the line is.
-/

namespace Aegis.Vision

open Aegis.Rulebook

/-- The points are all within the window at the right edge. -/
def InWindow (points : List Point) : Prop :=
  ∀ p ∈ points, 0 ≤ p.x ∧ ∀ q ∈ points, q.x - rightEdgeWindowPx ≤ p.x

instance (points : List Point) : Decidable (InWindow points) := List.decidableBAll _ _

/-- The heights that the three lines of a band have left behind. -/
structure Lines where
  upper : List ℤ
  middle : List ℤ
  lower : List ℤ

/-- The lines lie one below another. -/
structure Lines.Apart (lines : Lines) : Prop where
  upper : ∀ u ∈ lines.upper, ∀ m ∈ lines.middle, u < m
  lower : ∀ m ∈ lines.middle, ∀ l ∈ lines.lower, m < l

/-- The points show the lines, in any order. -/
def Lines.Shown (lines : Lines) (points : List Point) : Prop :=
  InWindow points ∧ (points.map (·.y)).Perm (lines.upper ++ lines.middle ++ lines.lower)

variable {α : Type} [LinearOrder α]

/-- The height is within the range of the line. -/
def Within (fl : ℚ →o α) (ys : List ℤ) (height : α) : Prop :=
  ∃ least ∈ ys, ∃ greatest ∈ ys, fl least ≤ height ∧ height ≤ fl greatest

/-- The band is read off the lines. -/
def ReadsLines (fl : ℚ →o α) (lines : Lines) (points : List Point) : Prop :=
  ∃ band, bandUlm fl points = some band ∧ Within fl lines.upper band.U ∧
    Within fl lines.middle band.M ∧ Within fl lines.lower band.L

/-- Lines with so many heights are read, wherever they lie apart. -/
def Separates (fl : ℚ →o α) (upper middle lower : ℕ) : Prop :=
  ∀ (lines : Lines) (points : List Point), lines.upper.length = upper →
    lines.middle.length = middle → lines.lower.length = lower → lines.Apart →
      lines.Shown points → ReadsLines fl lines points

section Window

variable {points : List Point}

theorem foldl_max_mem (xs : List ℤ) (x : ℤ) : xs.foldl max x ∈ x :: xs := by
  induction xs generalizing x with
  | nil => exact List.mem_cons_self
  | cons head rest ih =>
      rw [List.foldl_cons]
      rcases List.mem_cons.mp (ih (max x head)) with top | later
      · rw [top]
        rcases max_choice x head with left | right
        · rw [left]
          exact List.mem_cons_self
        · rw [right]
          exact List.mem_cons_of_mem _ List.mem_cons_self
      · exact List.mem_cons_of_mem _ (List.mem_cons_of_mem _ later)

/-- Within the window nothing is cut off. -/
theorem rightmostYValues_inWindow (within : InWindow points) :
    rightmostYValues points = points.map (·.y) := by
  cases points with
  | nil => rfl
  | cons p rest =>
      unfold rightmostYValues
      dsimp only
      rw [List.filter_eq_self.mpr]
      intro q member
      have top := foldl_max_mem (rest.map (·.x)) p.x
      rw [← List.map_cons (f := fun point : Point => point.x)] at top
      obtain ⟨rightmost, held, same⟩ := List.mem_map.mp top
      obtain ⟨nonneg, near⟩ := within q member
      rw [← same]
      exact decide_eq_true (max_le nonneg (near rightmost held))

end Window

section Reading

variable {fl : ℚ →o α} {lines : Lines} {points : List Point}

/-- The heights in order are those of the lines, one after another. -/
theorem sorted_shown (apart : lines.Apart) (shown : lines.Shown points)
    (middle : lines.middle ≠ []) :
    (rightmostYValues points).insertionSort (· ≤ ·) =
      lines.upper.insertionSort (· ≤ ·) ++ lines.middle.insertionSort (· ≤ ·) ++
        lines.lower.insertionSort (· ≤ ·) := by
  obtain ⟨m, between⟩ := List.exists_mem_of_ne_nil _ middle
  have perm : ∀ ys : List ℤ, (ys.insertionSort (· ≤ ·)).Perm ys := List.perm_insertionSort (· ≤ ·)
  have sorted : ∀ ys : List ℤ, (ys.insertionSort (· ≤ ·)).Pairwise (· ≤ ·) :=
    List.pairwise_insertionSort (· ≤ ·)
  refine List.Perm.eq_of_pairwise' (sorted _) ?_ ?_
  · refine List.pairwise_append.mpr ⟨List.pairwise_append.mpr ⟨sorted _, sorted _, ?_⟩,
      sorted _, ?_⟩
    · intro u above y below
      exact (apart.upper u ((perm _).subset above) y ((perm _).subset below)).le
    · intro y above l below
      have low := (perm _).subset below
      rcases List.mem_append.mp above with top | mid
      · exact ((apart.upper y ((perm _).subset top) m between).trans
          (apart.lower m between l low)).le
      · exact (apart.lower y ((perm _).subset mid) l low).le
  · rw [rightmostYValues_inWindow shown.1]
    refine (perm _).trans (shown.2.trans ?_)
    exact (((perm _).append (perm _)).append (perm _)).symm

/-- A mean lies within the range. -/
theorem within_meanHeight {ys : List ℤ} (nonempty : ys ≠ []) :
    Within fl ys (meanHeight fl (ys.insertionSort (· ≤ ·))) := by
  have members : ∀ y, y ∈ ys.insertionSort (· ≤ ·) ↔ y ∈ ys :=
    fun y => (List.perm_insertionSort (· ≤ ·) ys).mem_iff
  obtain ⟨some, member⟩ := List.exists_mem_of_ne_nil _ nonempty
  have finite : ys.toFinset.Nonempty := ⟨some, List.mem_toFinset.mpr member⟩
  obtain ⟨least, least_mem, below⟩ := ys.toFinset.exists_min_image id finite
  obtain ⟨greatest, greatest_mem, above⟩ := ys.toFinset.exists_max_image id finite
  have heights : (ys.insertionSort (· ≤ ·)).map (fun y : ℤ => (y : ℚ)) ≠ [] := by
    intro none
    rw [List.map_eq_nil_iff] at none
    exact absurd ((members some).mpr member) (by rw [none]; exact List.not_mem_nil)
  refine ⟨least, List.mem_toFinset.mp least_mem, greatest, List.mem_toFinset.mp greatest_mem,
    fl.monotone (Lib.le_mean heights fun q height => ?_),
    fl.monotone (Lib.mean_le heights fun q height => ?_)⟩
  · obtain ⟨y, there, rfl⟩ := List.mem_map.mp height
    exact Int.cast_le.mpr (below y (List.mem_toFinset.mpr ((members y).mp there)))
  · obtain ⟨y, there, rfl⟩ := List.mem_map.mp height
    exact Int.cast_le.mpr (above y (List.mem_toFinset.mpr ((members y).mp there)))

/-- Lines that fill a third each are read, however the means are rounded. -/
theorem separates_of_thirds (fl : ℚ →o α) {upper middle lower : ℕ} (some : 0 < lower)
    (second : lower ≤ middle) (first : middle ≤ upper) (near : upper ≤ lower + 1) :
    Separates fl upper middle lower := by
  intro lines points sizeU sizeM sizeL apart shown
  subst sizeU sizeM sizeL
  have nonempty : ∀ {ys : List ℤ}, 0 < ys.length → ys ≠ [] := List.length_pos_iff.mp
  have inOrder := sorted_shown apart shown (nonempty (some.trans_le second))
  have three : ¬ (lines.upper.insertionSort (· ≤ ·) ++ lines.middle.insertionSort (· ≤ ·) ++
      lines.lower.insertionSort (· ≤ ·)).length < 3 := by
    simp only [List.length_append, List.length_insertionSort]
    omega
  have blocks : Lib.arraySplit (lines.upper.insertionSort (· ≤ ·) ++
      lines.middle.insertionSort (· ≤ ·) ++ lines.lower.insertionSort (· ≤ ·)) 3 =
        [lines.upper.insertionSort (· ≤ ·), lines.middle.insertionSort (· ≤ ·),
          lines.lower.insertionSort (· ≤ ·)] :=
    Lib.arraySplit_three (by simpa using first) (by simpa using second) (by simpa using near)
  refine ⟨⟨_, _, _⟩, ?_, within_meanHeight (nonempty (by omega)),
    within_meanHeight (nonempty (by omega)), within_meanHeight (nonempty some)⟩
  unfold bandUlm
  dsimp only
  rw [inOrder, if_neg three, blocks]
  rfl

/-- A band that was read comes from three blocks of the heights. -/
theorem blocks_of_bandUlm {band : Band α} (read : bandUlm fl points = some band) :
    ∃ t1 t2 t3 : List ℤ, (t1 ++ t2 ++ t3).Perm (rightmostYValues points) ∧
      (t1.length = ((rightmostYValues points).length + 2) / 3 ∧
        t2.length = ((rightmostYValues points).length + 1) / 3 ∧
          t3.length = (rightmostYValues points).length / 3) ∧
      (t1 ≠ [] ∧ t2 ≠ [] ∧ t3 ≠ []) ∧
      band = ⟨meanHeight fl t1, meanHeight fl t2, meanHeight fl t3⟩ := by
  have three : 0 < 3 := by decide
  have perm := List.perm_insertionSort (· ≤ ·) (rightmostYValues points)
  unfold bandUlm at read
  rw [← perm.length_eq]
  generalize (rightmostYValues points).insertionSort (· ≤ ·) = ys at perm read
  dsimp only at read
  split at read
  · cases read
  next enough =>
    obtain ⟨t1, t2, t3, blocks⟩ := List.length_eq_three.mp (Lib.length_arraySplit ys three)
    have sizes := List.map_splitLengths_length ys _ (Lib.sum_splitSizes ys.length three).le
    have flat := Lib.flatten_arraySplit ys three
    have nonempty := Lib.arraySplit_nonempty three (not_lt.mp enough)
    change (Lib.arraySplit ys 3).map List.length = _ at sizes
    rw [blocks, Lib.splitSizes_three] at sizes
    rw [blocks] at flat nonempty read
    simp only [List.map_cons, List.map_nil, List.cons.injEq, and_true] at sizes
    simp only [List.flatten_cons, List.flatten_nil, List.append_nil] at flat
    refine ⟨t1, t2, t3, ?_, sizes, ⟨?_, ?_, ?_⟩, (Option.some.inj read).symm⟩
    · rw [List.append_assoc, flat]
      exact perm
    all_goals exact nonempty _ (by simp)

end Reading

/-! ## Lines of other sizes -/

/-- Neighbouring heights up to the bound stay apart when they are rounded. -/
def KeepsApart (fl : ℚ →o α) (bound : ℕ) : Prop :=
  ∀ y : ℤ, -1 ≤ y → y ≤ bound → fl y < fl (y + 1 : ℤ)

section Flat

variable {upper middle lower : ℕ}

/-- How many heights there are in all. -/
def heights (upper middle lower : ℕ) : ℕ := upper + middle + lower

/-- Flat lines at three heights far apart, the lowest the farthest. -/
def flatLines (upper middle lower : ℕ) : Lines where
  upper := List.replicate upper 0
  middle := List.replicate middle (heights upper middle lower : ℕ)
  lower := List.replicate lower
    (heights upper middle lower * (heights upper middle lower + 2) : ℕ)

/-- One point for each of their heights, all in one column. -/
def flatPoints (upper middle lower : ℕ) : List Point :=
  ((flatLines upper middle lower).upper ++ (flatLines upper middle lower).middle ++
    (flatLines upper middle lower).lower).map fun y => ⟨0, y⟩

theorem flatLines_apart : (flatLines upper middle lower).Apart where
  upper u above m below := by
    have two := List.mem_replicate.mp below
    rw [List.eq_of_mem_replicate above, two.2]
    unfold heights
    omega
  lower m above l below := by
    have two := List.mem_replicate.mp above
    rw [two.2, List.eq_of_mem_replicate below]
    refine Int.ofNat_lt.mpr (lt_mul_of_one_lt_right ?_ (by omega))
    unfold heights
    omega

theorem flatLines_shown :
    (flatLines upper middle lower).Shown (flatPoints upper middle lower) := by
  refine ⟨fun p member => ?_, ?_⟩
  · have column : ∀ q ∈ flatPoints upper middle lower, q.x = 0 := by
      intro q held
      obtain ⟨_, _, rfl⟩ := List.mem_map.mp held
      rfl
    refine ⟨(column p member).ge, fun q also => ?_⟩
    rw [column p member, column q also]
    decide
  · rw [flatPoints, List.map_map]
    exact List.Perm.of_eq (List.map_id _)

/-- A height within the range of a flat line is that of the line. -/
theorem eq_of_within_replicate {fl : ℚ →o α} {n : ℕ} {y : ℤ} {height : α}
    (within : Within fl (List.replicate n y) height) : height = fl y := by
  obtain ⟨least, least_mem, greatest, greatest_mem, above, below⟩ := within
  rw [List.eq_of_mem_replicate least_mem] at above
  rw [List.eq_of_mem_replicate greatest_mem] at below
  exact le_antisymm below above

/-- What the heights of a block add up to when they lie no closer than the block is long. -/
theorem sum_of_meanHeight {fl : ℚ →o α} {bound : ℕ} (apart : KeepsApart fl bound)
    {ys : List ℤ} {y step : ℤ} (nonempty : ys ≠ []) (short : (ys.length : ℤ) ≤ step)
    (steps : ∀ z ∈ ys, step ∣ z) (also : step ∣ y) (nonneg : 0 ≤ y) (small : y ≤ bound)
    (mean : meanHeight fl ys = fl y) : ys.sum = ys.length * y := by
  have positive : (0 : ℚ) < ys.length := by
    exact_mod_cast List.length_pos_iff.mpr nonempty
  have total : (ys.map fun y : ℤ => (y : ℚ)).sum = (ys.sum : ℚ) :=
    (map_list_sum (Int.castRingHom ℚ) ys).symm
  have value : Lib.mean (ys.map fun y : ℤ => (y : ℚ)) = ys.sum / ys.length := by
    rw [Lib.mean, total, List.length_map]
  have above : ((y - 1 : ℤ) : ℚ) < ys.sum / ys.length := by
    by_contra reached
    have step := apart (y - 1) (by omega) (by omega)
    have lower := fl.monotone (not_lt.mp reached)
    rw [← value, ← meanHeight, mean] at lower
    rw [sub_add_cancel] at step
    exact absurd step lower.not_gt
  have below : (ys.sum / ys.length : ℚ) < ((y + 1 : ℤ) : ℚ) := by
    by_contra reached
    have step := apart y (by omega) small
    have higher := fl.monotone (not_lt.mp reached)
    rw [← value, ← meanHeight, mean] at higher
    exact absurd step higher.not_gt
  rw [lt_div_iff₀ positive] at above
  rw [div_lt_iff₀ positive] at below
  have least : (y - 1) * ys.length < ys.sum := by exact_mod_cast above
  have greatest : ys.sum < (y + 1) * ys.length := by exact_mod_cast below
  have close : |ys.sum - ys.length * y| < step := by
    rw [abs_lt]
    constructor <;> nlinarith only [least, greatest, short]
  have multiple : step ∣ ys.sum - ys.length * y :=
    (List.dvd_sum steps).sub (also.mul_left _)
  exact sub_eq_zero.mp (Int.eq_zero_of_abs_lt_dvd multiple close)

/-- A number is told by its last digit and the rest. -/
theorem digits_eq {base a b c d : ℕ} (left : a < base) (right : c < base)
    (same : a + b * base = c + d * base) : a = c ∧ b = d := by
  have positive : 0 < base := by omega
  have last := congrArg (· % base) same
  have rest := congrArg (· / base) same
  simp only [Nat.add_mul_mod_self_right, Nat.mod_eq_of_lt left, Nat.mod_eq_of_lt right] at last
  simp only [Nat.add_mul_div_right _ _ positive, Nat.div_eq_of_lt left, Nat.div_eq_of_lt right,
    Nat.zero_add] at rest
  exact ⟨last, rest⟩

/-- Flat lines whose blocks have their heights fill a third each. -/
theorem thirds_of_sums {t1 t2 t3 : List ℤ}
    (perm : (t1 ++ t2 ++ t3).Perm ((flatLines upper middle lower).upper ++
      (flatLines upper middle lower).middle ++ (flatLines upper middle lower).lower))
    (sizes : t2.length = (heights upper middle lower + 1) / 3 ∧
      t3.length = heights upper middle lower / 3)
    (some : 0 < heights upper middle lower) (sum1 : t1.sum = 0)
    (sum2 : t2.sum = t2.length * heights upper middle lower)
    (sum3 : t3.sum = t3.length *
      (heights upper middle lower * (heights upper middle lower + 2) : ℕ)) :
    lower ≤ middle ∧ middle ≤ upper ∧ upper ≤ lower + 1 := by
  have total := perm.sum_eq
  simp only [flatLines, List.sum_append, List.sum_replicate, sum1, sum2, sum3,
    mul_zero, zero_add, nsmul_eq_mul] at total
  have inNat : heights upper middle lower * (t2.length +
        t3.length * (heights upper middle lower + 2)) =
      heights upper middle lower * (middle + lower * (heights upper middle lower + 2)) := by
    zify
    push_cast at total
    linarith only [total]
  have same := Nat.eq_of_mul_eq_mul_left some inNat
  have sizeAll : heights upper middle lower = upper + middle + lower := rfl
  have digits := digits_eq (by omega) (by omega) same
  omega

/-- The heights of the flat lines lie as far apart as there are heights. -/
theorem dvd_of_mem_flatLines {z : ℤ} (member : z ∈ (flatLines upper middle lower).upper ++
      (flatLines upper middle lower).middle ++ (flatLines upper middle lower).lower) :
    (heights upper middle lower : ℤ) ∣ z := by
  simp only [flatLines, List.mem_append] at member
  rcases member with (top | mid) | low
  · rw [List.eq_of_mem_replicate top]
    exact dvd_zero _
  · rw [List.eq_of_mem_replicate mid]
  · rw [List.eq_of_mem_replicate low, Nat.cast_mul]
    exact dvd_mul_right _ _

theorem rightmostYValues_flatPoints : (rightmostYValues (flatPoints upper middle lower)).Perm
    ((flatLines upper middle lower).upper ++ (flatLines upper middle lower).middle ++
      (flatLines upper middle lower).lower) := by
  rw [rightmostYValues_inWindow flatLines_shown.1]
  exact flatLines_shown.2

theorem length_rightmost_flatPoints :
    (rightmostYValues (flatPoints upper middle lower)).length = heights upper middle lower := by
  rw [rightmostYValues_flatPoints.length_eq]
  simp only [flatLines, List.length_append, List.length_replicate, heights]

/-- Flat lines that are read fill a third each. -/
theorem thirds_of_reads_flat {fl : ℚ →o α}
    (apart : KeepsApart fl (heights upper middle lower * (heights upper middle lower + 2)))
    (reads : ReadsLines fl (flatLines upper middle lower) (flatPoints upper middle lower)) :
    lower ≤ middle ∧ middle ≤ upper ∧ upper ≤ lower + 1 := by
  obtain ⟨band, read, atU, atM, atL⟩ := reads
  obtain ⟨t1, t2, t3, perm, sizes, nonempty, rfl⟩ := blocks_of_bandUlm read
  have all := perm.trans rightmostYValues_flatPoints
  have short := perm.length_eq
  rw [length_rightmost_flatPoints] at sizes short
  rw [List.length_append, List.length_append] at short
  -- Each block has the height of its line, so it adds up to a multiple of it.
  have sums : ∀ (t : List ℤ) (y : ℤ), t ≠ [] → (∀ z ∈ t, z ∈ t1 ++ t2 ++ t3) →
      t.length ≤ heights upper middle lower → (heights upper middle lower : ℤ) ∣ y → 0 ≤ y →
      y ≤ (heights upper middle lower * (heights upper middle lower + 2) : ℕ) →
      meanHeight fl t = fl y → t.sum = t.length * y := by
    intro t y given members few multiple nonneg small mean
    exact sum_of_meanHeight apart given (Int.ofNat_le.mpr few)
      (fun z member => dvd_of_mem_flatLines (all.subset (members z member))) multiple nonneg
      small mean
  have sum1 := sums t1 0 nonempty.1
    (fun z member => List.mem_append_left _ (List.mem_append_left _ member)) (by omega)
    (dvd_zero _) le_rfl (Int.natCast_nonneg _) (eq_of_within_replicate atU)
  have sum2 := sums t2 _ nonempty.2.1
    (fun z member => List.mem_append_left _ (List.mem_append_right _ member)) (by omega)
    (dvd_refl _) (Int.natCast_nonneg _)
    (Int.ofNat_le.mpr (Nat.le_mul_of_pos_right _ (Nat.succ_pos _)))
    (eq_of_within_replicate atM)
  have sum3 := sums t3 _ nonempty.2.2 (fun z member => List.mem_append_right _ member)
    (by omega) (Int.natCast_dvd_natCast.mpr (Nat.dvd_mul_right _ _)) (Int.natCast_nonneg _)
    le_rfl (eq_of_within_replicate atL)
  rw [mul_zero] at sum1
  have some : 0 < heights upper middle lower := by
    have first := List.length_pos_iff.mpr nonempty.1
    omega
  exact thirds_of_sums all sizes.2 some sum1 sum2 sum3

end Flat

/-- **Thirds.**  Where rounding keeps the heights apart, the lines of a band are read wherever
they are exactly when they have left equally many heights, or the upper one, or the upper two,
one more than the rest. -/
theorem separates_iff {fl : ℚ →o α} {upper middle lower : ℕ}
    (some : 0 < upper ∧ 0 < middle ∧ 0 < lower)
    (apart : KeepsApart fl (heights upper middle lower * (heights upper middle lower + 2))) :
    Separates fl upper middle lower ↔
      lower ≤ middle ∧ middle ≤ upper ∧ upper ≤ lower + 1 := by
  refine ⟨fun separates => thirds_of_reads_flat apart ?_, fun thirds => ?_⟩
  · exact separates _ _ List.length_replicate List.length_replicate List.length_replicate
      flatLines_apart flatLines_shown
  · exact separates_of_thirds _ some.2.2 thirds.1 thirds.2.1 thirds.2.2

/-- Exact arithmetic keeps all heights apart. -/
theorem keepsApart_id (bound : ℕ) : KeepsApart (OrderHom.id : ℚ →o ℚ) bound := by
  intro y above below
  exact Int.cast_lt.mpr (Int.lt_succ y)

theorem separates_iff_thickUpper : Separates (OrderHom.id : ℚ →o ℚ) 2 1 1 :=
  (separates_iff (by decide) (keepsApart_id _)).mpr (by decide)

/-- Two contours on the middle line and one on each of the others. -/
def thickMiddle : Lines := ⟨[100], [110, 112], [120]⟩

def thickMiddlePoints : List Point := [⟨50, 110⟩, ⟨50, 120⟩, ⟨51, 112⟩, ⟨52, 100⟩]

/-- The upper one of the middle line's contours counts as the upper line's. -/
theorem not_reads_thickMiddle : thickMiddle.Apart ∧ thickMiddle.Shown thickMiddlePoints ∧
    ¬ ReadsLines (OrderHom.id : ℚ →o ℚ) thickMiddle thickMiddlePoints := by
  refine ⟨⟨by decide, by decide⟩, ⟨by decide, by decide⟩, fun reads => ?_⟩
  obtain ⟨band, read, atU, _⟩ := reads
  have other : bandUlm (OrderHom.id : ℚ →o ℚ) thickMiddlePoints = some ⟨105, 112, 120⟩ := by
    decide +kernel
  rw [other] at read
  cases read
  have flat : Within (OrderHom.id : ℚ →o ℚ) (List.replicate 1 100) 105 := atU
  have upper : (105 : ℚ) = (100 : ℤ) := eq_of_within_replicate flat
  exact absurd upper (by decide)

end Aegis.Vision
