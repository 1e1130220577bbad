import Mathlib.Data.Int.Log
import Mathlib.Data.Rat.Floor
import Mathlib.Tactic.Ring
import Aegis.Lib.Python
import Aegis.Lib.Rounding

/-!
# Doubles

`double x` is the binary64 number nearest to `x`, half to even, with gradual underflow and without
an upper bound; `toDouble` is Python's conversion of an integer, which raises beyond it.  Rounding
is monotone (`double_mono`), leaves integers of 53 bits alone, however they are scaled
(`double_scaled`), and is off by half a unit in the last place at most (`abs_double_sub_le`).

So it is one of the roundings of `Aegis.Lib.Rounding`: `exact64_binary64`, `close_binary64`.
-/

namespace Aegis.Lib

/-! ## Nearest integers -/

/-- The nearest integer, half to even. -/
def roundEven (x : ℚ) : ℤ :=
  if x - ⌊x⌋ < 1 / 2 ∨ x - ⌊x⌋ = 1 / 2 ∧ ⌊x⌋ % 2 = 0 then ⌊x⌋ else ⌊x⌋ + 1

variable {x y : ℚ} {k : ℤ}

theorem roundEven_intCast (n : ℤ) : roundEven n = n := by
  rw [roundEven, Int.floor_intCast, if_pos (Or.inl _)]
  norm_num

theorem floor_le_roundEven (x : ℚ) : ⌊x⌋ ≤ roundEven x ∧ roundEven x ≤ ⌊x⌋ + 1 := by
  unfold roundEven
  split
  · omega
  · omega

theorem roundEven_mono (le : x ≤ y) : roundEven x ≤ roundEven y := by
  have floors : ⌊x⌋ ≤ ⌊y⌋ := Int.floor_le_floor le
  rcases floors.lt_or_eq with less | same
  · have above := (floor_le_roundEven x).2
    have below := (floor_le_roundEven y).1
    omega
  · by_cases down : y - ⌊y⌋ < 1 / 2 ∨ y - ⌊y⌋ = 1 / 2 ∧ ⌊y⌋ % 2 = 0
    · have downAlso : x - ⌊x⌋ < 1 / 2 ∨ x - ⌊x⌋ = 1 / 2 ∧ ⌊x⌋ % 2 = 0 := by
        rw [same]
        have parts : x - ⌊y⌋ ≤ y - ⌊y⌋ := sub_le_sub_right le _
        rcases down with small | ⟨half, even⟩
        · exact .inl (parts.trans_lt small)
        · rcases parts.lt_or_eq with less | equal
          · exact .inl (less.trans_eq half)
          · exact .inr ⟨equal.trans half, even⟩
      rw [roundEven, roundEven, if_pos down, if_pos downAlso]
      exact floors
    · rw [roundEven.eq_def y, if_neg down, ← same]
      exact (floor_le_roundEven x).2

theorem abs_roundEven_sub_le (x : ℚ) : |(roundEven x : ℚ) - x| ≤ 1 / 2 := by
  have low := Int.floor_le x
  have high := Int.lt_floor_add_one x
  rw [abs_le]
  unfold roundEven
  split
  next down =>
    have half : x - ⌊x⌋ ≤ 1 / 2 := by
      rcases down with small | ⟨same, _⟩
      · exact small.le
      · exact same.le
    constructor
    · linarith
    · linarith
  next up =>
    have half : 1 / 2 ≤ x - ⌊x⌋ := not_lt.mp fun small => up (.inl small)
    push_cast
    constructor
    · linarith
    · linarith

/-! ## Nearest doubles -/

/-- The exponent of the last place of a double near `x`. -/
def lastPlace (x : ℚ) : ℤ := max (Int.log 2 |x| - 52) (-1074)

def double (x : ℚ) : ℚ := roundEven (x / 2 ^ lastPlace x) * 2 ^ lastPlace x

/-- The conversion of an integer, as arithmetic with a float needs it. -/
def toDouble (n : ℤ) : Except PyError ℚ :=
  if |double n| < 2 ^ 1024 then .ok (double n) else .error .overflowError

theorem two_zpow_pos (k : ℤ) : (0 : ℚ) < 2 ^ k := zpow_pos two_pos k

theorem two_zpow_add (a b : ℤ) : (2 : ℚ) ^ (a + b) = 2 ^ a * 2 ^ b := zpow_add₀ two_ne_zero a b

theorem abs_lt_lastPlace (x : ℚ) : |x| < 2 ^ (lastPlace x + 53) := by
  have below : |x| < 2 ^ (Int.log 2 |x| + 1) := by
    exact_mod_cast Int.lt_zpow_succ_log_self one_lt_two |x|
  refine below.trans_le (zpow_le_zpow_right₀ one_le_two ?_)
  have least := le_max_left (Int.log 2 |x| - 52) (-1074)
  unfold lastPlace
  omega

theorem lastPlace_le_abs (nonzero : x ≠ 0) (normal : -1074 < lastPlace x) :
    2 ^ (lastPlace x + 52) ≤ |x| := by
  have above : (2 : ℚ) ^ Int.log 2 |x| ≤ |x| := by
    exact_mod_cast Int.zpow_log_le_self (R := ℚ) one_lt_two (abs_pos.mpr nonzero)
  have exponent : lastPlace x + 52 = Int.log 2 |x| := by
    unfold lastPlace at normal ⊢
    omega
  rwa [exponent]

theorem lastPlace_le (small : |x| < 2 ^ (k + 53)) (large : -52 ≤ k) : lastPlace x ≤ k := by
  have log : Int.log 2 |x| < k + 53 := by
    rcases eq_or_ne x 0 with rfl | nonzero
    · rw [abs_zero, Int.log_zero_right]
      omega
    · refine (Int.lt_zpow_iff_log_lt one_lt_two (abs_pos.mpr nonzero)).mp ?_
      exact_mod_cast small
  exact max_le (by omega) (by omega)

/-- A multiple of the last place. -/
theorem exists_multiple {m j : ℤ} (coarse : j ≤ k) :
    ∃ n : ℤ, (m : ℚ) * 2 ^ k = n * 2 ^ j := by
  refine ⟨m * 2 ^ (k - j).toNat, ?_⟩
  have split : (2 : ℚ) ^ k = 2 ^ (k - j).toNat * 2 ^ j := by
    rw [← zpow_natCast, ← two_zpow_add]
    congr 1
    omega
  rw [split]
  push_cast
  ring

/-- Rounding does not cross numbers with places no finer than the last one. -/
theorem double_le {m : ℤ} (coarse : lastPlace x ≤ k) (le : x ≤ m * 2 ^ k) :
    double x ≤ m * 2 ^ k := by
  obtain ⟨n, same⟩ := exists_multiple coarse
  rw [same] at le ⊢
  refine mul_le_mul_of_nonneg_right ?_ (two_zpow_pos _).le
  have scaled : x / 2 ^ lastPlace x ≤ n := (div_le_iff₀ (two_zpow_pos _)).mpr le
  exact_mod_cast (roundEven_mono scaled).trans_eq (roundEven_intCast n)

theorem le_double {m : ℤ} (coarse : lastPlace x ≤ k) (le : m * 2 ^ k ≤ x) :
    m * 2 ^ k ≤ double x := by
  obtain ⟨n, same⟩ := exists_multiple coarse
  rw [same] at le ⊢
  refine mul_le_mul_of_nonneg_right ?_ (two_zpow_pos _).le
  have scaled : n ≤ x / 2 ^ lastPlace x := (le_div_iff₀ (two_zpow_pos _)).mpr le
  exact_mod_cast (roundEven_intCast n).symm.trans_le (roundEven_mono scaled)

theorem double_zero : double 0 = 0 := by
  rw [double, zero_div, ← Int.cast_zero, roundEven_intCast, Int.cast_zero, zero_mul]

/-- Between numbers whose last places differ there is a power of two. -/
theorem exists_power (nonzero : y ≠ 0) (finer : lastPlace x < lastPlace y) :
    ∃ k, lastPlace x ≤ k ∧ lastPlace y ≤ k ∧ |x| < 2 ^ k ∧ (2 : ℚ) ^ k ≤ |y| := by
  have least : -1074 ≤ lastPlace x := le_max_right _ _
  refine ⟨lastPlace y + 52, by omega, by omega, ?_, lastPlace_le_abs nonzero (by omega)⟩
  refine (abs_lt_lastPlace x).trans_le (zpow_le_zpow_right₀ one_le_two ?_)
  omega

theorem double_mono : Monotone double := by
  intro x y le
  rcases lt_trichotomy (lastPlace x) (lastPlace y) with finer | same | coarser
  · rcases eq_or_ne y 0 with rfl | nonzero
    · rw [double_zero]
      simpa using double_le (m := 0) (le_refl (lastPlace x)) (by simpa using le)
    · obtain ⟨k, coarseX, coarseY, below, above⟩ := exists_power nonzero finer
      have positive : 0 < y := by
        by_contra! nonpos
        rw [abs_of_nonpos nonpos] at above
        have outside := neg_le_abs x
        linarith
      rw [abs_of_pos positive] at above
      have low := double_le (m := 1) coarseX (by simpa using (le_abs_self x).trans below.le)
      exact low.trans (le_double coarseY (by simpa using above))
  · unfold double
    rw [same]
    refine mul_le_mul_of_nonneg_right ?_ (two_zpow_pos _).le
    exact_mod_cast roundEven_mono (div_le_div_of_nonneg_right le (two_zpow_pos _).le)
  · rcases eq_or_ne x 0 with rfl | nonzero
    · rw [double_zero]
      simpa using le_double (m := 0) (le_refl (lastPlace y)) (by simpa using le)
    · obtain ⟨k, coarseY, coarseX, below, above⟩ := exists_power nonzero coarser
      have negative : x < 0 := by
        by_contra! nonneg
        rw [abs_of_nonneg nonneg] at above
        have outside := le_abs_self y
        linarith
      rw [abs_of_neg negative] at above
      have low := double_le (m := -1) coarseX (by push_cast; linarith)
      have inside := neg_le_abs y
      exact low.trans (le_double coarseY (by push_cast; linarith))

theorem double_scaled_of_lt {m : ℤ} (few : |m| < 2 ^ 53) (large : -52 ≤ k) :
    double (m * 2 ^ k) = m * 2 ^ k := by
  have coarse : lastPlace (m * 2 ^ k) ≤ k := by
    refine lastPlace_le ?_ large
    rw [abs_mul, abs_of_pos (two_zpow_pos k), add_comm, two_zpow_add, ← Int.cast_abs]
    refine mul_lt_mul_of_pos_right ?_ (two_zpow_pos k)
    exact_mod_cast few
  exact le_antisymm (double_le coarse le_rfl) (le_double coarse le_rfl)

/-- Numbers of 53 bits are doubles, and so are their multiples by powers of two. -/
theorem double_scaled {m : ℤ} (few : |m| ≤ 2 ^ 53) (large : -52 ≤ k) :
    double (m * 2 ^ k) = m * 2 ^ k := by
  rcases few.lt_or_eq with few | full
  · exact double_scaled_of_lt few large
  · -- one bit more, but the last one is zero
    obtain ⟨half, rfl, fewer⟩ : ∃ half, m = half * 2 ∧ |half| < 2 ^ 53 := by
      rcases eq_or_eq_neg_of_abs_eq full with rfl | rfl
      · exact ⟨2 ^ 52, by norm_num, by norm_num⟩
      · exact ⟨-2 ^ 52, by norm_num, by norm_num⟩
    have next := double_scaled_of_lt fewer (by omega : -52 ≤ 1 + k)
    rw [two_zpow_add, zpow_one, ← mul_assoc] at next
    exact_mod_cast next

theorem double_intCast {n : ℤ} (few : |n| ≤ 2 ^ 53) : double n = n := by
  have scaled := double_scaled few (by norm_num : -52 ≤ (0 : ℤ))
  rwa [zpow_zero, mul_one] at scaled

/-- Rounding is off by half the last place. -/
theorem abs_double_sub_le (x : ℚ) : |double x - x| ≤ 2 ^ lastPlace x / 2 := by
  have positive := two_zpow_pos (lastPlace x)
  have factor : double x - x =
      (roundEven (x / 2 ^ lastPlace x) - x / 2 ^ lastPlace x) * 2 ^ lastPlace x := by
    rw [sub_mul, div_mul_cancel₀ _ positive.ne', double]
  rw [factor, abs_mul, abs_of_pos positive]
  calc |(roundEven (x / 2 ^ lastPlace x) : ℚ) - x / 2 ^ lastPlace x| * 2 ^ lastPlace x
      ≤ 1 / 2 * 2 ^ lastPlace x :=
        mul_le_mul_of_nonneg_right (abs_roundEven_sub_le _) positive.le
    _ = 2 ^ lastPlace x / 2 := by rw [one_div_mul_eq_div]

/-- Numbers that are further apart than the last place stay apart. -/
theorem double_lt (smallX : |x| < 2 ^ (k + 53)) (smallY : |y| < 2 ^ (k + 53)) (large : -52 ≤ k)
    (apart : x + 2 ^ k < y) : double x < double y := by
  have places {z : ℚ} (small : |z| < 2 ^ (k + 53)) : |double z - z| ≤ 2 ^ k / 2 := by
    refine (abs_double_sub_le z).trans (div_le_div_of_nonneg_right ?_ zero_le_two)
    exact zpow_le_zpow_right₀ one_le_two (lastPlace_le small large)
  have high := (abs_le.mp (places smallX)).2
  have low := (abs_le.mp (places smallY)).1
  linarith

theorem toDouble_small {n : ℤ} (few : |n| ≤ 2 ^ 53) : toDouble n = .ok n := by
  unfold toDouble
  rw [double_intCast few]
  refine if_pos ?_
  have cast : |(n : ℚ)| ≤ 2 ^ 53 := by exact_mod_cast few
  exact cast.trans_lt (pow_lt_pow_right₀ one_lt_two (by norm_num))

-- the numerals in them are too large to be compared by unfolding
attribute [irreducible] double toDouble

/-! ## A rounding of the library -/

def binary64 : ℚ →o ℚ := ⟨double, double_mono⟩

theorem exact64_binary64 : Exact64 binary64 := by
  intro k small
  have scaled := double_scaled (m := k) (k := -6) (by rw [Nat.abs_cast]; exact_mod_cast small)
    (by norm_num)
  have sixtyFourths : ((k : ℤ) : ℚ) * 2 ^ (-6 : ℤ) = k / 64 := by
    rw [Int.cast_natCast, zpow_neg, ← div_eq_mul_inv]
    norm_num
  rwa [sixtyFourths] at scaled

theorem close_binary64 : Close binary64 := by
  intro x least _
  have positive : 0 < x := lt_of_lt_of_le (by norm_num) least
  have normal : -1074 < lastPlace x := by
    have log : -47 ≤ Int.log 2 |x| := by
      refine (Int.zpow_le_iff_le_log one_lt_two (abs_pos.mpr positive.ne')).mp ?_
      rw [abs_of_pos positive]
      exact le_trans (by norm_num) least
    exact lt_max_of_lt_left (by omega)
  have unit : (2 : ℚ) ^ lastPlace x / 2 ≤ x / 2 ^ 53 := by
    have above := lastPlace_le_abs positive.ne' normal
    rw [abs_of_pos positive, two_zpow_add] at above
    rw [le_div_iff₀ (by norm_num)]
    refine le_trans (le_of_eq ?_) above
    rw [div_mul_eq_mul_div, mul_div_assoc]
    norm_num
  obtain ⟨low, high⟩ := abs_le.mp ((abs_double_sub_le x).trans unit)
  change x - x / 2 ^ 53 ≤ double x ∧ double x ≤ x + x / 2 ^ 53
  constructor
  · linarith
  · linarith

end Aegis.Lib
