import Mathlib.Algebra.Order.Field.Rat
import Mathlib.Order.Hom.Basic
import Mathlib.Tactic.Linarith
import Mathlib.Tactic.NormNum
import Mathlib.Tactic.Positivity

/-!
# Parts of integers, through a rounding

`int(n * c)` for a float `c` that stands for a fraction `p / q`, where the product is rounded.
All that is asked of the rounding is that it is monotone and leaves the numbers alone that
binary64 has for sure (`Exact64`).  The result is then the floor of `n * p / q`, or one less when
`n * p / q` is an integer (`part_le`, `le_part`).

The last section is about `int(n * (p / q))`, where the quotient is rounded as well.  There the
rounding has to be close (`Close`), and the result is the same (`part_quotient`).
-/

namespace Aegis.Lib

/-- Numbers of 53 bits, in 64ths, are not rounded. -/
def Exact64 (fl : ℚ →o ℚ) : Prop := ∀ k : ℕ, k ≤ 2 ^ 53 → fl (k / 64) = k / 64

/-- `int(n * c)`, for a product that is not negative. -/
def part (fl : ℚ →o ℚ) (n : ℕ) (c : ℚ) : ℕ := (fl (n * c)).floor.toNat

/-- A float for a fraction: nearest or not, it is not far. -/
structure Stands (c : ℚ) (p q : ℕ) : Prop where
  nonneg : 0 ≤ c
  le_one : c ≤ 1
  low : (p : ℚ) / q - 1 / 2 ^ 54 ≤ c
  high : c ≤ (p : ℚ) / q + 1 / 2 ^ 54
  proper : p ≤ q
  positive : 0 < q
  few : q ≤ 40

variable {fl : ℚ →o ℚ} {n p q : ℕ} {c : ℚ}

theorem Exact64.id : Exact64 OrderHom.id := fun _ _ => rfl

theorem Exact64.natCast (exact : Exact64 fl) {k : ℕ} (small : k ≤ 2 ^ 47) : fl k = k := by
  have scaled := exact (64 * k) (by omega)
  have same : ((64 * k : ℕ) : ℚ) / 64 = k := by
    push_cast
    linarith
  rwa [same] at scaled

theorem part_bounds (exact : Exact64 fl) (small : n ≤ 2 ^ 47) (stands : Stands c p q) :
    part fl n c ≤ n ∧ (part fl n c : ℚ) ≤ fl (n * c) ∧ fl (n * c) < part fl n c + 1 := by
  have nonneg : (0 : ℚ) ≤ n := n.cast_nonneg
  have above : 0 ≤ fl (n * c) := by
    have zero : fl 0 = 0 := by exact_mod_cast exact.natCast (Nat.zero_le _)
    rw [← zero]
    exact fl.monotone (mul_nonneg nonneg stands.nonneg)
  have below : fl (n * c) ≤ n :=
    (fl.monotone (mul_le_of_le_one_right nonneg stands.le_one)).trans_eq (exact.natCast small)
  have floorNonneg : 0 ≤ (fl (n * c)).floor := Rat.le_floor_iff.mpr above
  obtain ⟨i, position⟩ := Int.eq_ofNat_of_zero_le floorNonneg
  have lower := Rat.floor_le (fl (n * c))
  have upper := Rat.lt_floor_add_one (fl (n * c))
  unfold part
  rw [position] at lower upper ⊢
  rw [Int.toNat_natCast]
  have lower' : (i : ℚ) ≤ fl (n * c) := by exact_mod_cast lower
  refine ⟨?_, lower', by exact_mod_cast upper⟩
  exact_mod_cast lower'.trans below

/-- What the product is off by. -/
theorem near_mul (small : n ≤ 2 ^ 47) (stands : Stands c p q) :
    (n : ℚ) * p / q - 1 / 128 ≤ n * c ∧ n * c ≤ (n : ℚ) * p / q + 1 / 128 := by
  have nonneg : (0 : ℚ) ≤ n := n.cast_nonneg
  have most : (n : ℚ) * (1 / 2 ^ 54) ≤ 1 / 128 := by
    have cast : (n : ℚ) ≤ 2 ^ 47 := by exact_mod_cast small
    linarith
  have low := mul_le_mul_of_nonneg_left stands.low nonneg
  have high := mul_le_mul_of_nonneg_left stands.high nonneg
  rw [mul_sub] at low
  rw [mul_add] at high
  rw [mul_div_assoc]
  constructor
  · linarith
  · linarith

/-- **Not more** than the part. -/
theorem part_le (exact : Exact64 fl) (small : n ≤ 2 ^ 47) (stands : Stands c p q) :
    q * part fl n c ≤ p * n := by
  obtain ⟨inside, lower, _⟩ := part_bounds exact small stands
  have high := (near_mul small stands).2
  have positive : (0 : ℚ) < q := by exact_mod_cast stands.positive
  have few : (q : ℚ) ≤ 40 := by exact_mod_cast stands.few
  generalize part fl n c = i at inside lower ⊢
  by_contra! past
  -- Some 64th lies between the product and the result.
  have gap : (p : ℚ) * n + 1 ≤ q * i := by exact_mod_cast past
  have apart : (n : ℚ) * p / q + 1 / 40 ≤ i := by
    have share : (1 : ℚ) / 40 ≤ 1 / q := one_div_le_one_div_of_le positive few
    have scaled : ((n : ℚ) * p + 1) / q ≤ i := by
      rw [div_le_iff₀ positive]
      linarith
    rw [add_div] at scaled
    linarith
  have some : 1 ≤ i := by
    by_contra! none
    have zero : i = 0 := by omega
    rw [zero, Nat.cast_zero, mul_zero] at gap
    have bound : (0 : ℚ) ≤ p * n := by positivity
    linarith
  have short := exact (64 * i - 1) (by omega)
  have sixtyFourth : ((64 * i - 1 : ℕ) : ℚ) = 64 * i - 1 := by
    rw [Nat.cast_sub (by omega)]
    push_cast
    rfl
  rw [sixtyFourth] at short
  have less : fl (n * c) ≤ fl ((64 * i - 1) / 64) := fl.monotone (by linarith)
  rw [short] at less
  linarith

/-- **Not less** than the part, but for one. -/
theorem le_part (exact : Exact64 fl) (small : n ≤ 2 ^ 47) (stands : Stands c p q) :
    p * n ≤ q * (part fl n c + 1) := by
  obtain ⟨inside, _, upper⟩ := part_bounds exact small stands
  have low := (near_mul small stands).1
  have positive : (0 : ℚ) < q := by exact_mod_cast stands.positive
  have few : (q : ℚ) ≤ 40 := by exact_mod_cast stands.few
  by_cases whole : part fl n c = n
  · rw [whole]
    exact Nat.mul_le_mul stands.proper (Nat.le_succ n)
  · generalize part fl n c = i at inside upper whole ⊢
    by_contra! behind
    have gap : (q : ℚ) * (i + 1) + 1 ≤ p * n := by exact_mod_cast behind
    have apart : (i : ℚ) + 1 + 1 / 40 ≤ n * p / q := by
      have share : (1 : ℚ) / 40 ≤ 1 / q := one_div_le_one_div_of_le positive few
      have scaled : (i : ℚ) + 1 + 1 / q ≤ n * p / q := by
        rw [le_div_iff₀ positive, add_mul, one_div_mul_cancel positive.ne']
        linarith
      linarith
    have next : fl ((i + 1 : ℕ) : ℚ) ≤ fl (n * c) := by
      refine fl.monotone ?_
      push_cast
      linarith
    rw [exact.natCast (by omega)] at next
    push_cast at next
    linarith

/-! ## Rounded quotients -/

/-- What is neither tiny nor huge is rounded by its 2^53rd part at most. -/
def Close (fl : ℚ →o ℚ) : Prop :=
  ∀ x, 1 / 2 ^ 47 ≤ x → x ≤ 2 ^ 94 → x - x / 2 ^ 53 ≤ fl x ∧ fl x ≤ x + x / 2 ^ 53

theorem Close.id : Close OrderHom.id := fun x least _ => by
  have nonneg : (0 : ℚ) ≤ x / 2 ^ 53 := by
    have positive : (0 : ℚ) ≤ x := le_trans (by norm_num) least
    positivity
  exact ⟨sub_le_self x nonneg, le_add_of_nonneg_right nonneg⟩

/-- Two roundings one after another. -/
theorem close_mul_quotient (close : Close fl) (n_pos : 1 ≤ n) (p_pos : 1 ≤ p) (q_pos : 1 ≤ q)
    (n_small : n ≤ 2 ^ 24) (p_small : p ≤ 2 ^ 24) (q_small : q ≤ 2 ^ 24) :
    (n : ℚ) * p / q - 1 / (2 * q) ≤ fl (n * fl (p / q)) ∧
      fl (n * fl (p / q)) ≤ (n : ℚ) * p / q + 1 / (2 * q) := by
  have n1 : (1 : ℚ) ≤ n := by exact_mod_cast n_pos
  have p1 : (1 : ℚ) ≤ p := by exact_mod_cast p_pos
  have q1 : (1 : ℚ) ≤ q := by exact_mod_cast q_pos
  have n2 : (n : ℚ) ≤ 2 ^ 24 := by exact_mod_cast n_small
  have p2 : (p : ℚ) ≤ 2 ^ 24 := by exact_mod_cast p_small
  have q2 : (q : ℚ) ≤ 2 ^ 24 := by exact_mod_cast q_small
  have positive : (0 : ℚ) < q := lt_of_lt_of_le one_pos q1
  have ratio_low : (1 : ℚ) / 2 ^ 24 ≤ p / q := by
    rw [div_le_div_iff₀ (by norm_num) positive]
    linarith
  have ratio_high : (p : ℚ) / q ≤ 2 ^ 24 := by
    rw [div_le_iff₀ positive]
    linarith
  obtain ⟨low, high⟩ := close (p / q) (by linarith) (by linarith)
  generalize ratio : (p : ℚ) / q = r at *
  generalize fl r = c at *
  have whole : (n : ℚ) * p / q = n * r := by rw [mul_div_assoc, ratio]
  have least : (1 : ℚ) / 2 ^ 25 ≤ n * c := by
    have c_low : (1 : ℚ) / 2 ^ 25 ≤ c := by linarith
    exact c_low.trans (le_mul_of_one_le_left (by linarith) n1)
  have most : (n : ℚ) * c ≤ 2 ^ 24 * (2 ^ 25) :=
    mul_le_mul n2 (by linarith) (by linarith) (by norm_num)
  obtain ⟨low', high'⟩ := close (n * c) (by linarith) (by linarith)
  have product_low := mul_le_mul_of_nonneg_left low n.cast_nonneg
  have product_high := mul_le_mul_of_nonneg_left high n.cast_nonneg
  -- `n * p` has 48 bits at most, and the errors are beyond the 51st.
  have small : (n : ℚ) * r ≤ 2 ^ 48 * (1 / q) := by
    rw [← whole, mul_div_assoc, div_eq_mul_one_div (p : ℚ), ← mul_assoc]
    refine mul_le_mul_of_nonneg_right ?_ (by positivity)
    calc (n : ℚ) * p ≤ 2 ^ 24 * 2 ^ 24 := mul_le_mul n2 p2 p.cast_nonneg (by norm_num)
      _ = 2 ^ 48 := by norm_num
  have half : (1 : ℚ) / (2 * q) = 1 / 2 * (1 / q) := by
    rw [one_div_mul_one_div_rev, mul_comm]
  have share : (0 : ℚ) < 1 / q := by positivity
  rw [whole, half]
  generalize (1 : ℚ) / q = share at *
  constructor
  · linarith
  · linarith

/-- **Through a quotient**, too, the part is what it should be or one less. -/
theorem part_quotient (exact : Exact64 fl) (close : Close fl) (p_pos : 1 ≤ p) (q_pos : 1 ≤ q)
    (n_small : n ≤ 2 ^ 24) (p_small : p ≤ 2 ^ 24) (q_small : q ≤ 2 ^ 24) :
    q * part fl n (fl (p / q)) ≤ n * p ∧ n * p ≤ q * (part fl n (fl (p / q)) + 1) := by
  rcases Nat.eq_zero_or_pos n with rfl | n_pos
  · have zero : fl 0 = 0 := by exact_mod_cast exact.natCast (Nat.zero_le _)
    have nothing : part fl 0 (fl (p / q)) = 0 := by
      rw [part, Nat.cast_zero, zero_mul, zero]
      rfl
    rw [nothing]
    omega
  · obtain ⟨low, high⟩ := close_mul_quotient close n_pos p_pos q_pos n_small p_small q_small
    have positive : (0 : ℚ) < q := by exact_mod_cast q_pos
    have share : (q : ℚ) * (1 / (2 * q)) = 1 / 2 := by
      rw [mul_one_div, div_eq_div_iff (by positivity) (by norm_num), one_mul, mul_comm]
    have product : (q : ℚ) * (n * p / q) = n * p := mul_div_cancel₀ _ positive.ne'
    unfold part
    generalize fl (n * fl (p / q)) = v at low high ⊢
    have scaled_low := mul_le_mul_of_nonneg_left low positive.le
    have scaled_high := mul_le_mul_of_nonneg_left high positive.le
    rw [mul_sub, product, share] at scaled_low
    rw [mul_add, product, share] at scaled_high
    have np : (1 : ℚ) ≤ n * p := by exact_mod_cast Nat.mul_pos n_pos p_pos
    have v_nonneg : 0 ≤ v := by
      by_contra! negative
      have below := mul_neg_of_pos_of_neg positive negative
      linarith
    obtain ⟨k, floor⟩ := Int.eq_ofNat_of_zero_le (Rat.le_floor_iff.mpr v_nonneg)
    have lower := Rat.floor_le v
    have upper := Rat.lt_floor_add_one v
    rw [floor] at lower upper ⊢
    rw [Int.toNat_natCast]
    have lower' := mul_le_mul_of_nonneg_left lower positive.le
    have upper' := mul_lt_mul_of_pos_left upper positive
    push_cast at lower' upper'
    constructor
    · have less : (q : ℚ) * k < n * p + 1 := by linarith
      have less' : q * k < n * p + 1 := by exact_mod_cast less
      omega
    · have less : (n : ℚ) * p < q * (k + 1) + 1 := by linarith
      have less' : n * p < q * (k + 1) + 1 := by exact_mod_cast less
      omega

end Aegis.Lib
