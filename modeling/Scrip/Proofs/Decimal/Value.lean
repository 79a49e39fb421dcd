import Mathlib.Algebra.Order.Field.Power
import Mathlib.Data.Rat.Cast.Order
import Mathlib.Tactic.FieldSimp
import Mathlib.Tactic.Linarith
import Mathlib.Tactic.Positivity
import Mathlib.Tactic.Ring
import Scrip.Decimal.Basic
set_option autoImplicit false

/-! # The values of decimal numbers

A decimal number stands for a rational number, and what arithmetic does to its coefficient and its
power of ten is measured against that. Two numbers have one value exactly if they differ in zeros
at the end, so the power of ten of the first digit depends on the value alone.
-/

namespace Scrip

/-! ## Numbers of digits -/

namespace Digit

variable {n k : Nat}

/-- A step divides by the square as often as it can, and then at most once by the base itself. -/
theorem divideOut_spec {b fuel : Nat} (hb : 1 < b) (hn : n < b ^ 2 ^ fuel) :
    (divideOut n b fuel).1 = n / b ^ (divideOut n b fuel).2 ∧ (divideOut n b fuel).1 < b ∧
      (n ≠ 0 → (divideOut n b fuel).1 ≠ 0) := by
  induction fuel generalizing b with
  | zero =>
      rw [pow_zero, pow_one] at hn
      simp [divideOut, hn]
  | succ fuel ih =>
      rw [divideOut]
      by_cases hlt : n < b
      · simp [hlt]
      -- the hypothesis is about the square of the base, with one squaring less
      have hsquare : n < (b * b) ^ 2 ^ fuel := by
        rwa [← sq, ← pow_mul, ← pow_succ']
      obtain ⟨hq, hqlt, hq0⟩ := ih (Nat.one_lt_mul_iff.mpr (by omega)) hsquare
      generalize divideOut n (b * b) fuel = r at hq hqlt hq0
      obtain ⟨q, e⟩ := r
      have hpow : (b * b) ^ e = b ^ (2 * e) := by rw [← sq, ← pow_mul]
      simp only [hpow] at hq hqlt hq0
      by_cases hqb : q < b
      · simp only [hlt, hqb, if_true, if_false]
        exact ⟨hq, trivial, hq0⟩
      · simp only [hlt, hqb, if_false]
        refine ⟨?_, Nat.div_lt_of_lt_mul hqlt, fun _ => (Nat.div_pos (by omega) (by omega)).ne'⟩
        rw [hq, Nat.div_div_eq_div_mul, pow_succ]

/-- As many squarings as `n` has binary digits are enough. -/
theorem lt_pow_two_pow_log2 (n : Nat) : n < 10 ^ 2 ^ n.log2 := by
  have hlog : n.log2 + 1 ≤ 2 ^ n.log2 := Nat.lt_two_pow_self
  calc n < 2 ^ (n.log2 + 1) := Nat.lt_log2_self
    _ ≤ 2 ^ 2 ^ n.log2 := Nat.pow_le_pow_right (by decide) hlog
    _ ≤ 10 ^ 2 ^ n.log2 := Nat.pow_le_pow_left (by decide) _

theorem count_pos (n : Nat) : 0 < count n := Nat.succ_pos _

theorem lt_pow_count (n : Nat) : n < 10 ^ count n := by
  obtain ⟨hq, hlt, -⟩ := divideOut_spec (by decide) (lt_pow_two_pow_log2 n)
  rw [hq] at hlt
  rw [count, pow_succ]
  exact (Nat.div_lt_iff_lt_mul (by positivity)).mp hlt |>.trans_eq (Nat.mul_comm _ _)

theorem lt_count_iff (hn : n ≠ 0) : k < count n ↔ 10 ^ k ≤ n := by
  obtain ⟨hq, -, hpos⟩ := divideOut_spec (by decide) (lt_pow_two_pow_log2 n)
  constructor
  · intro hk
    -- otherwise the number would be less than what it is divided by
    have hlow : 10 ^ (count n - 1) ≤ n := by
      by_contra hlt
      exact hpos hn (hq.trans (Nat.div_eq_of_lt (not_le.mp hlt)))
    exact (Nat.pow_le_pow_right (by decide) (by omega)).trans hlow
  · intro hk
    exact (Nat.pow_lt_pow_iff_right (by decide)).mp (hk.trans_lt (lt_pow_count n))

theorem count_le_iff (hk : 0 < k) : count n ≤ k ↔ n < 10 ^ k := by
  by_cases hn : n = 0
  · subst hn
    exact iff_of_true hk (by positivity)
  · rw [← not_lt, lt_count_iff hn, not_le]

theorem count_eq_length (n : Nat) : count n = (Nat.toDigits 10 n).length := by
  refine Nat.le_antisymm ?_ ?_
  · exact (count_le_iff Nat.length_toDigits_pos).mpr
      ((Nat.length_toDigits_le_iff (by decide) Nat.length_toDigits_pos).mp le_rfl)
  · exact (Nat.length_toDigits_le_iff (by decide) (count_pos n)).mpr (lt_pow_count n)

theorem count_eq_of_lt (hlow : 10 ^ k ≤ n) (hhigh : n < 10 ^ (k + 1)) : count n = k + 1 := by
  have hn : n ≠ 0 := by
    have hpos : 0 < 10 ^ k := by positivity
    omega
  have hle := (count_le_iff k.succ_pos).mpr hhigh
  have hlt := (lt_count_iff hn).mpr hlow
  omega

/-- A number whose last digit is not zero is not zero. -/
theorem ne_zero_of_not_dvd (h : ¬ 10 ∣ n) : n ≠ 0 := by
  rintro rfl
  exact h (dvd_zero 10)

/-- Each power of ten adds a digit. -/
theorem count_mul_pow (hn : n ≠ 0) (k : Nat) : count (n * 10 ^ k) = count n + k := by
  obtain ⟨c, hc⟩ : ∃ c, count n = c + 1 := ⟨count n - 1, by have := count_pos n; omega⟩
  have hlow : 10 ^ c ≤ n := (lt_count_iff hn).mp (by omega)
  have hhigh : n < 10 ^ (c + 1) := hc ▸ lt_pow_count n
  have hcount : count (n * 10 ^ k) = c + k + 1 := by
    refine count_eq_of_lt ?_ ?_
    · rw [pow_add]
      exact Nat.mul_le_mul_right _ hlow
    · rw [show c + k + 1 = c + 1 + k by omega, pow_add]
      exact Nat.mul_lt_mul_of_pos_right hhigh (by positivity)
  omega

end Digit

/-! ## Values -/

namespace Decimal

variable {d d' : Decimal}

/-- The rational number that a decimal number stands for. -/
def value (d : Decimal) : ℚ := d.signed * 10 ^ d.exponent

theorem value_of_nonneg (h : d.negative = false) : d.value = d.coefficient * 10 ^ d.exponent := by
  simp [value, signed, h]

theorem value_of_negative (h : d.negative = true) :
    d.value = -(d.coefficient * 10 ^ d.exponent) := by
  simp [value, signed, h]

theorem negative_of_pos (h : 0 < d.value) : d.negative = false := by
  cases hnegative : d.negative with
  | false => rfl
  | true =>
      have hproduct : (0 : ℚ) ≤ d.coefficient * 10 ^ d.exponent := by positivity
      rw [value_of_negative hnegative] at h
      linarith

/-- The sign of a number other than zero is that of its value. -/
theorem negative_iff (hd : d.coefficient ≠ 0) : d.negative = true ↔ d.value < 0 := by
  have hcoefficient : (0 : ℚ) < d.coefficient := by exact_mod_cast Nat.pos_of_ne_zero hd
  have hproduct : (0 : ℚ) < d.coefficient * 10 ^ d.exponent := by positivity
  cases hnegative : d.negative with
  | false =>
      rw [value_of_nonneg hnegative]
      exact ⟨fun h => (by cases h), fun h => absurd hproduct h.not_gt⟩
  | true =>
      rw [value_of_negative hnegative]
      exact ⟨fun _ => neg_neg_of_pos hproduct, fun _ => rfl⟩

theorem signed_ofInt (n : Int) : (ofInt n).signed = n := by
  unfold signed ofInt
  simp only [decide_eq_true_eq]
  split <;> omega

theorem value_ofInt (n : Int) : (ofInt n).value = n := by
  rw [value, signed_ofInt]
  simp [ofInt]

theorem value_shift (d : Decimal) (k : Int) : (d.shift k).value = d.value * 10 ^ k := by
  calc (d.shift k).value = d.signed * 10 ^ (d.exponent + k) := rfl
    _ = d.signed * (10 ^ d.exponent * 10 ^ k) := by rw [zpow_add₀ (by norm_num)]
    _ = d.value * 10 ^ k := (mul_assoc _ _ _).symm

theorem value_scale (d : Decimal) (n : Nat) : (d.scale n).value = n * d.value := by
  have hsigned : (d.scale n).signed = n * d.signed := by
    unfold signed scale
    push_cast
    split <;> ring
  calc (d.scale n).value = (d.scale n).signed * 10 ^ d.exponent := rfl
    _ = n * d.signed * 10 ^ d.exponent := by rw [hsigned, Int.cast_mul, Int.cast_natCast]
    _ = n * d.value := mul_assoc _ _ _

/-- Zeros at the end of a coefficient can be moved to the power of ten. -/
theorem value_move (negative : Bool) (m k : Nat) (e : Int) :
    value ⟨negative, m * 10 ^ k, e⟩ = value ⟨negative, m, e + k⟩ := by
  unfold value signed
  rw [zpow_add₀ (by norm_num), zpow_natCast]
  split <;> push_cast <;> ring

/-- Numbers of one sign have one value exactly if the finer one has the digits of the other one and
then zeros. -/
theorem value_eq_iff (hsign : d.negative = d'.negative) (h : d.exponent ≤ d'.exponent) :
    d.value = d'.value ↔
      d.coefficient = d'.coefficient * 10 ^ (d'.exponent - d.exponent).toNat := by
  obtain ⟨negative, m, e⟩ := d
  obtain ⟨_, m', e'⟩ := d'
  obtain rfl : negative = _ := hsign
  dsimp only at h ⊢
  have hpow : (10 : ℚ) ^ e ≠ 0 := zpow_ne_zero _ (by norm_num)
  -- both numbers are written with the finer power of ten
  have he : e' = e + (e' - e).toNat := by omega
  have hmoved : value ⟨negative, m', e'⟩ = value ⟨negative, m' * 10 ^ (e' - e).toNat, e⟩ := by
    rw [value_move, ← he]
  rw [hmoved, value, value, mul_left_inj' hpow, Int.cast_inj]
  cases negative with
  | false => exact Int.ofNat_inj
  | true => exact neg_inj.trans Int.ofNat_inj

/-- The power of ten of the first digit depends on the value alone. -/
theorem count_add_exponent_eq (hsign : d.negative = d'.negative) (hd : d.coefficient ≠ 0)
    (h : d.value = d'.value) :
    Digit.count d.coefficient + d.exponent = Digit.count d'.coefficient + d'.exponent := by
  rcases le_total d.exponent d'.exponent with hle | hle
  · have hdigits := (value_eq_iff hsign hle).mp h
    rw [hdigits, Digit.count_mul_pow (left_ne_zero_of_mul (hdigits ▸ hd))]
    omega
  · rw [(value_eq_iff hsign.symm hle).mp h.symm, Digit.count_mul_pow hd]
    omega

theorem value_eq_zero : d.value = 0 ↔ d.coefficient = 0 := by
  have hpow : (10 : ℚ) ^ d.exponent ≠ 0 := zpow_ne_zero _ (by norm_num)
  rw [value, mul_eq_zero, or_iff_left hpow, Int.cast_eq_zero]
  unfold signed
  split <;> omega

/-! ## Cents -/

def ofHundredths (c : Nat) : Decimal := ⟨false, c, -2⟩

theorem value_ofHundredths (c : Nat) : (ofHundredths c).value = c / 100 := by
  rw [value_of_nonneg rfl]
  show (c : ℚ) * 10 ^ (-2 : ℤ) = c / 100
  norm_num
  ring

theorem value_eq_cents_iff_of_le {c : Nat} (hneg : d.negative = false) (h : d.exponent ≤ -2) :
    d.value = c / 100 ↔ d.coefficient = c * 10 ^ (-2 - d.exponent).toNat := by
  rw [← value_ofHundredths]
  exact value_eq_iff hneg h

theorem value_eq_cents_iff_of_ge {c : Nat} (hneg : d.negative = false) (h : -2 ≤ d.exponent) :
    d.value = c / 100 ↔ c = d.coefficient * 10 ^ (d.exponent + 2).toNat := by
  rw [← value_ofHundredths, eq_comm, ← sub_neg_eq_add]
  exact value_eq_iff hneg.symm h

theorem negative_of_cents {c : Nat} (hc : 0 < c) (h : d.value = c / 100) : d.negative = false := by
  refine negative_of_pos ?_
  rw [h]
  positivity

theorem ne_zero_of_cents {c : Nat} (hc : 0 < c) (h : d.value = c / 100) : d.coefficient ≠ 0 := by
  rw [Ne, ← value_eq_zero, h]
  positivity

/-- Where the first digit of a number of cents stands. -/
theorem count_add_exponent_of_cents {c : Nat} (hc : 0 < c) (h : d.value = c / 100) :
    Digit.count d.coefficient + d.exponent = Digit.count c + -2 := by
  have hsame : d.value = (ofHundredths c).value := by rw [h, value_ofHundredths]
  exact count_add_exponent_eq (negative_of_cents hc h) (ne_zero_of_cents hc h) hsame

end Decimal

end Scrip
