import Scrip.Proofs.Decimal.Rounding
set_option autoImplicit false

/-! # Numbers that are too great

Arithmetic has no result for a number that is rounded to the first power of ten over the range, or
to more. Since the greatest coefficient is odd, a half goes up to that power, so the numbers without
a result begin half a place under it (`round_eq_none_iff`).
-/

namespace Scrip.Decimal

variable {d w : Decimal}

/-- A rounded quotient is over an odd number from the half after that on. -/
theorem succ_le_divEven_iff {q : Nat} (hq : q % 2 = 1) (n : Nat) {m : Nat} (hm : 0 < m) :
    q + 1 ≤ divEven n m ↔ (2 * q + 1) * m ≤ 2 * n := by
  have hsplit : n / m * m + n % m = n := by
    rw [Nat.mul_comm]
    exact Nat.div_add_mod n m
  have hrest := Nat.mod_lt n hm
  have hhalf : (2 * q + 1) * m = 2 * (q * m) + m := by ring
  obtain ⟨hlow, hhigh⟩ := divEven_bounds n m
  rw [hhalf]
  rcases lt_trichotomy (n / m) q with h | h | h
  · have hle : (n / m + 1) * m ≤ q * m := Nat.mul_le_mul_right m h
    rw [Nat.add_mul, one_mul] at hle
    omega
  · -- the rest decides, and a half goes up because the quotient is odd
    rw [h] at hsplit
    simp only [divEven, h, hq]
    split
    · omega
    · split <;> simp <;> omega
  · have hle : (q + 1) * m ≤ n / m * m := Nat.mul_le_mul_right m h
    rw [Nat.add_mul, one_mul] at hle
    omega

/-! ## The size of a number -/

theorem abs_value (d : Decimal) : |d.value| = d.coefficient * 10 ^ d.exponent := by
  have hpow : (0 : ℚ) < 10 ^ d.exponent := by positivity
  have hsigned : |d.signed| = d.coefficient := by
    unfold signed
    split <;> simp
  rw [value, abs_mul, abs_of_pos hpow, ← Int.cast_abs, hsigned, Int.cast_natCast]

theorem abs_value_lt (d : Decimal) :
    |d.value| < 10 ^ (Digit.count d.coefficient + d.exponent) := by
  have hlt : (d.coefficient : ℚ) < 10 ^ Digit.count d.coefficient := by
    exact_mod_cast Digit.lt_pow_count d.coefficient
  rw [abs_value, zpow_add₀ (by norm_num), zpow_natCast]
  exact mul_lt_mul_of_pos_right hlt (by positivity)

theorem le_abs_value (hd : d.coefficient ≠ 0) :
    10 ^ (Digit.count d.coefficient + d.exponent - 1) ≤ |d.value| := by
  obtain ⟨k, hk⟩ : ∃ k, Digit.count d.coefficient = k + 1 :=
    ⟨Digit.count d.coefficient - 1, by have := Digit.count_pos d.coefficient; omega⟩
  have hle : (10 : ℚ) ^ k ≤ d.coefficient := by
    exact_mod_cast (Digit.lt_count_iff hd).mp (by omega)
  rw [abs_value, show (Digit.count d.coefficient + d.exponent - 1 : Int) = k + d.exponent by omega,
    zpow_add₀ (by norm_num), zpow_natCast]
  exact mul_le_mul_of_nonneg_right hle (by positivity)

/-- A coarser grid takes one digit for each place, unless it takes all. -/
theorem count_le_coefficientAt {k : Nat} (hk : 0 < k)
    (hne : d.coefficientAt (d.exponent + k) divEven ≠ 0) :
    Digit.count d.coefficient ≤
      Digit.count (d.coefficientAt (d.exponent + k) divEven) + k := by
  have hpos := Digit.count_pos (d.coefficientAt (d.exponent + k) divEven)
  by_cases hfew : Digit.count d.coefficient ≤ k
  · omega
  obtain ⟨j, hj⟩ : ∃ j, Digit.count d.coefficient = j + 1 + k :=
    ⟨Digit.count d.coefficient - k - 1, by omega⟩
  have hd : d.coefficient ≠ 0 := by
    rintro hd
    rw [hd] at hfew
    exact hfew (Nat.succ_le_of_lt hk)
  have hlow : 10 ^ (j + k) ≤ d.coefficient := (Digit.lt_count_iff hd).mp (by omega)
  have hquotient : 10 ^ j ≤ d.coefficient / 10 ^ k := by
    rw [Nat.le_div_iff_mul_le (by positivity), ← pow_add]
    exact hlow
  have hgrid : 10 ^ j ≤ d.coefficientAt (d.exponent + k) divEven := by
    rw [coefficientAt_above d hk, if_neg (by omega)]
    exact hquotient.trans (divEven_bounds d.coefficient (10 ^ k)).1
  have hlt := (Digit.lt_count_iff hne).mpr hgrid
  omega

theorem count_le_div_ten (n : Nat) : Digit.count n ≤ Digit.count (n / 10) + 1 := by
  rw [Digit.count_le_iff (Nat.succ_pos _), pow_succ, ← Nat.div_lt_iff_lt_mul (by decide)]
  exact Digit.lt_pow_count (n / 10)

/-- The first digit of a number does not move down when the number is rounded, unless nothing is
left. -/
theorem count_add_exponent_le_of_round_ne (h : d.round = some w) (hw : w.coefficient ≠ 0) :
    Digit.count d.coefficient + d.exponent ≤ Digit.count w.coefficient + w.exponent := by
  obtain ⟨rfl, -⟩ | ⟨k, hk, hplace, ⟨rfl, -⟩ | ⟨rfl, -⟩⟩ := round_cases (ne_zero_of_round h hw) h
  · exact le_rfl
  · rw [← hplace] at hw ⊢
    have hcount := count_le_coefficientAt hk hw
    dsimp only
    omega
  · have hne : d.coefficientAt d.lastPlace divEven ≠ 0 := by
      intro hzero
      replace hw : d.coefficientAt d.lastPlace divEven / 10 ≠ 0 := hw
      rw [hzero] at hw
      exact hw rfl
    have htenth := count_le_div_ten (d.coefficientAt d.lastPlace divEven)
    rw [← hplace] at hne htenth ⊢
    have hcount := count_le_coefficientAt hk hne
    dsimp only
    omega

/-! ## The threshold -/

/-- The least size of a number that is too great. -/
def overflowThreshold : ℚ := (10 ^ precision - 1 / 2) * 10 ^ greatestExponent

theorem overflowThreshold_bounds :
    10 ^ greatestPower < overflowThreshold ∧ overflowThreshold < 10 ^ (greatestPower + 1) := by
  have hpow : (0 : ℚ) < 10 ^ greatestExponent := by positivity
  have hlow : (10 : ℚ) ^ greatestPower = 10 ^ 27 * 10 ^ greatestExponent := by
    rw [← zpow_natCast, ← zpow_add₀ (by norm_num)]
    rfl
  have hhigh : (10 : ℚ) ^ (greatestPower + 1) = 10 ^ 28 * 10 ^ greatestExponent := by
    rw [← zpow_natCast, ← zpow_add₀ (by norm_num)]
    rfl
  rw [hlow, hhigh, overflowThreshold, show precision = 28 from rfl]
  constructor
  · exact mul_lt_mul_of_pos_right (by norm_num) hpow
  · exact mul_lt_mul_of_pos_right (by norm_num) hpow

/-- The threshold on the grid of a number that is finer than the last place in the range. -/
theorem overflowThreshold_le_iff {k : Nat} (hk : d.exponent + k = greatestExponent) :
    overflowThreshold ≤ |d.value| ↔
      (2 * (10 ^ precision - 1) + 1) * 10 ^ k ≤ 2 * d.coefficient := by
  have hpow : (0 : ℚ) < 10 ^ d.exponent := by positivity
  have hcast : (((2 * (10 ^ precision - 1) + 1) * 10 ^ k : Nat) : ℚ) =
      2 * ((10 ^ precision - 1 / 2) * 10 ^ k) := by
    rw [show precision = 28 from rfl]
    push_cast
    ring
  have hhalf : (2 * (10 ^ precision - 1) + 1) * 10 ^ k ≤ 2 * d.coefficient ↔
      ((10 : ℚ) ^ precision - 1 / 2) * 10 ^ k ≤ d.coefficient := by
    rw [← mul_le_mul_iff_right₀ (two_pos : (0 : ℚ) < 2), ← hcast]
    exact_mod_cast Iff.rfl
  rw [hhalf, overflowThreshold, ← hk, zpow_add₀ (by norm_num), zpow_natCast, abs_value,
    mul_comm ((10 : ℚ) ^ d.exponent), ← mul_assoc, mul_le_mul_iff_left₀ hpow]

/-- A number on a coarser grid with no more digits than arithmetic keeps is under the threshold. -/
theorem abs_value_lt_overflowThreshold {j : Nat} (hj : d.exponent = greatestExponent + j)
    (hcount : Digit.count d.coefficient + j ≤ precision) : |d.value| < overflowThreshold := by
  have hpow : (0 : ℚ) < 10 ^ greatestExponent := by positivity
  have hlt : d.coefficient * 10 ^ j < 10 ^ precision := by
    calc d.coefficient * 10 ^ j
        < 10 ^ Digit.count d.coefficient * 10 ^ j :=
          Nat.mul_lt_mul_of_pos_right (Digit.lt_pow_count _) (by positivity)
      _ = 10 ^ (Digit.count d.coefficient + j) := (pow_add _ _ _).symm
      _ ≤ 10 ^ precision := Nat.pow_le_pow_right (by decide) hcount
  have hle : ((d.coefficient * 10 ^ j + 1 : Nat) : ℚ) ≤ ((10 ^ precision : Nat) : ℚ) :=
    Nat.cast_le.mpr hlt
  push_cast at hle
  rw [abs_value, hj, zpow_add₀ (by norm_num), zpow_natCast, mul_comm ((10 : ℚ) ^ greatestExponent),
    ← mul_assoc, overflowThreshold]
  exact mul_lt_mul_of_pos_right (by linarith) hpow

/-- The last place that is kept of a number is in the range if its first digit is. -/
theorem lastPlace_lt_iff : d.lastPlace < greatestExponent ↔
    Digit.count d.coefficient + d.exponent - 1 < greatestPower := by
  have hleast : leastExponent < greatestExponent := by decide
  have hprecision : (precision : Int) = 28 := rfl
  have hgreatest : greatestExponent = greatestPower - 27 := rfl
  unfold lastPlace
  omega

theorem lt_lastPlace_iff : greatestExponent < d.lastPlace ↔
    greatestPower < Digit.count d.coefficient + d.exponent - 1 := by
  have hleast : leastExponent < greatestExponent := by decide
  have hprecision : (precision : Int) = 28 := rfl
  have hgreatest : greatestExponent = greatestPower - 27 := rfl
  unfold lastPlace
  omega

/-- The two ways in which rounding comes to no result: the digits begin over the range, or they are
rounded up to the first power of ten over it. -/
theorem round_eq_none (hd : d.coefficient ≠ 0) : d.round = none ↔
    greatestExponent < d.lastPlace ∨
      (d.lastPlace = greatestExponent ∧ d.exponent < d.lastPlace ∧
        precision < Digit.count (d.coefficientAt d.lastPlace divEven)) := by
  have hrange : greatestExponent < Digit.count d.coefficient + d.exponent - precision ↔
      greatestExponent < d.lastPlace := by
    have hprecision : (precision : Int) = 28 := rfl
    have hgreatest : greatestExponent = greatestPower - 27 := rfl
    rw [lt_lastPlace_iff]
    omega
  unfold round
  rw [if_neg hd]
  dsimp only
  rw [← lastPlace]
  split
  · rename_i hover
    simp only [true_iff]
    exact Or.inl (hrange.mp hover)
  · rename_i hover
    rw [hrange] at hover
    split
    · simp only [reduceCtorEq, false_iff]
      omega
    · split
      · simp only [reduceCtorEq, false_iff]
        omega
      · split <;> simp only [reduceCtorEq, true_iff, false_iff] <;> omega

/-- A number whose first digit stands at the end of the range is too great if it is rounded up to
the next power of ten. -/
theorem round_eq_none_iff_of_end (hd : d.coefficient ≠ 0)
    (h : Digit.count d.coefficient + d.exponent - 1 = greatestPower) :
    d.round = none ↔ overflowThreshold ≤ |d.value| := by
  have hprecision : (precision : Int) = 28 := rfl
  have hgreatest : greatestExponent = greatestPower - 27 := rfl
  have hplace : d.lastPlace = greatestExponent :=
    le_antisymm (not_lt.mp fun hlt => (lt_lastPlace_iff.mp hlt).ne' h)
      (not_lt.mp fun hlt => (lastPlace_lt_iff.mp hlt).ne h)
  rw [round_eq_none hd, hplace]
  rcases lt_or_ge d.exponent greatestExponent with he | he
  · -- digits are cut off, and the carry is that of an odd greatest coefficient
    obtain ⟨k, hk⟩ : ∃ k : Nat, d.exponent + k = greatestExponent :=
      ⟨(greatestExponent - d.exponent).toNat, by omega⟩
    have hodd : (10 ^ precision - 1) % 2 = 1 := by decide
    have hgrid : d.coefficientAt greatestExponent divEven = divEven d.coefficient (10 ^ k) := by
      rw [← hk, coefficientAt_above d (by omega), if_neg (by omega)]
    have hcarry : precision < Digit.count (d.coefficientAt greatestExponent divEven) ↔
        10 ^ precision - 1 + 1 ≤ d.coefficientAt greatestExponent divEven := by
      rw [← not_le, Digit.count_le_iff (by decide), not_lt]
      rfl
    rw [overflowThreshold_le_iff hk, ← succ_le_divEven_iff hodd _ (by positivity), ← hgrid,
      ← hcarry]
    simp only [lt_irrefl, false_or, true_and, he]
  · -- all digits are kept, so nothing is carried
    obtain ⟨j, hj⟩ : ∃ j : Nat, d.exponent = greatestExponent + j :=
      ⟨(d.exponent - greatestExponent).toNat, by omega⟩
    have hsize := abs_value_lt_overflowThreshold hj (by omega)
    constructor
    · omega
    · intro hle
      exact absurd hle hsize.not_ge

/-- **A number is too great from the threshold on.** -/
theorem round_eq_none_iff : d.round = none ↔ overflowThreshold ≤ |d.value| := by
  obtain ⟨hlow, hhigh⟩ := overflowThreshold_bounds
  by_cases hd : d.coefficient = 0
  · have hpos : (0 : ℚ) < 10 ^ greatestPower := by positivity
    rw [round, if_pos hd, value_eq_zero.mpr hd, abs_zero]
    simp only [reduceCtorEq, false_iff, not_le]
    exact hpos.trans hlow
  rcases lt_trichotomy (Digit.count d.coefficient + d.exponent - 1) greatestPower with h | h | h
  · -- the first digit is in the range, and a carry leaves it there
    have hsize : |d.value| < overflowThreshold := by
      have hle : (10 : ℚ) ^ (Digit.count d.coefficient + d.exponent) ≤ 10 ^ greatestPower :=
        zpow_le_zpow_right₀ (by norm_num) (by omega)
      exact d.abs_value_lt.trans_le (hle.trans hlow.le)
    have hplace := lastPlace_lt_iff.mpr h
    rw [round_eq_none hd]
    constructor
    · omega
    · intro hle
      exact absurd hle hsize.not_ge
  · exact round_eq_none_iff_of_end hd h
  · -- the first digit is over the range, so the number is over the power of ten that ends it
    have hsize : overflowThreshold ≤ |d.value| := by
      have hle : (10 : ℚ) ^ (greatestPower + 1) ≤
          10 ^ (Digit.count d.coefficient + d.exponent - 1) :=
        zpow_le_zpow_right₀ (by norm_num) (by omega)
      exact hhigh.le.trans (hle.trans (le_abs_value hd))
    exact ⟨fun _ => hsize, fun _ => (round_eq_none hd).mpr (Or.inl (lt_lastPlace_iff.mpr h))⟩

end Scrip.Decimal
