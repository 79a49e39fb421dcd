import Scrip.Proofs.Decimal.Value
set_option autoImplicit false

/-! # Rounding

Arithmetic keeps a number as it is if its digits are few enough, zeros at the end not counted, and
its powers of ten are in the range (`Decimal.Fits`). Every other number is brought onto a coarser
grid, which moves it by half of the last place there at most (`Decimal.round_error`).
-/

namespace Scrip.Decimal

variable {d w : Decimal}

/-! ## Division with rounding -/

theorem divEven_mul_self (n : Nat) {m : Nat} (hm : 0 < m) : divEven (n * m) m = n := by
  simp [divEven, Nat.mul_div_cancel n hm, Nat.mul_mod_left, hm]

/-- A rounded quotient is the quotient without its fraction, or the number after that. -/
theorem divEven_bounds (n m : Nat) : n / m ≤ divEven n m ∧ divEven n m ≤ n / m + 1 := by
  unfold divEven
  generalize n / m = q
  dsimp only
  split
  · omega
  · split
    · omega
    · split <;> omega

/-- A rounded quotient is off by half of one at most. -/
theorem divEven_error (n : Nat) {m : Nat} (hm : 0 < m) :
    2 * (divEven n m * m) ≤ 2 * n + m ∧ 2 * n ≤ 2 * (divEven n m * m) + m := by
  have hsplit : n / m * m + n % m = n := by
    rw [Nat.mul_comm]
    exact Nat.div_add_mod n m
  have hsucc : (n / m + 1) * m = n / m * m + m := Nat.succ_mul _ _
  have hrest := Nat.mod_lt n hm
  unfold divEven
  dsimp only
  split
  · omega
  · split
    · rw [hsucc]
      omega
    · split
      · omega
      · rw [hsucc]
        omega

/-! ## Grids -/

theorem coefficientAt_self (d : Decimal) (divide : Nat → Nat → Nat) :
    d.coefficientAt d.exponent divide = d.coefficient := by
  simp [coefficientAt]

theorem coefficientAt_above (d : Decimal) {k : Nat} (hk : 0 < k) (divide : Nat → Nat → Nat) :
    d.coefficientAt (d.exponent + k) divide =
      if Digit.count d.coefficient < k then 0 else divide d.coefficient (10 ^ k) := by
  have hnot : ¬ d.exponent + k ≤ d.exponent := by omega
  have hdiff : (d.exponent + k - d.exponent).toNat = k := by omega
  rw [coefficientAt, if_neg hnot, hdiff]
  rfl

/-- How large a coefficient is on a coarser grid. -/
theorem coefficientAt_le (d : Decimal) {j k : Nat} (hk : 0 < k)
    (hcount : Digit.count d.coefficient ≤ j + k) :
    d.coefficientAt (d.exponent + k) divEven ≤ 10 ^ j := by
  have hpow : 0 < 10 ^ k := by positivity
  have hquotient : d.coefficient / 10 ^ k < 10 ^ j := by
    rw [Nat.div_lt_iff_lt_mul hpow, ← pow_add]
    exact (Digit.count_le_iff (by omega)).mp hcount
  rw [coefficientAt_above d hk]
  split
  · exact Nat.zero_le _
  · exact (divEven_bounds d.coefficient (10 ^ k)).2.trans hquotient

/-- On a coarser grid a coefficient is off by half of one at most. -/
theorem coefficientAt_error (d : Decimal) {k : Nat} (hk : 0 < k) :
    2 * (d.coefficientAt (d.exponent + k) divEven * 10 ^ k) ≤ 2 * d.coefficient + 10 ^ k ∧
      2 * d.coefficient ≤ 2 * (d.coefficientAt (d.exponent + k) divEven * 10 ^ k) + 10 ^ k := by
  rw [coefficientAt_above d hk]
  split
  · rename_i hcount
    -- a number with fewer digits is less than a tenth
    have hlt : d.coefficient < 10 ^ Digit.count d.coefficient := Digit.lt_pow_count _
    have hle : 10 ^ Digit.count d.coefficient ≤ 10 ^ (k - 1) :=
      Nat.pow_le_pow_right (by decide) (by omega)
    have hpow : 10 ^ k = 10 ^ (k - 1) * 10 := by
      rw [← pow_succ, Nat.sub_add_cancel hk]
    omega
  · exact divEven_error d.coefficient (by positivity)

theorem abs_value_sub (negative : Bool) (m n : Nat) (e : Int) :
    |value ⟨negative, m, e⟩ - value ⟨negative, n, e⟩| = |(m : ℚ) - n| * 10 ^ e := by
  have hpow : (0 : ℚ) < 10 ^ e := by positivity
  have hvalue : value ⟨negative, m, e⟩ - value ⟨negative, n, e⟩ =
      (if negative then -((m : ℚ) - n) else m - n) * 10 ^ e := by
    cases negative <;> simp [value, signed] <;> ring
  rw [hvalue, abs_mul, abs_of_pos hpow]
  cases negative with
  | false => rfl
  | true => rw [if_pos rfl, abs_neg]

/-- What a number becomes on a coarser grid is off by half of a place there at most. -/
theorem value_error (d : Decimal) {k : Nat} (hk : 0 < k) :
    2 * |value ⟨d.negative, d.coefficientAt (d.exponent + k) divEven, d.exponent + k⟩ - d.value| ≤
      10 ^ (d.exponent + k) := by
  obtain ⟨hlow, hhigh⟩ := d.coefficientAt_error hk
  have hlow' : (2 : ℚ) * (d.coefficientAt (d.exponent + k) divEven * 10 ^ k) ≤
      2 * d.coefficient + 10 ^ k := by exact_mod_cast hlow
  have hhigh' : (2 : ℚ) * d.coefficient ≤
      2 * (d.coefficientAt (d.exponent + k) divEven * 10 ^ k) + 10 ^ k := by exact_mod_cast hhigh
  have hpow : (0 : ℚ) < 10 ^ d.exponent := by positivity
  have habs : 2 * |((d.coefficientAt (d.exponent + k) divEven * 10 ^ k : Nat) : ℚ) -
      d.coefficient| ≤ 10 ^ k := by
    push_cast
    rw [← abs_two, ← abs_mul, abs_le]
    constructor <;> linarith
  calc 2 * |value ⟨d.negative, d.coefficientAt (d.exponent + k) divEven, d.exponent + k⟩ - d.value|
      = 2 * |((d.coefficientAt (d.exponent + k) divEven * 10 ^ k : Nat) : ℚ) - d.coefficient| *
          10 ^ d.exponent := by
        rw [← value_move, show d.value = value ⟨d.negative, d.coefficient, d.exponent⟩ from rfl,
          abs_value_sub, mul_assoc]
    _ ≤ 10 ^ k * 10 ^ d.exponent := mul_le_mul_of_nonneg_right habs hpow.le
    _ = 10 ^ (d.exponent + k) := by
        rw [zpow_add₀ (by norm_num), zpow_natCast, mul_comm]

/-- The power of ten of the last of the digits that arithmetic keeps. -/
def lastPlace (d : Decimal) : Int :=
  max (Digit.count d.coefficient + d.exponent - precision) leastExponent

theorem round_fine (hd : d.coefficient ≠ 0)
    (hrange : Digit.count d.coefficient + d.exponent - precision ≤ greatestExponent)
    (hplace : d.lastPlace ≤ d.exponent) : d.round = some d := by
  unfold lastPlace at hplace
  simp only [round, if_neg hd, if_neg (not_lt.mpr hrange), if_pos hplace]

theorem round_coarse (hd : d.coefficient ≠ 0)
    (hrange : Digit.count d.coefficient + d.exponent - precision ≤ greatestExponent)
    (hplace : d.exponent < d.lastPlace)
    (hcount : Digit.count (d.coefficientAt d.lastPlace divEven) ≤ precision) :
    d.round = some ⟨d.negative, d.coefficientAt d.lastPlace divEven, d.lastPlace⟩ := by
  unfold lastPlace at hplace hcount ⊢
  simp only [round, if_neg hd, if_neg (not_lt.mpr hrange), if_neg (not_le.mpr hplace),
    if_pos hcount]

/-- There is no other way in which rounding comes to a result. -/
theorem round_cases (hd : d.coefficient ≠ 0) (h : d.round = some w) :
    (w = d ∧ Digit.count d.coefficient ≤ precision ∧ leastExponent ≤ d.exponent) ∨
    ∃ k : Nat, 0 < k ∧ d.exponent + k = d.lastPlace ∧
      ((w = ⟨d.negative, d.coefficientAt d.lastPlace divEven, d.lastPlace⟩ ∧
          Digit.count (d.coefficientAt d.lastPlace divEven) ≤ precision) ∨
        (w = ⟨d.negative, d.coefficientAt d.lastPlace divEven / 10, d.lastPlace + 1⟩ ∧
          precision < Digit.count (d.coefficientAt d.lastPlace divEven))) := by
  unfold round at h
  rw [if_neg hd] at h
  dsimp only at h
  rw [← lastPlace] at h
  split at h
  · cases h
  · split at h
    · rename_i hplace
      obtain rfl := Option.some.inj h
      unfold lastPlace at hplace
      exact Or.inl ⟨rfl, by omega, by omega⟩
    · rename_i hplace
      refine Or.inr ⟨(d.lastPlace - d.exponent).toNat, by omega, by omega, ?_⟩
      split at h
      · rename_i hcount
        exact Or.inl ⟨(Option.some.inj h).symm, hcount⟩
      · rename_i hcount
        split at h
        · cases h
        · exact Or.inr ⟨(Option.some.inj h).symm, by omega⟩

theorem ne_zero_of_round (h : d.round = some w) (hw : w.coefficient ≠ 0) :
    d.coefficient ≠ 0 := by
  intro hd
  rw [round, if_pos hd] at h
  obtain rfl := Option.some.inj h
  exact hw hd

theorem negative_of_round (h : d.round = some w) : w.negative = d.negative := by
  by_cases hd : d.coefficient = 0
  · rw [round, if_pos hd] at h
    obtain rfl := Option.some.inj h
    rfl
  · obtain ⟨rfl, -⟩ | ⟨k, -, -, ⟨rfl, -⟩ | ⟨rfl, -⟩⟩ := round_cases hd h <;> rfl

/-- A result of arithmetic has no more digits than arithmetic keeps. -/
theorem count_of_round (hd : d.coefficient ≠ 0) (h : d.round = some w) :
    Digit.count w.coefficient ≤ precision := by
  obtain ⟨rfl, hcount, -⟩ | ⟨k, hk, hplace, ⟨rfl, hcount⟩ | ⟨rfl, -⟩⟩ := round_cases hd h
  · exact hcount
  · exact hcount
  · -- a carry makes a power of ten at most, and a tenth of that is taken
    have hle : d.coefficientAt d.lastPlace divEven ≤ 10 ^ precision := by
      rw [← hplace]
      refine coefficientAt_le d hk ?_
      unfold lastPlace at hplace
      omega
    have hpow : (10 : Nat) ^ precision = 10000000000000000000000000000 := rfl
    exact (Digit.count_le_iff (by decide)).mpr (by dsimp only; omega)

/-- Only a number under the range comes to nothing. -/
theorem count_add_exponent_le_of_round (hd : d.coefficient ≠ 0) (h : d.round = some w)
    (hw : w.coefficient = 0) : Digit.count d.coefficient + d.exponent ≤ leastExponent := by
  obtain ⟨rfl, -⟩ | ⟨k, hk, hplace, ⟨rfl, -⟩ | ⟨rfl, hcount⟩⟩ := round_cases hd h
  · exact absurd hw hd
  · -- all digits went, so the last place lies at or over the first digit
    have hle : Digit.count d.coefficient ≤ k := by
      replace hw : d.coefficientAt d.lastPlace divEven = 0 := hw
      rw [← hplace, coefficientAt_above d hk] at hw
      split at hw
      · omega
      · have hquotient : d.coefficient / 10 ^ k = 0 :=
          Nat.le_zero.mp (hw ▸ (divEven_bounds d.coefficient (10 ^ k)).1)
        have hpow : 0 < 10 ^ k := by positivity
        exact (Digit.count_le_iff hk).mpr ((Nat.div_eq_zero_iff_lt hpow).mp hquotient)
    unfold lastPlace at hplace
    have := Digit.count_pos d.coefficient
    have hprecision : (precision : Int) = 28 := rfl
    omega
  · -- a coefficient with so many digits has a tenth
    replace hw : d.coefficientAt d.lastPlace divEven / 10 = 0 := hw
    have hsmall : Digit.count (d.coefficientAt d.lastPlace divEven) ≤ 1 :=
      (Digit.count_le_iff (by decide)).mpr (by omega)
    have hprecision : precision = 28 := rfl
    omega

theorem value_of_round_zero (hd : d.coefficient = 0) (h : d.round = some w) :
    w.value = d.value := by
  rw [round, if_pos hd] at h
  obtain rfl := Option.some.inj h
  rw [value_eq_zero.mpr hd, value_eq_zero]
  exact hd

/-- A result of arithmetic is off by half of its last place at most. -/
theorem round_error (h : d.round = some w) :
    2 * |w.value - d.value| ≤ 10 ^ d.lastPlace := by
  have hpow : (0 : ℚ) ≤ 10 ^ d.lastPlace := by positivity
  by_cases hd : d.coefficient = 0
  · rw [value_of_round_zero hd h, sub_self, abs_zero, mul_zero]
    exact hpow
  obtain ⟨rfl, -⟩ | ⟨k, hk, hplace, ⟨rfl, -⟩ | ⟨rfl, hcount⟩⟩ := round_cases hd h
  · rw [sub_self, abs_zero, mul_zero]
    exact hpow
  · rw [← hplace]
    exact d.value_error hk
  · -- a carry makes a power of ten, which a tenth of it represents one place further
    have hle : d.coefficientAt d.lastPlace divEven ≤ 10 ^ precision := by
      rw [← hplace]
      refine coefficientAt_le d hk ?_
      unfold lastPlace at hplace
      omega
    have hge : 10 ^ precision ≤ d.coefficientAt d.lastPlace divEven := by
      exact not_lt.mp ((Digit.count_le_iff (by decide)).not.mp hcount.not_ge)
    have htenth : d.coefficientAt d.lastPlace divEven / 10 * 10 ^ 1 =
        d.coefficientAt d.lastPlace divEven := by
      have hpow : (10 : Nat) ^ precision = 10000000000000000000000000000 := rfl
      omega
    have hmoved := value_move d.negative (d.coefficientAt d.lastPlace divEven / 10) 1 d.lastPlace
    rw [htenth] at hmoved
    rw [show d.lastPlace + 1 = d.lastPlace + (1 : Nat) from rfl, ← hmoved, ← hplace]
    exact d.value_error hk

/-- Rounding brings a number onto a grid that is no finer and lies in the range. -/
theorem exponent_le_of_round (hd : d.coefficient ≠ 0) (h : d.round = some w) :
    d.exponent ≤ w.exponent ∧ leastExponent ≤ w.exponent := by
  obtain ⟨rfl, -, hleast⟩ | ⟨k, hk, hplace, ⟨rfl, -⟩ | ⟨rfl, -⟩⟩ := round_cases hd h
  · exact ⟨le_rfl, hleast⟩
  all_goals
    have hleast : leastExponent ≤ d.lastPlace := le_max_right _ _
    dsimp only
    omega

/-- The number has no more digits than arithmetic keeps, zeros at the end not counted, and lies in
its range. -/
structure Fits (d : Decimal) (m k : Nat) : Prop where
  coefficient : d.coefficient = m * 10 ^ k
  ne_zero : m ≠ 0
  digits : Digit.count m ≤ precision
  least : leastExponent ≤ d.exponent + k
  greatest : Digit.count m + d.exponent + k ≤ greatestPower

theorem Fits.count {m k : Nat} (h : d.Fits m k) :
    Digit.count d.coefficient = Digit.count m + k := by
  rw [h.coefficient, Digit.count_mul_pow h.ne_zero]

/-- A number that fits keeps its value. -/
theorem Fits.round {m k : Nat} (h : d.Fits m k) : ∃ w, d.round = some w ∧ w.value = d.value := by
  have hcount := h.count
  obtain ⟨hcoefficient, hm, hdigits, hleast, hgreatest⟩ := h
  have hd : d.coefficient ≠ 0 := by
    rw [hcoefficient]
    exact Nat.mul_ne_zero hm (by positivity)
  have hrange : Digit.count d.coefficient + d.exponent - precision ≤ greatestExponent := by
    unfold greatestExponent
    omega
  by_cases hplace : d.lastPlace ≤ d.exponent
  · exact ⟨d, round_fine hd hrange hplace, rfl⟩
  · obtain ⟨j, hj⟩ : ∃ j : Nat, d.lastPlace = d.exponent + j :=
      ⟨(d.lastPlace - d.exponent).toNat, by omega⟩
    have hjk : j ≤ k := by
      unfold lastPlace at hj
      omega
    -- the digits that go are zeros
    have hsplit : d.coefficient = m * 10 ^ (k - j) * 10 ^ j := by
      rw [hcoefficient, mul_assoc, ← pow_add, Nat.sub_add_cancel hjk]
    have hgrid : d.coefficientAt d.lastPlace divEven = m * 10 ^ (k - j) := by
      rw [hj, coefficientAt_above d (by omega), if_neg (by omega), hsplit]
      exact divEven_mul_self _ (by positivity)
    have hkept : Digit.count (d.coefficientAt d.lastPlace divEven) ≤ precision := by
      rw [hgrid, Digit.count_mul_pow hm]
      unfold lastPlace at hj
      omega
    refine ⟨_, round_coarse hd hrange (by omega) hkept, ?_⟩
    rw [hgrid, hj, ← value_move, ← hsplit]

/-- A number that keeps its value fits. -/
theorem fits_of_round (hd : d.coefficient ≠ 0) (h : d.round = some w) (hvalue : w.value = d.value)
    (hgreatest : Digit.count d.coefficient + d.exponent ≤ greatestPower) :
    ∃ m k, d.Fits m k := by
  obtain ⟨hexponent, hleast⟩ := exponent_le_of_round hd h
  have hdigits := (value_eq_iff (negative_of_round h).symm hexponent).mp hvalue.symm
  have hw : w.coefficient ≠ 0 := left_ne_zero_of_mul (hdigits ▸ hd)
  have hcount : Digit.count d.coefficient =
      Digit.count w.coefficient + (w.exponent - d.exponent).toNat := by
    conv_lhs => rw [hdigits]
    exact Digit.count_mul_pow hw _
  exact ⟨w.coefficient, (w.exponent - d.exponent).toNat, hdigits, hw, count_of_round hd h,
    by omega, by omega⟩

/-- One hundred times a number fits like the number, below the end of the range. -/
theorem Fits.scale_hundred {m k : Nat} (h : d.Fits m k)
    (hgreatest : Digit.count m + d.exponent + k + 2 ≤ greatestPower) :
    (d.scale 100).Fits m (k + 2) where
  coefficient := by
    show d.coefficient * 10 ^ 2 = m * 10 ^ (k + 2)
    rw [h.coefficient, pow_add, mul_assoc]
  ne_zero := h.ne_zero
  digits := h.digits
  least := by
    have hleast := h.least
    show leastExponent ≤ d.exponent + (k + 2 : Nat)
    omega
  greatest := by
    show Digit.count m + d.exponent + (k + 2 : Nat) ≤ greatestPower
    omega

end Scrip.Decimal
