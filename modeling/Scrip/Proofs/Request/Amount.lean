import Mathlib.Data.Nat.Factorization.Basic
import Scrip.Proofs.Decimal.Rounding
import Scrip.Proofs.Decimal.Spelling
import Scrip.Request.Field
set_option autoImplicit false

/-! # Amounts in requests

An amount is accepted by its digits. That it is a whole number of cents, and that these have at most
twelve digits, is the same as the rules for its digits and decimals once zeros at its end are
removed; so every spelling of such a number is accepted, and no other number.
-/

namespace Scrip

namespace Field

/-! ## Zeros at the end -/

theorem toDigits_mul_ten {n : Nat} (hn : n ≠ 0) :
    Nat.toDigits 10 (n * 10) = Nat.toDigits 10 n ++ ['0'] := by
  rw [Nat.toDigits_of_base_le (by decide) (by omega), Nat.mul_div_cancel n (by decide),
    Nat.mul_mod_left]
  rfl

theorem exists_toDigits_append (n : Nat) :
    ∃ ds, Nat.toDigits 10 n = ds ++ [(n % 10).digitChar] := by
  rcases Nat.lt_or_ge n 10 with hn | hn
  · exact ⟨[], by rw [Nat.toDigits_of_lt_base hn, Nat.mod_eq_of_lt hn]; rfl⟩
  · exact ⟨_, Nat.toDigits_of_base_le (by decide) hn⟩

/-- The zeros at the end are counted one division at a time. -/
theorem trailingZeros_mul_pow {m : Nat} (hm : ¬ 10 ∣ m) (k : Nat) :
    trailingZeros (m * 10 ^ k) = k := by
  have hm₀ := Digit.ne_zero_of_not_dvd hm
  induction k with
  | zero =>
      have hdigit : ∀ r < 10, r ≠ 0 → Nat.digitChar r ≠ '0' := by decide
      have hlast := hdigit (m % 10) (Nat.mod_lt _ (by decide))
        fun h => hm (Nat.dvd_of_mod_eq_zero h)
      obtain ⟨ds, hds⟩ := exists_toDigits_append m
      simp [trailingZeros, hds, hlast]
  | succ k ih =>
      have hne : m * 10 ^ k ≠ 0 := Nat.mul_ne_zero hm₀ (by positivity)
      rw [pow_succ, ← mul_assoc]
      unfold trailingZeros at ih ⊢
      rw [toDigits_mul_ten hne, List.reverse_append]
      simp [ih]

end Field

namespace Decimal

variable {d : Decimal} {c : Nat}

/-- A number without the zeros at the end of its digits. -/
theorem exists_split (hd : d.coefficient ≠ 0) (hneg : d.negative = false) :
    ∃ m z : Nat, d.coefficient = m * 10 ^ z ∧ ¬ 10 ∣ m ∧
      d.value = value ⟨false, m, d.exponent + z⟩ := by
  obtain ⟨z, m, hm, hsplit⟩ := Nat.exists_eq_pow_mul_and_not_dvd hd 10 (by decide)
  rw [mul_comm] at hsplit
  refine ⟨m, z, hsplit, hm, ?_⟩
  rw [← value_move, ← hsplit, ← hneg]

/-- The digits of a number of cents without the zeros at the end. -/
theorem exists_reduced (hc : 0 < c) (h : d.value = c / 100) :
    ∃ m z : Nat, d.coefficient = m * 10 ^ z ∧ ¬ 10 ∣ m ∧ -2 ≤ d.exponent + z ∧
      c = m * 10 ^ (d.exponent + z + 2).toNat := by
  obtain ⟨m, z, hsplit, hm, hvalue⟩ :=
    exists_split (ne_zero_of_cents hc h) (negative_of_cents hc h)
  rw [h] at hvalue
  have hplace : -2 ≤ d.exponent + z := by
    by_contra hlow
    have hexponent : d.exponent + z ≤ -2 := by omega
    -- further decimals would be zeros
    have hzeros : m = c * 10 ^ (-2 - (d.exponent + z)).toNat :=
      (value_eq_cents_iff_of_le rfl hexponent).mp hvalue.symm
    rw [hzeros] at hm
    exact hm (Dvd.dvd.mul_left (dvd_pow_self 10 (by omega)) c)
  exact ⟨m, z, hsplit, hm, hplace, (value_eq_cents_iff_of_ge rfl hplace).mp hvalue.symm⟩

/-- A number of cents fits. -/
theorem fits_of_cents (hc : 0 < c) (hlt : c < 10 ^ 12) (h : d.value = c / 100) :
    ∃ m k, d.Fits m k := by
  obtain ⟨m, z, hsplit, hm, hplace, hzeros⟩ := exists_reduced hc h
  have hm₀ := Digit.ne_zero_of_not_dvd hm
  have hcount : Digit.count c = Digit.count m + (d.exponent + z + 2).toNat := by
    conv_lhs => rw [hzeros]
    exact Digit.count_mul_pow hm₀ _
  have hdigits : Digit.count c ≤ 12 := (Digit.count_le_iff (by decide)).mpr hlt
  have hprecision : precision = 28 := rfl
  exact ⟨m, z, hsplit, hm₀, by omega, by unfold leastExponent; omega,
    by unfold greatestPower; omega⟩

end Decimal

namespace Field

open Decimal

variable {d : Decimal}

/-! ## The rules for the digits -/

/-- The digits and decimals of a number without the zeros at its end. -/
theorem extent_eq {m z : Nat} (hsplit : d.coefficient = m * 10 ^ z) (hm : ¬ 10 ∣ m) :
    extent d =
      if 0 ≤ d.exponent + z then (Digit.count m + (d.exponent + z).toNat, 0)
      else (max (Digit.count m) (-(d.exponent + z)).toNat, (-(d.exponent + z)).toNat) := by
  have hm₀ := Digit.ne_zero_of_not_dvd hm
  have hd : d.coefficient ≠ 0 := by
    rw [hsplit]
    exact Nat.mul_ne_zero hm₀ (by positivity)
  have hzeros : trailingZeros d.coefficient = z := by
    rw [hsplit, trailingZeros_mul_pow hm]
  have hdigits : Digit.count d.coefficient - z = Digit.count m := by
    rw [hsplit, Digit.count_mul_pow hm₀, Nat.add_sub_cancel]
  simp only [extent, if_neg hd, hzeros, hdigits]

def IsWithin (extent : Nat × Nat) : Prop :=
  extent.1 ≤ maxDigits ∧ extent.2 ≤ maxPlaces ∧ extent.1 - extent.2 ≤ maxDigits - maxPlaces

/-- The rules for the digits hold exactly for the numbers of cents with at most twelve digits. -/
theorem isWithin_extent_iff (hd : d.coefficient ≠ 0) (hneg : d.negative = false) :
    IsWithin (extent d) ↔ ∃ c : Nat, 0 < c ∧ c < 10 ^ 12 ∧ d.value = c / 100 := by
  have hlimits : maxDigits = 12 ∧ maxPlaces = 2 := ⟨rfl, rfl⟩
  unfold IsWithin
  constructor
  · intro h
    obtain ⟨m, z, hsplit, hm, hvalue⟩ := exists_split hd hneg
    have hm₀ := Digit.ne_zero_of_not_dvd hm
    rw [extent_eq hsplit hm] at h
    -- with and without decimals: two of them at most, and the digits up to the cents are twelve
    have hplace : -2 ≤ d.exponent + z ∧ Digit.count m + (d.exponent + z + 2).toNat ≤ 12 := by
      split at h <;> dsimp only at h <;> omega
    have hcount : Digit.count (m * 10 ^ (d.exponent + z + 2).toNat) ≤ 12 := by
      rw [Digit.count_mul_pow hm₀]
      exact hplace.2
    refine ⟨m * 10 ^ (d.exponent + z + 2).toNat, ?_,
      (Digit.count_le_iff (by decide)).mp hcount, ?_⟩
    · exact Nat.mul_pos (Nat.pos_of_ne_zero hm₀) (by positivity)
    · exact hvalue.trans ((value_eq_cents_iff_of_ge rfl hplace.1).mpr rfl)
  · rintro ⟨c, hc, hlt, hvalue⟩
    obtain ⟨m, z, hsplit, hm, hplace, hzeros⟩ := exists_reduced hc hvalue
    have hm₀ := Digit.ne_zero_of_not_dvd hm
    have hcount : Digit.count m + (d.exponent + z + 2).toNat ≤ 12 := by
      rw [← Digit.count_mul_pow hm₀, ← hzeros]
      exact (Digit.count_le_iff (by decide)).mpr hlt
    rw [extent_eq hsplit hm]
    split <;> dsimp only <;> omega

/-- Numbers are accepted as they are. -/
theorem money_eq_ok_iff_isWithin {d' : Decimal} : money d = .ok d' ↔
    d' = d ∧ d.negative = false ∧ d.coefficient ≠ 0 ∧ IsWithin (extent d) := by
  unfold money IsWithin
  obtain ⟨digits, places⟩ := extent d
  dsimp only
  constructor
  · intro h
    split at h
    · cases h
    split at h
    · cases h
    split at h
    · cases h
    split at h
    · cases h
    · rename_i hdigits hplaces hwhole hsign
      obtain rfl := Except.ok.inj h
      simp only [Bool.or_eq_true, decide_eq_true_eq, not_or, Bool.not_eq_true] at hsign
      exact ⟨rfl, hsign.1, hsign.2, by omega, by omega, by omega⟩
  · rintro ⟨rfl, hneg, hd, hdigits, hplaces, hwhole⟩
    rw [if_neg (by omega), if_neg (by omega), if_neg (by omega), if_neg (by simp [hneg, hd])]

/-- Which numbers are accepted: the numbers of cents with at most twelve digits. -/
theorem money_eq_ok {d' : Decimal} : money d = .ok d' ↔
    d' = d ∧ ∃ c : Nat, 0 < c ∧ c < 10 ^ 12 ∧ d.value = c / 100 := by
  rw [money_eq_ok_iff_isWithin]
  refine and_congr_right fun _ => ⟨?_, ?_⟩
  · rintro ⟨hneg, hd, hwithin⟩
    exact (isWithin_extent_iff hd hneg).mp hwithin
  · rintro ⟨c, hc, hlt, hvalue⟩
    have hneg := negative_of_cents hc hvalue
    have hd := ne_zero_of_cents hc hvalue
    exact ⟨hneg, hd, (isWithin_extent_iff hd hneg).mpr ⟨c, hc, hlt, hvalue⟩⟩

/-- A part of a cent counts even where arithmetic would round it away. -/
example : money ⟨false, 10 ^ 29 + 1, -29⟩ = .error (.tooManyDigits 12) := by decide +kernel

end Field

/-! ## The values of JSON -/

namespace Amount

open Decimal

variable {s : String} {c : Nat}

theorem spells_of_read? {d : Decimal} (h : read? s = some (.finite d)) : Spells s d.value := by
  obtain ⟨-, sp, hchars, rfl⟩ := read?_eq_finite.mp h
  exact ⟨sp, hchars, sp.value_decimal.symm⟩

/-- A number of cents is within the bounds of amounts. -/
theorem isWithinBounds_of_cents {d : Decimal} (hc : 0 < c) (hlt : c < 10 ^ 12)
    (h : d.value = c / 100) : isWithinBounds d = true := by
  have hd := ne_zero_of_cents hc h
  have hplace := count_add_exponent_of_cents hc h
  have hdigits : Digit.count c ≤ 12 := (Digit.count_le_iff (by decide)).mpr hlt
  have hbound : powerBound = 999999999999999999 := by decide
  simp only [isWithinBounds, if_neg hd, Bool.and_eq_true, Bool.or_eq_true, decide_eq_true_eq]
  omega

theorem read?_of_spells (hc : 0 < c) (hlt : c < 10 ^ 12) (h : Spells s (c / 100)) :
    ∃ d, read? s = some (.finite d) ∧ d.value = c / 100 := by
  obtain ⟨sp, hchars, hvalue⟩ := h
  rw [← Spelling.value_decimal] at hvalue
  exact ⟨sp.decimal, read?_eq_finite.mpr
    ⟨isWithinBounds_of_cents hc hlt hvalue, sp, hchars, rfl⟩, hvalue⟩

end Amount

/-- The value stands for a number: a text spells it, and a floating point number stands for what its
shortest text spells. -/
def Json.Denotes : Json → ℚ → Prop
  | .text s, v => Amount.Spells s v
  | .int n, v => v = n
  | .real x, v => Amount.Spells x.text v
  | _, _ => False

namespace Field

open Decimal

variable {j : Json} {d : Decimal} {c : Nat}

theorem denotes_of_spelledAmount (h : spelledAmount j = .ok (.finite d)) : j.Denotes d.value := by
  match j with
  | .text s | .real x =>
      dsimp only [spelledAmount] at h
      split at h
      · rename_i a ha
        obtain rfl := Except.ok.inj h
        exact Amount.spells_of_read? ha
      · cases h
  | .int n =>
      obtain rfl := Amount.finite.inj (Except.ok.inj h)
      exact value_ofInt n

theorem spelledAmount_of_denotes (hc : 0 < c) (hlt : c < 10 ^ 12) (h : j.Denotes (c / 100)) :
    ∃ d, spelledAmount j = .ok (.finite d) ∧ d.value = c / 100 := by
  match j with
  | .text s | .real x =>
      obtain ⟨d, hread, hvalue⟩ := Amount.read?_of_spells hc hlt h
      exact ⟨d, by simp [spelledAmount, hread], hvalue⟩
  | .int n => exact ⟨ofInt n, rfl, (value_ofInt n).trans h.symm⟩

/-- An accepted amount is the one that the value stands for, and a number of cents. -/
theorem amount_eq_ok (h : amount j = .ok d) : j.Denotes d.value ∧
    ∃ c : Nat, 0 < c ∧ c < 10 ^ 12 ∧ d.value = c / 100 := by
  unfold amount at h
  split at h
  · cases h
  · rename_i d' hspelled
    obtain ⟨rfl, hcents⟩ := money_eq_ok.mp h
    exact ⟨denotes_of_spelledAmount hspelled, hcents⟩
  · cases h

/-- Every number of cents with at most twelve digits is accepted, however it is written. -/
theorem amount_of_denotes (hc : 0 < c) (hlt : c < 10 ^ 12) (h : j.Denotes (c / 100)) :
    ∃ d, amount j = .ok d ∧ d.value = c / 100 := by
  obtain ⟨d, hspelled, hvalue⟩ := spelledAmount_of_denotes hc hlt h
  have hmoney : money d = .ok d := money_eq_ok.mpr ⟨rfl, c, hc, hlt, hvalue⟩
  exact ⟨d, by simp only [amount, hspelled, hmoney], hvalue⟩

end Field

end Scrip
