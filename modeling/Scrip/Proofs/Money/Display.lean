import Scrip.Proofs.Decimal.Overflow
import Scrip.Proofs.Money.Exact
set_option autoImplicit false

/-! # Displayed money

Cents are divided by one hundred in decimal arithmetic, and the result is brought onto the grid of
hundredths. With no more digits than arithmetic keeps neither changes anything, and the text has the
units, a point and two digits. With more digits the first digit lies too far from the grid, which
rounding does not change, so there is no text.
-/

namespace Scrip

/-- The two digits of a number of cents under one unit. -/
def Digit.pair (n : Nat) : List Char := [(n / 10).digitChar, (n % 10).digitChar]

/-- The digits of the units, and those of the cents that are left. -/
theorem Digit.units_append_pair (n : Nat) :
    List.replicate (3 - (Nat.toDigits 10 n).length) '0' ++ Nat.toDigits 10 n =
      Nat.toDigits 10 (n / 100) ++ pair (n % 100) := by
  have hlast : n % 100 % 10 = n % 10 := by omega
  rcases Nat.lt_or_ge n 10 with hn | hn
  · have hunits : n / 100 = 0 := by omega
    have htens : n % 100 / 10 = 0 := by omega
    rw [pair, hlast, htens, hunits, Nat.mod_eq_of_lt hn, Nat.toDigits_of_lt_base hn]
    rfl
  have htens : n % 100 / 10 = n / 10 % 10 := by omega
  rw [pair, hlast, htens, Nat.toDigits_of_base_le (by decide) hn]
  rcases Nat.lt_or_ge (n / 10) 10 with hm | hm
  · have hunits : n / 100 = 0 := by omega
    rw [hunits, Nat.mod_eq_of_lt hm, Nat.toDigits_of_lt_base hm]
    rfl
  · -- with three digits or more no zero is put before them
    have hunits : n / 10 / 10 = n / 100 := by omega
    have hpos : 0 < (Nat.toDigits 10 (n / 100)).length := Nat.length_toDigits_pos
    rw [Nat.toDigits_of_base_le (by decide) hm, hunits]
    have hlong : 3 - (Nat.toDigits 10 (n / 100) ++ [(n / 10 % 10).digitChar] ++
        [(n % 10).digitChar]).length = 0 := by
      simp only [List.length_append, List.length_singleton]
      omega
    rw [hlong]
    simp

namespace Amount

theorem isDigit_of_mem_pair {n : Nat} (hn : n < 100) : ∀ c ∈ Digit.pair n, c.isDigit = true := by
  have hdigit : ∀ r < 10, (Nat.digitChar r).isDigit = true := by decide
  intro c hc
  rcases List.mem_pair.mp hc with rfl | rfl
  · exact hdigit _ (by omega)
  · exact hdigit _ (by omega)

/-- A number of hundredths as it is written. -/
def Numeral.hundredths (n : Nat) : Numeral where
  whole := Nat.toDigits 10 (n / 100)
  fraction := some (Digit.pair (n % 100))
  power := none
  whole_all := isDigit_of_mem_toDigits _
  fraction_all := isDigit_of_mem_pair (Nat.mod_lt n (by decide))
  digits_ne := by simp [Digit.pair]

theorem Numeral.chars_hundredths (n : Nat) :
    (hundredths n).chars = Nat.toDigits 10 (n / 100) ++ '.' :: Digit.pair (n % 100) := by
  show Nat.toDigits 10 (n / 100) ++ ('.' :: Digit.pair (n % 100) ++ []) = _
  rw [List.append_nil]

theorem Numeral.decimal_hundredths (n : Nat) (negative : Bool) :
    (hundredths n).decimal negative = ⟨negative, n, -2⟩ := by
  have hnatural : natural (Nat.toDigits 10 (n / 100) ++ Digit.pair (n % 100)) = n := by
    rw [← Digit.units_append_pair, natural_zeros_toDigits]
  have hvalue : (hundredths n).decimal negative =
      ⟨negative, natural (Nat.toDigits 10 (n / 100) ++ Digit.pair (n % 100)), 0 - 2⟩ := rfl
  rw [hvalue, hnatural, zero_sub]

end Amount

/-- The plain text of a number of hundredths: the digits are cut before the last two. -/
theorem Decimal.plain_hundredths (negative : Bool) (n : Nat) : plain ⟨negative, n, -2⟩ =
    String.ofList ((if negative then ['-'] else []) ++ Nat.toDigits 10 (n / 100) ++
      '.' :: Digit.pair (n % 100)) := by
  have hpadded := Digit.units_append_pair n
  have hcut : (Nat.toDigits 10 (n / 100) ++ Digit.pair (n % 100)).length - 2 =
      (Nat.toDigits 10 (n / 100)).length := by
    rw [List.length_append]
    rfl
  unfold plain
  simp only [show ¬ (0 : Int) ≤ -2 by decide, if_false, show (-(-2 : Int)).toNat = 2 from rfl,
    hpadded, hcut, List.take_left, List.drop_left]
  cases negative <;> rfl

namespace Money

open Amount

variable {c : Int}

/-- Cents as they are written: a minus if there is less than nothing, the units, a point, and two
digits. -/
def written (c : Int) : String :=
  String.ofList ((if c < 0 then ['-'] else []) ++ Nat.toDigits 10 (c.natAbs / 100) ++
    '.' :: Digit.pair (c.natAbs % 100))

/-! ## Cents that are shown -/

theorem display_eq_written (h : Digit.count c.natAbs ≤ Decimal.precision) :
    display c = .ok (written c) := by
  have hhundredths : (Decimal.ofInt c).shift (-2) = ⟨decide (c < 0), c.natAbs, -2⟩ := rfl
  rw [display_eq h, hhundredths, Decimal.plain_hundredths, written]
  simp only [decide_eq_true_eq]

/-- A number of hundredths with a sign. -/
def spelling (c : Int) : Spelling := ⟨if c < 0 then some true else none, .hundredths c.natAbs⟩

theorem written_eq (c : Int) : written c = String.ofList (spelling c).chars := by
  unfold written spelling Spelling.chars
  rw [Numeral.chars_hundredths]
  split <;> rfl

theorem decimal_spelling (c : Int) : (spelling c).decimal = (Decimal.ofInt c).shift (-2) := by
  unfold spelling Spelling.decimal
  rw [Numeral.decimal_hundredths]
  by_cases hc : c < 0 <;> simp [Decimal.shift, Decimal.ofInt, hc]

/-- What is written is read as the same number of hundredths. -/
theorem read?_written (h : Digit.count c.natAbs ≤ Decimal.precision) :
    read? (written c) = some (.finite ((Decimal.ofInt c).shift (-2))) := by
  have hblanks : ∀ c ∈ ([] : List Char), Blank.isBlank c = true := fun _ hc => (by cases hc)
  have hcounting : counting (written c) = (spelling c).chars := by
    have hall := counting_of_blanks (spelling c) hblanks hblanks
    rwa [List.nil_append, List.append_nil, ← written_eq] at hall
  have hpos := Digit.count_pos c.natAbs
  have hbounds : isWithinBounds ((Decimal.ofInt c).shift (-2)) = true := by
    have hprecision : Decimal.precision = 28 := rfl
    have hbound : powerBound = 999999999999999999 := by decide
    have hcoefficient : ((Decimal.ofInt c).shift (-2)).coefficient = c.natAbs := rfl
    have hexponent : ((Decimal.ofInt c).shift (-2)).exponent = -2 := rfl
    unfold isWithinBounds
    rw [hcoefficient, hexponent]
    split
    · decide
    · simp only [Bool.and_eq_true, Bool.or_eq_true, decide_eq_true_eq]
      omega
  exact read?_eq_finite.mpr ⟨hbounds, spelling c, hcounting, decimal_spelling c⟩

/-- The cents of one hundredth of some cents are these. -/
theorem cents_shift (h : Digit.count c.natAbs ≤ Decimal.precision) :
    cents (.finite ((Decimal.ofInt c).shift (-2))) = .ok c := by
  have hexponent : ((Decimal.ofInt c).shift (-2)).exponent = -2 := rfl
  have hkept : (((Decimal.ofInt c).shift (-2)).scale 100).IsKept := by
    by_cases hc : ((Decimal.ofInt c).shift (-2)).coefficient = 0
    · exact Or.inl (Nat.mul_eq_zero.mpr (Or.inl hc))
    · have hprecision : Decimal.precision = 28 := rfl
      have hpower : Decimal.greatestPower = 999999 := rfl
      have hleast : Decimal.leastExponent = -1000026 := rfl
      have hcount : Digit.count ((Decimal.ofInt c).shift (-2)).coefficient ≤ 28 := h
      have hfits : ((Decimal.ofInt c).shift (-2)).Fits _ 0 :=
        ⟨(mul_one _).symm, hc, h, by omega, by omega⟩
      exact Or.inr ⟨_, _, hfits.scale_hundred (by omega)⟩
  refine (cents_eq_ok_iff_of_isKept hkept).mpr ⟨?_, h⟩
  rw [Decimal.value_shift, Decimal.value_ofInt]
  norm_num
  ring

/-! ## Cents that are not -/

theorem abs_value_shift (c : Int) :
    |((Decimal.ofInt c).shift (-2)).value| = |(c : ℚ)| / 100 := by
  rw [Decimal.value_shift, Decimal.value_ofInt, abs_mul]
  norm_num
  ring

/-- The division by one hundred has no result for cents that are too great for it. -/
theorem display_of_huge (h : Decimal.overflowThreshold ≤ |(c : ℚ)| / 100) :
    display c = .error .hugeDecimal := by
  rw [← abs_value_shift, ← Decimal.round_eq_none_iff] at h
  unfold display
  rw [h]

/-- Otherwise cents with more digits than arithmetic keeps have no room on the grid of hundredths,
for rounding does not move the first digit down. -/
theorem display_of_long (h : Decimal.precision < Digit.count c.natAbs)
    (hrange : |(c : ℚ)| / 100 < Decimal.overflowThreshold) :
    display c = .error .undefinedDecimal := by
  have hcount : Digit.count ((Decimal.ofInt c).shift (-2)).coefficient = Digit.count c.natAbs := rfl
  have hexponent : ((Decimal.ofInt c).shift (-2)).exponent = -2 := rfl
  have hc : ((Decimal.ofInt c).shift (-2)).coefficient ≠ 0 := by
    intro hzero
    rw [← hcount, hzero] at h
    exact absurd h (by decide)
  -- the result of the division is not zero, and begins where the number of hundredths begins
  obtain ⟨w, hround⟩ : ∃ w, ((Decimal.ofInt c).shift (-2)).round = some w := by
    rw [← Option.ne_none_iff_exists', Ne, Decimal.round_eq_none_iff, abs_value_shift]
    exact hrange.not_ge
  have hw : w.coefficient ≠ 0 := by
    intro hzero
    have hle := Decimal.count_add_exponent_le_of_round hc hround hzero
    have hleast : Decimal.leastExponent = -1000026 := rfl
    omega
  have hfirst := Decimal.count_add_exponent_le_of_round_ne hround hw
  have hquantize : w.quantize (-2) Decimal.divEven = none := by
    rw [Decimal.quantize, if_neg hw, if_pos (by omega)]
  unfold display
  rw [hround]
  dsimp only
  rw [hquantize]

/-! ## Which cents are shown, and how -/

variable {text : String}

theorem count_le_iff_lt : Digit.count c.natAbs ≤ Decimal.precision ↔ c.natAbs < 10 ^ 28 :=
  Digit.count_le_iff (by decide)

theorem count_of_display (h : display c = .ok text) : Digit.count c.natAbs ≤ Decimal.precision := by
  by_contra hlong
  rcases lt_or_ge (|(c : ℚ)| / 100) Decimal.overflowThreshold with hrange | hhuge
  · rw [display_of_long (not_le.mp hlong) hrange] at h
    cases h
  · rw [display_of_huge hhuge] at h
    cases h

theorem eq_written_of_display (h : display c = .ok text) : text = written c :=
  Except.ok.inj (h.symm.trans (display_eq_written (count_of_display h)))

/-- A text is read in one way, and that gives the cents back. -/
theorem eq_of_display {c' : Int} (h : display c = .ok text) (h' : display c' = .ok text) :
    c' = c := by
  -- one text, two readings: the numbers of hundredths are the same, and so are the cents
  have hread := read?_written (count_of_display h)
  have hread' := read?_written (count_of_display h')
  rw [← eq_written_of_display h] at hread
  rw [← eq_written_of_display h', hread] at hread'
  have hcents := cents_shift (count_of_display h)
  rw [Amount.finite.inj (Option.some.inj hread'), cents_shift (count_of_display h')] at hcents
  exact Except.ok.inj hcents

/-- **Displayed money is exact and reads back.** Cents are shown if they are less than `10 ^ 28` in
size, and only then. Others have no room among the hundredths, and those from the threshold on,
which have more than a million digits, not even a hundredth. What is shown is written with a minus
if there is less than nothing, the units without zeros before them, a point and two digits; it is
read as an amount of the same cents, so different cents look different. -/
theorem display_is_exact (c : Int) :
    ((∃ text, display c = .ok text) ↔ c.natAbs < 10 ^ 28) ∧
    (10 ^ 28 ≤ c.natAbs →
      (|(c : ℚ)| / 100 < Decimal.overflowThreshold → display c = .error .undefinedDecimal) ∧
      (Decimal.overflowThreshold ≤ |(c : ℚ)| / 100 → display c = .error .hugeDecimal)) ∧
    ∀ text, display c = .ok text →
      text = written c ∧
      (∃ d, read? text = some (.finite d) ∧ cents (.finite d) = .ok c) ∧
      ∀ c', display c' = .ok text → c' = c := by
  refine ⟨⟨?_, fun h => ⟨_, display_eq_written (count_le_iff_lt.mpr h)⟩⟩, fun h => ?_, ?_⟩
  · rintro ⟨text, htext⟩
    exact count_le_iff_lt.mp (count_of_display htext)
  · have hlong : Decimal.precision < Digit.count c.natAbs :=
      not_le.mp fun hle => absurd (count_le_iff_lt.mp hle) h.not_gt
    exact ⟨display_of_long hlong, display_of_huge⟩
  · intro text htext
    have hroom := count_of_display htext
    obtain rfl := eq_written_of_display htext
    exact ⟨rfl, ⟨_, read?_written hroom, cents_shift hroom⟩, fun c' h' => eq_of_display htext h'⟩

theorem le_natAbs_pow {j k : Nat} (h : j ≤ k) : 10 ^ j ≤ (10 ^ k : Int).natAbs := by
  rw [Int.natAbs_pow]
  exact Nat.pow_le_pow_right (by decide) h

theorem hundredth_pow (k : Nat) : |((10 ^ k : Int) : ℚ)| / 100 = 10 ^ (k - 2 : Int) := by
  rw [zpow_sub₀ (by norm_num), zpow_natCast, Int.cast_pow, abs_pow]
  norm_num

/-- Five cents of debt, the least number that has no text, and one that is too great. -/
theorem display_is_exact_debt :
    display (-5) = .ok "-0.05" ∧
      (∃ d, read? "-0.05" = some (.finite d) ∧ cents (.finite d) = .ok (-5)) ∧
      display (10 ^ 28) = .error .undefinedDecimal ∧
      display (10 ^ 1000003) = .error .hugeDecimal := by
  obtain ⟨hlow, hhigh⟩ := Decimal.overflowThreshold_bounds
  have hdebt : display (-5) = .ok "-0.05" := by decide +kernel
  refine ⟨hdebt, ((display_is_exact (-5)).2.2 _ hdebt).2.1, ?_, ?_⟩
  · refine ((display_is_exact (10 ^ 28)).2.1 (by decide)).1 ?_
    rw [hundredth_pow]
    exact (zpow_le_zpow_right₀ (by norm_num) (by decide)).trans_lt hlow
  · refine ((display_is_exact (10 ^ 1000003)).2.1 (le_natAbs_pow (by decide))).2 ?_
    rw [hundredth_pow]
    exact hhigh.le.trans (zpow_le_zpow_right₀ (by norm_num) (by decide))

/-- Cents with a million digits end at the division, not on the grid of hundredths. -/
theorem display_pow_eq_hugeDecimal :
    10 ^ 28 ≤ (10 ^ 1000002 : Int).natAbs ∧
      display (10 ^ 1000002) = .error .hugeDecimal ∧
      display (10 ^ 1000002) ≠ .error .undefinedDecimal := by
  have hhuge : display (10 ^ 1000002) = .error .hugeDecimal := by
    refine display_of_huge ?_
    rw [hundredth_pow]
    exact Decimal.overflowThreshold_bounds.2.le
  refine ⟨le_natAbs_pow (by decide), hhuge, ?_⟩
  rw [hhuge]
  decide

end Money

end Scrip
