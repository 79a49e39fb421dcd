import Scrip.Money
import Scrip.Proofs.Decimal.Rounding
import Scrip.Proofs.Decimal.Spelling
set_option autoImplicit false

/-! # Cents of amounts

The cents of an amount are one hundred times the amount, as a result of arithmetic, if that is a
whole number. They fit into the digits that arithmetic keeps, so they can always be shown.
-/

namespace Scrip

namespace Decimal

/-- A number with few enough digits and a power of ten of -2 is its own result of arithmetic. -/
theorem round_eq_self {d : Decimal} (hcount : Digit.count d.coefficient ≤ precision)
    (hexponent : d.exponent = -2) : d.round = some d := by
  have hprecision : (precision : Int) = 28 := rfl
  have hleast : leastExponent = -1000026 := rfl
  have hgreatest : greatestExponent = 999972 := rfl
  have hpower : greatestPower = 999999 := rfl
  unfold round
  split
  · rw [hexponent, hleast, hpower]
    rw [show min (max (-2 : Int) (-1000026)) 999999 = d.exponent by omega]
  · dsimp only
    rw [if_neg (by omega), if_pos (by omega)]

theorem quantize_self {d : Decimal} (hcount : Digit.count d.coefficient ≤ precision)
    (divide : Nat → Nat → Nat) : d.quantize d.exponent divide = some d := by
  unfold quantize
  split
  · rfl
  · rw [if_neg (by omega), coefficientAt_self]
    dsimp only
    rw [if_pos hcount]

/-! ## Whole numbers -/

variable {w : Decimal} {c : Int}

/-- A number with the value of a whole number has its sign. -/
theorem negative_eq_ofInt (hw : w.coefficient ≠ 0) (h : w.value = c) :
    w.negative = (ofInt c).negative := by
  have hc : (ofInt c).negative = true ↔ c < 0 := decide_eq_true_iff
  rw [Bool.eq_iff_iff, negative_iff hw, h, hc]
  exact Int.cast_lt_zero

/-- A whole number has its own digits on the grid of the whole numbers. -/
theorem coefficientAt_of_whole (hw : w.coefficient ≠ 0) (h : w.value = c) :
    w.coefficientAt 0 (· / ·) = c.natAbs ∧ w.isWhole = true := by
  have hsign := negative_eq_ofInt hw h
  have hwhole : w.value = (ofInt c).value := h.trans (value_ofInt c).symm
  rcases le_or_gt 0 w.exponent with he | he
  · -- the grid of the whole numbers is finer: zeros are added
    have hc : c.natAbs = w.coefficient * 10 ^ (w.exponent - 0).toNat :=
      (value_eq_iff hsign.symm he).mp hwhole.symm
    exact ⟨(if_pos he).trans hc.symm, if_pos he⟩
  · -- it is coarser: the digits that go are zeros
    obtain ⟨k, hk⟩ : ∃ k : Nat, 0 = w.exponent + k := ⟨(-w.exponent).toNat, by omega⟩
    have hdigits : w.coefficient = c.natAbs * 10 ^ k := by
      have hshift : (0 - w.exponent).toNat = k := by omega
      rw [← hshift]
      exact (value_eq_iff hsign he.le).mp hwhole
    have hcount : k ≤ Digit.count w.coefficient := by
      rw [hdigits, Digit.count_mul_pow (left_ne_zero_of_mul (hdigits ▸ hw))]
      omega
    constructor
    · rw [hk, coefficientAt_above w (by omega), if_neg (by omega), hdigits]
      exact Nat.mul_div_cancel _ (by positivity)
    · have hk' : (-w.exponent).toNat = k := by omega
      have hmod : w.coefficient % Nat.pow 10 k = 0 := by
        rw [hdigits]
        exact Nat.mul_mod_left c.natAbs (10 ^ k)
      simp only [isWhole, if_neg (not_le.mpr he), hk', hcount, hmod]
      simp

/-- With a power of ten below one, a number is whole if it ends in enough zeros. -/
theorem isWhole_iff : w.isWhole = true ↔ ∃ c : Int, w.value = c := by
  constructor
  · intro h
    unfold isWhole at h
    split at h
    · rename_i he
      refine ⟨w.signed * 10 ^ w.exponent.toNat, ?_⟩
      push_cast
      rw [value, ← zpow_natCast, Int.toNat_of_nonneg he]
    · rename_i he
      simp only [Bool.or_eq_true, beq_iff_eq, Bool.and_eq_true, decide_eq_true_eq] at h
      rcases h with hzero | ⟨-, hmod⟩
      · exact ⟨0, by rw [value_eq_zero.mpr hzero, Int.cast_zero]⟩
      · obtain ⟨m, hm⟩ := Nat.dvd_of_mod_eq_zero hmod
        refine ⟨signed ⟨w.negative, m, 0⟩, ?_⟩
        have hmoved := value_move w.negative m (-w.exponent).toNat w.exponent
        rw [show w.exponent + ((-w.exponent).toNat : Int) = 0 by omega] at hmoved
        calc w.value = value ⟨w.negative, m * 10 ^ (-w.exponent).toNat, w.exponent⟩ := by
              rw [Nat.mul_comm, show 10 ^ (-w.exponent).toNat * m = w.coefficient from hm.symm]
          _ = value ⟨w.negative, m, 0⟩ := hmoved
          _ = signed ⟨w.negative, m, 0⟩ := by rw [value, zpow_zero, mul_one]
  · rintro ⟨c, h⟩
    by_cases hw : w.coefficient = 0
    · simp [isWhole, hw]
    · exact (coefficientAt_of_whole hw h).2

/-- A whole number stays the same on the grid of the whole numbers, if it has room there. -/
theorem quantize_of_whole (hw : w.coefficient ≠ 0) (h : w.value = c) :
    w.quantize 0 (· / ·) =
      if Digit.count c.natAbs ≤ precision then some (ofInt c) else none := by
  have hsign := negative_eq_ofInt hw h
  have hwhole : w.value = (ofInt c).value := h.trans (value_ofInt c).symm
  have hplace : Digit.count w.coefficient + w.exponent = Digit.count c.natAbs + 0 :=
    count_add_exponent_eq hsign hw hwhole
  rw [quantize, if_neg hw]
  by_cases hcount : Digit.count c.natAbs ≤ precision
  · rw [if_neg (by omega), if_pos hcount]
    dsimp only
    rw [(coefficientAt_of_whole hw h).1, if_pos hcount, hsign]
    rfl
  · rw [if_pos (by omega), if_neg hcount]

/-- A number of no more digits than arithmetic keeps has room on the grid of the whole numbers,
where it loses its part of one. -/
theorem quantize_of_part (hcount : Digit.count w.coefficient ≤ precision) (he : w.exponent < 0) :
    ∃ w', w.quantize 0 (· / ·) = some w' := by
  obtain ⟨k, hk⟩ : ∃ k : Nat, 0 = w.exponent + k := ⟨(-w.exponent).toNat, by omega⟩
  have hle : w.coefficientAt 0 (· / ·) ≤ w.coefficient := by
    rw [hk, coefficientAt_above w (by omega)]
    split
    · exact Nat.zero_le _
    · exact Nat.div_le_self _ _
  have hroom : Digit.count (w.coefficientAt 0 (· / ·)) ≤ precision := by
    rw [Digit.count_le_iff (by decide)] at hcount ⊢
    exact hle.trans_lt hcount
  unfold quantize
  split
  · exact ⟨_, rfl⟩
  · rw [if_neg (by omega)]
    dsimp only
    rw [if_pos hroom]
    exact ⟨_, rfl⟩

end Decimal

namespace Money

/-- Which cents an amount has: one hundred times the amount, as a result of arithmetic, is a whole
number that has room. -/
theorem cents_eq_ok_iff {d : Decimal} {c : Int} :
    cents (.finite d) = .ok c ↔ ∃ w, (d.scale 100).round = some w ∧ w.value = c ∧
      Digit.count c.natAbs ≤ Decimal.precision := by
  show centsOfDecimal d = .ok c ↔ _
  unfold centsOfDecimal
  rw [show d.scale centsPerUnit = d.scale 100 from rfl]
  cases hround : (d.scale 100).round with
  | none => simp
  | some w =>
      simp only [Option.some.injEq, exists_eq_left']
      by_cases hw : w.coefficient = 0
      · have hvalue : w.value = (0 : Int) := by rw [Decimal.value_eq_zero.mpr hw, Int.cast_zero]
        have hquantize : w.quantize 0 (· / ·) = some { w with exponent := 0 } := if_pos hw
        have hsigned : Decimal.signed { w with exponent := 0 } = 0 := by simp [Decimal.signed, hw]
        rw [hquantize, hvalue]
        simp only [Decimal.isWhole_iff.mpr ⟨0, hvalue⟩, if_true, hsigned, Except.ok.injEq,
          Int.cast_inj]
        constructor
        · rintro rfl
          exact ⟨rfl, by decide⟩
        · exact And.left
      · by_cases hwhole : ∃ n : Int, w.value = n
        · obtain ⟨n, hn⟩ := hwhole
          rw [Decimal.quantize_of_whole hw hn, hn, Int.cast_inj]
          by_cases hcount : Digit.count n.natAbs ≤ Decimal.precision
          · rw [if_pos hcount]
            simp only [Decimal.isWhole_iff.mpr ⟨n, hn⟩, if_true, Decimal.signed_ofInt,
              Except.ok.injEq]
            constructor
            · rintro rfl
              exact ⟨rfl, hcount⟩
            · exact And.left
          · rw [if_neg hcount]
            refine ⟨fun h => (by cases h), ?_⟩
            rintro ⟨rfl, h⟩
            exact absurd h hcount
        · have hpart : w.isWhole = false :=
            Bool.eq_false_iff.mpr fun h => hwhole (Decimal.isWhole_iff.mp h)
          refine ⟨fun h => ?_, fun h => absurd ⟨c, h.1⟩ hwhole⟩
          split at h
          · cases h
          · rw [hpart] at h
            cases h

/-- The cents of an amount have no more digits than arithmetic keeps. -/
theorem count_of_cents {a : Amount} {c : Int} (h : cents a = .ok c) :
    Digit.count c.natAbs ≤ Decimal.precision := by
  cases a with
  | finite d =>
      obtain ⟨w, -, -, hcount⟩ := cents_eq_ok_iff.mp h
      exact hcount
  | infinite negative => cases h
  | nan signaling => cases signaling <;> cases h

/-- An amount with a part of a cent, as a result of arithmetic, is refused. -/
theorem cents_of_part {d w : Decimal} (hround : (d.scale 100).round = some w)
    (hpart : ∀ c : Int, w.value ≠ c) : cents (.finite d) = .error (.refused tooPrecise) := by
  have hw : w.coefficient ≠ 0 := by
    rw [Ne, ← Decimal.value_eq_zero]
    exact_mod_cast hpart 0
  have hisWhole : w.isWhole = false :=
    Bool.eq_false_iff.mpr fun h => (Decimal.isWhole_iff.mp h).elim hpart
  have he : w.exponent < 0 := by
    by_contra hge
    have hwhole : w.isWhole = true := if_pos (not_lt.mp hge)
    rw [hwhole] at hisWhole
    cases hisWhole
  have hcount := Decimal.count_of_round (Decimal.ne_zero_of_round hround hw) hround
  obtain ⟨w', hquantize⟩ := Decimal.quantize_of_part hcount he
  show centsOfDecimal d = _
  unfold centsOfDecimal
  rw [show d.scale centsPerUnit = d.scale 100 from rfl, hround]
  simp only [hquantize, hisWhole]
  rfl

/-- Cents with no more digits than arithmetic keeps are shown as hundredths. -/
theorem display_eq {c : Int} (h : Digit.count c.natAbs ≤ Decimal.precision) :
    display c = .ok ((Decimal.ofInt c).shift (-2)).plain := by
  have hround : ((Decimal.ofInt c).shift (-2)).round = some ((Decimal.ofInt c).shift (-2)) :=
    Decimal.round_eq_self h rfl
  have hquantize : ((Decimal.ofInt c).shift (-2)).quantize (-2) Decimal.divEven =
      some ((Decimal.ofInt c).shift (-2)) := Decimal.quantize_self h Decimal.divEven
  unfold display
  rw [hround]
  dsimp only
  rw [hquantize]

/-- Cents with no more digits than arithmetic keeps can be shown. -/
theorem display_isOk {c : Int} (h : Digit.count c.natAbs ≤ Decimal.precision) :
    ∃ text, display c = .ok text :=
  ⟨_, display_eq h⟩

/-- The text that shows cents spells them exactly. -/
theorem display_spells {c : Nat} (h : Digit.count c ≤ Decimal.precision) :
    ∃ text, display c = .ok text ∧ Amount.Spells text (c / 100) := by
  refine ⟨_, display_eq h, ?_⟩
  have hspells := ((Decimal.ofInt c).shift (-2)).spells_plain
  have hvalue : ((Decimal.ofInt c).shift (-2)).value = c / 100 := by
    calc ((Decimal.ofInt c).shift (-2)).value
        = (Decimal.ofInt c).value * 10 ^ (-2 : ℤ) := Decimal.value_shift _ _
      _ = ((c : ℤ) : ℚ) * 10 ^ (-2 : ℤ) := by rw [Decimal.value_ofInt]
      _ = c / 100 := by
        norm_num
        ring
  rwa [hvalue] at hspells

end Money

end Scrip
