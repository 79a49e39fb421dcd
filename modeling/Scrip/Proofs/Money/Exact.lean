import Scrip.Proofs.Money
set_option autoImplicit false

/-! # Where the conversion of money is exact

Money is multiplied by one hundred in decimal arithmetic, and it is the result of that which has to
be a whole number. So the conversion into cents rounds nothing exactly if arithmetic keeps one
hundred times the amount as it is (`Decimal.IsKept`). Otherwise the cents may be more or less than
the amount, by half of the last place that is kept.
-/

namespace Scrip

/-- Arithmetic keeps the number as it is. -/
def Decimal.IsKept (d : Decimal) : Prop := d.coefficient = 0 ∨ ∃ m k, d.Fits m k

theorem Decimal.IsKept.value_of_round {d w : Decimal} (h : d.IsKept) (hround : d.round = some w) :
    w.value = d.value := by
  rcases h with hd | ⟨m, k, hfits⟩
  · exact value_of_round_zero hd hround
  · obtain ⟨w', hround', hvalue⟩ := hfits.round
    obtain rfl := Option.some.inj (hround.symm.trans hround')
    exact hvalue

theorem Decimal.IsKept.exists_round {d : Decimal} (h : d.IsKept) : ∃ w, d.round = some w := by
  rcases h with hd | ⟨m, k, hfits⟩
  · exact ⟨_, if_pos hd⟩
  · exact hfits.round.imp fun _ => And.left

namespace Money

variable {d : Decimal} {c : Int}

theorem value_hundredfold (d : Decimal) : (d.scale 100).value = 100 * d.value := by
  exact_mod_cast d.value_scale 100

/-- The cents of an amount are those of the amount if one hundred times the amount is kept. -/
theorem cents_eq_ok_iff_of_isKept (h : (d.scale 100).IsKept) :
    cents (.finite d) = .ok c ↔
      (c : ℚ) = 100 * d.value ∧ Digit.count c.natAbs ≤ Decimal.precision := by
  obtain ⟨w, hround⟩ := h.exists_round
  have hvalue := (h.value_of_round hround).trans (value_hundredfold d)
  rw [cents_eq_ok_iff, hround, ← hvalue]
  constructor
  · rintro ⟨w', hsame, hc, hcount⟩
    obtain rfl := Option.some.inj hsame
    exact ⟨hc.symm, hcount⟩
  · rintro ⟨hc, hcount⟩
    exact ⟨w, rfl, hc.symm, hcount⟩

/-- Cents that are those of the amount do not come from a number that was rounded. -/
theorem isKept_of_cents (h : cents (.finite d) = .ok c) (hc : (c : ℚ) = 100 * d.value) :
    (d.scale 100).IsKept := by
  obtain ⟨w, hround, hvalue, hcount⟩ := cents_eq_ok_iff.mp h
  by_cases hd : (d.scale 100).coefficient = 0
  · exact Or.inl hd
  · have hwhole : (d.scale 100).value = c := (value_hundredfold d).trans hc.symm
    have hfirst := Decimal.count_add_exponent_eq (Decimal.negative_eq_ofInt hd hwhole) hd
      (hwhole.trans (Decimal.value_ofInt c).symm)
    have hdigits : (Decimal.ofInt c).coefficient = c.natAbs := rfl
    have hexponent : (Decimal.ofInt c).exponent = 0 := rfl
    have hprecision : Decimal.precision = 28 := rfl
    have hpower : Decimal.greatestPower = 999999 := rfl
    rw [hdigits, hexponent] at hfirst
    exact Or.inr (Decimal.fits_of_round hd hround (hvalue.trans hwhole.symm) (by omega))

/-- **The conversion of money is exact where arithmetic is.** The cents of an amount are one hundred
times the amount exactly if arithmetic keeps that number as it is, and they are never off by more
than half of the last place that arithmetic keeps. For such amounts every number of cents that has
room is the result, and an amount with a part of a cent is refused. -/
theorem cents_exact (d : Decimal) :
    (∀ c, cents (.finite d) = .ok c →
      ((c : ℚ) = 100 * d.value ↔ (d.scale 100).IsKept) ∧
      2 * |(c : ℚ) - 100 * d.value| ≤ 10 ^ (d.scale 100).lastPlace) ∧
    ((d.scale 100).IsKept →
      (∀ c, cents (.finite d) = .ok c ↔
        (c : ℚ) = 100 * d.value ∧ Digit.count c.natAbs ≤ Decimal.precision) ∧
      ((∀ c : Int, (c : ℚ) ≠ 100 * d.value) →
        cents (.finite d) = .error (.refused tooPrecise))) := by
  constructor
  · intro c h
    refine ⟨⟨isKept_of_cents h, fun hkept => ((cents_eq_ok_iff_of_isKept hkept).mp h).1⟩, ?_⟩
    obtain ⟨w, hround, hvalue, -⟩ := cents_eq_ok_iff.mp h
    rw [← hvalue, ← value_hundredfold]
    exact Decimal.round_error hround
  · intro hkept
    refine ⟨fun c => cents_eq_ok_iff_of_isKept hkept, fun hpart => ?_⟩
    obtain ⟨w, hround⟩ := hkept.exists_round
    refine cents_of_part hround fun c hc => hpart c ?_
    rw [← value_hundredfold, ← hkept.value_of_round hround, hc]

/-- Twelve units and a half, and a unit with half of a cent. -/
theorem cents_exact_twelveAndAHalf :
    Decimal.IsKept (Decimal.scale ⟨false, 12500, -3⟩ 100) ∧
      Decimal.IsKept (Decimal.scale ⟨true, 1005, -3⟩ 100) ∧
      cents (.finite ⟨false, 12500, -3⟩) = .ok 1250 ∧
      ((1250 : Int) : ℚ) = 100 * Decimal.value ⟨false, 12500, -3⟩ ∧
      cents (.finite ⟨true, 1005, -3⟩) = .error (.refused tooPrecise) := by
  have hkept : Decimal.IsKept (Decimal.scale ⟨false, 12500, -3⟩ 100) :=
    Or.inr ⟨125, 4, by decide, by decide, by decide, by decide, by decide⟩
  have hkept' : Decimal.IsKept (Decimal.scale ⟨true, 1005, -3⟩ 100) :=
    Or.inr ⟨1005, 2, by decide, by decide, by decide, by decide, by decide⟩
  have hcents : cents (.finite ⟨false, 12500, -3⟩) = .ok 1250 := by decide +kernel
  refine ⟨hkept, hkept', hcents, (((cents_exact _).1 _ hcents).1).mpr hkept,
    ((cents_exact _).2 hkept').2 fun c hc => ?_⟩
  have hwhole : (2 * c : ℚ) = -201 := by
    rw [hc]
    norm_num [Decimal.value, Decimal.signed]
  have hwhole' : 2 * c = -201 := by exact_mod_cast hwhole
  omega

/-- An amount under one unit is converted into the cents of one unit. -/
theorem cents_round_up :
    cents (.finite ⟨false, 10 ^ 29 - 1, -29⟩) = .ok 100 ∧
      100 * Decimal.value ⟨false, 10 ^ 29 - 1, -29⟩ < ((100 : Int) : ℚ) := by
  refine ⟨by decide +kernel, ?_⟩
  norm_num [Decimal.value, Decimal.signed]

end Money

end Scrip
