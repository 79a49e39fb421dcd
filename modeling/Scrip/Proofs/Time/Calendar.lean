import Mathlib.Order.Monotone.Basic
import Scrip.Time.DateTime
set_option autoImplicit false

/-! # Months of the calendar

The months of all years are numbered in a row. A day belongs to the month that its date shows, so
month number `i` is exactly the days from its first one up to the first one of the next month
(`Date.monthIndex_ofDay_eq_iff`). Hence two dates show the same month exactly if one of them lies
between the start and the end of the month of the other.
-/

namespace Scrip

namespace Date

/-! ## Years from March to March -/

/-- The number of days from 1 March of year 0 to 1 March of a year. -/
def marches (year : Int) : Int := 365 * year + year / 4 - year / 100 + year / 400

theorem marches_add_eras (year era : Int) :
    marches (year + era * 400) = era * eraDays + marches year := by
  unfold marches eraDays
  omega

/-- A year has 365 days or one more. -/
theorem marches_succ (year : Int) :
    marches year + 365 ≤ marches (year + 1) ∧ marches (year + 1) ≤ marches year + 366 := by
  have hfour : (year + 1) / 4 = year / 4 ∨ (year + 1) / 4 = year / 4 + 1 := by omega
  have hhundred : (year + 1) / 100 = year / 100 ∨
      (year + 1) / 100 = year / 100 + 1 ∧ (year + 1) / 4 = year / 4 + 1 := by omega
  have hera : (year + 1) / 400 = year / 400 ∨
      (year + 1) / 400 = year / 400 + 1 ∧ (year + 1) / 100 = year / 100 + 1 := by omega
  unfold marches
  omega

/-- The day of a date, counted from the start of its year in March. -/
theorem toDay_eq (d : Date) :
    d.toDay = marches (if d.month ≤ 2 then d.year - 1 else d.year) +
      ((153 * (if d.month ≤ 2 then (d.month : Int) + 9 else d.month - 3) + 2) / 5 + d.day - 1) -
      epochShift := by
  unfold toDay marches eraDays
  dsimp only
  split <;> omega

variable {c r q y n : Int}

/-- The year of a day within its century: `q` leap days lie before it. The last day of an era is
the one more day that the fourth century has. -/
theorem year_in_century (hc : 0 ≤ c ∧ c ≤ 3) (hr : 0 ≤ r ∧ (r < 36524 ∨ c = 3 ∧ r = 36524))
    (hq : q = (24 * c + r) / 1460) (hy : y = (r - q) / 365) :
    0 ≤ y ∧ y ≤ 99 ∧ 365 * y + y / 4 ≤ r ∧ (r < 365 * (y + 1) + (y + 1) / 4 ∨ y = 99) := by
  have hdays : 1460 * q ≤ 24 * c + r ∧ 24 * c + r < 1460 * (q + 1) := by omega
  have hyear : 365 * y ≤ r - q ∧ r - q < 365 * (y + 1) := by omega
  clear hq hy
  -- four years and the leap day among them are over for each leap day before the day
  have hover : y / 4 ≤ q := by omega
  have hnext : 4 * q ≤ y + 1 := by omega
  exact ⟨by omega, by omega, by omega, by omega⟩

/-- The year of a day within its era. -/
theorem year_in_era {d : Int} (hd : 0 ≤ d ∧ d < eraDays)
    (hy : y = (d - d / 1460 + d / 36524 - d / 146096) / 365) :
    0 ≤ y ∧ y ≤ 399 ∧ marches y ≤ d ∧ d < marches (y + 1) := by
  unfold eraDays at hd
  obtain ⟨c, hc⟩ : ∃ c, c = d / 36524 - d / 146096 := ⟨_, rfl⟩
  obtain ⟨r, hr⟩ : ∃ r, r = d - 36524 * c := ⟨_, rfl⟩
  obtain ⟨q, hq⟩ : ∃ q, q = (24 * c + r) / 1460 := ⟨_, rfl⟩
  obtain ⟨z, hz⟩ : ∃ z, z = (r - q) / 365 := ⟨_, rfl⟩
  have hcentury : (0 ≤ c ∧ c ≤ 3) ∧ 0 ≤ r ∧ (r < 36524 ∨ c = 3 ∧ r = 36524) := by omega
  have hleap : d / 1460 = 25 * c + q := by omega
  have hyear : y = 100 * c + z := by omega
  obtain ⟨hz0, hz99, hlow, hhigh⟩ := year_in_century hcentury.1 hcentury.2 hq hz
  clear hc hq hz hleap hy
  subst hyear
  have hfour : (100 * c + z) / 4 = 25 * c + z / 4 ∧
      (100 * c + z + 1) / 4 = 25 * c + (z + 1) / 4 := by omega
  have hhundred : (100 * c + z) / 100 = c ∧ (100 * c + z) / 400 = 0 := by omega
  unfold marches
  refine ⟨by omega, by omega, by omega, ?_⟩
  by_cases hlast : z = 99
  · subst hlast
    omega
  · have hsame : (100 * c + z + 1) / 100 = c ∧ (100 * c + z + 1) / 400 = 0 := by omega
    omega

/-! ## The months in a row -/

/-- The number of the month of a date, from January of year 0. -/
def monthIndex (d : Date) : Int := 12 * d.year + d.month - 1

/-- The first day of a numbered month. -/
def firstDay (i : Int) : Int := toDay ⟨i / 12, (i % 12).toNat + 1, 1⟩

/-- The first day of a month, by the months from March on. -/
theorem firstDay_eq (i : Int) :
    firstDay i = marches ((i - 2) / 12) + (153 * ((i - 2) % 12) + 2) / 5 - epochShift := by
  rw [firstDay, toDay_eq]
  dsimp only
  split
  · have hyear : i / 12 - 1 = (i - 2) / 12 := by omega
    have hmonth : (((i % 12).toNat + 1 : Nat) : Int) + 9 = (i - 2) % 12 := by omega
    rw [hyear, hmonth]
    omega
  · have hyear : i / 12 = (i - 2) / 12 := by omega
    have hmonth : (((i % 12).toNat + 1 : Nat) : Int) - 3 = (i - 2) % 12 := by omega
    rw [hyear, hmonth]
    omega

/-- A month lies in a year from March to March, or ends it. -/
theorem firstDay_succ (i : Int) :
    ((i - 2) % 12 < 11 ∧ firstDay (i + 1) =
      marches ((i - 2) / 12) + (153 * ((i - 2) % 12 + 1) + 2) / 5 - epochShift) ∨
    ((i - 2) % 12 = 11 ∧ firstDay (i + 1) = marches ((i - 2) / 12 + 1) - epochShift) := by
  rw [firstDay_eq]
  by_cases hlast : (i - 2) % 12 = 11
  · have hyear : (i + 1 - 2) / 12 = (i - 2) / 12 + 1 := by omega
    have hmonth : (i + 1 - 2) % 12 = 0 := by omega
    rw [hyear, hmonth]
    exact Or.inr ⟨hlast, by omega⟩
  · have hyear : (i + 1 - 2) / 12 = (i - 2) / 12 := by omega
    have hmonth : (i + 1 - 2) % 12 = (i - 2) % 12 + 1 := by omega
    rw [hyear, hmonth]
    exact Or.inl ⟨by omega, rfl⟩

theorem firstDay_lt_succ (i : Int) : firstDay i < firstDay (i + 1) := by
  have hyear := (marches_succ ((i - 2) / 12)).1
  rw [firstDay_eq]
  rcases firstDay_succ i with ⟨-, hnext⟩ | ⟨-, hnext⟩ <;> omega

theorem firstDay_lt_iff {i j : Int} : firstDay i < firstDay j ↔ i < j :=
  (strictMono_int_of_lt_succ firstDay_lt_succ).lt_iff_lt

/-- What a numbered day is the date of: its year from March to March, and its month in it. -/
theorem ofDay_eq (n : Int) : ∃ year month : Int, marches year ≤ n + epochShift ∧
    n + epochShift < marches (year + 1) ∧
    month = (5 * (n + epochShift - marches year) + 2) / 153 ∧ 0 ≤ month ∧ month ≤ 11 ∧
    (ofDay n).year = (if month < 10 then year else year + 1) ∧
    ((ofDay n).month : Int) = if month < 10 then month + 3 else month - 9 := by
  obtain ⟨z, hz⟩ : ∃ z, z = n + epochShift := ⟨_, rfl⟩
  obtain ⟨era, hera⟩ : ∃ era, era = z / eraDays := ⟨_, rfl⟩
  obtain ⟨d, hd⟩ : ∃ d, d = z - era * eraDays := ⟨_, rfl⟩
  obtain ⟨y, hy⟩ : ∃ y, y = (d - d / 1460 + d / 36524 - d / 146096) / 365 := ⟨_, rfl⟩
  obtain ⟨month, hmonth⟩ : ∃ month, month = (5 * (d - (365 * y + y / 4 - y / 100)) + 2) / 153 :=
    ⟨_, rfl⟩
  have hdate : (ofDay n).year = (if (if month < 10 then month + 3 else month - 9) ≤ 2
        then y + era * 400 + 1 else y + era * 400) ∧
      (ofDay n).month = (if month < 10 then month + 3 else month - 9).toNat := by
    subst hmonth hy hd hera hz
    exact ⟨rfl, rfl⟩
  obtain ⟨hy0, hy399, hlow, hhigh⟩ := year_in_era (d := d) (by unfold eraDays at *; omega) hy
  have hyear : marches (y + era * 400) = era * eraDays + marches y := marches_add_eras y era
  have hnext : marches (y + era * 400 + 1) = era * eraDays + marches (y + 1) :=
    (congrArg marches (by omega)).trans (marches_add_eras (y + 1) era)
  have hdays : 365 * y + y / 4 - y / 100 = marches y := by
    unfold marches
    omega
  have hlength := (marches_succ y).2
  rw [hdays] at hmonth
  clear hy hera hdays
  have hrange : 0 ≤ month ∧ month ≤ 11 := by omega
  have hcivil : (ofDay n).year = (if month < 10 then y + era * 400 else y + era * 400 + 1) ∧
      ((ofDay n).month : Int) = if month < 10 then month + 3 else month - 9 := by
    rw [hdate.1, hdate.2]
    by_cases h : month < 10
    · simp only [h, if_true]
      exact ⟨if_neg (by omega), by omega⟩
    · simp only [h, if_false]
      exact ⟨if_pos (by omega), by omega⟩
  refine ⟨y + era * 400, month, by omega, by omega, ?_, hrange.1, hrange.2, hcivil⟩
  rw [hmonth, hyear]
  congr 2
  omega

/-- A day is not before the first day of the month of its date, and before that of the next one. -/
theorem firstDay_monthIndex_ofDay (n : Int) :
    firstDay (ofDay n).monthIndex ≤ n ∧ n < firstDay ((ofDay n).monthIndex + 1) := by
  obtain ⟨year, month, hlow, hhigh, hmonth, hmonth0, hmonth11, hyear', hmonth'⟩ := ofDay_eq n
  have hindex : (ofDay n).monthIndex = 12 * year + month + 2 := by
    unfold monthIndex
    rw [hyear', hmonth']
    split <;> omega
  have hsplit : (12 * year + month + 2 - 2) / 12 = year ∧
      (12 * year + month + 2 - 2) % 12 = month := by omega
  have hnext := firstDay_succ (12 * year + month + 2)
  rw [hindex, firstDay_eq, hsplit.1, hsplit.2]
  rw [hsplit.1, hsplit.2] at hnext
  refine ⟨by omega, ?_⟩
  rcases hnext with ⟨-, h⟩ | ⟨-, h⟩ <;> omega

/-- A numbered month is the days from its first one up to the first one of the next month. -/
theorem monthIndex_ofDay_eq_iff {i : Int} :
    (ofDay n).monthIndex = i ↔ firstDay i ≤ n ∧ n < firstDay (i + 1) := by
  obtain ⟨hlow, hhigh⟩ := firstDay_monthIndex_ofDay n
  constructor
  · rintro rfl
    exact ⟨hlow, hhigh⟩
  · -- two different months have no day in common
    rintro ⟨hlow', hhigh'⟩
    have hle := firstDay_lt_iff.mp (Int.lt_of_le_of_lt hlow hhigh')
    have hge := firstDay_lt_iff.mp (Int.lt_of_le_of_lt hlow' hhigh)
    omega

/-- The dates of two days have the same year and month exactly if their months have one number. -/
theorem ofDay_month_eq_iff {m n : Int} :
    ((ofDay m).year, (ofDay m).month) = ((ofDay n).year, (ofDay n).month) ↔
      (ofDay m).monthIndex = (ofDay n).monthIndex := by
  have hrange : ∀ n, 1 ≤ (ofDay n).month ∧ (ofDay n).month ≤ 12 := by
    intro n
    obtain ⟨year, month, -, -, -, hmonth0, hmonth11, -, hmonth'⟩ := ofDay_eq n
    split at hmonth' <;> omega
  have hm := hrange m
  have hn := hrange n
  rw [Prod.mk.injEq]
  unfold monthIndex
  omega

end Date

/-! ## The month of a date -/

namespace DateTime

variable {t t' : DateTime} {ahead ahead' : Int}

/-- The start of the month that a date shows. -/
def monthStart (t : DateTime) : Moment := Date.firstDay t.wall.date.monthIndex * Moment.day

/-- The end of the month that a date shows, which is the start of the next one. -/
def monthEnd (t : DateTime) : Moment := Date.firstDay (t.wall.date.monthIndex + 1) * Moment.day

/-- **A date shows the month of another one exactly if it lies between the ends of that month.** -/
theorem month_eq_iff : t'.month = t.month ↔ t.monthStart ≤ t'.wall ∧ t'.wall < t.monthEnd := by
  have hday : (0 : Int) < Moment.day := by decide
  unfold month monthStart monthEnd Moment.date
  rw [Date.ofDay_month_eq_iff, Date.monthIndex_ofDay_eq_iff, Int.le_ediv_iff_mul_le hday,
    Int.ediv_lt_iff_lt_mul hday]

/-- The same instant on a clock that is ahead of universal time by some microseconds. -/
def inOffset (t : DateTime) (ahead : Int) : DateTime :=
  ⟨t.instant + ahead, some ahead⟩

@[simp] theorem instant_inOffset : (t.inOffset ahead).instant = t.instant := by
  simp [inOffset, instant]

theorem inOffset_inOffset : (t.inOffset ahead').inOffset ahead = t.inOffset ahead := by
  rw [inOffset, instant_inOffset, inOffset]

theorem inOffset_self (h : t.offset = some ahead) : t.inOffset ahead = t := by
  obtain ⟨wall, offset⟩ := t
  obtain rfl : offset = some ahead := h
  simp [inOffset, instant]

end DateTime

end Scrip
