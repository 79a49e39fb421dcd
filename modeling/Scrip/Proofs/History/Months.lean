import Scrip.Proofs.History.Counts
import Scrip.Proofs.Time.Calendar
set_option autoImplicit false

/-! # The purchases of a month

The statistics count the completed purchases whose own dates show the current month. On the clock
that tells the current time, a purchase with another offset may show another month, and then the
count is not that of this clock. The two differ only in purchases so close to an end of the month
that it lies between the two readings.
-/

namespace Scrip

namespace Stats

variable (month : Int × Nat) (s : Stats) (r : Record) (rs : List Record)

theorem monthPurchases_add : (s.add month r).monthPurchases =
    s.monthPurchases + if r.isSale && decide (r.createdAt.month = month) then 1 else 0 := by
  by_cases h : r.createdAt.month = month <;>
    cases hkind : r.kind <;> cases hstatus : r.status <;>
      simp [add, Record.isSale, hkind, hstatus, h]

theorem monthPurchases_foldl : (rs.foldl (add month) s).monthPurchases =
    s.monthPurchases + rs.countP fun r => r.isSale && decide (r.createdAt.month = month) :=
  foldl_count month s rs (monthPurchases_add month)

end Stats

namespace Record

variable {r : Record} {now : DateTime} {ahead : Int}

def isOwnSale (now : DateTime) (r : Record) : Bool :=
  r.isSale && decide (r.createdAt.month = now.month)

/-- Whether a record is of a completed purchase in the current month of a clock, which is ahead of
universal time by some microseconds. -/
def isClockSale (now : DateTime) (ahead : Int) (r : Record) : Bool :=
  r.isSale && decide ((r.createdAt.inOffset ahead).month = now.month)

/-- The record with its date as a clock with another offset shows it. -/
def inOffset (ahead : Int) (r : Record) : Record :=
  { r with createdAt := r.createdAt.inOffset ahead }

theorem isOwnSale_inOffset : (r.inOffset ahead).isOwnSale now = r.isClockSale now ahead := rfl

/-- What a clock shows of a record does not depend on the offset of its date. -/
theorem isClockSale_inOffset {ahead' : Int} :
    (r.inOffset ahead').isClockSale now ahead = r.isClockSale now ahead := by
  have hdate : ((r.inOffset ahead').createdAt).inOffset ahead = r.createdAt.inOffset ahead :=
    DateTime.inOffset_inOffset
  have hsale : (r.inOffset ahead').isSale = r.isSale := rfl
  rw [isClockSale, hdate, hsale, isClockSale]

theorem isOwnSale_of_offset (h : r.createdAt.offset = some ahead) :
    r.isOwnSale now = r.isClockSale now ahead := by
  rw [isClockSale, DateTime.inOffset_self h, isOwnSale]

/-- An end of the current month lies between two readings. -/
def Parts (now : DateTime) (a b : Moment) : Prop :=
  ∃ edge, (edge = now.monthStart ∨ edge = now.monthEnd) ∧
    (a < edge ∧ edge ≤ b ∨ b < edge ∧ edge ≤ a)

theorem edge_between {a b first last : Int}
    (h : ¬ (first ≤ a ∧ a < last ↔ first ≤ b ∧ b < last)) :
    (a < first ∧ first ≤ b ∨ b < first ∧ first ≤ a) ∨
      (a < last ∧ last ≤ b ∨ b < last ∧ last ≤ a) := by
  omega

/-- Of two readings only one of which is in the month, an end of it lies between them. -/
theorem parts_of_ne (h : r.isOwnSale now ≠ r.isClockSale now ahead) :
    Parts now r.createdAt.wall (r.createdAt.inOffset ahead).wall := by
  have hmonth : ¬ (r.createdAt.month = now.month ↔
      (r.createdAt.inOffset ahead).month = now.month) := by
    intro hsame
    refine h ?_
    unfold isOwnSale isClockSale
    rw [decide_eq_decide.mpr hsame]
  rw [DateTime.month_eq_iff, DateTime.month_eq_iff] at hmonth
  rcases edge_between hmonth with hfirst | hlast
  · exact ⟨_, Or.inl rfl, hfirst⟩
  · exact ⟨_, Or.inr rfl, hlast⟩

end Record

/-! ## The count -/

namespace Stats

/-- What the statistics say about the current month of a clock. They count by own dates. That is the
count of the clock on every part of a history exactly if each record shows on the clock what it
shows itself; a record that does not is close to an end of the month. Once its dates are those of
the clock, every history is counted right. -/
structure CountsMonth (records : List Record) (now : DateTime) (ahead : Int) : Prop where
  own : (ofRecords records now).monthPurchases = records.countP (·.isOwnSale now)
  balance : (ofRecords records now).monthPurchases +
      records.countP (fun r => r.isClockSale now ahead && !r.isOwnSale now) =
    records.countP (·.isClockSale now ahead) +
      records.countP (fun r => r.isOwnSale now && !r.isClockSale now ahead)
  upheld : (∀ part, part.Sublist records →
      (ofRecords part now).monthPurchases = part.countP (·.isClockSale now ahead)) ↔
    ∀ r ∈ records, r.isOwnSale now = r.isClockSale now ahead
  sameOffset : ∀ r ∈ records, r.createdAt.offset = some ahead →
    r.isOwnSale now = r.isClockSale now ahead
  parts : ∀ r ∈ records, r.isOwnSale now ≠ r.isClockSale now ahead →
    Record.Parts now r.createdAt.wall (r.createdAt.inOffset ahead).wall
  reexpressed : ∀ offset : Record → Int,
    (ofRecords ((records.map fun r => r.inOffset (offset r)).map (·.inOffset ahead))
      now).monthPurchases = records.countP (·.isClockSale now ahead)

theorem monthPurchases_ofRecords (records : List Record) (now : DateTime) :
    (ofRecords records now).monthPurchases = records.countP (·.isOwnSale now) := by
  rw [ofRecords, monthPurchases_foldl]
  exact Nat.zero_add _

/-- Of two tests, each counts what both accept and what it accepts alone. -/
theorem countP_balance {α : Type} (p q : α → Bool) (as : List α) :
    as.countP p + as.countP (fun a => q a && !p a) =
      as.countP q + as.countP (fun a => p a && !q a) := by
  induction as with
  | nil => rfl
  | cons a as ih =>
      simp only [List.countP_cons]
      cases p a <;> cases q a <;> simp <;> omega

/-- Only records that show one month themselves and another on the clock make a difference. -/
theorem countsMonth (records : List Record) (now : DateTime) (ahead : Int) :
    CountsMonth records now ahead where
  own := monthPurchases_ofRecords records now
  balance := by
    rw [monthPurchases_ofRecords]
    exact countP_balance _ _ records
  upheld := by
    constructor
    · intro h r hr
      have hone := h [r] (List.singleton_sublist.mpr hr)
      rw [monthPurchases_ofRecords, List.countP_singleton, List.countP_singleton] at hone
      cases hown : r.isOwnSale now <;> cases hclock : r.isClockSale now ahead <;>
        simp [hown, hclock] at hone ⊢
    · intro h part hpart
      rw [monthPurchases_ofRecords]
      exact List.countP_congr fun r hr => by rw [h r (hpart.subset hr)]
  sameOffset := fun _ _ h => Record.isOwnSale_of_offset h
  parts := fun _ _ h => Record.parts_of_ne h
  reexpressed := by
    intro offset
    rw [monthPurchases_ofRecords, List.countP_map, List.countP_map]
    exact List.countP_congr fun r _ => by
      simp only [Function.comp_apply, Record.isOwnSale_inOffset, Record.isClockSale_inOffset]

end Stats

/-- **The purchases of a month are counted by their own dates**, which is the count of the clock
wherever no end of the month lies between a purchase's date and its reading on the clock. -/
theorem month_is_counted_by_own_dates (records : List Record) {now : DateTime} {ahead : Int}
    (hnow : now.offset = some ahead) :
    now.inOffset ahead = now ∧ Stats.CountsMonth records now ahead :=
  ⟨DateTime.inOffset_self hnow, Stats.countsMonth records now ahead⟩

/-- The middle of November on a clock two hours ahead of universal time. -/
def DateTime.november : DateTime :=
  ⟨Moment.ofParts ⟨2026, 11, 15⟩ 12 0 0 0, some (120 * Moment.minute)⟩

/-- A purchase half an hour before November by universal time. -/
def Record.lateOctober : Record where
  id := 1
  kind := .purchase
  amount := 10
  status := .completed
  createdAt := ⟨Moment.ofParts ⟨2026, 10, 31⟩ 23 30 0 0, some 0⟩

theorem month_is_counted_by_own_dates_night :
    DateTime.november.offset = some (120 * Moment.minute) ∧
      Record.Parts .november Record.lateOctober.createdAt.wall
        (Record.lateOctober.createdAt.inOffset (120 * Moment.minute)).wall ∧
      (Stats.ofRecords [Record.lateOctober.inOffset (120 * Moment.minute)]
        .november).monthPurchases = 1 := by
  obtain ⟨-, h⟩ := month_is_counted_by_own_dates [.lateOctober]
    (show DateTime.november.offset = some (120 * Moment.minute) from rfl)
  refine ⟨rfl, h.parts _ List.mem_cons_self (by decide), ?_⟩
  have hcount := h.reexpressed fun _ => 0
  exact hcount

/-- A purchase that is in the current month on the clock is not counted, and re-expressed in the
offset of the clock it is. -/
theorem night_purchase_is_missed :
    DateTime.november.offset = some (120 * Moment.minute) ∧
      (Record.lateOctober.isClockSale .november (120 * Moment.minute)) = true ∧
      (Stats.ofRecords [.lateOctober] .november).monthPurchases = 0 ∧
      (Record.lateOctober.inOffset (120 * Moment.minute)).createdAt.instant =
        Record.lateOctober.createdAt.instant ∧
      (Stats.ofRecords [Record.lateOctober.inOffset (120 * Moment.minute)]
        .november).monthPurchases = 1 := by
  decide

end Scrip
