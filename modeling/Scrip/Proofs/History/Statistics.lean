import Scrip.Proofs.History.Months
set_option autoImplicit false

/-! # Statistics as sums

The one pass over a history computes six totals at once. Each of them is a sum or a count over the
records of one group: completed top-ups, pending top-ups, or completed purchases
(`Stats.bySums`). So the order of the records does not matter, the totals of two histories add up
to those of both, and a record shows in the fields of its group only.
-/

namespace Scrip

namespace Record

/-! ## Groups of records -/

/-- The groups of records that the statistics tell apart: completed top-ups, pending top-ups, and
completed purchases. -/
inductive Group where
  | topUps
  | pending
  | purchases
deriving DecidableEq, Repr

/-- The fields of the statistics that are about a group. -/
def Group.fields (g : Group) (s : Stats) : List Int :=
  match g with
  | .topUps => [s.toppedUp, s.moneySpentCents]
  | .pending => [s.pendingCount]
  | .purchases => [s.spent, s.itemsPurchased, s.monthPurchases]

variable (r : Record)

def isIn (g : Group) (r : Record) : Bool :=
  match g with
  | .topUps => r.kind == .topup && r.status == .completed
  | .pending => r.kind == .topup && r.status == .pending
  | .purchases => r.kind == .purchase && r.status == .completed

def isOfMonth (now : DateTime) (r : Record) : Bool :=
  r.createdAt.wall.date.year == now.wall.date.year &&
    r.createdAt.wall.date.month == now.wall.date.month

/-- A record is in one group at most. -/
theorem isIn_unique {r : Record} {g g' : Group} (h : r.isIn g = true) (h' : r.isIn g' = true) :
    g = g' := by
  cases g <;> cases g' <;> simp_all [isIn]

theorem completed_topup : r.completed .topup = if r.isIn .topUps then r.amount else 0 := by
  simp [completed, isIn]

theorem completed_purchase : r.completed .purchase = if r.isIn .purchases then r.amount else 0 := by
  simp [completed, isIn]

theorem isOwnSale_eq (now : DateTime) :
    r.isOwnSale now = (r.isIn .purchases && r.isOfMonth now) := by
  have hmonth : decide (r.createdAt.month = now.month) = r.isOfMonth now := by
    rw [Bool.eq_iff_iff]
    simp [isOfMonth, DateTime.month]
  rw [isOwnSale, hmonth]
  rfl

end Record

attribute [ext] Stats

namespace Stats

/-- The six totals, each with a pass of its own over the records. -/
def bySums (records : List Record) (now : DateTime) : Stats where
  toppedUp := ((records.filter (·.isIn .topUps)).map (·.amount)).sum
  moneySpentCents := ((records.filter (·.isIn .topUps)).map (·.moneyCents.getD 0)).sum
  pendingCount := records.countP (·.isIn .pending)
  spent := ((records.filter (·.isIn .purchases)).map (·.amount)).sum
  itemsPurchased := records.countP (·.isIn .purchases)
  monthPurchases := records.countP fun r => r.isIn .purchases && r.isOfMonth now

/-- Statistics add up field by field. -/
instance : Add Stats where
  add s t :=
    { toppedUp := s.toppedUp + t.toppedUp
      spent := s.spent + t.spent
      pendingCount := s.pendingCount + t.pendingCount
      monthPurchases := s.monthPurchases + t.monthPurchases
      itemsPurchased := s.itemsPurchased + t.itemsPurchased
      moneySpentCents := s.moneySpentCents + t.moneySpentCents }

/-! ## The pass -/

section

variable (month : Int × Nat) (s : Stats) (r : Record)

theorem toppedUp_add_isIn : (s.add month r).toppedUp =
    s.toppedUp + if r.isIn .topUps then r.amount else 0 := by
  rw [toppedUp_add, Record.completed_topup]

theorem moneySpentCents_add : (s.add month r).moneySpentCents =
    s.moneySpentCents + if r.isIn .topUps then r.moneyCents.getD 0 else 0 := by
  unfold add Record.isIn
  cases r.kind <;> cases r.status <;> simp

theorem pendingCount_add : (s.add month r).pendingCount =
    s.pendingCount + if r.isIn .pending then 1 else 0 := by
  unfold add Record.isIn
  cases r.kind <;> cases r.status <;> simp

theorem spent_add_isIn : (s.add month r).spent =
    s.spent + if r.isIn .purchases then r.amount else 0 := by
  rw [spent_add, Record.completed_purchase]

end

/-- The one pass computes what six passes do. -/
theorem ofRecords_eq_bySums (records : List Record) (now : DateTime) :
    ofRecords records now = bySums records now := by
  refine Stats.ext ?toppedUp ?spent ?pendingCount ?monthPurchases ?itemsPurchased ?moneySpentCents
  case toppedUp =>
    exact (foldl_sum now.month zero records (toppedUp_add_isIn now.month)).trans (zero_add _)
  case spent =>
    exact (foldl_sum now.month zero records (spent_add_isIn now.month)).trans (zero_add _)
  case pendingCount =>
    exact (foldl_count now.month zero records (pendingCount_add now.month)).trans (zero_add _)
  case monthPurchases =>
    -- the pass compares pairs of year and month, the sum each of the two
    rw [monthPurchases_ofRecords]
    exact List.countP_congr fun r _ => by rw [Record.isOwnSale_eq]
  case itemsPurchased =>
    exact (itemsPurchased_foldl now.month zero records).trans (zero_add _)
  case moneySpentCents =>
    exact (foldl_sum now.month zero records (moneySpentCents_add now.month)).trans (zero_add _)

/-! ## Sums -/

section

variable {records others before after : List Record} {r : Record} {now : DateTime}

theorem bySums_append (records more : List Record) (now : DateTime) :
    bySums (records ++ more) now = bySums records now + bySums more now := by
  show _ = Stats.mk _ _ _ _ _ _
  simp only [bySums, List.filter_append, List.map_append, List.sum_append, List.countP_append]

theorem bySums_perm (h : others.Perm records) (now : DateTime) :
    bySums others now = bySums records now := by
  have hsum : ∀ (g : Record.Group) (f : Record → Int),
      ((others.filter (·.isIn g)).map f).sum = ((records.filter (·.isIn g)).map f).sum :=
    fun _ f => ((h.filter _).map f).sum_eq
  have hcount : ∀ p : Record → Bool, others.countP p = records.countP p := fun p => h.countP_eq p
  simp only [bySums, hsum, hcount]

/-- A record that is not in a group does not show in the fields of the group. -/
theorem fields_bySums {g : Record.Group} (h : r.isIn g = false) :
    g.fields (bySums (before ++ r :: after) now) = g.fields (bySums (before ++ after) now) := by
  cases g <;> simp [Record.Group.fields, bySums, List.filter_cons, List.countP_cons, h]

end

/-- What the statistics of a history are. They are the six sums and counts; the statistics of a
longer history add up; the order of the records does not matter; and a record can change the fields
of one group only, the one that it is in. -/
structure AddUp (records : List Record) (now : DateTime) : Prop where
  totals : ofRecords records now = bySums records now
  append : ∀ more, ofRecords (records ++ more) now = ofRecords records now + ofRecords more now
  perm : ∀ others, others.Perm records → ofRecords others now = ofRecords records now
  apart : ∀ before r after, records = before ++ r :: after → ∀ g : Record.Group,
    g.fields (ofRecords records now) ≠ g.fields (ofRecords (before ++ after) now) →
      r.isIn g = true ∧ ∀ g', r.isIn g' = true → g' = g

end Stats

/-- **The statistics of a history are sums over its records**: they are what six passes compute,
whatever the order of the records, and they add up over histories. -/
theorem statistics_add_up (records : List Record) (now : DateTime) :
    Stats.AddUp records now where
  totals := Stats.ofRecords_eq_bySums records now
  append := by
    intro more
    rw [Stats.ofRecords_eq_bySums, Stats.ofRecords_eq_bySums, Stats.ofRecords_eq_bySums]
    exact Stats.bySums_append records more now
  perm := by
    intro others h
    rw [Stats.ofRecords_eq_bySums, Stats.ofRecords_eq_bySums]
    exact Stats.bySums_perm h now
  apart := by
    rintro before r after rfl g hne
    have hin : r.isIn g = true := by
      by_contra hnot
      refine hne ?_
      rw [Stats.ofRecords_eq_bySums, Stats.ofRecords_eq_bySums]
      exact Stats.fields_bySums (Bool.eq_false_iff.mpr hnot)
    exact ⟨hin, fun g' h' => Record.isIn_unique h' hin⟩

/-- A top-up of November, which has not been paid for yet. -/
def Record.novemberTopUp : Record where
  id := 4
  kind := .topup
  amount := 30
  status := .pending
  createdAt := .november
  moneyCents := some 300

/-- Two top-ups, with and without a price, and purchases of November and of October. -/
def Record.autumn : List Record :=
  [{ novemberTopUp with id := 2, amount := 50, status := .completed, moneyCents := some 499 },
   { novemberTopUp with id := 3, amount := 20, status := .completed, moneyCents := none },
   { lateOctober with id := 5, createdAt := .november }, lateOctober,
   { lateOctober with id := 6, status := .failed }]

theorem statistics_add_up_autumn :
    Stats.ofRecords Record.autumn .november =
        { toppedUp := 70, spent := 20, monthPurchases := 1, itemsPurchased := 2,
          moneySpentCents := 499 } ∧
      Stats.ofRecords (.novemberTopUp :: Record.autumn.reverse) .november =
        { toppedUp := 70, spent := 20, pendingCount := 1, monthPurchases := 1,
          itemsPurchased := 2, moneySpentCents := 499 } := by
  have htotals := (statistics_add_up Record.autumn .november).totals
  have hlonger := statistics_add_up (.novemberTopUp :: Record.autumn) .november
  refine ⟨htotals.trans (by decide), ?_⟩
  calc Stats.ofRecords (.novemberTopUp :: Record.autumn.reverse) .november
      = Stats.ofRecords ([.novemberTopUp] ++ Record.autumn) .november :=
        hlonger.perm _ (Record.autumn.reverse_perm.cons _)
    _ = Stats.ofRecords [.novemberTopUp] .november + Stats.ofRecords Record.autumn .november :=
        (statistics_add_up [.novemberTopUp] .november).append Record.autumn
    _ = _ := by rw [htotals]; decide

end Scrip
