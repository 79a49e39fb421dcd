import Mathlib.Algebra.BigOperators.Group.List.Lemmas
import Mathlib.Algebra.Ring.Int.Defs
import Scrip.Ledger
import Scrip.Proofs.History.Word
import Scrip.Proofs.Store.Lookup
set_option autoImplicit false

/-! # Totals of the log

The totals that the statistics of an account show are sums over the rows of the log: what was
topped up is the amount of its completed top-ups, what was spent is the amount of its completed
purchases (`Ledger.report_totals`). No other row contributes. The statistics can be had whenever
the words of the rows are known.
-/

namespace Scrip

/-- The amount of a completed transaction of a kind and an account; other rows count as zero. -/
def Transaction.completed (k : Kind) (account : Int) (t : Transaction) : Int :=
  if t.account = account ∧ t.kind = k.text ∧ t.status = Status.completed.text then t.amount else 0

/-- The amount of all completed transactions of a kind and an account. -/
def Store.completed (s : Store) (k : Kind) (account : Int) : Int :=
  (s.transactions.map (Transaction.completed k account)).sum

/-- Kind and state of the row are words that the ledger knows. -/
def Transaction.IsWorded (t : Transaction) : Prop :=
  (∃ k : Kind, t.kind = k.text) ∧ ∃ s : Status, t.status = s.text

def Record.completed (k : Kind) (r : Record) : Int :=
  if r.kind = k ∧ r.status = .completed then r.amount else 0

/-! ## Statistics -/

namespace Stats

variable (month : Int × Nat) (s : Stats) (r : Record) (rs : List Record)

theorem toppedUp_add : (s.add month r).toppedUp = s.toppedUp + r.completed .topup := by
  unfold add Record.completed
  cases r.kind <;> cases r.status <;> simp

theorem spent_add : (s.add month r).spent = s.spent + r.completed .purchase := by
  unfold add Record.completed
  cases r.kind <;> cases r.status <;> simp

/-- A field to which every record adds a term holds the sum of the terms after the pass. -/
theorem foldl_field {M : Type} [AddCommMonoid M] {field : Stats → M} {term : Record → M}
    (h : ∀ s r, field (s.add month r) = field s + term r) :
    field (rs.foldl (add month) s) = field s + (rs.map term).sum := by
  induction rs generalizing s with
  | nil => simp
  | cons r rs ih => rw [List.foldl_cons, ih, h, List.map_cons, List.sum_cons, add_assoc]

/-- A field to which the records of a kind add a value sums it over these. -/
theorem foldl_sum {field : Stats → Int} {p : Record → Bool} {f : Record → Int}
    (h : ∀ s r, field (s.add month r) = field s + if p r then f r else 0) :
    field (rs.foldl (add month) s) = field s + ((rs.filter p).map f).sum := by
  rw [foldl_field month s rs h, List.sum_map_ite]
  simp

/-- A field that goes up by one with the records of a kind counts these. -/
theorem foldl_count {field : Stats → Nat} {p : Record → Bool}
    (h : ∀ s r, field (s.add month r) = field s + if p r then 1 else 0) :
    field (rs.foldl (add month) s) = field s + rs.countP p := by
  rw [foldl_field month s rs h, List.sum_map_ite, List.countP_eq_length_filter]
  simp

theorem toppedUp_foldl :
    (rs.foldl (add month) s).toppedUp = s.toppedUp + (rs.map (Record.completed .topup)).sum :=
  foldl_field month s rs (toppedUp_add month)

theorem spent_foldl :
    (rs.foldl (add month) s).spent = s.spent + (rs.map (Record.completed .purchase)).sum :=
  foldl_field month s rs (spent_add month)

end Stats

/-! ## Records -/

/-- Steps that may fail succeed together if each does. -/
theorem Failure.mapM_eq_ok {α β : Type} {f : α → Except Failure β} {as : List α} {bs : List β} :
    as.mapM f = .ok bs ↔ List.Forall₂ (fun a b => f a = .ok b) as bs := by
  induction as generalizing bs with
  | nil =>
      rw [List.mapM_nil, List.forall₂_nil_left_iff]
      exact ⟨fun h => (Except.ok.inj h).symm, fun h => h ▸ rfl⟩
  | cons a as ih =>
      rw [List.mapM_cons, Failure.bind_eq_ok]
      constructor
      · rintro ⟨b, hb, h⟩
        obtain ⟨bs', hbs, h⟩ := Failure.bind_eq_ok.mp h
        obtain rfl := Except.ok.inj h
        exact List.Forall₂.cons hb (ih.mp hbs)
      · intro h
        cases h with
        | cons hb hbs => exact ⟨_, hb, Failure.bind_eq_ok.mpr ⟨_, ih.mpr hbs, rfl⟩⟩

theorem Failure.mapM_isOk {α β : Type} {f : α → Except Failure β} {as : List α} :
    (∃ bs, as.mapM f = .ok bs) ↔ ∀ a ∈ as, ∃ b, f a = .ok b := by
  induction as with
  | nil => exact ⟨fun _ a ha => absurd ha List.not_mem_nil, fun _ => ⟨[], rfl⟩⟩
  | cons a as ih =>
      rw [List.forall_mem_cons, ← ih]
      constructor
      · rintro ⟨bs, h⟩
        cases Failure.mapM_eq_ok.mp h with
        | cons hb hbs => exact ⟨⟨_, hb⟩, _, Failure.mapM_eq_ok.mpr hbs⟩
      · rintro ⟨⟨b, hb⟩, bs, hbs⟩
        exact ⟨b :: bs, Failure.mapM_eq_ok.mpr (.cons hb (Failure.mapM_eq_ok.mp hbs))⟩

namespace Journal

theorem record_eq_ok {row : Transaction × Option String} {r : Record}
    (h : record row = .ok r) :
    row.1.kind = r.kind.text ∧ row.1.status = r.status.text ∧ r.amount = row.1.amount := by
  obtain ⟨kind, hkind, h⟩ := Failure.bind_eq_ok.mp h
  obtain ⟨status, hstatus, h⟩ := Failure.bind_eq_ok.mp h
  obtain rfl := Except.ok.inj h
  exact ⟨Kind.read_eq_ok.mp hkind, Status.read_eq_ok.mp hstatus, rfl⟩

theorem record_of_isWorded {row : Transaction × Option String} (h : row.1.IsWorded) :
    ∃ r, record row = .ok r := by
  obtain ⟨⟨kind, hkind⟩, status, hstatus⟩ := h
  exact ⟨_, Failure.bind_eq_ok.mpr ⟨kind, Kind.read_eq_ok.mpr hkind,
    Failure.bind_eq_ok.mpr ⟨status, Status.read_eq_ok.mpr hstatus, rfl⟩⟩⟩

theorem isWorded_of_record {row : Transaction × Option String} {r : Record}
    (h : record row = .ok r) : row.1.IsWorded :=
  ⟨⟨r.kind, (record_eq_ok h).1⟩, r.status, (record_eq_ok h).2.1⟩

/-- A record counts as its row does. -/
theorem completed_record {row : Transaction × Option String} {r : Record}
    (h : record row = .ok r) (k : Kind) {account : Int} (ha : row.1.account = account) :
    r.completed k = row.1.completed k account := by
  obtain ⟨hkind, hstatus, hamount⟩ := record_eq_ok h
  simp [Record.completed, Transaction.completed, ha, hkind, hstatus, hamount]

theorem sum_completed {rows : List (Transaction × Option String)} {rs : List Record}
    (h : List.Forall₂ (fun row r => record row = .ok r) rows rs) (k : Kind) {account : Int}
    (ha : ∀ row ∈ rows, row.1.account = account) :
    (rs.map (Record.completed k)).sum =
      (rows.map fun row => row.1.completed k account).sum := by
  induction h with
  | nil => rfl
  | cons hr _ ih =>
      rw [List.map_cons, List.map_cons, List.sum_cons, List.sum_cons,
        completed_record hr k (ha _ List.mem_cons_self),
        ih fun row hrow => ha row (List.mem_cons_of_mem _ hrow)]

end Journal

namespace Store

theorem mem_history {s : Store} {account : Int} {row : Transaction × Option String} :
    row ∈ s.history account none ↔
      row.1 ∈ s.transactions ∧ row.1.account = account ∧ row.2 = s.titleOf row.1 := by
  obtain ⟨t, title⟩ := row
  simp only [history, upTo, List.mem_map, List.mem_mergeSort, List.mem_filter, beq_iff_eq]
  constructor
  · rintro ⟨t', ⟨ht, ha⟩, h⟩
    obtain ⟨rfl, rfl⟩ := Prod.mk.inj h
    exact ⟨ht, ha, rfl⟩
  · rintro ⟨ht, ha, rfl⟩
    exact ⟨t, ⟨ht, ha⟩, rfl⟩

/-- The order of a listing does not matter to a sum, and neither do the rows of others. -/
theorem sum_history (s : Store) (k : Kind) (account : Int) :
    ((s.history account none).map fun row => row.1.completed k account).sum =
      s.completed k account := by
  simp only [history, upTo, List.map_map, Function.comp_def]
  rw [((List.mergeSort_perm _ isNewer).map _).sum_eq, completed]
  induction s.transactions with
  | nil => rfl
  | cons t ts ih =>
      by_cases ha : t.account = account
      · rw [List.filter_cons_of_pos (by simpa using ha), List.map_cons, List.map_cons,
          List.sum_cons, List.sum_cons, ih]
      · have hzero : t.completed k account = 0 := if_neg fun h => ha h.1
        rw [List.filter_cons_of_neg (by simpa using ha), List.map_cons, List.sum_cons, ih, hzero,
          Int.zero_add]

end Store

/-! ## The report -/

namespace Ledger

def report (l : Ledger) (account : Int) (now : DateTime) : Except Failure Stats :=
  (l.run .calm (Journal.stats account now)).1

variable {l : Ledger} {account : Int} {now : DateTime}

theorem report_eq : l.report account now =
    ((l.store.history account none).mapM Journal.record >>= fun rs =>
      .ok (Stats.ofRecords rs now)) := by
  -- a calm session answers from the committed store
  show (Script.run .calm ((Script.done ((l.store.history account none).mapM Journal.record)).bind
    _) _).1 = _
  cases (l.store.history account none).mapM Journal.record <;> rfl

/-- There is a report if all words of the rows are known, and only then. -/
theorem report_isOk : (∃ r, l.report account now = .ok r) ↔
    ∀ t ∈ l.store.transactions, t.account = account → t.IsWorded := by
  have hrows : (∃ r, l.report account now = .ok r) ↔
      ∃ rs, (l.store.history account none).mapM Journal.record = .ok rs := by
    rw [report_eq]
    constructor
    · rintro ⟨r, h⟩
      obtain ⟨rs, hrs, -⟩ := Failure.bind_eq_ok.mp h
      exact ⟨rs, hrs⟩
    · rintro ⟨rs, hrs⟩
      exact ⟨_, Failure.bind_eq_ok.mpr ⟨rs, hrs, rfl⟩⟩
  rw [hrows, Failure.mapM_isOk]
  constructor
  · intro h t ht ha
    obtain ⟨r, hr⟩ := h (t, l.store.titleOf t) (Store.mem_history.mpr ⟨ht, ha, rfl⟩)
    exact Journal.isWorded_of_record hr
  · intro h row hrow
    obtain ⟨ht, ha, -⟩ := Store.mem_history.mp hrow
    exact Journal.record_of_isWorded (h _ ht ha)

/-- The totals of a report are those of the log. -/
theorem report_totals {r : Stats} (h : l.report account now = .ok r) :
    r.toppedUp = l.store.completed .topup account ∧
      r.spent = l.store.completed .purchase account := by
  rw [report_eq] at h
  obtain ⟨rs, hrs, h⟩ := Failure.bind_eq_ok.mp h
  obtain rfl := Except.ok.inj h
  have hsum := fun k => Journal.sum_completed (Failure.mapM_eq_ok.mp hrs) k fun row hrow =>
    (Store.mem_history.mp hrow).2.1
  simp only [Store.sum_history] at hsum
  constructor
  · rw [Stats.ofRecords, Stats.toppedUp_foldl, hsum]
    exact Int.zero_add _
  · rw [Stats.ofRecords, Stats.spent_foldl, hsum]
    exact Int.zero_add _

end Ledger

end Scrip
