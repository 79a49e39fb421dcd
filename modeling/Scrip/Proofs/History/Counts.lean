import Scrip.Proofs.History.Totals
import Scrip.Proofs.Ledger.Ownership
set_option autoImplicit false

/-! # Counts of purchases

The statistics of an account count its completed purchases: one record of its history for each row
of the log, and no other record.
-/

namespace Scrip

def Record.isSale (r : Record) : Bool := r.kind == .purchase && r.status == .completed

namespace Stats

variable (month : Int × Nat) (s : Stats) (r : Record) (rs : List Record)

theorem itemsPurchased_add :
    (s.add month r).itemsPurchased = s.itemsPurchased + if r.isSale then 1 else 0 := by
  unfold add Record.isSale
  cases r.kind <;> cases r.status <;> rfl

theorem itemsPurchased_foldl :
    (rs.foldl (add month) s).itemsPurchased = s.itemsPurchased + rs.countP (·.isSale) :=
  foldl_count month s rs (itemsPurchased_add month)

end Stats

namespace Journal

theorem isSale_record {row : Transaction × Option String} {r : Record} (h : record row = .ok r) :
    r.isSale = Store.isSale row.1 := by
  obtain ⟨hkind, hstatus, -⟩ := record_eq_ok h
  rw [Record.isSale, Store.isSale, hkind, hstatus]
  cases r.kind <;> cases r.status <;> rfl

theorem countP_records {rows : List (Transaction × Option String)} {rs : List Record}
    (h : List.Forall₂ (fun row r => record row = .ok r) rows rs) :
    rs.countP (·.isSale) = rows.countP fun row => Store.isSale row.1 := by
  induction h with
  | nil => rfl
  | cons hr _ ih => rw [List.countP_cons, List.countP_cons, ih, isSale_record hr]

end Journal

/-- The history has the sales of the account, in another order. -/
theorem Store.countP_history (s : Store) (account : Int) :
    (s.history account none).countP (fun row => isSale row.1) =
      s.sales.countP (·.account == account) := by
  simp only [history, upTo]
  rw [List.countP_map, (List.mergeSort_perm _ isNewer).countP_eq, sales, List.countP_filter,
    List.countP_filter]
  refine List.countP_congr fun t _ => ?_
  simp [and_comm]

/-- The statistics of an account count its sales. -/
theorem Ledger.report_itemsPurchased {l : Ledger} {account : Int} {now : DateTime} {r : Stats}
    (h : l.report account now = .ok r) :
    r.itemsPurchased = l.store.sales.countP (·.account == account) := by
  rw [report_eq] at h
  obtain ⟨rs, hrs, h⟩ := Failure.bind_eq_ok.mp h
  obtain rfl := Except.ok.inj h
  rw [Stats.ofRecords, Stats.itemsPurchased_foldl,
    Journal.countP_records (Failure.mapM_eq_ok.mp hrs), Store.countP_history]
  exact Nat.zero_add _

end Scrip
