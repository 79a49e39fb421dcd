import Scrip.Proofs.History.Word
import Scrip.Proofs.Text.Blank
import Scrip.Proofs.Work.Run
set_option autoImplicit false

/-! # Well-formed rows

One table holds top-ups and purchases, and most of its columns are for one of the two only. Which
columns a row has, and with what values, is decided by the statements that append it and that change
its state; a statement that appends a well-formed row, or settles a pending one, keeps the log well
formed (`Statement.yields_wellFormed`).
-/

namespace Scrip

/-- A top-up as it stands in the log. -/
structure Transaction.IsTopUp (t : Transaction) : Prop where
  kind : t.kind = Kind.topup.text
  status : ∃ s : Status, t.status = s.text
  item : t.item = none
  note : t.note = none
  cents : ∃ c, t.cents = some c ∧ 100 ≤ c
  method : ∃ m, t.method = some m ∧ m ≠ "" ∧ Blank.trimText m = m
  updated : t.updatedAt = none ↔ t.status = Status.pending.text

/-- A purchase as it stands in the log. -/
structure Transaction.IsPurchase (t : Transaction) : Prop where
  kind : t.kind = Kind.purchase.text
  status : t.status = Status.completed.text ∨ t.status = Status.failed.text
  item : t.item ≠ none
  note : t.note ≠ none ↔ t.status = Status.failed.text

/-- A row of the log as the ledger writes it. -/
structure Transaction.IsWellFormed (t : Transaction) : Prop where
  amount : 0 < t.amount
  columns : t.IsTopUp ∨ t.IsPurchase

/-- All rows of the log are well formed. -/
def Store.IsWellFormed (s : Store) : Prop := ∀ t ∈ s.transactions, t.IsWellFormed

def Status.IsFinal (word : String) : Prop := word = completed.text ∨ word = failed.text

/-- The statement appends well-formed rows only, and changes the state of pending rows only. -/
def Statement.IsProper : Statement → Prop
  | append draft => ∀ id, (draft.row id).IsWellFormed
  | settle _ current new _ => current = Status.pending.text ∧ Status.IsFinal new
  | _ => True

theorem Statement.IsQuiet.isProper {q : Statement} (h : q.IsQuiet) : q.IsProper := by
  cases q with
  | append draft => rcases h with h | h | h <;> cases h
  | settle id current new time => rcases h with h | h | h <;> cases h
  | _ => trivial

namespace Transaction

variable {t : Transaction}

/-- A pending row is a top-up. -/
theorem IsWellFormed.isTopUp (h : t.IsWellFormed) (hp : t.status = Status.pending.text) :
    t.IsTopUp := by
  refine h.columns.resolve_right fun hpurchase => ?_
  rcases hpurchase.status with hs | hs
  · exact absurd (hp.symm.trans hs) (by decide)
  · exact absurd (hp.symm.trans hs) (by decide)

/-- The settlement of a pending row. -/
theorem IsWellFormed.settled (h : t.IsWellFormed) (hp : t.status = Status.pending.text)
    {new : String} (hnew : Status.IsFinal new) (time : Moment) :
    IsWellFormed { t with status := new, updatedAt := some time } where
  amount := h.amount
  columns := by
    have htopUp := h.isTopUp hp
    refine Or.inl
      { kind := htopUp.kind
        status := hnew.elim (fun hs => ⟨_, hs⟩) fun hs => ⟨_, hs⟩
        item := htopUp.item
        note := htopUp.note
        cents := htopUp.cents
        method := htopUp.method
        updated := ?_ }
    have hopen : new ≠ Status.pending.text := by
      rcases hnew with rfl | rfl <;> decide
    simp [hopen]

end Transaction

/-! ## Statements -/

namespace Store

variable {s : Store}

theorem wellFormed_append (h : s.IsWellFormed) {row : Transaction} (hrow : row.IsWellFormed) :
    (s.apply (.append row)).IsWellFormed := by
  intro t ht
  rcases List.mem_append.mp ht with ht | ht
  · exact h t ht
  · obtain rfl := List.mem_singleton.mp ht
    exact hrow

theorem wellFormed_status (h : s.IsWellFormed) (hl : s.Lawful) {id : Int} {row : Transaction}
    (found : s.transaction? id = some row) (hp : row.status = Status.pending.text) {new : String}
    (hnew : Status.IsFinal new) (time : Moment) :
    (s.apply (.status id new (some time))).IsWellFormed := by
  intro t' ht'
  obtain ⟨t, ht, rfl⟩ := List.mem_map.mp ht'
  by_cases hid : t.id = id
  · -- distinct ids make the changed row the one that was found
    obtain rfl := eq_of_transaction? hl found ht hid
    rw [if_pos hid]
    exact (h t ht).settled hp hnew time
  · rw [if_neg hid]
    exact h t ht

end Store

namespace Statement

variable {q : Statement} {view : Store} {reply : q.Reply} {ws : List Write}

/-- Proper statements keep the rows of the log well formed. -/
theorem yields_wellFormed (hq : q.IsProper) (h : q.Yields view reply ws) (hl : view.Lawful)
    (hw : view.IsWellFormed) : (view.applyAll ws).IsWellFormed := by
  by_cases hread : q.isReading = true
  · obtain ⟨rfl, -⟩ := yields_of_isReading hread h
    exact hw
  · cases q with
    | append draft =>
        obtain ⟨id, -, rfl, rfl⟩ := h
        exact Store.wellFormed_append hw (hq id)
    | settle id current new time =>
        rcases yields_settle h with ⟨-, rfl⟩ | ⟨-, rfl, t, ht, hcurrent⟩
        · exact hw
        · exact Store.wellFormed_status hw hl ht (hcurrent.trans hq.1) hq.2 time
    | credit account amount =>
        rcases yields_credit h with ⟨-, rfl⟩ | ⟨-, n, held, -, -, rfl, -⟩ <;> exact hw
    | debit account amount =>
        rcases yields_debit h with ⟨-, rfl⟩ | ⟨-, n, held, -, -, rfl, -⟩ <;> exact hw
    | grant account item transaction =>
        obtain ⟨-, -, own, rfl, rfl⟩ := h
        exact hw
    | _ =>
        first
          | exact absurd rfl hread
          | (obtain ⟨-, rfl⟩ := Prod.mk.inj (Except.ok.inj h)
             exact hw)

end Statement

/-- A script whose statements are proper leaves a log well formed, whatever fails. -/
theorem Ledger.wellFormed_run {α : Type} {l : Ledger} {f : Faults} {p : Script α}
    (hp : p.Asks Statement.IsProper) (hl : l.store.Lawful) (hw : l.store.IsWellFormed) :
    (l.run (.failing f) p).2.store.Lawful ∧ (l.run (.failing f) p).2.store.IsWellFormed := by
  have hends : Script.Ends (.failing f) p
      (fun _ st => (st.committed.Lawful ∧ st.committed.IsWellFormed) ∧
        st.view.Lawful ∧ st.view.IsWellFormed) (Session.start l.store) := by
    refine hp.keeps (I := fun s => s.Lawful ∧ s.IsWellFormed) ?_ ⟨⟨hl, hw⟩, hl, hw⟩
    intro q view reply ws hq hview hy
    exact ⟨Statement.yields_lawful hy hview.1,
      Statement.yields_wellFormed hq hy hview.1 hview.2⟩
  exact hends.1

end Scrip
