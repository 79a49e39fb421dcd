import Scrip.Ledger
import Scrip.Proofs.Service.Operation
import Scrip.Proofs.Work.Alone
set_option autoImplicit false

/-! # Runs of a ledger

An event that is offered does some deeds to the store, or changes its catalog, or neither. So
what every deed keeps, and what does not depend on the catalog, holds after any run.
-/

namespace Scrip

/-- A property of stores that deeds keep, and edits of the catalog as well. -/
structure Kept (P : Store → Prop) : Prop where
  deed : ∀ s w, P s → s.Lawful → Deed s w → (s.applyAll w).Lawful → P (s.applyAll w)
  catalog : ∀ s items, P s → P { s with items := items }

namespace Ledger

/-- An operation that is offered does deeds to the store, whatever fails in it. -/
theorem deeds_perform (l : Ledger) (faults : Faults)
    {op : Operation} (h : op.isOffered = true) :
    ∃ ds, Deeds l.store ds (l.perform (.failing faults) op).2.store := by
  have hsafe : (op.whole l.settings l.now).Safe (Strikes faults) (fun _ _ => True)
      (.fresh l.store) := Operation.safe_whole l.settings l.now h l.store
  obtain ⟨ds, -, hds⟩ := l.run_of_safe (P := fun _ _ => True) hsafe
  exact ⟨ds, hds⟩

theorem keep_after {P : Store → Prop} (hP : Kept P) {l : Ledger} {e : Event}
    (he : e.isOffered = true) (hl : l.store.Lawful) (h : P l.store) :
    (l.after e).store.Lawful ∧ P (l.after e).store := by
  cases e with
  | work faults op =>
      obtain ⟨ds, hds⟩ := l.deeds_perform faults he
      exact hds.keep hP.deed hl h
  | edit item change => exact ⟨⟨hl.log, hl.pairs, hl.payments⟩, hP.catalog l.store _ h⟩
  | clock now => exact ⟨hl, h⟩

theorem keep_afterAll {P : Store → Prop} (hP : Kept P) {l : Ledger} {es : List Event}
    (hes : ∀ e ∈ es, e.isOffered = true) (hl : l.store.Lawful) (h : P l.store) :
    (l.afterAll es).store.Lawful ∧ P (l.afterAll es).store := by
  induction es generalizing l with
  | nil => exact ⟨hl, h⟩
  | cons e es ih =>
      obtain ⟨hl', h'⟩ := keep_after hP (hes e List.mem_cons_self) hl h
      exact ih (fun e' he' => hes e' (List.mem_cons_of_mem e he')) hl' h'

end Ledger

/-- Accounts stay. -/
theorem kept_accounts (ids : List Int) : Kept fun s => s.accounts.map (·.id) = ids where
  deed := fun _ _ h hl hd _ => (hd.grows hl).accounts.trans h
  catalog := fun _ _ h => h

/-! ## A run -/

/-- A ledger with a pending top-up of one account and an item for sale. -/
def Ledger.kiosk : Ledger where
  store :=
    { accounts := [⟨1, 10⟩]
      items := [⟨7, "Notes", 4, none, none, true, none, none⟩]
      transactions := [(Journal.topUpDraft 1 5 50 "manual" none 0).row 1] }
  settings := {}
  now := 0

/-- The top-up is approved, the item gets dearer, and of two purchases the first one fails when
all but the commit is done. -/
def Event.day : List Event :=
  [.work {} (.settle 1 true),
    .edit 7 fun item => { item with price := 12 },
    .work { late := (Conditions.ofFaults [⟨.grant, .storage .operational "lost"⟩] []).fault }
      (.purchase 1 7),
    .work {} (.purchase 1 7)]

end Scrip
