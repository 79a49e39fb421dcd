import Scrip.Proofs.Store.Growth
import Scrip.Proofs.Work.Statement
import Scrip.Service.Journal
set_option autoImplicit false

/-! # Deeds

Every unit of work of the ledger that changes anything commits one of five things: a sale, the
note of a failed purchase, the request of a top-up, its approval or its rejection. `Deed` says
which writes these are and what is true of the store that they are committed to. It is the only
description of commits that the theorems about whole runs use; that the scripts commit nothing
else is shown in `Proofs/Service`.
-/

namespace Scrip

open Journal

/-- The writes of a sale: the debit, the purchase and the ownership. -/
def saleWrites (now : Moment) (account : Int) (item : Item) (id own : Int) : List Write :=
  [.balance account (-item.price),
    .append ((purchaseDraft account item.id item.price .completed none now).row id),
    .own ⟨own, account, item.id, id⟩]

/-- The writes that note a failed purchase. -/
def noteWrites (now : Moment) (account : Int) (item : Item) (note : String) (id : Int) :
    List Write :=
  [.append ((purchaseDraft account item.id item.price .failed (some note) now).row id)]

/-- The writes of an approval: the new state of the top-up and its credits. -/
def approvalWrites (now : Moment) (id : Int) (row : Transaction) : List Write :=
  [.status id Status.completed.text (some now), .balance row.account row.amount]

/-- What a unit of work commits to a store. -/
inductive Deed (s : Store) : List Write → Prop where
  | nothing : Deed s []
  | sale {now : Moment} {account : Int} {item : Item} {id own held : Int}
      (offered : s.item? item.id = some item) (forSale : item.isForSale = true)
      (funds : s.balance? account = some held) (covered : item.price ≤ held) :
      Deed s (saleWrites now account item id own)
  | note {now : Moment} {account : Int} {item : Item} {text : String} {id : Int}
      (offered : s.item? item.id = some item) (forSale : item.isForSale = true) :
      Deed s (noteWrites now account item text id)
  | request {now : Moment} {account credits cents id : Int} {method : String}
      {reference : Option String} (positive : 0 < credits) :
      Deed s [.append ((topUpDraft account credits cents method reference now).row id)]
  | approval {now : Moment} {id held : Int} {row : Transaction}
      (found : s.transaction? id = some row) (pending : row.IsPending)
      (positive : 0 < row.amount) (funds : s.balance? row.account = some held) :
      Deed s (approvalWrites now id row)
  | rejection {now : Moment} {id : Int} {row : Transaction}
      (found : s.transaction? id = some row) (pending : row.IsPending) :
      Deed s [.status id Status.failed.text (some now)]

theorem Item.price_pos {item : Item} (h : item.isForSale = true) : 0 < item.price := by
  unfold Item.isForSale at h
  simp only [Bool.and_eq_true, decide_eq_true_eq] at h
  exact h.2

/-! ## Growth -/

namespace Store

theorem grows_balance (s : Store) (account change : Int) :
    s.Grows (s.apply (.balance account change)) where
  items := rfl
  logins := rfl
  accounts := by
    simp only [apply, changeBalance, List.map_map]
    refine List.map_congr_left fun a _ => ?_
    simp only [Function.comp_apply]
    split <;> rfl
  log := LogGrows.refl s.transactions
  registry := List.prefix_refl s.ownerships

theorem grows_append (s : Store) (row : Transaction) : s.Grows (s.apply (.append row)) where
  items := rfl
  logins := rfl
  accounts := rfl
  log := LogGrows.append s.transactions [row]
  registry := List.prefix_refl s.ownerships

theorem grows_own (s : Store) (row : Ownership) : s.Grows (s.apply (.own row)) where
  items := rfl
  logins := rfl
  accounts := rfl
  log := LogGrows.refl s.transactions
  registry := List.prefix_append s.ownerships [row]

/-- The settlement of a pending top-up. Distinct ids matter: the new state reaches every row
that has the id. -/
theorem grows_status {s : Store} (hl : s.Lawful) {id : Int} {row : Transaction}
    (found : s.transaction? id = some row) (pending : row.IsPending) {new : Status}
    (hnew : new ≠ .pending) (time : Moment) :
    s.Grows (s.apply (.status id new.text (some time))) where
  items := rfl
  logins := rfl
  accounts := rfl
  log := by
    refine LogGrows.map fun t ht => ?_
    by_cases hid : t.id = id
    · obtain rfl := eq_of_transaction? hl found ht hid
      rw [if_pos hid]
      exact Or.inr ⟨pending, new, some time, hnew, rfl⟩
    · rw [if_neg hid]
      exact Transaction.Continues.refl t
  registry := List.prefix_refl s.ownerships

end Store

/-- Nothing is lost by a deed. -/
theorem Deed.grows {s : Store} {w : List Write} (h : Deed s w) (hl : s.Lawful) :
    s.Grows (s.applyAll w) := by
  cases h with
  | nothing => exact Store.Grows.refl s
  | sale offered forSale funds covered =>
      exact ((s.grows_balance _ _).trans (Store.grows_append _ _)).trans (Store.grows_own _ _)
  | note offered forSale => exact s.grows_append _
  | request positive => exact s.grows_append _
  | approval found pending positive funds =>
      exact (Store.grows_status hl found pending (by decide) _).trans (Store.grows_balance _ _ _)
  | rejection found pending => exact Store.grows_status hl found pending (by decide) _

/-! ## One after another -/

/-- Deeds one after another, from one store to another. Each fits the store it is done to. -/
inductive Deeds : Store → List (Store × List Write) → Store → Prop where
  | none (s : Store) : Deeds s [] s
  | first {s s' : Store} {w : List Write} {ds : List (Store × List Write)} (deed : Deed s w)
      (fits : Statement.Fits s w) (rest : Deeds (s.applyAll w) ds s') : Deeds s ((s, w) :: ds) s'

namespace Deeds

variable {s s' s'' : Store} {ds ds' : List (Store × List Write)} {w : List Write}

theorem append (h : Deeds s ds s') (h' : Deeds s' ds' s'') : Deeds s (ds ++ ds') s'' := by
  induction h with
  | none s => exact h'
  | first deed fits _ ih => exact first deed fits (ih h')

theorem last (h : Deeds s ds s') (deed : Deed s' w) (fits : Statement.Fits s' w) :
    Deeds s (ds ++ [(s', w)]) (s'.applyAll w) :=
  h.append (first deed fits (none _))

theorem eq_of_nil (h : Deeds s [] s') : s' = s := by
  cases h
  rfl

theorem eq_of_singleton {d : Store × List Write} (h : Deeds s [d] s') :
    d.1 = s ∧ s' = s.applyAll d.2 ∧ Statement.Fits s d.2 := by
  cases h with
  | first deed fits rest => exact ⟨rfl, rest.eq_of_nil, fits⟩

/-- What every deed keeps is kept by all of them. -/
theorem keep {P : Store → Prop}
    (step : ∀ s w, P s → s.Lawful → Deed s w → (s.applyAll w).Lawful → P (s.applyAll w))
    (h : Deeds s ds s') (hl : s.Lawful) (hP : P s) : s'.Lawful ∧ P s' := by
  induction h with
  | none s => exact ⟨hl, hP⟩
  | first deed fits _ ih => exact ih (fits.lawful hl) (step _ _ hP hl deed (fits.lawful hl))

theorem grows (h : Deeds s ds s') (hl : s.Lawful) : s.Grows s' :=
  (h.keep (fun _ _ hs hl hd _ => hs.trans (hd.grows hl)) hl (Store.Grows.refl s)).2

end Deeds

end Scrip
