import Scrip.Proofs.Isolation.Checkout
import Scrip.Proofs.Isolation.Confined
import Scrip.Proofs.Ledger.Ownership
import Scrip.Proofs.Ledger.Purchase
set_option autoImplicit false

/-! # Accounts are isolated

An operation that is carried out for an account leaves alone what belongs to others. And an
operation that shows only what belongs to the account does and answers the same in any two stores
that differ only in what belongs to others, up to the ids of new rows.

A shelf shows with each item the transaction that has paid for it, whosever it is. So it belongs
to the account if the account has paid for its items itself, as every account has where ownerships
match purchases (`Store.Matched.paysItself`).
-/

namespace Scrip

open Script Session

variable {A : Int} {s s' : Store} {settings : Settings} {now : Moment} {f : Faults}

/-! ## Reading -/

theorem Store.SameFor.answer_history (h : s.SameFor A .none s') (limit : Option Int) :
    Statement.answer s' (.history A limit) = Statement.answer s (.history A limit) :=
  congrArg (fun rows => Except.ok (rows, [])) (h.history limit)

theorem Journal.readsAlike_history (limit : Option Int) :
    (Journal.history A limit).ReadsAlike (Store.SameFor A .none) :=
  asks_history ⟨rfl, fun _ _ h => h.answer_history limit⟩

theorem Journal.readsAlike_stats (today : DateTime) :
    (Journal.stats A today).ReadsAlike (Store.SameFor A .none) :=
  asks_stats ⟨rfl, fun _ _ h => h.answer_history none⟩

theorem Registry.readsAlike_shelf (h : s'.shelf A = s.shelf A) :
    (Registry.shelf A).ReadsAlike fun v v' => v = s ∧ v' = s' := by
  refine asks_shelf ⟨rfl, ?_⟩
  rintro v v' ⟨rfl, rfl⟩
  exact congrArg (fun rows => Except.ok (rows, [])) h

theorem Registry.readsAlike_download (item : Int) :
    (Registry.download A item).ReadsAlike (Store.SameFor A .none) :=
  asks_download ⟨rfl, fun _ _ h => h.answer_owns item⟩ ⟨rfl, fun _ _ h => h.answer_item item⟩

theorem Checkout.preview_readsAlike (item : Int) :
    ∃ work, Checkout.preview A item = unitOfWork work ∧ work.ReadsAlike (Store.SameFor A .none) :=
  preview_asks ⟨rfl, fun _ _ h => h.answer_item item⟩ ⟨rfl, fun _ _ h => h.answer_owns item⟩
    ⟨rfl, fun _ _ h => h.answer_balance⟩

/-- Where ownerships match purchases, every account has paid for its items itself. -/
theorem Store.Matched.paysItself (h : s.Matched) (A : Int) : s.PaysItself A := by
  intro o ho hA
  obtain ⟨t, ht, -, -, hid, haccount, -⟩ := h.paid o ho
  exact ⟨t, ht, hid, haccount.trans hA⟩

/-! ## Operations -/

def Answer.renamed (ρ : Renaming) : Answer → Answer
  | .outcome o => .outcome (Checkout.renamed ρ o)
  | a => a

namespace Operation

/-- Whether all that an operation shows or changes belongs to an account or to the catalog. -/
def BelongsTo (s : Store) (A : Int) : Operation → Prop
  | getBalance account => account = A
  | purchase account _ => account = A
  | preview account _ => account = A
  | history account _ => account = A
  | stats account _ => account = A
  | owns account _ => account = A
  | shelf account => account = A ∧ s.PaysItself A
  | download account _ => account = A
  | _ => False

variable {α : Type} {op : Operation}

variable {R : Store → Store → Prop} {ρ : Renaming}

/-- What is read from two stores is answered alike, and they stay as they are. -/
theorem both_read (hf : f.Blind) (hR : R s s') {p : Script α} {k : α → Answer}
    (hp : p.ReadsAlike fun v v' => v = s ∧ v' = s') (hk : ∀ a, (k a).renamed ρ = k a) :
    Both f (Answer.renamed ρ) (committing (do return k (← p))) (committing (do return k (← p)))
      (fun _ => Twin R) (Session.start s) (Session.start s') := by
  have hboth : Both f (Answer.renamed ρ) (committing (do return k (← p)))
      (committing (do return k (← p))) (fun _ => Twin fun v v' => v = s ∧ v' = s')
      (Session.start s) (Session.start s') := by
    refine both_committing hf (twin_start ⟨rfl, rfl⟩) (.start _ s) (.start _ s')
      fun st st' hst => ?_
    refine both_bind ((hp.both hf hst).mono ?_)
    rintro (e | a) st₁ st₁' hst₁
    · exact hst₁
    · exact ⟨congrArg Except.ok (hk a).symm, hst₁⟩
  exact hboth.twin hR

theorem both_preview (hf : f.Blind) (h : s.SameFor A .none s') (hR : R s s') (item : Int) :
    Both f id (Checkout.preview A item) (Checkout.preview A item) (fun _ => Twin R)
      (Session.start s) (Session.start s') := by
  obtain ⟨work, hwork, hreads⟩ := Checkout.preview_readsAlike (A := A) item
  have hboth : Both f id (unitOfWork work) (unitOfWork work)
      (fun _ => Twin fun v v' => v = s ∧ v' = s') (Session.start s) (Session.start s') :=
    both_unitOfWork hf (twin_start ⟨rfl, rfl⟩) (.start _ s) (.start _ s')
      fun st st' hst _ _ => (hreads.between h).both hf hst
  rw [hwork]
  exact hboth.twin hR

/-- One operation on two stores that agree on the account. -/
theorem both_whole (hf : f.Blind) (hl : s.Lawful) (hl' : s'.Lawful) (hp : s.HasPayments)
    (hp' : s'.HasPayments) (h : s.SameFor A .none s') (hop : op.BelongsTo s A) :
    Both f (Answer.renamed (s.renumber s')) (op.whole settings now) (op.whole settings now)
      (fun _ => Twin (Store.SameFor A (s.renumber s'))) (Session.start s) (Session.start s') := by
  have hrenumber : s.SameFor A (s.renumber s') s' := h.renumber hp
  cases op with
  | getBalance account =>
      obtain rfl : account = A := hop
      exact both_read hf hrenumber (readsAlike_balance.between h) fun _ => rfl
  | history account limit =>
      obtain rfl : account = A := hop
      exact both_read hf hrenumber ((Journal.readsAlike_history limit).between h) fun _ => rfl
  | stats account today =>
      obtain rfl : account = A := hop
      exact both_read hf hrenumber ((Journal.readsAlike_stats today).between h) fun _ => rfl
  | owns account item =>
      obtain rfl : account = A := hop
      exact both_read hf hrenumber ((readsAlike_owns item).between h) fun _ => rfl
  | download account item =>
      obtain rfl : account = A := hop
      exact both_read hf hrenumber ((Registry.readsAlike_download item).between h) fun _ => rfl
  | shelf account =>
      obtain ⟨rfl, hpays⟩ : account = A ∧ s.PaysItself A := hop
      have hshelf := Registry.readsAlike_shelf (h.shelf hl hl' hpays)
      exact both_read hf hrenumber hshelf fun _ => rfl
  | preview account item =>
      obtain rfl : account = A := hop
      refine both_bind ((both_preview hf h hrenumber item).mono ?_)
      rintro (e | p) st₁ st₁' hst₁
      · exact hst₁
      · exact ⟨rfl, hst₁⟩
  | purchase account item =>
      obtain rfl : account = A := hop
      refine both_bind ((Checkout.both_purchase hf (twin_start hrenumber) hp hp' (.start _ s)
        (.start _ s') item).mono ?_)
      rintro (e | o) st₁ st₁' hst₁
      · exact hst₁
      · exact ⟨rfl, hst₁⟩
  | _ => cases hop

end Operation

/-- **Accounts are isolated from each other.** What is done for an account changes nothing but its
own rows. And what belongs to it is shown and done in the same way in every store that agrees on
it, whatever others have, up to the ids of new rows. -/
theorem accounts_are_isolated (l : Ledger) (A : Int) (f : Faults) (op : Operation)
    (hl : l.store.Lawful) :
    (op.IsFor l.store A → l.store.SameBut A (l.perform (.failing f) op).2.store) ∧
    ∀ s', s'.Lawful → l.store.HasPayments → s'.HasPayments → f.Blind →
      l.store.SameFor A .none s' → op.BelongsTo l.store A →
      (({ l with store := s' } : Ledger).perform (.failing f) op).1 =
          (l.perform (.failing f) op).1.map (Answer.renamed (l.store.renumber s')) ∧
        (l.perform (.failing f) op).2.store.SameFor A (l.store.renumber s')
          (({ l with store := s' } : Ledger).perform (.failing f) op).2.store := by
  refine ⟨fun hop => l.sameBut_perform f hop hl, ?_⟩
  intro s' hl' hp hp' hf h hop
  obtain ⟨hanswer, htwin⟩ := Operation.both_whole hf hl hl' hp hp' h hop
  exact ⟨hanswer, htwin.committed⟩

/-- A market where one account has asked for a top-up, and another one owns the only item. -/
def Ledger.market : Ledger where
  store :=
    { accounts := [⟨1, 10⟩, ⟨2, 3⟩]
      items := [⟨7, "Notes", 4, none, none, true, none, none⟩]
      transactions := [(Journal.topUpDraft 1 5 50 "manual" none 0).row 1,
        (Journal.purchaseDraft 2 7 4 .completed none 0).row 2]
      ownerships := [⟨1, 2, 7, 2⟩] }
  settings := {}
  now := 0

/-- What the first account sees of the market is the same here, but all others are different. -/
def Store.otherMarket : Store where
  accounts := [⟨1, 10⟩, ⟨3, 100⟩, ⟨4, 0⟩]
  items := Ledger.market.store.items
  transactions := [(Journal.topUpDraft 1 5 50 "manual" none 0).row 1,
    (Journal.purchaseDraft 3 7 6 .completed none 0).row 9]
  ownerships := [⟨5, 3, 7, 9⟩]

/-- The account buys the item that the other account owns, and the purchase fails when all but the
commit is done. Its failure is noted under the next id in either market. -/
theorem accounts_are_isolated_market :
    Ledger.market.store.Lawful ∧ Store.otherMarket.Lawful ∧ Ledger.market.store.HasPayments ∧
      Store.otherMarket.HasPayments ∧ Faults.unlucky.Blind ∧
      Ledger.market.store.SameFor 1 .none .otherMarket ∧
      (Operation.purchase 1 7).IsFor Ledger.market.store 1 ∧
      (Operation.purchase 1 7).BelongsTo Ledger.market.store 1 ∧
      Ledger.market.store.SameBut 1
        (Ledger.market.perform (.failing .unlucky) (.purchase 1 7)).2.store ∧
      (Ledger.market.perform (.failing .unlucky) (.purchase 1 7)).2.store.SameFor 1
        (Ledger.market.store.renumber .otherMarket)
        (({ Ledger.market with store := .otherMarket } : Ledger).perform (.failing .unlucky)
          (.purchase 1 7)).2.store ∧
      (Ledger.market.perform (.failing .unlucky) (.purchase 1 7)).2.store.transactions.map
        (·.id) = [1, 2, 3] ∧
      (({ Ledger.market with store := .otherMarket } : Ledger).perform (.failing .unlucky)
        (.purchase 1 7)).2.store.transactions.map (·.id) = [1, 9, 10] := by
  have hl : Ledger.market.store.Lawful := by decide
  have hl' : Store.otherMarket.Lawful := by decide
  have hp : Ledger.market.store.HasPayments := by unfold Store.HasPayments; decide
  have hp' : Store.otherMarket.HasPayments := by unfold Store.HasPayments; decide
  have hf : Faults.unlucky.Blind := Faults.blind_named _ _
  have hsame : Ledger.market.store.SameFor 1 .none .otherMarket := ⟨rfl, rfl, rfl, rfl⟩
  obtain ⟨hothers, hown⟩ := accounts_are_isolated Ledger.market 1 .unlucky (.purchase 1 7) hl
  obtain ⟨-, hafter⟩ := hown .otherMarket hl' hp hp' hf hsame rfl
  exact ⟨hl, hl', hp, hp', hf, hsame, rfl, rfl, hothers rfl, hafter, by decide +kernel,
    by decide +kernel⟩

/-! ## What is seen of others -/

/-- An account owns an item that another account has paid for. -/
def Ledger.gift : Ledger where
  store :=
    { accounts := [⟨1, 10⟩, ⟨2, 10⟩]
      items := [⟨7, "Notes", 4, none, none, true, none, none⟩,
        ⟨8, "Slides", 4, none, none, true, none, none⟩]
      transactions := [(Journal.purchaseDraft 2 7 10 .completed none 0).row 5]
      ownerships := [⟨1, 1, 7, 5⟩] }
  settings := {}
  now := 0

/-- The other account has paid more for it, and has an item as well. -/
def Store.dearGift : Store where
  accounts := [⟨1, 10⟩, ⟨2, 0⟩]
  items := Ledger.gift.store.items
  transactions := [(Journal.purchaseDraft 2 7 20 .completed none 0).row 5,
    (Journal.purchaseDraft 2 8 4 .completed none 0).row 6]
  ownerships := [⟨1, 1, 7, 5⟩, ⟨2, 2, 8, 6⟩]

/-- The shelf of an account shows what another one has paid for its items, and the id of a new
ownership tells how many others there are. -/
theorem shelf_shows_foreign_price :
    Ledger.gift.store.Lawful ∧ Store.dearGift.Lawful ∧ Ledger.gift.store.HasPayments ∧
      Store.dearGift.HasPayments ∧ Ledger.gift.store.SameFor 1 .none .dearGift ∧
      (Ledger.gift.perform (.failing {}) (.shelf 1)).1 ≠
        (({ Ledger.gift with store := .dearGift } : Ledger).perform (.failing {}) (.shelf 1)).1 ∧
      ((Ledger.gift.perform (.failing {}) (.purchase 1 8)).2.store.ownedBy 1).map (·.id) = [1, 2] ∧
      ((({ Ledger.gift with store := .dearGift } : Ledger).perform (.failing {})
        (.purchase 1 8)).2.store.ownedBy 1).map (·.id) = [1, 3] := by
  have hp : Ledger.gift.store.HasPayments := by unfold Store.HasPayments; decide
  have hp' : Store.dearGift.HasPayments := by unfold Store.HasPayments; decide
  refine ⟨by decide, by decide, hp, hp', ⟨rfl, rfl, rfl, rfl⟩, ?_, by decide +kernel,
    by decide +kernel⟩
  have hcheap : Ledger.gift.store.shelf 1 =
      [(⟨7, "Notes", 4, none, none, true, none, none⟩,
        (Journal.purchaseDraft 2 7 10 .completed none 0).row 5)] := List.mergeSort_singleton _
  have hdear : Store.dearGift.shelf 1 =
      [(⟨7, "Notes", 4, none, none, true, none, none⟩,
        (Journal.purchaseDraft 2 7 20 .completed none 0).row 5)] := List.mergeSort_singleton _
  intro hsame
  have hshelves : (Ledger.gift.store.shelf 1).map Registry.ShelfEntry.of =
      (Store.dearGift.shelf 1).map Registry.ShelfEntry.of :=
    Answer.shelf.inj (Except.ok.inj hsame)
  rw [hcheap, hdear] at hshelves
  exact absurd hshelves (by decide)

end Scrip
