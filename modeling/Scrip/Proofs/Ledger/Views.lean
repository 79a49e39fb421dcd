import Scrip.Proofs.Ledger.Ownership
import Scrip.Proofs.Ledger.Preview
import Scrip.Proofs.Recommendation.Unowned
set_option autoImplicit false

/-! # Views of ownership

Several services answer, each with its own statement, whether an account owns an item: some ask the
registry of ownerships, and the log has the purchase that paid for it. In every store that a ledger
can reach they agree, because each ownership was paid for by a completed purchase, and each
completed purchase has paid for an ownership.
-/

namespace Scrip

namespace Store

variable {s : Store} {account id : Int}

/-- The account has a completed purchase of the item. -/
def HasBought (s : Store) (account id : Int) : Prop :=
  ∃ t ∈ s.transactions, t.account = account ∧ t.item = some id ∧
    t.kind = Kind.purchase.text ∧ t.status = Status.completed.text

/-- The registry and the log agree. -/
theorem Paired.owns_iff (h : s.Paired) (hl : s.Lawful) :
    s.owns account id = true ↔ s.HasBought account id := by
  constructor
  · intro howns
    obtain ⟨o, ho, hmatch⟩ := List.any_eq_true.mp howns
    simp only [Bool.and_eq_true, beq_iff_eq] at hmatch
    obtain ⟨t, ht, -, haccount, hitem⟩ := h.paid o ho
    obtain ⟨ht, hkind, hstatus⟩ := mem_sales.mp ht
    exact ⟨t, ht, haccount.trans hmatch.1, hitem.trans (congrArg some hmatch.2), hkind, hstatus⟩
  · rintro ⟨t, ht, rfl, hitem, hkind, hstatus⟩
    obtain ⟨o, ho, -, haccount, hitem'⟩ := h.ownership hl (mem_sales.mpr ⟨ht, hkind, hstatus⟩)
    have hid : o.item = id := Option.some.inj (hitem'.symm.trans hitem)
    exact List.any_eq_true.mpr ⟨o, ho, by simp [haccount, hid]⟩

theorem mem_ownedIds : id ∈ s.ownedIds account ↔ s.owns account id = true := by
  simp only [ownedIds, ownedBy, owns, List.mem_map, List.mem_filter, List.any_eq_true,
    Bool.and_eq_true, beq_iff_eq, and_assoc]

theorem Paired.hasPayments (h : s.Paired) : s.HasPayments := by
  intro o ho
  obtain ⟨t, ht, hid, -⟩ := h.paid o ho
  exact hid ▸ List.mem_map_of_mem (mem_sales.mp ht).1

end Store

/-- Everything that a ledger answers about the ownership of an item by an account agrees with its
log. The last two answers exist only for an item that can be sold. -/
structure Ledger.ViewsAgree (l : Ledger) (account id : Int) : Prop where
  owns : ∃ b, (l.run .calm (Registry.owns account id)).1 = .ok b ∧
    (b = true ↔ l.store.HasBought account id)
  list : ∃ ids, (l.run .calm (Registry.ownedIds account)).1 = .ok ids ∧
    (id ∈ ids ↔ l.store.HasBought account id)
  file : (∀ i, (l.run .calm (Registry.download account id)).1 ≠
      .error (.refused (.notEntitled i))) ↔ l.store.HasBought account id
  picks : l.store.HasBought account id → ∀ faults limit picks,
    (l.run (.failing faults) (Suggestions.recommend account limit)).1 = .ok picks →
      ∀ p ∈ picks, p.item.id ≠ id
  preview : ∀ item, l.store.item? id = some item → item.published = true → 0 < item.price →
    ∃ p, (l.run .calm (Checkout.preview account id)).1 = .ok p ∧
      (p.alreadyOwned = true ↔ l.store.HasBought account id)
  purchase : ∀ item, l.store.item? id = some item → item.published = true → 0 < item.price →
    ∃ o, (l.run .calm (Checkout.purchase l.now account id)).1 = .ok o ∧
      (o.reason? = some .alreadyOwned ↔ l.store.HasBought account id)

namespace Ledger

variable {l : Ledger} {account id b : Int}

/-- Who owns an item is not refused its file for want of it, and who does not is. -/
theorem download_notEntitled :
    (∀ i, (l.run .calm (Registry.download account id)).1 ≠ .error (.refused (.notEntitled i))) ↔
      l.store.owns account id = true := by
  cases howns : l.store.owns account id with
  | false =>
      rw [run_calm (Registry.calm_download_unowned (a := ⟨l.store, []⟩) howns)]
      exact ⟨fun h => absurd rfl (h id), fun h => absurd h Bool.false_ne_true⟩
  | true =>
      rw [run_calm (Registry.calm_download_owned (a := ⟨l.store, []⟩) howns)]
      refine ⟨fun _ => rfl, fun _ i h => ?_⟩
      cases hfile : Registry.fileOf (Standing.view ⟨l.store, []⟩ |>.item? id) with
      | none =>
          rw [hfile] at h
          cases h
      | some file =>
          rw [hfile] at h
          cases h

/-- Where registry and log agree, all answers do. -/
theorem viewsAgree_of_paired (hl : l.store.Lawful) (hp : l.store.Paired)
    (hb : l.store.balance? account = some b) (id : Int) : l.ViewsAgree account id where
  owns := ⟨_, congrArg Prod.fst (run_calm Registry.calm_owns), hp.owns_iff hl⟩
  list := ⟨_, congrArg Prod.fst (run_calm Registry.calm_ownedIds),
    Store.mem_ownedIds.trans (hp.owns_iff hl)⟩
  file := download_notEntitled.trans (hp.owns_iff hl)
  picks := by
    intro hbought faults limit picks hpicks p hpick hid
    have howned := Suggestions.ends_recommend limit picks hpicks p hpick
    exact howned (hid ▸ Store.mem_ownedIds.mpr ((hp.owns_iff hl).mpr hbought))
  preview := by
    intro item hitem hpublished hprice
    have hsale : item.isForSale = true := by simp [Item.isForSale, hpublished, hprice]
    refine ⟨Purchase.preview item (l.store.owns account id) b, ?_, hp.owns_iff hl⟩
    rw [run_calm (Checkout.calm_preview hb), Checkout.previewOf, hitem]
    exact if_pos hsale
  purchase := by
    intro item hitem hpublished hprice
    have hsale : item.isForSale = true := by simp [Item.isForSale, hpublished, hprice]
    refine ⟨_, congrArg Prod.fst (run_calm (Checkout.calm_purchase hp.hasPayments hb)), ?_⟩
    exact (Checkout.foretells_preview hitem hsale l.now account b).owned.trans (hp.owns_iff hl)

end Ledger

/-- **All views of ownership agree**, in every store that a ledger can reach from one where
ownerships and completed purchases correspond. -/
theorem views_of_ownership_agree {l : Ledger} {es : List Event} {account : Int}
    (hl : l.store.Lawful) (hes : ∀ e ∈ es, e.isOffered = true) (hm : l.store.Matched)
    (ha : account ∈ l.store.accounts.map (·.id)) (id : Int) :
    (l.afterAll es).ViewsAgree account id := by
  obtain ⟨hl', hp⟩ := Ledger.keep_afterAll kept_paired hes hl ((Store.matched_iff hl).mp hm)
  have haccounts := (Ledger.keep_afterAll (kept_accounts _) hes hl rfl).2
  obtain ⟨b, hb⟩ := Store.mem_accounts.mp (haccounts ▸ ha)
  exact Ledger.viewsAgree_of_paired hl' hp hb id

theorem views_of_ownership_agree_day :
    Ledger.kiosk.store.Lawful ∧ (∀ e ∈ Event.day, e.isOffered = true) ∧
      Ledger.kiosk.store.Matched ∧ 1 ∈ Ledger.kiosk.store.accounts.map (·.id) ∧
      (Ledger.kiosk.afterAll Event.day).store.HasBought 1 7 ∧
      (Ledger.kiosk.afterAll Event.day).ViewsAgree 1 7 := by
  have hl : Ledger.kiosk.store.Lawful := by decide
  have hes : ∀ e ∈ Event.day, e.isOffered = true := by decide
  have hm : Ledger.kiosk.store.Matched := by decide +kernel
  have ha : 1 ∈ Ledger.kiosk.store.accounts.map (·.id) := by decide
  have hagree := views_of_ownership_agree hl hes hm ha 7
  obtain ⟨b, hb, hbought⟩ := hagree.owns
  have hown : (Ledger.run (Ledger.kiosk.afterAll Event.day) .calm (Registry.owns 1 7)).1 =
      .ok true := by decide +kernel
  obtain rfl := Except.ok.inj (hb.symm.trans hown)
  exact ⟨hl, hes, hm, ha, hbought.mp rfl, hagree⟩

end Scrip
