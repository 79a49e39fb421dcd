import Scrip.Proofs.Ledger.Purchase
import Scrip.Proofs.Service.Calm
set_option autoImplicit false

/-! # Previews and purchases

The preview of a purchase and the purchase itself decide by the same rules, though each reads what
it needs for itself. So a preview that is made in calm conditions foretells how a purchase of the
same item on the same store ends (`Purchase.Preview.Foretells`).
-/

namespace Scrip

namespace Purchase

def Outcome.reason? : Outcome → Option Reason
  | committed _ _ _ => none
  | declined d => some d.reason

/-- The shortfall that a refusal reports in its details. -/
def shortfall? (r : Refusal) (c : Refusal.Context) : Option Json :=
  (r.inContext c).shownDetails.field? "shortfall"

theorem shortfall?_insufficientFunds (required available : Int) (c : Refusal.Context) :
    shortfall? (.insufficientFunds required available) c = some (.int (required - available)) := by
  simp [shortfall?, Refusal.inContext, Refusal.Context.shownDetails, Refusal.figures, Json.isVoid,
    Json.field?, Json.lookup]

/-- What a preview of an item says of the outcome of its purchase. -/
structure Preview.Foretells (p : Preview) (id : Int) (o : Outcome) : Prop where
  available : o.reason? ≠ some .itemUnavailable
  committed : o.reason? = none ↔ p.canPurchase = true
  remaining : ∀ item t left, o = .committed item t left →
    item = id ∧ left = p.userCredits - p.price
  owned : o.reason? = some .alreadyOwned ↔ p.alreadyOwned = true
  short : o.reason? = some .insufficientFunds ↔
    p.alreadyOwned = false ∧ p.sufficientCredits = false
  figures : ∀ d, o = .declined d → d.reason = .insufficientFunds →
    d.required = some p.price ∧ d.available = some p.userCredits ∧ 0 < p.price - p.userCredits ∧
    ∃ r, d.refusal = .ok r ∧ ∀ c, shortfall? r c = some (.int (p.price - p.userCredits))

end Purchase

namespace Checkout

open Purchase

variable {id : Int} {item : Item}

/-! ## The decisions -/

/-- An item that is not for sale cannot be chosen. -/
theorem choose_unavailable {found : Option Item} (owned : Bool) (balance : Int)
    (h : ∀ item, found = some item → item.isForSale = false) :
    choose id found owned balance = .error ⟨id, .validating, .itemUnavailable, none, none⟩ := by
  cases found with
  | none => rfl
  | some item => simp [choose, validate, h item rfl]

/-- The choice of an item that is for sale. -/
theorem choose_forSale (hsale : item.isForSale = true) (owned : Bool) (balance : Int) :
    choose id (some item) owned balance =
      if owned then .error ⟨id, .validating, .alreadyOwned, none, none⟩
      else if balance < item.price then
        .error ⟨item.id, .fundsCheck, .insufficientFunds, some item.price, some balance⟩
      else .ok item := by
  cases owned with
  | true => simp [choose, validate, hsale]
  | false => by_cases hfunds : balance < item.price <;> simp [choose, validate, checkFunds, *]

/-- The preview of an item that is for sale foretells its purchase. -/
theorem foretells_preview {s : Store} (hitem : s.item? id = some item)
    (hsale : item.isForSale = true) (now : Moment) (account b : Int) :
    (Purchase.preview item (s.owns account id) b).Foretells id (bought s now account id b).1 := by
  rw [bought, hitem, choose_forSale hsale]
  obtain rfl : item.id = id := Store.id_of_item? hitem
  cases s.owns account item.id with
  | true => constructor <;> simp [Purchase.preview, Outcome.reason?]
  | false =>
      by_cases hfunds : b < item.price
      · have hshort : ¬ item.price ≤ b := by omega
        constructor <;>
          simp [Purchase.preview, Outcome.reason?, hfunds, hshort, Decline.refusal,
            shortfall?_insufficientFunds]
      · have henough : item.price ≤ b := by omega
        constructor <;> simp [Purchase.preview, Outcome.reason?, hfunds, henough]

end Checkout

/-- **A preview foretells the purchase.** In calm conditions the preview of an item changes nothing
and tells whether the item can be bought at all, and if it can, which of the outcomes a purchase on
the same store has. -/
theorem preview_foretells_purchase {l : Ledger} {account b : Int} (hp : l.store.HasPayments)
    (hb : l.store.balance? account = some b) (id : Int) :
    (l.run .calm (Checkout.preview account id)).2 = l ∧
      ∃ o, (l.run .calm (Checkout.purchase l.now account id)).1 = .ok o ∧
        (o.reason? = some .itemUnavailable ↔
          (l.run .calm (Checkout.preview account id)).1 =
            .error (.refused (.itemUnavailable id))) ∧
        ((l.run .calm (Checkout.preview account id)).1 =
            .error (.refused (.itemUnavailable id)) ∨
          ∃ p, (l.run .calm (Checkout.preview account id)).1 = .ok p ∧ p.Foretells id o) := by
  rw [Ledger.run_calm (Checkout.calm_preview hb), Ledger.run_calm (Checkout.calm_purchase hp hb)]
  refine ⟨rfl, _, rfl, ?_⟩
  by_cases hsale : ∃ item, l.store.item? id = some item ∧ item.isForSale = true
  · obtain ⟨item, hitem, hsale⟩ := hsale
    have hforetells := Checkout.foretells_preview hitem hsale l.now account b
    have hpreview : Checkout.previewOf l.store account id b =
        .ok (Purchase.preview item (l.store.owns account id) b) := by
      simp [Checkout.previewOf, hitem, hsale]
    rw [hpreview]
    exact ⟨⟨fun h => absurd h hforetells.available, fun h => (by cases h)⟩,
      Or.inr ⟨_, rfl, hforetells⟩⟩
  · have hnone : ∀ item, l.store.item? id = some item → item.isForSale = false := by
      intro item hitem
      exact Bool.eq_false_iff.mpr fun h => hsale ⟨item, hitem, h⟩
    have hpreview : Checkout.previewOf l.store account id b =
        .error (.refused (.itemUnavailable id)) := by
      unfold Checkout.previewOf
      cases hitem : l.store.item? id with
      | none => rfl
      | some item => simp [hnone item hitem]
    have hreason : (Checkout.bought l.store l.now account id b).1.reason? =
        some .itemUnavailable := by
      rw [Checkout.bought, Checkout.choose_unavailable _ _ hnone]
      rfl
    rw [hpreview]
    exact ⟨⟨fun _ => rfl, fun _ => hreason⟩, Or.inl rfl⟩

theorem preview_foretells_purchase_stall :
    Ledger.stall.store.HasPayments ∧ Ledger.stall.store.balance? 1 = some 10 ∧
      (Ledger.stall.run .calm (Checkout.preview 1 7)).1 = .ok ⟨true, false, 4, 10, true⟩ ∧
      (Ledger.stall.run .calm (Checkout.preview 1 7)).2 = Ledger.stall ∧
      ∃ o, (Ledger.stall.run .calm (Checkout.purchase Ledger.stall.now 1 7)).1 = .ok o ∧
        o.reason? = none ∧ ∀ item t left, o = .committed item t left → left = 6 := by
  have hp : Ledger.stall.store.HasPayments := by
    intro o ho
    cases ho
  have hb : Ledger.stall.store.balance? 1 = some 10 := by decide
  have hpreview : (Ledger.stall.run .calm (Checkout.preview 1 7)).1 =
      .ok ⟨true, false, 4, 10, true⟩ := by decide +kernel
  obtain ⟨hsame, o, ho, -, hverdict⟩ := preview_foretells_purchase hp hb 7
  rw [hpreview] at hverdict
  obtain ⟨p, hok, hforetells⟩ := hverdict.resolve_left fun h => (by cases h)
  obtain rfl := Except.ok.inj hok
  exact ⟨hp, hb, hpreview, hsame, o, ho, hforetells.committed.mpr rfl,
    fun item t left h => (hforetells.remaining item t left h).2⟩

end Scrip
