import Scrip.Proofs.Ledger.Preview
set_option autoImplicit false

/-! # The decision of a purchase

A purchase that nothing disturbs decides by the rules alone (`Purchase.FollowsRules`): there is one
ending for each condition, and the debit that follows a check of funds finds what the check has
found. So purchases one after another sell an item to an account at most once
(`Ledger.orders_again`).
-/

namespace Scrip

open Purchase

/-! ## What the catalog offers -/

namespace Store

variable {s s' : Store} {id : Int} {item : Item}

/-- An item is missing, or is not published, or has no positive price. -/
def Withholds (s : Store) (id : Int) : Prop :=
  ∀ item, s.item? id = some item → item.published = false ∨ item.price ≤ 0

/-- An item is published at a positive price. -/
def Offers (s : Store) (id : Int) (item : Item) : Prop :=
  s.item? id = some item ∧ item.published = true ∧ 0 < item.price

theorem Offers.isForSale (h : s.Offers id item) : item.isForSale = true := by
  simp [Item.isForSale, h.2.1, h.2.2]

theorem Withholds.isForSale (h : s.Withholds id) (item : Item) (hitem : s.item? id = some item) :
    item.isForSale = false := by
  rcases h item hitem with hpublished | hprice
  · simp [Item.isForSale, hpublished]
  · simp [Item.isForSale, Int.not_lt.mpr hprice]

theorem Offers.not_withholds (h : s.Offers id item) : ¬ s.Withholds id := by
  intro hnone
  have hsale := hnone.isForSale item h.1
  rw [h.isForSale] at hsale
  cases hsale

theorem withholds_or_offers (s : Store) (id : Int) :
    s.Withholds id ∨ ∃ item, s.Offers id item := by
  cases hitem : s.item? id with
  | none => exact Or.inl fun item h => by rw [hitem] at h; cases h
  | some item =>
      by_cases hsale : item.published = true ∧ 0 < item.price
      · exact Or.inr ⟨item, hitem, hsale⟩
      · refine Or.inl fun found h => ?_
        obtain rfl := Option.some.inj (hitem.symm.trans h)
        cases hpublished : item.published with
        | false => exact Or.inl rfl
        | true => exact Or.inr (Int.not_lt.mp fun hprice => hsale ⟨hpublished, hprice⟩)

end Store

/-! ## The rules -/

/-- How the purchase of an item ends for an account with a balance, and the store that it leaves. -/
structure Purchase.FollowsRules (s : Store) (account id held : Int) (o : Outcome) (s' : Store) :
    Prop where
  unavailable : o = .declined ⟨id, .validating, .itemUnavailable, none, none⟩ ↔ s.Withholds id
  owned : ¬ s.Withholds id →
    (o = .declined ⟨id, .validating, .alreadyOwned, none, none⟩ ↔ s.owns account id = true)
  short : ∀ item, s.Offers id item → s.owns account id = false →
    (o = .declined ⟨id, .fundsCheck, .insufficientFunds, some item.price, some held⟩ ↔
      held < item.price)
  sold : ∀ item, s.Offers id item → s.owns account id = false → item.price ≤ held →
    ∃ t, o = .committed id t (held - item.price) ∧
      IsSale account item t (held - item.price) s s'
  declined : ∀ d, o = .declined d →
    s' = s ∧ (d.stage = .validating ∨ d.stage = .fundsCheck)

namespace Checkout

variable {s : Store} {account id held : Int} {item : Item}

theorem bought_of_withholds (h : s.Withholds id) (now : Moment) :
    bought s now account id held =
      (.declined ⟨id, .validating, .itemUnavailable, none, none⟩, s) := by
  rw [bought, choose_unavailable _ _ h.isForSale]

theorem bought_of_offers (h : s.Offers id item) (now : Moment) :
    bought s now account id held =
      if s.owns account id then (.declined ⟨id, .validating, .alreadyOwned, none, none⟩, s)
      else if held < item.price then
        (.declined ⟨id, .fundsCheck, .insufficientFunds, some item.price, some held⟩, s)
      else (.committed id s.newId (held - item.price),
        s.applyAll (saleWrites now account item s.newId s.newOwn)) := by
  obtain rfl : item.id = id := Store.id_of_item? h.1
  rw [bought, h.1, choose_forSale h.isForSale]
  cases s.owns account item.id with
  | true => rfl
  | false => by_cases hfunds : held < item.price <;> simp [hfunds]

/-- The calm purchase goes through the rules in their order, one case for each. -/
theorem bought_followsRules (hb : s.balance? account = some held) (now : Moment) :
    FollowsRules s account id held (bought s now account id held).1
      (bought s now account id held).2 := by
  rcases s.withholds_or_offers id with hnone | ⟨item, hoffers⟩
  · rw [bought_of_withholds hnone]
    exact
      { unavailable := ⟨fun _ => hnone, fun _ => rfl⟩
        owned := fun h => absurd hnone h
        short := fun _ h => absurd hnone h.not_withholds
        sold := fun _ h => absurd hnone h.not_withholds
        declined := by rintro _ ⟨⟩; exact ⟨rfl, Or.inl rfl⟩ }
  · -- there is one item under the id, so what is said of any offer is said of this one
    have honly : ∀ item', s.Offers id item' → item' = item :=
      fun item' h => Option.some.inj (h.1.symm.trans hoffers.1)
    have hnot := hoffers.not_withholds
    rw [bought_of_offers hoffers]
    cases howns : s.owns account id with
    | true =>
        exact
          { unavailable := by simp [hnot]
            owned := by simp [howns]
            short := by simp [howns]
            sold := by simp [howns]
            declined := by rintro _ ⟨⟩; exact ⟨rfl, Or.inl rfl⟩ }
    | false =>
        by_cases hfunds : held < item.price
        · simp only [Bool.false_eq_true, if_false, if_pos hfunds]
          refine
            { unavailable := by simp [hnot]
              owned := by simp [howns]
              short := ?short
              sold := ?sold
              declined := by rintro _ ⟨⟩; exact ⟨rfl, Or.inr rfl⟩ }
          case short =>
            intro item' h _
            obtain rfl := honly item' h
            simp [hfunds]
          case sold =>
            intro item' h _ hle
            obtain rfl := honly item' h
            exact absurd hle (Int.not_le.mpr hfunds)
        · simp only [Bool.false_eq_true, if_false, if_neg hfunds]
          refine
            { unavailable := by simp [hnot]
              owned := by simp [howns]
              short := ?short
              sold := ?sold
              declined := by rintro _ ⟨⟩ }
          case short =>
            intro item' h _
            obtain rfl := honly item' h
            simp [hfunds]
          case sold =>
            intro item' h _ _
            obtain rfl := honly item' h
            refine ⟨s.newId, rfl, isSale_of_writes (Store.nextId_notMem _) ?_⟩
            rw [hb, Int.sub_add_cancel]

end Checkout

/-! ## On a ledger -/

namespace Checkout

/-- A purchase of an account that is not there is refused before anything else is looked at. -/
theorem calm_purchase_absent {s : Store} {account : Int} (h : s.balance? account = none)
    (now : Moment) (id : Int) :
    (purchase now account id).Calm ⟨s, []⟩ (.error (.refused (.accountNotFound account)))
      ⟨s, []⟩ := by
  refine Script.calm_unitOfWork (r := .error (.refused (.accountNotFound account)))
    (b := ⟨s, []⟩) ?_
  refine Script.calm_bind (Script.calm_read rfl rfl) (Script.calm_bind_error ?_)
  refine Script.calm_bind (Script.calm_read rfl rfl) ?_
  rw [show Standing.view ⟨s, []⟩ = s from rfl, h]
  exact Script.calm_done _

end Checkout

/-- The order of an item by an account, at some time. -/
structure Order where
  time : Moment
  account : Int
  item : Int
deriving DecidableEq, Repr

namespace Ledger

variable {l : Ledger} {o : Order}

def order (l : Ledger) (o : Order) : Except Failure Outcome × Ledger :=
  l.run .calm (Checkout.purchase o.time o.account o.item)

theorem order_present (hp : l.store.HasPayments) {held : Int}
    (hb : l.store.balance? o.account = some held) :
    ∃ outcome s', l.order o = (.ok outcome, { l with store := s' }) ∧
      FollowsRules l.store o.account o.item held outcome s' :=
  ⟨_, _, run_calm (Checkout.calm_purchase hp hb), Checkout.bought_followsRules hb o.time⟩

theorem order_absent (hb : l.store.balance? o.account = none) :
    l.order o = (.error (.refused (.accountNotFound o.account)), l) :=
  run_calm (Checkout.calm_purchase_absent hb o.time o.item)

end Ledger

/-! ## One after another -/

namespace Purchase.FollowsRules

variable {s s' : Store} {account id held : Int} {o : Outcome}

/-- A purchase that follows the rules is declined and leaves nothing, or it is a sale. -/
theorem cases (h : FollowsRules s account id held o s') :
    (∃ d, o = .declined d) ∧ s' = s ∨
      ∃ item t, s.Offers id item ∧ o = .committed id t (held - item.price) ∧
        IsSale account item t (held - item.price) s s' := by
  cases o with
  | declined d => exact Or.inl ⟨⟨d, rfl⟩, (h.declined d rfl).1⟩
  | committed i t left =>
      -- a commit is none of the declines, so none of their conditions holds
      rcases s.withholds_or_offers id with hnone | ⟨item, hoffers⟩
      · cases h.unavailable.mpr hnone
      · have howns : s.owns account id = false := by
          refine Bool.eq_false_iff.mpr fun howns => ?_
          cases (h.owned hoffers.not_withholds).mpr howns
        have hle : item.price ≤ held := by
          refine Int.not_lt.mp fun hlt => ?_
          cases (h.short item hoffers howns).mpr hlt
        obtain ⟨t, ho, hsale⟩ := h.sold item hoffers howns hle
        exact Or.inr ⟨item, t, hoffers, ho, hsale⟩

end Purchase.FollowsRules

namespace IsSale

variable {s s' : Store} {account t left : Int} {item : Item}

theorem hasPayments (h : IsSale account item t left s s') (hp : s.HasPayments) :
    s'.HasPayments := by
  obtain ⟨row, hlog, hrow, -⟩ := h.log
  obtain ⟨own, hregistry, -, -, hpaid⟩ := h.registry
  intro o ho
  rw [hregistry] at ho
  rw [hlog, List.map_append]
  rcases List.mem_append.mp ho with hold | hnew
  · exact List.mem_append_left _ (hp o hold)
  · obtain rfl := List.mem_singleton.mp hnew
    rw [hpaid, ← hrow]
    exact List.mem_append_right _ (List.mem_map_of_mem List.mem_cons_self)

theorem owns_self (h : IsSale account item t left s s') : s'.owns account item.id = true := by
  obtain ⟨own, hregistry, haccount, hitem, -⟩ := h.registry
  rw [Store.owns, hregistry, List.any_append]
  simp [haccount, hitem]

/-- A sale adds to the store and takes nothing out of it. -/
theorem grows (h : IsSale account item t left s s') : s.Grows s' where
  items := h.items
  logins := h.logins
  accounts := by
    rw [h.accounts]
    exact (s.grows_balance account (-item.price)).accounts
  log := by
    obtain ⟨row, hlog, -⟩ := h.log
    rw [hlog]
    exact LogGrows.append s.transactions [row]
  registry := by
    obtain ⟨own, hregistry, -⟩ := h.registry
    rw [hregistry]
    exact List.prefix_append s.ownerships [own]

end IsSale

/-- An account has an item that is for sale. -/
structure Store.Supplies (s : Store) (account id : Int) : Prop where
  present : ∃ held, s.balance? account = some held
  offered : ∃ item, s.Offers id item
  owned : s.owns account id = true

/-- Nobody loses an item. -/
theorem Store.Grows.supplies {s s' : Store} {account id : Int} (h : s.Grows s')
    (hs : s.Supplies account id) : s'.Supplies account id where
  present := by
    rw [← Store.mem_accounts, h.accounts, Store.mem_accounts]
    exact hs.present
  offered := by
    obtain ⟨item, hitem, hsale⟩ := hs.offered
    exact ⟨item, (h.item? id).trans hitem, hsale⟩
  owned := by
    obtain ⟨own, hmem, howns⟩ := List.any_eq_true.mp hs.owned
    exact List.any_eq_true.mpr ⟨own, h.registry.subset hmem, howns⟩

namespace Ledger

def orders (l : Ledger) : List Order → List (Order × Except Failure Outcome)
  | [] => []
  | o :: os => (o, (l.order o).1) :: (l.order o).2.orders os

variable {l : Ledger} {account id : Int} {o : Order}

/-- Ownerships stay paid for, and who has an item keeps it. -/
theorem order_keeps (hp : l.store.HasPayments) (o : Order) :
    (l.order o).2.store.HasPayments ∧
      ∀ account id, l.store.Supplies account id → (l.order o).2.store.Supplies account id := by
  cases hb : l.store.balance? o.account with
  | none =>
      rw [order_absent hb]
      exact ⟨hp, fun _ _ h => h⟩
  | some held =>
      obtain ⟨outcome, s', horder, hrules⟩ := order_present hp hb
      rw [horder]
      rcases hrules.cases with ⟨-, rfl⟩ | ⟨item, t, -, -, hsale⟩
      · exact ⟨hp, fun _ _ h => h⟩
      · exact ⟨hsale.hasPayments hp, fun _ _ => hsale.grows.supplies⟩

/-- An order that is filled leaves the account with the item. -/
theorem supplies_of_committed (hp : l.store.HasPayments) {i t left : Int}
    (h : (l.order o).1 = .ok (.committed i t left)) :
    (l.order o).2.store.Supplies o.account o.item := by
  cases hb : l.store.balance? o.account with
  | none =>
      rw [order_absent hb] at h
      cases h
  | some held =>
      obtain ⟨outcome, s', horder, hrules⟩ := order_present hp hb
      rw [horder] at h ⊢
      rcases hrules.cases with ⟨⟨d, rfl⟩, -⟩ | ⟨item, t, hoffers, -, hsale⟩
      · cases h
      · exact ⟨⟨_, hsale.after⟩, ⟨item, (hsale.grows.item? _).trans hoffers.1, hoffers.2⟩,
          Store.id_of_item? hoffers.1 ▸ hsale.owns_self⟩

/-- Who has an item is told so. -/
theorem order_of_supplies (hp : l.store.HasPayments) (h : l.store.Supplies o.account o.item) :
    (l.order o).1 = .ok (.declined ⟨o.item, .validating, .alreadyOwned, none, none⟩) := by
  obtain ⟨held, hb⟩ := h.present
  obtain ⟨item, hoffers⟩ := h.offered
  obtain ⟨outcome, s', horder, hrules⟩ := order_present hp hb
  rw [horder, (hrules.owned hoffers.not_withholds).mpr h.owned]

theorem orders_of_supplies (hp : l.store.HasPayments) (h : l.store.Supplies account id)
    {os : List Order} {p : Order × Except Failure Outcome} (hmem : p ∈ l.orders os)
    (haccount : p.1.account = account) (hitem : p.1.item = id) :
    p.2 = .ok (.declined ⟨id, .validating, .alreadyOwned, none, none⟩) := by
  induction os generalizing l with
  | nil => cases hmem
  | cons first os ih =>
      rcases List.mem_cons.mp hmem with rfl | hmem
      · subst haccount hitem
        exact order_of_supplies hp h
      · obtain ⟨hp', hkeeps⟩ := order_keeps hp first
        exact ih hp' (hkeeps account id h) hmem

/-- After a sale every further order of the item by the account is declined. -/
theorem orders_again (hp : l.store.HasPayments) (os : List Order) :
    (l.orders os).Pairwise fun p q => q.1.account = p.1.account → q.1.item = p.1.item →
      (∃ i t left, p.2 = .ok (.committed i t left)) →
      q.2 = .ok (.declined ⟨q.1.item, .validating, .alreadyOwned, none, none⟩) := by
  induction os generalizing l with
  | nil => exact List.Pairwise.nil
  | cons o os ih =>
      obtain ⟨hp', -⟩ := order_keeps hp o
      refine List.Pairwise.cons ?_ (ih hp')
      rintro q hmem haccount hitem ⟨i, t, left, hsold⟩
      rw [orders_of_supplies hp' (supplies_of_committed hp hsold) hmem haccount hitem, hitem]

end Ledger

/-- **A purchase follows the rules.** Whatever an account of a ledger orders when nothing fails, the
ending is the one that the rules give, in their order; an account that is not there is refused. So
of any number of orders of one item by one account at most one is filled, and the orders after it
are told that the item is owned. -/
theorem purchase_follows_rules (l : Ledger) (hp : l.store.HasPayments) :
    (∀ o held, l.store.balance? o.account = some held → ∃ outcome s',
      l.order o = (.ok outcome, { l with store := s' }) ∧
        FollowsRules l.store o.account o.item held outcome s') ∧
    (∀ o, l.store.balance? o.account = none →
      l.order o = (.error (.refused (.accountNotFound o.account)), l)) ∧
    ∀ os, (l.orders os).Pairwise fun p q => q.1.account = p.1.account → q.1.item = p.1.item →
      (∃ i t left, p.2 = .ok (.committed i t left)) →
      q.2 = .ok (.declined ⟨q.1.item, .validating, .alreadyOwned, none, none⟩) :=
  ⟨fun _ _ hb => Ledger.order_present hp hb, fun _ hb => Ledger.order_absent hb,
    Ledger.orders_again hp⟩

theorem purchase_follows_rules_stall :
    Ledger.stall.store.HasPayments ∧
      (∃ t s', Ledger.stall.order ⟨0, 1, 7⟩ =
          (.ok (.committed 7 t 6), { Ledger.stall with store := s' }) ∧
        IsSale 1 ⟨7, "Notes", 4, none, none, true, none, none⟩ t 6 Ledger.stall.store s') ∧
      Ledger.stall.order ⟨0, 2, 7⟩ = (.error (.refused (.accountNotFound 2)), Ledger.stall) ∧
      ((Ledger.stall.order ⟨0, 1, 7⟩).2.order ⟨1, 1, 7⟩).1 =
        .ok (.declined ⟨7, .validating, .alreadyOwned, none, none⟩) := by
  have hp : Ledger.stall.store.HasPayments := by
    intro o ho
    cases ho
  obtain ⟨hpresent, habsent, horders⟩ := purchase_follows_rules Ledger.stall hp
  obtain ⟨outcome, s', horder, hrules⟩ := hpresent ⟨0, 1, 7⟩ 10 (by decide)
  obtain ⟨t, rfl, hsale⟩ := hrules.sold _ ⟨rfl, rfl, by decide⟩ (by decide) (by decide)
  have hagain := List.rel_of_pairwise_cons (horders [⟨0, 1, 7⟩, ⟨1, 1, 7⟩])
    List.mem_cons_self rfl rfl
  exact ⟨hp, ⟨t, s', horder, hsale⟩, habsent ⟨0, 2, 7⟩ (by decide),
    hagain ⟨7, t, 6, congrArg Prod.fst horder⟩⟩

end Scrip
