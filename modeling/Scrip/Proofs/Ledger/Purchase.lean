import Scrip.Proofs.Service.Checkout
import Scrip.Proofs.Work.Alone
set_option autoImplicit false

/-! # A purchase is all or nothing

Whatever statements of a purchase fail, one after another and in whatever way, the committed
store has all of a sale or nothing of it, and the result tells which. The failure of a purchase
leaves at most a note in the log.
-/

namespace Scrip

/-- The difference that the sale of an item to an account makes between two stores: the price,
one completed purchase `t`, and one ownership that names it. -/
structure IsSale (account : Int) (item : Item) (t left : Int) (s s' : Store) : Prop where
  items : s'.items = s.items
  logins : s'.logins = s.logins
  accounts : s'.accounts = Store.changeBalance s.accounts account (-item.price)
  before : s.balance? account = some (left + item.price)
  after : s'.balance? account = some left
  new : t ∉ s.transactions.map (·.id)
  log : ∃ row : Transaction, s'.transactions = s.transactions ++ [row] ∧ row.id = t ∧
    row.account = account ∧ row.kind = Kind.purchase.text ∧ row.status = Status.completed.text ∧
    row.item = some item.id ∧ row.amount = item.price
  registry : ∃ row : Ownership, s'.ownerships = s.ownerships ++ [row] ∧
    row.account = account ∧ row.item = item.id ∧ row.transaction = t

/-- The difference that a purchase without a sale makes: at most one failed purchase of the item,
with its price, in the log. -/
structure IsNoSale (account id : Int) (s s' : Store) : Prop where
  items : s'.items = s.items
  logins : s'.logins = s.logins
  accounts : s'.accounts = s.accounts
  registry : s'.ownerships = s.ownerships
  log : s'.transactions = s.transactions ∨ ∃ (row : Transaction) (item : Item),
    s'.transactions = s.transactions ++ [row] ∧ row.id ∉ s.transactions.map (·.id) ∧
    row.account = account ∧ row.kind = Kind.purchase.text ∧ row.status = Status.failed.text ∧
    row.item = some id ∧ s.item? id = some item ∧ row.amount = item.price

/-- What the result of a purchase says of the stores before and after it. -/
def AllOrNothing (account id : Int) (s s' : Store) : Except Failure Purchase.Outcome → Prop
  | .ok (.committed i t left) =>
    i = id ∧ ∃ item, s.item? id = some item ∧ item.isForSale = true ∧
      IsSale account item t left s s'
  | .ok (.declined _) => IsNoSale account id s s'
  | .error _ => IsNoSale account id s s'

variable {now : Moment} {account : Int} {item : Item} {t own left : Int} {s : Store}

theorem IsNoSale.refl (account id : Int) (s : Store) : IsNoSale account id s s where
  items := rfl
  logins := rfl
  accounts := rfl
  registry := rfl
  log := Or.inl rfl

/-- The id of the purchase is new, so nothing else in the log is touched. -/
theorem isSale_of_writes (hnew : t ∉ s.transactions.map (·.id))
    (hfunds : s.balance? account = some (left + item.price)) :
    IsSale account item t left s (s.applyAll (saleWrites now account item t own)) where
  items := rfl
  logins := rfl
  accounts := rfl
  before := hfunds
  after := by
    simp only [saleWrites, Store.applyAll_cons, Store.applyAll_nil, Store.balance?_own,
      Store.balance?_append, Store.balance?_changeBalance_self, hfunds, Option.map_some,
      Option.some.injEq]
    omega
  new := hnew
  log := ⟨_, rfl, rfl, rfl, rfl, rfl, rfl, rfl⟩
  registry := ⟨_, rfl, rfl, rfl, rfl⟩

theorem isNoSale_of_writes {text : String} (hnew : t ∉ s.transactions.map (·.id))
    (hitem : s.item? item.id = some item) :
    IsNoSale account item.id s (s.applyAll (noteWrites now account item text t)) where
  items := rfl
  logins := rfl
  accounts := rfl
  registry := rfl
  log := Or.inr ⟨_, item, rfl, hnew, rfl, rfl, rfl, rfl, hitem, rfl⟩

theorem Checkout.Sold.isSale {ds : List (Store × List Write)} {s' : Store}
    (h : Sold now account item t left ds) (hds : Deeds s ds s') :
    s.item? item.id = some item ∧ IsSale account item t left s s' := by
  obtain ⟨s₀, own, held, rfl, hitem, hfunds, -, hleft⟩ := h
  obtain ⟨rfl, hs', hfits⟩ := hds.eq_of_singleton
  refine ⟨hitem, ?_⟩
  rw [hs']
  refine isSale_of_writes ?_ ?_
  · exact hfits.fresh _ (List.mem_cons_of_mem _ List.mem_cons_self)
  · rw [hfunds, hleft, Int.sub_add_cancel]

theorem Checkout.AtMostNoted.isNoSale {ds : List (Store × List Write)} {id : Int} {s' : Store}
    (h : AtMostNoted now account id ds) (hds : Deeds s ds s') : IsNoSale account id s s' := by
  rcases h with rfl | ⟨s₀, item, text, t, rfl, hitem, rfl⟩
  · rw [hds.eq_of_nil]
    exact IsNoSale.refl account id s
  · obtain ⟨rfl, hs', hfits⟩ := hds.eq_of_singleton
    rw [hs']
    exact isNoSale_of_writes (hfits.fresh _ List.mem_cons_self) hitem

theorem Checkout.Bought.allOrNothing {ds : List (Store × List Write)} {id : Int} {s' : Store}
    {r : Except Failure Purchase.Outcome} (h : Bought now account id r ds)
    (hds : Deeds s ds s') : AllOrNothing account id s s' r := by
  have unnoted : ds = [] → AtMostNoted now account id ds := Or.inl
  match r, h with
  | .error e, h => exact (unnoted h).isNoSale hds
  | .ok (.declined d), Or.inl h => exact (unnoted h).isNoSale hds
  | .ok (.declined d), Or.inr ⟨_, h⟩ => exact h.isNoSale hds
  | .ok (.committed i t left), ⟨hi, item, hid, hsale, hsold⟩ =>
      obtain ⟨hitem, hdiff⟩ := hsold.isSale hds
      exact ⟨hi, item, hid ▸ hitem, hsale, hdiff⟩

/-- **A purchase is all or nothing.** The faults may strike any statements, early or late, but
the end of the session, which comes after the commit. -/
theorem purchase_all_or_nothing (l : Ledger) (account id : Int) (f : Faults)
    (hclose : ∀ before, f.early before .close = none ∧ f.late before .close = none) :
    AllOrNothing account id l.store
      (l.run (.failing f) (Checkout.purchase l.now account id)).2.store
      (l.run (.failing f) (Checkout.purchase l.now account id)).1 := by
  have hstrikes : ∀ e, ¬ Strikes f .close e := by
    rintro e ⟨before, he⟩
    rw [(hclose before).1, (hclose before).2] at he
    rcases he with he | he <;> cases he
  have hsafe : (Checkout.purchase l.now account id).Safe (Strikes f)
      (Script.Closed (Checkout.Bought l.now account id)) (.fresh l.store) :=
    Checkout.safe_purchase hstrikes l.store
  obtain ⟨ds, hbought, hds⟩ := l.run_of_safe (hsafe.mono fun r c hr => hr.2)
  exact hbought.allOrNothing hds

/-- A ledger with one account and one item that it can afford. -/
def Ledger.stall : Ledger where
  store := { accounts := [⟨1, 10⟩], items := [⟨7, "Notes", 4, none, none, true, none, none⟩] }
  settings := {}
  now := 0

/-- The ownership is written but its statement fails, and then the first rollback fails. -/
def Faults.unlucky : Faults where
  early := (Conditions.ofFaults [⟨.rollback, .storage .driver "lost"⟩] []).fault
  late := (Conditions.ofFaults [⟨.grant, .storage .operational "lost"⟩] []).fault

theorem purchase_all_or_nothing_unlucky :
    (∀ before, Faults.unlucky.early before .close = none ∧
        Faults.unlucky.late before .close = none) ∧
      (Ledger.stall.run (.failing .unlucky) (Checkout.purchase Ledger.stall.now 1 7)).1 =
        .ok (.declined ⟨7, .granting, .internalError, none, none⟩) ∧
      AllOrNothing 1 7 Ledger.stall.store
        (Ledger.stall.run (.failing .unlucky) (Checkout.purchase Ledger.stall.now 1 7)).2.store
        (Ledger.stall.run (.failing .unlucky) (Checkout.purchase Ledger.stall.now 1 7)).1 := by
  have hclose : ∀ before, Faults.unlucky.early before .close = none ∧
      Faults.unlucky.late before .close = none := fun _ => ⟨rfl, rfl⟩
  exact ⟨hclose, by decide +kernel, purchase_all_or_nothing Ledger.stall 1 7 _ hclose⟩

end Scrip
