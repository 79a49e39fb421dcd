import Scrip.Proofs.Ledger.Debits
import Scrip.Proofs.Ledger.Views
import Scrip.Proofs.Store.Newest
set_option autoImplicit false

/-! # The shelf

The shelf of an account joins its ownerships with the catalog and with the log. Where ownerships and
completed purchases correspond, an entry is an item together with the one completed purchase of it
by the account (`Store.Paired.mem_shelf`), so its price and its time are those of that purchase,
whatever has become of the item since. That each item stands there once, and the entries in a strict
order, comes from the keys of the registry: no account owns an item twice, and no purchase pays for
two ownerships.
-/

namespace Scrip

namespace Store

variable {s : Store} {account : Int} {item : Item} {t : Transaction} {o : Ownership}

/-! ## Entries -/

/-- The entry of an ownership, if its item is for show. -/
def entry? (s : Store) (o : Ownership) : Option (Item × Transaction) :=
  match s.item? o.item, s.transaction? o.transaction with
  | some item, some t => if item.published then some (item, t) else none
  | _, _ => none

theorem shelf_eq (s : Store) (account : Int) : s.shelf account =
    ((s.ownedBy account).filterMap s.entry?).mergeSort fun a b => isNewer a.2 b.2 := rfl

/-- An entry needs the item, the payment, and publication. -/
theorem entry?_eq_some : s.entry? o = some (item, t) ↔
    s.item? o.item = some item ∧ s.transaction? o.transaction = some t ∧
      item.published = true := by
  unfold entry?
  cases s.item? o.item with
  | none => simp
  | some i =>
      cases s.transaction? o.transaction with
      | none => simp
      | some t' =>
          by_cases hp : i.published = true
          · simp only [hp, if_true, Option.some.injEq, Prod.mk.injEq]
            constructor
            · rintro ⟨rfl, rfl⟩
              exact ⟨rfl, rfl, hp⟩
            · rintro ⟨rfl, rfl, -⟩
              exact ⟨rfl, rfl⟩
          · simp only [hp, Bool.false_eq_true, if_false, reduceCtorEq, Option.some.injEq, false_iff]
            rintro ⟨rfl, -, h⟩
            exact hp h

theorem mem_shelf : (item, t) ∈ s.shelf account ↔
    ∃ o ∈ s.ownerships, o.account = account ∧ s.item? o.item = some item ∧
      s.transaction? o.transaction = some t ∧ item.published = true := by
  simp only [shelf_eq, List.mem_mergeSort, List.mem_filterMap, entry?_eq_some, ownedBy,
    List.mem_filter, beq_iff_eq, and_assoc]

/-- An entry is a published item and a completed purchase of it by the account. -/
theorem Paired.mem_shelf (h : s.Paired) (hl : s.Lawful) : (item, t) ∈ s.shelf account ↔
    s.item? item.id = some item ∧ item.published = true ∧
      t ∈ s.sales ∧ t.account = account ∧ t.item = some item.id := by
  rw [Store.mem_shelf]
  constructor
  · rintro ⟨o, ho, rfl, hitem, ht, hpublished⟩
    obtain ⟨t', hsale, hid, haccount, hitem'⟩ := h.paid o ho
    obtain rfl := eq_of_transaction? hl ht (mem_sales.mp hsale).1 hid
    have hid : item.id = o.item := id_of_item? hitem
    exact ⟨hid ▸ hitem, hpublished, hsale, haccount, hid ▸ hitem'⟩
  · rintro ⟨hitem, hpublished, ht, rfl, hof⟩
    obtain ⟨o, ho, hid, haccount, hitem'⟩ := h.ownership hl ht
    have hsame : o.item = item.id := Option.some.inj (hitem'.symm.trans hof)
    refine ⟨o, ho, haccount.symm, hsame ▸ hitem, ?_, hpublished⟩
    exact hid ▸ transaction?_of_mem hl (mem_sales.mp ht).1

theorem Paired.eq_of_sale (h : s.Paired) (hl : s.Lawful) {t' : Transaction} (ht : t ∈ s.sales)
    (ht' : t' ∈ s.sales) (haccount : t'.account = t.account) (hitem : t'.item = t.item) :
    t' = t :=
  List.inj_on_of_nodup_map (h.boughtOnce hl) ht' ht (Prod.ext haccount hitem)

/-! ## Keys -/

/-- What tells ownerships apart tells their entries apart. -/
theorem nodup_entries {os : List Ownership} (ofEntry : Item × Transaction → Int)
    (of : Ownership → Int) (heq : ∀ o e, s.entry? o = some e → ofEntry e = of o)
    (hos : (os.map of).Nodup) : ((os.filterMap s.entry?).map ofEntry).Nodup := by
  rw [List.Nodup, List.pairwise_map, List.pairwise_filterMap]
  refine (List.pairwise_map.mp hos).imp fun hne e he e' he' => ?_
  rw [heq _ _ he, heq _ _ he']
  exact hne

theorem nodup_ownedIds (hl : s.Lawful) (account : Int) : (s.ownedIds account).Nodup := by
  refine List.Nodup.map_on ?_ ((List.Nodup.of_map _ hl.pairs).filter _)
  intro o ho o' ho' hitem
  obtain ⟨ho, haccount⟩ := List.mem_filter.mp ho
  obtain ⟨ho', haccount'⟩ := List.mem_filter.mp ho'
  exact eq_of_pair hl ho ho' ((beq_iff_eq.mp haccount).trans (beq_iff_eq.mp haccount').symm) hitem

/-- No item stands on a shelf twice. -/
theorem nodup_shelf (hl : s.Lawful) (account : Int) :
    ((s.shelf account).map (·.1.id)).Nodup := by
  rw [shelf_eq, ((List.mergeSort_perm _ _).map _).nodup_iff]
  refine nodup_entries (·.1.id) (·.item) (fun o e he => ?_) (nodup_ownedIds hl account)
  exact id_of_item? (entry?_eq_some.mp he).1

/-- The latest purchase comes first. -/
theorem shelf_pairwise (hl : s.Lawful) (account : Int) :
    (s.shelf account).Pairwise fun a b => a.2.NewerThan b.2 := by
  rw [shelf_eq]
  refine pairwise_newerThan Prod.snd
    (nodup_entries (·.2.id) (·.transaction) (fun o e he => ?_) ?_)
  · exact id_of_transaction? (entry?_eq_some.mp he).2.1
  · exact hl.payments.sublist (List.filter_sublist.map _)

end Store

/-! ## The listing -/

/-- An entry shows an item as it is in the catalog, and the completed purchase of it by the account
with its price and its time. There is no other completed purchase of the item by the account. -/
structure Registry.ShelfEntry.Shows (s : Store) (account : Int) (e : ShelfEntry)
    (t : Transaction) : Prop where
  item : ∃ item, s.item? e.id = some item ∧ item.published = true ∧ e.title = item.title ∧
    e.subject = item.shownSubject ∧ e.level = item.shownLevel
  sale : t ∈ s.sales ∧ t.account = account ∧ t.item = some e.id
  only : ∀ t' ∈ s.sales, t'.account = account → t'.item = some e.id → t' = t
  price : e.price = t.amount
  purchasedAt : e.purchasedAt = t.createdAt

/-- What a ledger answers when it is asked for the shelf of an account, and the purchases that paid
for the entries. -/
structure Ledger.Shelves (l : Ledger) (account : Int) (entries : List Registry.ShelfEntry)
    (purchases : List Transaction) : Prop where
  answer : (l.run .calm (Registry.shelf account)).1 = .ok entries
  owned : ∀ id, id ∈ entries.map (·.id) ↔ l.store.owns account id = true ∧
    ∃ item, l.store.item? id = some item ∧ item.published = true
  once : (entries.map (·.id)).Nodup
  paid : List.Forall₂ (Registry.ShelfEntry.Shows l.store account) entries purchases
  order : purchases.Pairwise Transaction.NewerThan

namespace Ledger

variable {l : Ledger} {account : Int}

theorem calm_shelf (l : Ledger) (account : Int) :
    (l.run .calm (Registry.shelf account)).1 =
      .ok ((l.store.shelf account).map Registry.ShelfEntry.of) :=
  congrArg Prod.fst (run_calm (Script.calm_bind (Script.calm_read rfl rfl) (Script.calm_done _)))

theorem shows_of_mem_shelf (hl : l.store.Lawful) (hp : l.store.Paired) {e : Item × Transaction}
    (he : e ∈ l.store.shelf account) :
    (Registry.ShelfEntry.of e).Shows l.store account e.2 := by
  obtain ⟨item, t⟩ := e
  obtain ⟨hitem, hpublished, ht, haccount, hof⟩ := (hp.mem_shelf hl).mp he
  refine ⟨⟨item, hitem, hpublished, rfl, rfl, rfl⟩, ⟨ht, haccount, hof⟩, ?_, rfl, rfl⟩
  intro t' ht' haccount' hof'
  exact hp.eq_of_sale hl ht ht' (haccount'.trans haccount.symm) (hof'.trans hof.symm)

/-- Where ownerships and completed purchases correspond, a shelf shows what was paid for. -/
theorem shelves_of_paired (hl : l.store.Lawful) (hp : l.store.Paired) (account : Int) :
    l.Shelves account ((l.store.shelf account).map Registry.ShelfEntry.of)
      ((l.store.shelf account).map (·.2)) where
  answer := l.calm_shelf account
  owned := by
    intro id
    rw [List.map_map, List.mem_map, hp.owns_iff hl]
    constructor
    · rintro ⟨⟨item, t⟩, he, rfl⟩
      obtain ⟨hitem, hpublished, ht, haccount, hof⟩ := (hp.mem_shelf hl).mp he
      obtain ⟨ht, hkind, hstatus⟩ := Store.mem_sales.mp ht
      exact ⟨⟨t, ht, haccount, hof, hkind, hstatus⟩, item, hitem, hpublished⟩
    · rintro ⟨⟨t, ht, haccount, hof, hkind, hstatus⟩, item, hitem, hpublished⟩
      obtain rfl := Store.id_of_item? hitem
      exact ⟨(item, t), (hp.mem_shelf hl).mpr ⟨hitem, hpublished,
        Store.mem_sales.mpr ⟨ht, hkind, hstatus⟩, haccount, hof⟩, rfl⟩
  once := by
    rw [List.map_map]
    exact Store.nodup_shelf hl account
  paid := by
    rw [List.forall₂_map_left_iff, List.forall₂_map_right_iff, List.forall₂_same]
    exact fun e he => shows_of_mem_shelf hl hp he
  order := List.pairwise_map.mpr (Store.shelf_pairwise hl account)

end Ledger

/-- **A shelf shows what was paid for**, in every store that a ledger can reach from one where
ownerships and completed purchases correspond: the items that the account owns and that are
published, each once, at the price that one of the events has debited for it, or that the log had
at the beginning. -/
theorem shelf_shows_what_was_paid {l : Ledger} {es : List Event} (hl : l.store.Lawful)
    (hes : ∀ e ∈ es, e.isOffered = true) (hm : l.store.Matched) (account : Int) :
    ∃ entries purchases, (l.afterAll es).Shelves account entries purchases ∧
      ∀ t ∈ purchases, t ∈ l.store.sales ∨ ∃ before e after, es = before ++ e :: after ∧
        (l.afterAll before).Debits e t := by
  obtain ⟨hl', hp⟩ := Ledger.keep_afterAll kept_paired hes hl ((Store.matched_iff hl).mp hm)
  refine ⟨_, _, Ledger.shelves_of_paired hl' hp account, fun t ht => ?_⟩
  obtain ⟨⟨item, t⟩, he, rfl⟩ := List.mem_map.mp ht
  exact Ledger.mem_sales_afterAll hl hes ((hp.mem_shelf hl').mp he).2.2.1

/-- The kiosk's day, and then a new price and a new title. -/
def Event.relabelled : List Event :=
  Event.day ++ [.edit 7 fun item => { item with price := 99, title := "Old notes" }]

theorem shelf_shows_what_was_paid_relabelled :
    Ledger.kiosk.store.Lawful ∧ (∀ e ∈ Event.relabelled, e.isOffered = true) ∧
      Ledger.kiosk.store.Matched ∧
      ∃ entries purchases, (Ledger.kiosk.afterAll Event.relabelled).Shelves 1 entries purchases ∧
        (entries.map fun e => (e.id, e.title, e.price)) = [(7, "Old notes", 12)] ∧
        ∀ t ∈ purchases, ∃ before e after, Event.relabelled = before ++ e :: after ∧
          (Ledger.kiosk.afterAll before).Debits e t := by
  have hl : Ledger.kiosk.store.Lawful := by decide
  have hes : ∀ e ∈ Event.relabelled, e.isOffered = true := by decide
  have hm : Ledger.kiosk.store.Matched := by decide +kernel
  obtain ⟨entries, purchases, hshelves, hdebits⟩ := shelf_shows_what_was_paid hl hes hm 1
  refine ⟨hl, hes, hm, entries, purchases, hshelves, ?_, fun t ht => ?_⟩
  · have hanswer : ((Ledger.kiosk.afterAll Event.relabelled).run .calm
        (Registry.shelf 1)).1.toOption.map (·.map fun e => (e.id, e.title, e.price)) =
        some [(7, "Old notes", 12)] := by decide +kernel
    rw [hshelves.answer] at hanswer
    exact Option.some.inj hanswer
  · -- nothing was sold at the beginning
    have hnone : Ledger.kiosk.store.sales = [] := by decide
    refine (hdebits t ht).resolve_left ?_
    rw [hnone]
    exact List.not_mem_nil

end Scrip
