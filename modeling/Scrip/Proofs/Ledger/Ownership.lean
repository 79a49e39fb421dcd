import Scrip.Proofs.Ledger.Run
set_option autoImplicit false

/-! # Ownerships and completed purchases

Every ownership names the completed purchase that paid for it, and every completed purchase has
paid for exactly one ownership. The two are written in one deed, and no other deed makes or
unmakes a completed purchase. That nobody buys an item twice follows, since nobody owns one
twice.
-/

namespace Scrip

def Store.sales (s : Store) : List Transaction := s.transactions.filter Store.isSale

def Ownership.PaidBy (o : Ownership) (t : Transaction) : Prop :=
  t.id = o.transaction ∧ t.account = o.account ∧ t.item = some o.item

/-- Ownerships and completed purchases correspond one to one, and nobody has an item twice. -/
structure Store.Matched (s : Store) : Prop where
  paid : ∀ o ∈ s.ownerships, ∃ t ∈ s.transactions, t.kind = Kind.purchase.text ∧
    t.status = Status.completed.text ∧ o.PaidBy t
  owned : ∀ t ∈ s.transactions, t.kind = Kind.purchase.text → t.status = Status.completed.text →
    s.ownerships.countP (·.transaction == t.id) = 1
  ownedOnce : (s.ownerships.map fun o => (o.account, o.item)).Nodup
  boughtOnce : (s.sales.map fun t => (t.account, t.item)).Nodup

theorem Store.matched_iff_and {s : Store} : s.Matched ↔
    (∀ o ∈ s.ownerships, ∃ t ∈ s.transactions, t.kind = Kind.purchase.text ∧
      t.status = Status.completed.text ∧ o.PaidBy t) ∧
    (∀ t ∈ s.transactions, t.kind = Kind.purchase.text → t.status = Status.completed.text →
      s.ownerships.countP (·.transaction == t.id) = 1) ∧
    (s.ownerships.map fun o => (o.account, o.item)).Nodup ∧
    (s.sales.map fun t => (t.account, t.item)).Nodup :=
  ⟨fun h => ⟨h.paid, h.owned, h.ownedOnce, h.boughtOnce⟩,
    fun h => ⟨h.1, h.2.1, h.2.2.1, h.2.2.2⟩⟩

instance (o : Ownership) (t : Transaction) : Decidable (o.PaidBy t) :=
  inferInstanceAs (Decidable (_ ∧ _))

instance (s : Store) : Decidable s.Matched := decidable_of_iff _ Store.matched_iff_and.symm

/-- The part of the correspondence that deeds have to keep. -/
structure Store.Paired (s : Store) : Prop where
  paid : ∀ o ∈ s.ownerships, ∃ t ∈ s.sales, o.PaidBy t
  owned : ∀ t ∈ s.sales, s.ownerships.countP (·.transaction == t.id) = 1

namespace Store

variable {s s' : Store} {t t' : Transaction}

theorem isSale_iff : isSale t = true ↔
    t.kind = Kind.purchase.text ∧ t.status = Status.completed.text := by
  simp [isSale]

theorem mem_sales : t ∈ s.sales ↔ t ∈ s.transactions ∧
    t.kind = Kind.purchase.text ∧ t.status = Status.completed.text := by
  rw [sales, List.mem_filter, isSale_iff]

theorem eq_of_id (hl : s.Lawful) (ht : t ∈ s.transactions) (ht' : t' ∈ s.transactions)
    (h : t.id = t'.id) : t = t' :=
  List.inj_on_of_nodup_map hl.log ht ht' h

/-- Nobody owns an item twice. -/
theorem eq_of_pair {o o' : Ownership} (hl : s.Lawful) (ho : o ∈ s.ownerships)
    (ho' : o' ∈ s.ownerships) (haccount : o.account = o'.account) (hitem : o.item = o'.item) :
    o = o' :=
  List.inj_on_of_nodup_map hl.pairs ho ho' (Prod.ext haccount hitem)

/-- The ownership that a completed purchase has paid for. -/
theorem Paired.ownership (h : s.Paired) (hl : s.Lawful) (ht : t ∈ s.sales) :
    ∃ o ∈ s.ownerships, o.PaidBy t := by
  have hpos : 0 < s.ownerships.countP (·.transaction == t.id) := by
    rw [h.owned t ht]
    exact Nat.one_pos
  obtain ⟨o, ho, hid⟩ := List.countP_pos_iff.mp hpos
  obtain ⟨t', ht', hpaid⟩ := h.paid o ho
  have hsame : t' = t := by
    refine eq_of_id hl (mem_sales.mp ht').1 (mem_sales.mp ht).1 ?_
    rw [hpaid.1]
    exact beq_iff_eq.mp hid
  exact ⟨o, ho, hsame ▸ hpaid⟩

/-- Two completed purchases of one item by one account would pay for two ownerships of it. -/
theorem Paired.boughtOnce (h : s.Paired) (hl : s.Lawful) :
    (s.sales.map fun t => (t.account, t.item)).Nodup := by
  refine List.Nodup.map_on ?_ ((List.Nodup.of_map _ hl.log).filter _)
  intro t ht t' ht' heq
  obtain ⟨haccount, hitem⟩ := Prod.mk.inj heq
  obtain ⟨o, ho, hid, ha, hi⟩ := h.ownership hl ht
  obtain ⟨o', ho', hid', ha', hi'⟩ := h.ownership hl ht'
  -- the two have paid for the same ownership
  have hsame : o = o' := by
    refine eq_of_pair hl ho ho' ?_ ?_
    · exact ha.symm.trans (haccount.trans ha')
    · exact Option.some.inj (hi.symm.trans (hitem.trans hi'))
  refine eq_of_id hl (mem_sales.mp ht).1 (mem_sales.mp ht').1 ?_
  rw [hid, hid', hsame]

/-- The constraints of the database make up the difference. -/
theorem matched_iff (hl : s.Lawful) : s.Matched ↔ s.Paired := by
  constructor
  · intro h
    constructor
    · intro o ho
      obtain ⟨t, ht, hkind, hstatus, hpaid⟩ := h.paid o ho
      exact ⟨t, mem_sales.mpr ⟨ht, hkind, hstatus⟩, hpaid⟩
    · intro t ht
      obtain ⟨ht, hkind, hstatus⟩ := mem_sales.mp ht
      exact h.owned t ht hkind hstatus
  · intro h
    refine ⟨?_, ?_, hl.pairs, h.boughtOnce hl⟩
    · intro o ho
      obtain ⟨t, ht, hpaid⟩ := h.paid o ho
      obtain ⟨ht, hkind, hstatus⟩ := mem_sales.mp ht
      exact ⟨t, ht, hkind, hstatus, hpaid⟩
    · intro t ht hkind hstatus
      exact h.owned t (mem_sales.mpr ⟨ht, hkind, hstatus⟩)

/-! ## Deeds -/

/-- What changes neither ownerships nor completed purchases keeps them paired. -/
theorem Paired.congr (h : s.Paired) (hsales : s'.sales = s.sales)
    (hown : s'.ownerships = s.ownerships) : s'.Paired where
  paid := by
    rw [hsales, hown]
    exact h.paid
  owned := by
    rw [hsales, hown]
    exact h.owned

theorem sales_append {row : Transaction} (h : isSale row = false) :
    (s.apply (.append row)).sales = s.sales := by
  simp [sales, apply, h]

/-- The settlement of a pending top-up is no purchase. -/
theorem sales_settle (hl : s.Lawful) {id : Int} {row : Transaction}
    (found : s.transaction? id = some row) (pending : row.IsPending) (status : String)
    (time : Option Moment) : (s.apply (.status id status time)).sales = s.sales := by
  have hkind : ∀ t ∈ s.transactions, t.id = id → isSale t = false ∧
      isSale (restate id status time t) = false := by
    intro t ht hid
    have htopup : t.kind ≠ Kind.purchase.text := by
      rw [eq_of_transaction? hl found ht hid, pending.1]
      decide
    rw [restate, if_pos hid]
    exact ⟨by simp [isSale, htopup], by simp [isSale, htopup]⟩
  show (s.transactions.map (restate id status time)).filter isSale = s.transactions.filter isSale
  revert hkind
  induction s.transactions with
  | nil => exact fun _ => rfl
  | cons t ts ih =>
      intro hkind
      rw [List.map_cons]
      by_cases hid : t.id = id
      · obtain ⟨hold, hnew⟩ := hkind t List.mem_cons_self hid
        rw [List.filter_cons_of_neg (by simp [hnew]), List.filter_cons_of_neg (by simp [hold])]
        exact ih fun t' ht' => hkind t' (List.mem_cons_of_mem t ht')
      · rw [restate, if_neg hid, List.filter_cons, List.filter_cons,
          ih fun t' ht' => hkind t' (List.mem_cons_of_mem t ht')]

theorem sales_sale (s : Store) (now : Moment) (account : Int) (item : Item) (id own : Int) :
    (s.applyAll (saleWrites now account item id own)).sales = s.sales ++
      [(Journal.purchaseDraft account item.id item.price .completed none now).row id] := by
  show (s.transactions ++ [_]).filter isSale = _
  rw [List.filter_append]
  rfl

/-- A sale adds one completed purchase and the ownership that it pays for. -/
theorem paired_sale {now : Moment} {account : Int} {item : Item} {id own : Int} (h : s.Paired)
    (hl : (s.applyAll (saleWrites now account item id own)).Lawful) :
    (s.applyAll (saleWrites now account item id own)).Paired := by
  set row := (Journal.purchaseDraft account item.id item.price .completed none now).row id
  -- the store after the sale has distinct ids, so that of the purchase is new
  have hnew : ∀ t ∈ s.transactions, t.id ≠ id := by
    have hlog : ((s.transactions ++ [row]).map (·.id)).Nodup := hl.log
    rw [List.map_append, List.nodup_append] at hlog
    exact fun t ht => hlog.2.2 _ (List.mem_map_of_mem ht) _ (List.mem_singleton_self _)
  have hsales : (s.applyAll (saleWrites now account item id own)).sales = s.sales ++ [row] :=
    s.sales_sale now account item id own
  have hown : (s.applyAll (saleWrites now account item id own)).ownerships =
      s.ownerships ++ [⟨own, account, item.id, id⟩] := rfl
  constructor
  · intro o ho
    rw [hsales]
    rw [hown] at ho
    rcases List.mem_append.mp ho with ho | ho
    · obtain ⟨t, ht, hpaid⟩ := h.paid o ho
      exact ⟨t, List.mem_append_left _ ht, hpaid⟩
    · rw [List.mem_singleton.mp ho]
      exact ⟨row, List.mem_append_right _ (List.mem_singleton_self row), rfl, rfl, rfl⟩
  · intro t ht
    rw [hsales] at ht
    rw [hown, List.countP_append]
    rcases List.mem_append.mp ht with ht | ht
    · have hne : id ≠ t.id := (hnew t (mem_sales.mp ht).1).symm
      rw [h.owned t ht, List.countP_singleton, if_neg (by simpa using hne)]
    · -- no earlier ownership names the new purchase
      obtain rfl := List.mem_singleton.mp ht
      have hzero : s.ownerships.countP (·.transaction == id) = 0 := by
        rw [List.countP_eq_zero]
        intro o ho hid
        obtain ⟨t', ht', hpaid⟩ := h.paid o ho
        exact hnew t' (mem_sales.mp ht').1 (hpaid.1.trans (beq_iff_eq.mp hid))
      show s.ownerships.countP (·.transaction == id) + _ = 1
      rw [hzero, List.countP_singleton]
      simp [row, Draft.row]

end Store

/-- A deed is a sale, or changes neither ownerships nor completed purchases. -/
theorem Deed.sales {s : Store} {w : List Write} (h : Deed s w) (hl : s.Lawful) :
    (∃ now account item id own held, w = saleWrites now account item id own ∧
      s.balance? account = some held) ∨
    ((s.applyAll w).sales = s.sales ∧ (s.applyAll w).ownerships = s.ownerships) := by
  cases h with
  | nothing => exact Or.inr ⟨rfl, rfl⟩
  | sale offered forSale funds covered => exact Or.inl ⟨_, _, _, _, _, _, rfl, funds⟩
  | note offered forSale => exact Or.inr ⟨Store.sales_append rfl, rfl⟩
  | request positive => exact Or.inr ⟨Store.sales_append rfl, rfl⟩
  | approval found pending positive funds =>
      exact Or.inr ⟨Store.sales_settle hl found pending _ _, rfl⟩
  | rejection found pending => exact Or.inr ⟨Store.sales_settle hl found pending _ _, rfl⟩

theorem Deed.paired {s : Store} {w : List Write} (h : Deed s w) (hl : s.Lawful)
    (hl' : (s.applyAll w).Lawful) (hp : s.Paired) : (s.applyAll w).Paired := by
  rcases h.sales hl with ⟨now, account, item, id, own, held, rfl, -⟩ | ⟨hsales, hown⟩
  · exact Store.paired_sale hp hl'
  · exact hp.congr hsales hown

/-! ## Whole runs -/

theorem kept_paired : Kept Store.Paired where
  deed := fun _ _ h hl hd hl' => hd.paired hl hl' h
  catalog := fun _ _ h => ⟨h.paid, h.owned⟩

/-- **Ownerships and completed purchases correspond one to one**, in every store that a ledger
can reach from one where they do. -/
theorem ownerships_match_purchases {l : Ledger} {es : List Event} (hl : l.store.Lawful)
    (hes : ∀ e ∈ es, e.isOffered = true) (hm : l.store.Matched) :
    (l.afterAll es).store.Matched := by
  obtain ⟨hl', hp⟩ := Ledger.keep_afterAll kept_paired hes hl ((Store.matched_iff hl).mp hm)
  exact (Store.matched_iff hl').mpr hp

theorem ownerships_match_purchases_day :
    Ledger.kiosk.store.Lawful ∧ (∀ e ∈ Event.day, e.isOffered = true) ∧
      Ledger.kiosk.store.Matched ∧ (Ledger.kiosk.afterAll Event.day).store.Matched ∧
      (Ledger.kiosk.afterAll Event.day).store.ownerships.length = 1 := by
  have hl : Ledger.kiosk.store.Lawful := by decide
  have hes : ∀ e ∈ Event.day, e.isOffered = true := by decide
  have hm : Ledger.kiosk.store.Matched := by decide +kernel
  exact ⟨hl, hes, hm, ownerships_match_purchases hl hes hm, by decide +kernel⟩

end Scrip
