import Scrip.Proofs.Ledger.AppendOnly
import Scrip.Proofs.Ledger.Ownership
set_option autoImplicit false

/-! # Where completed purchases come from

An event adds at most one completed purchase to the log, and then it is a purchase that has taken
the amount of the row from the balance (`Ledger.sales_after`). So every completed purchase of a run
was there at the beginning, or was debited by one of its events (`Ledger.mem_sales_afterAll`). The
rest follows from that no other deed touches the completed purchases.
-/

namespace Scrip

/-- Nothing that was committed has entitled anybody to an item. -/
def Saleless (ds : List (Store × List Write)) : Prop := ∀ d ∈ ds, ∀ row, Write.own row ∉ d.2

theorem lenient_saleless : Lenient Saleless where
  nil := by simp [Saleless]
  snoc := by
    intro ds s h d hd row
    rcases List.mem_append.mp hd with hd | hd
    · exact h d hd row
    · rw [List.mem_singleton.mp hd]
      exact List.not_mem_nil

theorem saleless_singleton {s : Store} {w : List Write} (h : ∀ row, Write.own row ∉ w) :
    Saleless [(s, w)] := by
  intro d hd
  rw [List.mem_singleton.mp hd]
  exact h

/-- Without a sale the completed purchases stay. -/
theorem Deeds.sales_of_saleless {s s' : Store} {ds : List (Store × List Write)}
    (h : Deeds s ds s') (hl : s.Lawful) (hds : Saleless ds) : s'.sales = s.sales := by
  induction h with
  | none s => rfl
  | first deed fits _ ih =>
      rw [ih (fits.lawful hl) fun d hd => hds d (List.mem_cons_of_mem _ hd)]
      rcases deed.sales hl with ⟨now, account, item, id, own, held, rfl, -⟩ | ⟨hsales, -⟩
      · exact absurd (by simp [saleWrites]) (hds _ List.mem_cons_self ⟨own, account, item.id, id⟩)
      · exact hsales

/-! ## Operations -/

namespace Operation

variable {may : Statement → Failure → Prop} (settings : Settings) (now : Moment)

/-- What an operation has committed: a sale, if it is a purchase of that item, or no sale. -/
def SellsAtMost (op : Operation) (ds : List (Store × List Write)) : Prop :=
  Saleless ds ∨ ∃ account item t left,
    op = .purchase account item.id ∧ Checkout.Sold now account item t left ds

/-- The note of a failure is no sale. -/
theorem sellsAtMost_of_bought {account id : Int} {r : Except Failure Purchase.Outcome}
    {ds : List (Store × List Write)} (h : Checkout.Bought now account id r ds) :
    SellsAtMost now (.purchase account id) ds := by
  have unsold : ds = [] → SellsAtMost now (.purchase account id) ds := by
    rintro rfl
    exact Or.inl lenient_saleless.nil
  match r, h with
  | .error _, h => exact unsold h
  | .ok (.declined _), Or.inl h => exact unsold h
  | .ok (.declined _), Or.inr ⟨_, Or.inl h⟩ => exact unsold h
  | .ok (.declined _), Or.inr ⟨_, Or.inr ⟨s, item, text, t, _, _, hds⟩⟩ =>
      rw [hds]
      exact Or.inl (saleless_singleton (by simp [noteWrites]))
  | .ok (.committed _ t left), ⟨_, item, hid, _, hsold⟩ =>
      exact Or.inr ⟨account, item, t, left, by rw [hid], hsold⟩

/-- Requests and settlements sell nothing. -/
theorem saleless_of_commits {op : Operation} {c : Course} (hop : ∀ a i, op ≠ .purchase a i)
    (h : op.Commits settings now c) : Saleless c.deeds := by
  cases op with
  | purchase account item => exact absurd rfl (hop account item)
  | requestTopUp account amount method reference =>
      obtain ⟨_, e | row, hr⟩ := h
      · rw [show c.deeds = [] from hr]
        exact lenient_saleless.nil
      · obtain ⟨-, s, cents, credits, -, -, hds⟩ := hr
        rw [hds]
        exact saleless_singleton (by simp)
  | settle transaction approved =>
      obtain ⟨e | row, hr⟩ := h
      · rw [show c.deeds = [] from hr]
        exact lenient_saleless.nil
      · obtain ⟨-, s, old, -, -, -, hds⟩ := hr
        rw [hds]
        exact saleless_singleton (by cases approved <;> simp [TopUps.settlement, approvalWrites])
  | _ => exact h.elim

theorem safe_sellsAtMost {op : Operation} (h : op.isOffered = true) (s : Store) :
    Script.Safe may (op.whole settings now) (fun _ c => SellsAtMost now op c.deeds) (.fresh s) := by
  by_cases hop : ∃ account item, op = .purchase account item
  · obtain ⟨account, item, rfl⟩ := hop
    rw [whole, if_pos (show isWhole (.purchase account item) = true from rfl)]
    refine safe_purchase settings now (Or.inl lenient_saleless.nil) ?_ s
    rintro c ⟨r, hr⟩
    exact sellsAtMost_of_bought now hr
  · have hother : ∀ a i, op ≠ .purchase a i := fun a i heq => hop ⟨a, i, heq⟩
    refine (safe_whole_with settings now lenient_saleless h ?_ s).mono fun _ _ hc => Or.inl hc
    exact fun c hc => saleless_of_commits settings now hother hc

end Operation

/-! ## Events -/

/-- In an event a row has become a completed purchase: it is that of an item at the price that the
item had, and this amount has been taken from the balance of the account. -/
structure Ledger.Debits (l : Ledger) (e : Event) (t : Transaction) : Prop where
  purchase : ∃ faults item, e = .work faults (.purchase t.account item.id) ∧
    l.store.item? item.id = some item ∧ t.item = some item.id ∧ t.amount = item.price
  balance : ∃ held, l.store.balance? t.account = some held ∧ t.amount ≤ held ∧
    (l.after e).store.balance? t.account = some (held - t.amount)
  fresh : t.id ∉ l.store.transactions.map (·.id)
  time : t.createdAt = l.now

namespace Ledger

variable {l : Ledger} {e : Event} {es : List Event} {t : Transaction}

/-- An event adds at most one completed purchase, and that is debited. -/
theorem sales_after (he : e.isOffered = true) (hl : l.store.Lawful) :
    (l.after e).store.sales = l.store.sales ∨
      ∃ t, (l.after e).store.sales = l.store.sales ++ [t] ∧ l.Debits e t := by
  cases e with
  | edit item change => exact Or.inl rfl
  | clock now => exact Or.inl rfl
  | work faults op =>
      have hsafe : (op.whole l.settings l.now).Safe (Strikes faults)
          (fun _ c => Operation.SellsAtMost l.now op c.deeds) (.fresh l.store) :=
        Operation.safe_sellsAtMost l.settings l.now he l.store
      obtain ⟨ds, hsells, hds⟩ := l.run_of_safe
        (P := fun _ ds => Operation.SellsAtMost l.now op ds) hsafe
      change Deeds l.store ds (l.after (.work faults op)).store at hds
      rcases hsells with hsaleless | ⟨account, item, id, left, rfl, hsold⟩
      · exact Or.inl (hds.sales_of_saleless hl hsaleless)
      · obtain ⟨s, own, held, rfl, hitem, hfunds, hcovered, -⟩ := hsold
        obtain ⟨rfl, hafter, hfits⟩ := hds.eq_of_singleton
        refine Or.inr ⟨_, by rw [hafter, Store.sales_sale], ?_⟩
        refine ⟨⟨faults, item, rfl, hitem, rfl, rfl⟩, ⟨held, hfunds, hcovered, ?_⟩, ?_, rfl⟩
        · rw [hafter]
          simp [saleWrites, Store.balance?_changeBalance_self, hfunds, Draft.row,
            Journal.purchaseDraft, Int.sub_eq_add_neg]
        · exact hfits.fresh _ (List.mem_cons_of_mem _ List.mem_cons_self)

/-- A completed purchase of a run was there at the beginning, or one of the events has debited it.
The row stays what it was, whatever comes after. -/
theorem mem_sales_afterAll (hl : l.store.Lawful) (hes : ∀ e ∈ es, e.isOffered = true)
    (ht : t ∈ (l.afterAll es).store.sales) :
    t ∈ l.store.sales ∨ ∃ before e after, es = before ++ e :: after ∧
      (l.afterAll before).Debits e t := by
  induction es generalizing l with
  | nil => exact Or.inl ht
  | cons e es ih =>
      have he := hes e List.mem_cons_self
      have hone : (l.afterAll [e]).store.Lawful := lawful_afterAll hl (by simpa using he)
      have hl' : (l.after e).store.Lawful := hone
      rcases ih hl' (fun e' he' => hes e' (List.mem_cons_of_mem e he')) ht with
        hmem | ⟨before, e', after, rfl, hdebits⟩
      · rcases sales_after he hl with hsame | ⟨t', hadded, hdebits⟩
        · exact Or.inl (hsame ▸ hmem)
        · rw [hadded] at hmem
          rcases List.mem_append.mp hmem with hold | hnew
          · exact Or.inl hold
          · obtain rfl := List.mem_singleton.mp hnew
            exact Or.inr ⟨[], e, es, rfl, hdebits⟩
      · exact Or.inr ⟨e :: before, e', after, rfl, hdebits⟩

end Ledger

end Scrip
