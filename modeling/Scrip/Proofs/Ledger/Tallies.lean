import Scrip.Proofs.History.Counts
import Scrip.Proofs.Ledger.Conservation
import Scrip.Proofs.Service.Calm
import Scrip.Proofs.Store.Tallies
set_option autoImplicit false

/-! # Three ways to count purchases

The tallies count the completed purchases of each item, the statistics of an account count its own,
and the registry has one ownership for each. The three add up to the same, because ownerships and
completed purchases correspond one to one and every completed purchase belongs to an account.
-/

namespace Scrip

namespace Store

variable {s : Store} {id : Int}

def owners (s : Store) (id : Int) : Finset Int :=
  ((s.ownerships.filter (·.item == id)).map (·.account)).toFinset

/-- Nobody owns an item twice, so there are as many ownerships of it as owners. -/
theorem card_owners (hl : s.Lawful) :
    (s.owners id).card = (s.ownerships.map (·.item)).count id := by
  have hnodup : ((s.ownerships.filter (·.item == id)).map (·.account)).Nodup := by
    refine List.Nodup.map_on ?_ ((List.Nodup.of_map _ hl.pairs).filter _)
    intro o ho o' ho' haccount
    obtain ⟨ho, hi⟩ := List.mem_filter.mp ho
    obtain ⟨ho', hi'⟩ := List.mem_filter.mp ho'
    exact eq_of_pair hl ho ho' haccount ((beq_iff_eq.mp hi).trans (beq_iff_eq.mp hi').symm)
  rw [owners, List.toFinset_card_of_nodup hnodup, List.length_map, List.count, List.countP_map,
    List.countP_eq_length_filter]
  rfl

/-- Sales and ownerships have the same accounts and items, each as often. -/
theorem Paired.perm (h : s.Paired) (hl : s.Lawful) :
    (s.sales.map fun t => (t.account, t.item)).Perm
      (s.ownerships.map fun o => (o.account, some o.item)) := by
  have hown : (s.ownerships.map fun o => (o.account, some o.item)).Nodup := by
    refine List.Nodup.map_on ?_ (List.Nodup.of_map _ hl.pairs)
    intro o ho o' ho' heq
    obtain ⟨ha, hi⟩ := Prod.mk.inj heq
    exact eq_of_pair hl ho ho' ha (Option.some.inj hi)
  refine (List.perm_ext_iff_of_nodup (h.boughtOnce hl) hown).mpr fun pair => ?_
  simp only [List.mem_map]
  constructor
  · rintro ⟨t, ht, rfl⟩
    obtain ⟨o, ho, -, ha, hi⟩ := h.ownership hl ht
    exact ⟨o, ho, Prod.ext ha.symm hi.symm⟩
  · rintro ⟨o, ho, rfl⟩
    obtain ⟨t, ht, -, ha, hi⟩ := h.paid o ho
    exact ⟨t, ht, Prod.ext ha hi⟩

theorem Paired.soldItems_perm (h : s.Paired) (hl : s.Lawful) :
    s.soldItems.Perm (s.ownerships.map (·.item)) := by
  have hperm := (h.perm hl).filterMap Prod.snd
  rw [List.filterMap_map, List.filterMap_map] at hperm
  exact hperm.trans (by simp)

theorem Paired.length_sales (h : s.Paired) (hl : s.Lawful) :
    s.sales.length = s.ownerships.length := by
  simpa using (h.perm hl).length_eq

/-- Every completed purchase belongs to one of the accounts. -/
def SoldToAccounts (s : Store) : Prop := ∀ t ∈ s.sales, t.account ∈ s.accounts.map (·.id)

/-- Each sale is counted for one account. -/
theorem SoldToAccounts.sum_sales (h : s.SoldToAccounts) :
    ∑ a ∈ (s.accounts.map (·.id)).toFinset, s.sales.countP (·.account == a) = s.sales.length := by
  have hmem : ∀ a ∈ (s.sales.map (·.account) : Multiset Int),
      a ∈ (s.accounts.map (·.id)).toFinset := by
    intro a ha
    obtain ⟨t, ht, rfl⟩ := List.mem_map.mp (Multiset.mem_coe.mp ha)
    exact List.mem_toFinset.mpr (h t ht)
  have hsum := Multiset.sum_count_eq_card hmem
  simp only [Multiset.coe_count, Multiset.coe_card, List.length_map, List.count, List.countP_map]
    at hsum
  exact hsum

end Store

/-! ## Deeds -/

theorem Deed.soldToAccounts {s : Store} {w : List Write} (h : Deed s w) (hl : s.Lawful)
    (hs : s.SoldToAccounts) : (s.applyAll w).SoldToAccounts := by
  intro t ht
  rw [(h.grows hl).accounts]
  rcases h.sales hl with ⟨now, account, item, id, own, held, rfl, hfunds⟩ | ⟨hsales, -⟩
  · rw [Store.sales_sale] at ht
    rcases List.mem_append.mp ht with ht | ht
    · exact hs t ht
    · rw [List.mem_singleton.mp ht]
      exact Store.mem_accounts.mpr ⟨held, hfunds⟩
  · exact hs t (hsales ▸ ht)

theorem kept_soldToAccounts : Kept Store.SoldToAccounts where
  deed := fun _ _ h hl hd _ => hd.soldToAccounts hl h
  catalog := fun _ _ h => h

/-! ## The three counts -/

/-- The tallies, the statistics of all accounts and the registry count the same purchases. -/
structure Ledger.TalliesAgree (l : Ledger) (now : DateTime) : Prop where
  tallies : ∃ counts, (l.run .calm Journal.purchaseCounts).1 = .ok counts ∧
    (counts.map (·.1)).Nodup ∧
    (∀ id n, (id, n) ∈ counts ↔ n = ((l.store.owners id).card : Int) ∧ 0 < n) ∧
    (counts.map (·.2)).sum = l.store.ownerships.length
  reports : ∀ report : Int → Stats,
    (∀ a ∈ l.store.accounts.map (·.id), l.report a now = .ok (report a)) →
      ∑ a ∈ (l.store.accounts.map (·.id)).toFinset, (report a).itemsPurchased =
        l.store.ownerships.length

theorem Ledger.talliesAgree_of_paired {l : Ledger} (hl : l.store.Lawful) (hp : l.store.Paired)
    (hs : l.store.SoldToAccounts) (now : DateTime) : l.TalliesAgree now where
  tallies := by
    have hsold := hp.soldItems_perm hl
    refine ⟨l.store.tallies, congrArg Prod.fst (run_calm (Script.calm_read rfl rfl)),
      l.store.nodup_tallies, fun id n => ?_, ?_⟩
    · rw [Store.mem_tallies, hsold.count_eq, Store.card_owners hl]
    · rw [Store.sum_tallies, hsold.length_eq, List.length_map]
  reports := by
    intro report hreport
    rw [← hp.length_sales hl, ← hs.sum_sales]
    refine Finset.sum_congr rfl fun a ha => ?_
    exact report_itemsPurchased (hreport a (List.mem_toFinset.mp ha))

/-- **The tallies agree**, in every store that a ledger can reach from one where ownerships and
completed purchases correspond and all transactions belong to accounts. The statistics of an
account can be had if they could be had at the beginning. -/
theorem tallies_agree {l : Ledger} {es : List Event} (hl : l.store.Lawful)
    (hes : ∀ e ∈ es, e.isOffered = true) (hm : l.store.Matched)
    (ha : ∀ t ∈ l.store.transactions, t.account ∈ l.store.accounts.map (·.id))
    (now now' : DateTime) :
    (l.afterAll es).TalliesAgree now' ∧
      ∀ account, (∃ r, l.report account now = .ok r) →
        ∃ r, (l.afterAll es).report account now' = .ok r := by
  have hs : l.store.SoldToAccounts := fun t ht => ha t (Store.mem_sales.mp ht).1
  obtain ⟨hl', hp⟩ := Ledger.keep_afterAll kept_paired hes hl ((Store.matched_iff hl).mp hm)
  have hs' := (Ledger.keep_afterAll kept_soldToAccounts hes hl hs).2
  refine ⟨Ledger.talliesAgree_of_paired hl' hp hs' now', fun account hr => ?_⟩
  exact Ledger.report_isOk.mpr
    (Ledger.keep_afterAll (kept_worded account) hes hl (Ledger.report_isOk.mp hr)).2

theorem tallies_agree_day :
    Ledger.kiosk.store.Lawful ∧ (∀ e ∈ Event.day, e.isOffered = true) ∧
      Ledger.kiosk.store.Matched ∧
      (∀ t ∈ Ledger.kiosk.store.transactions,
        t.account ∈ Ledger.kiosk.store.accounts.map (·.id)) ∧
      (Ledger.kiosk.afterAll Event.day).TalliesAgree (.bare 0) ∧
      ∃ r, (Ledger.kiosk.afterAll Event.day).report 1 (.bare 0) = .ok r ∧
        r.itemsPurchased = 1 := by
  have hl : Ledger.kiosk.store.Lawful := by decide
  have hes : ∀ e ∈ Event.day, e.isOffered = true := by decide
  have hm : Ledger.kiosk.store.Matched := by decide +kernel
  have ha : ∀ t ∈ Ledger.kiosk.store.transactions,
      t.account ∈ Ledger.kiosk.store.accounts.map (·.id) := by decide
  obtain ⟨hagree, hreports⟩ := tallies_agree hl hes hm ha (.bare 0) (.bare 0)
  obtain ⟨r, hr⟩ := hreports 1 (Ledger.report_isOk.mpr fun t ht _ => by
    rw [List.mem_singleton.mp ht]
    exact ⟨⟨.topup, rfl⟩, .pending, rfl⟩)
  -- there is one account and one ownership
  have hids : (Ledger.kiosk.afterAll Event.day).store.accounts.map (·.id) = [1] := by
    decide +kernel
  have hone : (Ledger.kiosk.afterAll Event.day).store.ownerships.length = 1 := by decide +kernel
  have hsum := hagree.reports (fun _ => r) fun a ha => by
    rw [hids, List.mem_singleton] at ha
    rw [ha]
    exact hr
  rw [hids, hone] at hsum
  exact ⟨hl, hes, hm, ha, hagree, r, hr, by simpa using hsum⟩

end Scrip
