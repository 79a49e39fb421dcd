import Scrip.Proofs.History.Totals
import Scrip.Proofs.Ledger.Run
set_option autoImplicit false

/-! # Conservation of credits

The balances and the log are two records of the same credits. Every deed keeps them in step: a
balance is what it was at first, plus what the log says was topped up since, minus what it says
was spent. No deed makes a balance negative.
-/

namespace Scrip

/-! ## Totals after writes -/

namespace Store

variable (s : Store) (k : Kind) (account : Int)

@[simp] theorem completed_balance (a change : Int) :
    (s.apply (.balance a change)).completed k account = s.completed k account := rfl

@[simp] theorem completed_own (row : Ownership) :
    (s.apply (.own row)).completed k account = s.completed k account := rfl

@[simp] theorem completed_append (row : Transaction) :
    (s.apply (.append row)).completed k account =
      s.completed k account + row.completed k account := by
  simp [completed, apply]

/-- A list of rows with distinct ids, of which one gets a new state. -/
theorem sum_restate {rows : List Transaction} (hn : (rows.map (·.id)).Nodup) {row : Transaction}
    (hrow : row ∈ rows) (status : String) (time : Option Moment) (f : Transaction → Int) :
    ((rows.map (restate row.id status time)).map f).sum =
      (rows.map f).sum - f row + f (restate row.id status time row) := by
  induction rows with
  | nil => cases hrow
  | cons t ts ih =>
      rw [List.map_cons, List.nodup_cons] at hn
      simp only [List.map_cons, List.sum_cons]
      rcases List.mem_cons.mp hrow with rfl | hrow
      · -- no other row has the id
        have hrest : ts.map (restate row.id status time) = ts := by
          refine (List.map_congr_left fun t' ht' => ?_).trans (List.map_id ts)
          refine if_neg fun hid => hn.1 ?_
          rw [← hid]
          exact List.mem_map_of_mem ht'
        rw [hrest]
        omega
      · have hother : restate row.id status time t = t := by
          refine if_neg fun hid => hn.1 ?_
          rw [hid]
          exact List.mem_map_of_mem hrow
        rw [hother, ih hn.2 hrow]
        omega

theorem completed_status {s : Store} (hl : s.Lawful) {id : Int} {row : Transaction}
    (found : s.transaction? id = some row) (status : String) (time : Option Moment) :
    (s.apply (.status id status time)).completed k account =
      s.completed k account - row.completed k account +
        (restate id status time row).completed k account := by
  obtain rfl := id_of_transaction? found
  exact sum_restate hl.log (mem_of_transaction? found) status time _

end Store

/-- A pending row counts as nothing. -/
theorem Transaction.IsPending.completed_eq {t : Transaction} (h : t.IsPending) (k : Kind)
    (account : Int) : t.completed k account = 0 :=
  if_neg fun hc => Transaction.not_isPending hc.2.2 h

/-- The settlement of a pending top-up counts if it is an approval. -/
theorem Store.completed_settle {s : Store} (hl : s.Lawful) {id : Int} {row : Transaction}
    (found : s.transaction? id = some row) (pending : row.IsPending) (new : Status)
    (time : Option Moment) (k : Kind) (account : Int) :
    (s.apply (.status id new.text time)).completed k account =
      s.completed k account +
        if row.account = account ∧ k = .topup ∧ new = .completed then row.amount else 0 := by
  have hrow : (restate id new.text time row).completed k account =
      if row.account = account ∧ k = .topup ∧ new = .completed then row.amount else 0 := by
    simp only [restate, id_of_transaction? found, if_true, Transaction.completed, pending.1,
      Kind.text_inj, Status.text_inj, eq_comm (a := Kind.topup)]
  rw [completed_status k account hl found, pending.completed_eq, hrow, Int.sub_zero]

/-! ## Every deed -/

/-- The balance of an account is `base` plus what the log says was topped up, minus what it says
was spent. -/
def Store.Balances (s : Store) (account base : Int) : Prop :=
  s.balance? account =
    some (base + s.completed .topup account - s.completed .purchase account)

/-- No balance of an account is negative. -/
def Store.Solvent (s : Store) (account : Int) : Prop :=
  ∀ b, s.balance? account = some b → 0 ≤ b

/-- Each deed changes the balance and the log by the same credits. -/
theorem Deed.balances {s : Store} {w : List Write} (h : Deed s w) (hl : s.Lawful)
    {account base : Int} (hb : s.Balances account base) :
    (s.applyAll w).Balances account base := by
  unfold Store.Balances at hb ⊢
  cases h with
  | nothing => exact hb
  | @sale now a item id own held offered forSale funds covered =>
      simp only [saleWrites, Store.applyAll_cons, Store.applyAll_nil, Store.balance?_own,
        Store.balance?_append, Store.balance?_changeBalance, Store.completed_own,
        Store.completed_append, Store.completed_balance, hb]
      by_cases ha : account = a
      · subst ha
        simp [Transaction.completed, Draft.row, Journal.purchaseDraft]
        omega
      · simp [Transaction.completed, Draft.row, Journal.purchaseDraft, ha, Ne.symm ha]
  | note offered forSale =>
      simp [noteWrites, hb, Transaction.completed, Draft.row, Journal.purchaseDraft]
  | request positive =>
      simp [hb, Transaction.completed, Draft.row, Journal.topUpDraft]
  | @approval now id held row found pending positive funds =>
      simp only [approvalWrites, Store.applyAll_cons, Store.applyAll_nil,
        Store.balance?_changeBalance, Store.balance?_status, Store.completed_balance,
        Store.completed_settle hl found pending, hb]
      by_cases ha : account = row.account
      · subst ha
        simp
        omega
      · simp [ha, Ne.symm ha]
  | rejection found pending =>
      simp [Store.completed_settle hl found pending, hb]

/-- A change of a balance that leaves it covered. -/
theorem Store.Solvent.balance {s : Store} {account a held change : Int} (hs : s.Solvent account)
    (present : s.balance? a = some held) (hchange : 0 ≤ held → 0 ≤ held + change) :
    (s.apply (.balance a change)).Solvent account := by
  intro b hb
  rw [Store.balance?_changeBalance] at hb
  by_cases ha : account = a
  · subst ha
    rw [if_pos rfl, present] at hb
    obtain rfl := Option.some.inj hb
    exact hchange (hs held present)
  · rw [if_neg ha] at hb
    exact hs b hb

/-- A sale is covered, and all else that a deed does to a balance is to raise it. -/
theorem Deed.solvent {s : Store} {w : List Write} (h : Deed s w) {account : Int}
    (hs : s.Solvent account) : (s.applyAll w).Solvent account := by
  cases h with
  | nothing => exact hs
  | sale offered forSale funds covered => exact hs.balance funds (by omega)
  | note offered forSale => exact hs
  | request positive => exact hs
  | approval found pending positive funds => exact hs.balance funds (by omega)
  | rejection found pending => exact hs

/-- The words of the log stay known. -/
theorem Deed.worded {s : Store} {w : List Write} (h : Deed s w) {account : Int}
    (hw : ∀ t ∈ s.transactions, t.account = account → t.IsWorded) :
    ∀ t ∈ (s.applyAll w).transactions, t.account = account → t.IsWorded := by
  have appended : ∀ row : Transaction, row.IsWorded →
      ∀ t ∈ s.transactions ++ [row], t.account = account → t.IsWorded := by
    intro row hrow t ht ha
    rcases List.mem_append.mp ht with ht | ht
    · exact hw t ht ha
    · rw [List.mem_singleton.mp ht]
      exact hrow
  have restated : ∀ (id : Int) (new : Status) (time : Option Moment),
      ∀ t ∈ s.transactions.map (Store.restate id new.text time),
        t.account = account → t.IsWorded := by
    intro id new time t ht ha
    obtain ⟨old, hold, rfl⟩ := List.mem_map.mp ht
    unfold Store.restate at ha ⊢
    split
    · rename_i hid
      rw [if_pos hid] at ha
      exact ⟨(hw old hold ha).1, new, rfl⟩
    · rename_i hid
      rw [if_neg hid] at ha
      exact hw old hold ha
  cases h with
  | nothing => exact hw
  | sale offered forSale funds covered => exact appended _ ⟨⟨.purchase, rfl⟩, .completed, rfl⟩
  | note offered forSale => exact appended _ ⟨⟨.purchase, rfl⟩, .failed, rfl⟩
  | request positive => exact appended _ ⟨⟨.topup, rfl⟩, .pending, rfl⟩
  | @approval now id held row found pending positive funds =>
      exact restated id .completed (some now)
  | @rejection now id row found pending => exact restated id .failed (some now)

/-! ## Whole runs -/

theorem kept_balances (account base : Int) : Kept fun s => s.Balances account base where
  deed := fun _ _ h hl hd _ => hd.balances hl h
  catalog := fun _ _ h => h

theorem kept_solvent (account : Int) : Kept fun s => s.Solvent account where
  deed := fun _ _ h _ hd _ => hd.solvent h
  catalog := fun _ _ h => h

theorem kept_worded (account : Int) :
    Kept fun s => ∀ t ∈ s.transactions, t.account = account → t.IsWorded where
  deed := fun _ _ h _ hd _ => hd.worded h
  catalog := fun _ _ h => h

/-- **Conservation of credits.** Over any run the balance of an account changes by what the
totals of its statistics say, and it does not become negative. -/
theorem conservation_of_credits {l : Ledger} {es : List Event} (hl : l.store.Lawful)
    (hes : ∀ e ∈ es, e.isOffered = true) {account b : Int}
    (hb : l.store.balance? account = some b) (now now' : DateTime) :
    ∃ b', (l.afterAll es).store.balance? account = some b' ∧ (0 ≤ b → 0 ≤ b') ∧
      ∀ r, l.report account now = .ok r →
        ∃ r', (l.afterAll es).report account now' = .ok r' ∧
          b' = b + (r'.toppedUp - r.toppedUp) - (r'.spent - r.spent) := by
  -- `base` is what the log does not account for, and no deed changes it
  set base := b - l.store.completed .topup account + l.store.completed .purchase account
  have hbase : l.store.Balances account base := by
    rw [Store.Balances, hb, Option.some.injEq]
    omega
  have hafter := (Ledger.keep_afterAll (kept_balances account base) hes hl hbase).2
  refine ⟨_, hafter, ?_, ?_⟩
  · intro h
    have hsolvent : l.store.Solvent account := by
      intro b' hb'
      rw [hb, Option.some.injEq] at hb'
      omega
    exact (Ledger.keep_afterAll (kept_solvent account) hes hl hsolvent).2 _ hafter
  · intro r hr
    obtain ⟨r', hr'⟩ := Ledger.report_isOk.mpr
      (Ledger.keep_afterAll (kept_worded account) hes hl (Ledger.report_isOk.mp ⟨r, hr⟩)).2
    refine ⟨r', hr', ?_⟩
    rw [(Ledger.report_totals hr).1, (Ledger.report_totals hr).2, (Ledger.report_totals hr').1,
      (Ledger.report_totals hr').2]
    omega

theorem conservation_of_credits_day :
    Ledger.kiosk.store.Lawful ∧ (∀ e ∈ Event.day, e.isOffered = true) ∧
      Ledger.kiosk.store.balance? 1 = some 10 ∧
      (Ledger.kiosk.afterAll Event.day).store.balance? 1 = some 3 ∧
      ∃ r r', Ledger.kiosk.report 1 (.bare 0) = .ok r ∧
        (Ledger.kiosk.afterAll Event.day).report 1 (.bare 0) = .ok r' ∧
        3 = 10 + (r'.toppedUp - r.toppedUp) - (r'.spent - r.spent) := by
  have hl : Ledger.kiosk.store.Lawful := by decide
  have hes : ∀ e ∈ Event.day, e.isOffered = true := by decide
  have hb : Ledger.kiosk.store.balance? 1 = some 10 := by decide
  have hafter : (Ledger.kiosk.afterAll Event.day).store.balance? 1 = some 3 := by decide +kernel
  obtain ⟨b', hb', -, hreport⟩ := conservation_of_credits hl hes hb (.bare 0) (.bare 0)
  obtain ⟨r, hr⟩ : ∃ r, Ledger.kiosk.report 1 (.bare 0) = .ok r := by
    refine Ledger.report_isOk.mpr fun t ht _ => ?_
    rw [List.mem_singleton.mp ht]
    exact ⟨⟨.topup, rfl⟩, .pending, rfl⟩
  obtain ⟨r', hr', hsum⟩ := hreport r hr
  obtain rfl : b' = 3 := Option.some.inj (hb'.symm.trans hafter)
  exact ⟨hl, hes, hb, hafter, r, r', hr, hr', hsum⟩

end Scrip
