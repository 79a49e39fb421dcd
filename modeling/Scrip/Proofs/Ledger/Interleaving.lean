import Scrip.Proofs.Ledger.Conservation
import Scrip.Proofs.Ledger.Ownership
import Scrip.Proofs.Work.Crew
set_option autoImplicit false

/-! # Interleaved operations

Several workers may carry out any operations at the same time, and their statements may take
turns in any order. Since all that gets committed is one deed after another, the balances and
the ownerships are as safe as if the operations had come one by one, and no top-up is credited
twice: its approval finds it pending and leaves it completed.
-/

namespace Scrip

/-! ## What is new in the log -/

/-- What the transactions of a kind and an account that have been completed since add up to:
rows of the later store that the earlier one does not have as they are. -/
def Store.newly (s s' : Store) (k : Kind) (account : Int) : Int :=
  ((s'.transactions.filter fun t => decide (t ∉ s.transactions)).map
    (Transaction.completed k account)).sum

namespace LogGrows

variable {ts ts' : List Transaction}

theorem ids (h : LogGrows ts ts') : ts.map (·.id) <+: ts'.map (·.id) := by
  induction h with
  | new added => exact List.nil_prefix
  | old row _ ih =>
      rw [List.map_cons, List.map_cons, row.id_eq]
      exact (List.prefix_cons_inj _).mpr ih

/-- Rows that have not changed cancel out. -/
theorem sum_new (h : LogGrows ts ts') (hn : (ts'.map (·.id)).Nodup) (f : Transaction → Int)
    (hf : ∀ t, t.IsPending → f t = 0) :
    (ts'.map f).sum =
      (ts.map f).sum + ((ts'.filter fun t => decide (t ∉ ts)).map f).sum := by
  induction h with
  | new added => simp
  | @old t t' ts ts' row rest ih =>
      rw [List.map_cons, List.nodup_cons] at hn
      obtain ⟨hnew, hn⟩ := hn
      have hrest : (ts'.filter fun x => decide (x ∉ t :: ts)) =
          ts'.filter fun x => decide (x ∉ ts) := by
        refine List.filter_congr fun x hx => ?_
        have hne : x ≠ t := by
          rintro rfl
          exact hnew (row.id_eq ▸ List.mem_map_of_mem hx)
        simp [hne]
      have hout : t' ∉ ts := fun ht =>
        hnew (rest.ids.subset (List.mem_map_of_mem ht))
      rcases row with rfl | ⟨hpending, s, time, hs, rfl⟩
      · -- the row is still there as it was, and counts on both sides
        rw [List.filter_cons_of_neg (by simp), hrest, List.map_cons, List.map_cons, List.sum_cons,
          List.sum_cons, ih hn]
        omega
      · -- the row is new as it is, and counted as nothing while it was pending
        have hne : { t with status := s.text, updatedAt := time } ≠ t := by
          intro h
          have hst : s.text = t.status := congrArg Transaction.status h
          exact hs (Status.text_inj.mp (hst.trans hpending.2))
        rw [List.filter_cons_of_pos (by simp [hne, hout]), hrest, List.map_cons, List.map_cons,
          List.map_cons, List.sum_cons, List.sum_cons, List.sum_cons, ih hn, hf t hpending]
        omega

end LogGrows

theorem Store.completed_newly {s s' : Store} (h : s.Grows s') (hl : s'.Lawful) (k : Kind)
    (account : Int) : s'.completed k account = s.completed k account + s.newly s' k account :=
  h.log.sum_new hl.log _ fun _ ht => ht.completed_eq k account

/-! ## Credits for top-ups -/

/-- Whether some writes complete a transaction. -/
def approves (id : Int) (ws : List Write) : Bool :=
  ws.any fun
    | .status i status _ => i == id && status == Status.completed.text
    | _ => false

/-- A deed that completes a transaction is the approval of a pending top-up. -/
theorem Deed.eq_of_approves {s : Store} {w : List Write} (h : Deed s w) {id : Int}
    (ha : approves id w = true) :
    ∃ now row, w = approvalWrites now id row ∧ s.transaction? id = some row ∧ row.IsPending := by
  cases h with
  | nothing => cases ha
  | sale offered forSale funds covered => cases ha
  | note offered forSale => cases ha
  | request positive => cases ha
  | @approval now i held row found pending positive funds =>
      obtain rfl : i = id := by simpa [approves, approvalWrites] using ha
      exact ⟨now, row, rfl, found, pending⟩
  | rejection found pending =>
      have hword : Status.failed.text = Status.completed.text := by
        simp only [approves, List.any_cons, List.any_nil, Bool.or_false, Bool.and_eq_true,
          beq_iff_eq] at ha
        exact ha.2
      exact absurd hword (by decide)

/-- A deed that raises a balance is the approval of a pending top-up. -/
theorem Deed.eq_of_raise {s : Store} {w : List Write} (h : Deed s w) {account n : Int}
    (hw : .balance account n ∈ w) (hn : 0 < n) :
    ∃ now id row, w = approvalWrites now id row ∧ s.transaction? id = some row ∧
      row.IsPending ∧ row.account = account ∧ row.amount = n := by
  cases h with
  | nothing => cases hw
  | sale offered forSale funds covered =>
      have hprice := Item.price_pos forSale
      simp only [saleWrites, List.mem_cons, Write.balance.injEq, reduceCtorEq, List.not_mem_nil,
        or_false] at hw
      omega
  | note offered forSale => simp [noteWrites] at hw
  | request positive => simp at hw
  | @approval now id held row found pending positive funds =>
      obtain ⟨rfl, rfl⟩ : account = row.account ∧ n = row.amount := by
        simpa [approvalWrites] using hw
      exact ⟨now, id, row, rfl, found, pending, rfl, rfl⟩
  | rejection found pending => simp at hw

/-- The row of a top-up after its approval. -/
theorem Store.transaction?_approval {s : Store} {id : Int} {row : Transaction}
    (found : s.transaction? id = some row) (now : Moment) :
    (s.applyAll (approvalWrites now id row)).transaction? id =
      some { row with status := Status.completed.text, updatedAt := some now } := by
  simp only [approvalWrites, applyAll_cons, applyAll_nil, transaction?_changeBalance,
    transaction?_status, found, Option.map_some, restate, id_of_transaction? found, if_true]
  rfl

/-- A row that is not pending stays as it is. -/
theorem Store.Grows.transaction?_of_settled {s s' : Store} (h : s.Grows s') {id : Int}
    {t : Transaction} (ht : s.transaction? id = some t) (hsettled : ¬ t.IsPending) :
    s'.transaction? id = some t := by
  obtain ⟨t', ht', hsame | ⟨hpending, -⟩⟩ := h.transaction? ht
  · rw [ht', hsame]
  · exact absurd hpending hsettled

namespace Deeds

variable {s s' : Store} {ds : List (Store × List Write)} {id : Int}

/-- A transaction that is not pending is not completed any more. -/
theorem never_approves (h : Deeds s ds s') (hl : s.Lawful) {t : Transaction}
    (ht : s.transaction? id = some t) (hsettled : ¬ t.IsPending) :
    (ds.map Prod.snd).countP (approves id) = 0 := by
  induction h with
  | none s => rfl
  | @first s s' w ds deed fits rest ih =>
      have hno : ¬ approves id w = true := by
        intro ha
        obtain ⟨now, row, -, found, pending⟩ := deed.eq_of_approves ha
        obtain rfl := Option.some.inj (ht.symm.trans found)
        exact hsettled pending
      rw [List.map_cons, List.countP_cons_of_neg hno]
      exact ih (fits.lawful hl) ((deed.grows hl).transaction?_of_settled ht hsettled)

/-- A transaction is completed at most once. -/
theorem approves_once (h : Deeds s ds s') (hl : s.Lawful) :
    (ds.map Prod.snd).countP (approves id) ≤ 1 := by
  induction h with
  | none s => exact Nat.zero_le 1
  | @first s s' w ds deed fits rest ih =>
      by_cases ha : approves id w = true
      · obtain ⟨now, row, rfl, found, pending⟩ := deed.eq_of_approves ha
        have hrest := rest.never_approves (fits.lawful hl)
          (Store.transaction?_approval found now) (Transaction.not_isPending rfl)
        rw [List.map_cons, List.countP_cons_of_pos ha]
        omega
      · rw [List.map_cons, List.countP_cons_of_neg ha]
        exact ih (fits.lawful hl)

/-- Credits come from approvals only, and the top-up is completed in the end. -/
theorem credit_of_raise (h : Deeds s ds s') (hl : s.Lawful) {w : List Write}
    (hw : w ∈ ds.map Prod.snd) {account n : Int} (hb : .balance account n ∈ w) (hn : 0 < n) :
    ∃ now id row, w = approvalWrites now id row ∧ s'.transaction? id = some row ∧
      row.kind = Kind.topup.text ∧ row.status = Status.completed.text ∧
      row.account = account ∧ row.amount = n := by
  induction h with
  | none s => cases hw
  | @first s s' w' ds deed fits rest ih =>
      rcases List.mem_cons.mp hw with rfl | hw
      · obtain ⟨now, id, row, rfl, found, pending, haccount, hamount⟩ := deed.eq_of_raise hb hn
        have hlast := (rest.grows (fits.lawful hl)).transaction?_of_settled
          (Store.transaction?_approval found now) (Transaction.not_isPending rfl)
        exact ⟨now, id, { row with status := Status.completed.text, updatedAt := some now }, rfl,
          hlast, pending.1, rfl, haccount, hamount⟩
      · exact ih (fits.lawful hl) hw

end Deeds

/-! ## Any interleaving -/

/-- **Operations may interleave.** In every store that a crew has committed: balances that were
not negative are not; each balance is what it was at first, plus the top-ups and minus the
purchases that have been completed since; nobody owns an item twice, and if ownerships and
completed purchases correspond one to one at first, they still do, so nobody has bought an item
twice; whatever was credited belongs to a completed top-up of that account and amount, and no
top-up was completed, and so credited, more than once. -/
theorem interleaved_operations_are_safe {origin : Store} {c : Crew} (hl : origin.Lawful)
    (h : Crew.Reaches (.idle origin) c) :
    (∀ account, origin.Solvent account → c.store.Solvent account) ∧
    (∀ account b, origin.balance? account = some b →
      c.store.balance? account = some (b + origin.newly c.store .topup account -
        origin.newly c.store .purchase account)) ∧
    (c.store.ownerships.map fun o => (o.account, o.item)).Nodup ∧
    (origin.Matched → c.store.Matched) ∧
    (∀ w ∈ c.log, ∀ account n, .balance account n ∈ w → 0 < n →
      ∃ now id row, w = approvalWrites now id row ∧ c.store.transaction? id = some row ∧
        row.kind = Kind.topup.text ∧ row.status = Status.completed.text ∧
        row.account = account ∧ row.amount = n) ∧
    (∀ id, c.log.countP (approves id) ≤ 1) := by
  obtain ⟨hsound, rfl⟩ := Crew.sound_reaches hl h
  obtain ⟨ds, hlog, hdeeds⟩ := hsound.log
  rw [← hlog]
  refine ⟨?_, ?_, hsound.lawful.pairs, ?_, ?_, ?_⟩
  · intro account hs
    exact (hdeeds.keep (kept_solvent account).deed hl hs).2
  · intro account b hb
    -- `base` is what the log does not account for, and no deed changes it
    set base := b - c.origin.completed .topup account + c.origin.completed .purchase account
    have hbase : c.origin.Balances account base := by
      rw [Store.Balances, hb, Option.some.injEq]
      omega
    have hafter := (hdeeds.keep (kept_balances account base).deed hl hbase).2
    have hnewly := fun k => Store.completed_newly (hdeeds.grows hl) hsound.lawful k account
    rw [hafter, Option.some.injEq, hnewly, hnewly]
    omega
  · intro hm
    have hpaired := (hdeeds.keep kept_paired.deed hl ((Store.matched_iff hl).mp hm)).2
    exact (Store.matched_iff hsound.lawful).mpr hpaired
  · intro w hw account n hb hn
    exact hdeeds.credit_of_raise hl hw hb hn
  · intro id
    exact hdeeds.approves_once hl

/-- Two workers approve the same top-up, and a third one sells an item. -/
def Crew.busy : Crew :=
  { idle Ledger.kiosk.store with
    jobs :=
      [⟨Operation.whole {} 0 (.settle 1 true), []⟩, ⟨Operation.whole {} 0 (.settle 1 true), []⟩,
        ⟨Operation.whole {} 0 (.purchase 1 7), []⟩] }

/-- Turns in which all of them have read before any of them writes. -/
def Crew.busyTurns : List Nat :=
  [0, 1, 2, 0, 1, 2, 0, 1, 2, 0, 2, 0, 0, 1, 2, 0, 1, 2, 0, 1, 2, 2, 2, 2]

theorem interleaved_operations_are_safe_busy :
    Ledger.kiosk.store.Lawful ∧ ∃ c, Crew.Reaches (.idle Ledger.kiosk.store) c ∧
      c.log.length = 3 ∧ c.store.balance? 1 = some 11 ∧ c.store.Solvent 1 ∧ c.store.Matched ∧
      ∀ id, c.log.countP (approves id) ≤ 1 := by
  have hl : Ledger.kiosk.store.Lawful := by decide
  have hs : Ledger.kiosk.store.Solvent 1 := by
    intro b hb
    have hten : Ledger.kiosk.store.balance? 1 = some 10 := by decide
    rw [hten, Option.some.injEq] at hb
    omega
  have hbusy : Crew.Reaches (.idle Ledger.kiosk.store) Crew.busy :=
    (((Crew.Reaches.refl _).next (.begin {} 0 (.settle 1 true) rfl)).next
      (.begin {} 0 (.settle 1 true) rfl)).next (.begin {} 0 (.purchase 1 7) rfl)
  have hturns : (Crew.busy.turns? Crew.busyTurns).map
      (fun c => (c.log.length, c.store.balance? 1)) = some (3, some 11) := by decide +kernel
  obtain ⟨c, hc, heq⟩ := Option.map_eq_some_iff.mp hturns
  obtain ⟨hlength, hbalance⟩ := Prod.mk.inj heq
  have hreaches := Crew.reaches_of_turns? hbusy hc
  obtain ⟨hsolvent, -, -, hmatched, -, honce⟩ := interleaved_operations_are_safe hl hreaches
  exact ⟨hl, c, hreaches, hlength, hbalance, hsolvent 1 hs, hmatched (by decide +kernel), honce⟩

end Scrip
