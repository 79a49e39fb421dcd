import Scrip.Proofs.History.Totals
import Scrip.Proofs.Http.Texts
import Scrip.Proofs.Ledger.WellFormed
import Scrip.Proofs.Request.Body
import Scrip.Proofs.Work.Struck
set_option autoImplicit false

/-! # The log stays well formed

Whatever is requested and whatever fails, a ledger that has only well-formed rows never gets another
one. The columns of a top-up come from the body of its request, the settings and the rules for
money; those of a purchase from an item that is for sale. Since the words of well-formed rows are
known, histories and statistics can always be read.
-/

namespace Scrip

open Script

variable {settings : Settings} {now : Moment}

/-! ## Purchases -/

namespace Checkout

variable {account id : Int} {item : Item}

theorem wellFormed_purchase (hsale : item.isForSale = true) (account id : Int) (status : Status)
    (note : Option String) (hstatus : (status = .completed ∧ note = none) ∨
      (status = .failed ∧ note ≠ none)) (now : Moment) :
    ((Journal.purchaseDraft account item.id item.price status note now).row id).IsWellFormed where
  amount := Item.price_pos hsale
  columns := by
    refine Or.inr ⟨rfl, ?_, Option.some_ne_none item.id, ?_⟩
    · rcases hstatus with ⟨rfl, -⟩ | ⟨rfl, -⟩
      · exact Or.inl rfl
      · exact Or.inr rfl
    · rcases hstatus with ⟨rfl, hnote⟩ | ⟨rfl, hnote⟩
      · exact ⟨fun h => absurd hnote h, fun h => absurd h (by decide : "completed" ≠ "failed")⟩
      · exact ⟨fun _ => rfl, fun _ => hnote⟩

theorem proper_entitle (account : Int) (item : Item) (t : Transaction) :
    (entitle account item t).Asks Statement.IsProper := by
  refine asks_bind (asks_attempt (asks_bind (asks_exec trivial) fun _ => ?_)) ?_
  · exact asks_bind (Credits.asks_balance trivial) fun _ =>
      asks_bind (asks_exec trivial) fun _ => asks_done _
  · rintro (e | left) <;> exact asks_done _

theorem proper_write (hsale : item.isForSale = true) (now : Moment) (account : Int) :
    (write now account item).Asks Statement.IsProper := by
  refine asks_bind (asks_attempt (Credits.asks_deduct trivial trivial)) ?_
  rintro (e | _ | _)
  · exact asks_done _
  · refine asks_bind (asks_attempt (asks_bind (asks_exec trivial) fun _ =>
      Credits.asks_balance trivial)) ?_
    rintro (e | available) <;> exact asks_done _
  · have hrow : Statement.IsProper (.append
        (Journal.purchaseDraft account item.id item.price .completed none now)) := fun id =>
      wellFormed_purchase hsale account id .completed none (Or.inl ⟨rfl, rfl⟩) now
    refine asks_bind (asks_attempt (asks_exec hrow)) ?_
    rintro (e | t)
    · exact asks_done _
    · exact proper_entitle account item t

theorem proper_giveUp (hsale : item.isForSale = true) (now : Moment) (account : Int)
    (stage : Purchase.Stage) (e : Failure) :
    (giveUp now account item stage e).Asks Statement.IsProper := by
  have hrow : Statement.IsProper (.append (Journal.purchaseDraft account item.id item.price
      .failed (some (failureNote stage e)) now)) := fun id =>
    wellFormed_purchase hsale account id .failed _ (Or.inr ⟨rfl, Option.some_ne_none _⟩) now
  refine asks_bind (asks_attempt (asks_bind (asks_exec hrow) fun _ => asks_exec trivial)) ?_
  rintro (e' | _)
  · dsimp only
    split
    · exact asks_done _
    · exact asks_bind (asks_exec trivial) fun _ => asks_done _
  · exact asks_done _

/-- The note of a failed purchase is well formed too. -/
theorem proper_recover (hsale : item.isForSale = true) (now : Moment) (account : Int)
    (stage : Purchase.Stage) (e : Failure) :
    (recover now account item stage e).Asks Statement.IsProper := by
  have hcompensate : compensate.Asks Statement.IsProper := by
    refine asks_bind (asks_attempt (asks_exec trivial)) ?_
    rintro (e' | _)
    · dsimp only
      split
      · exact asks_exec trivial
      · exact asks_done _
    · exact asks_done _
  unfold recover
  split
  · exact asks_done _
  · refine asks_bind hcompensate fun _ => ?_
    split
    · exact asks_done _
    · exact proper_giveUp hsale now account stage e

/-- What a purchase appends has a positive price, because the item is for sale. -/
theorem proper_purchase (now : Moment) (account id : Int) :
    (purchase now account id).Asks Statement.IsProper := by
  refine asks_unitOfWork (fun q hq => hq.isProper) ?_
  refine asks_bind (asks_exec trivial) fun found =>
    asks_bind (Credits.asks_lockBalance trivial) fun balance =>
      asks_bind (asks_exec trivial) fun owned => ?_
  cases hchoice : choose id found owned balance with
  | error d => exact asks_bind (asks_exec trivial) fun _ => asks_done _
  | ok item =>
      obtain ⟨-, hsale, -⟩ := choose_eq_ok hchoice
      refine asks_bind (proper_write hsale now account) ?_
      rintro (⟨stage, e⟩ | outcome)
      · exact proper_recover hsale now account stage e
      · exact asks_done _

end Checkout

/-! ## Top-ups -/

namespace TopUps

/-- A request with a proper method records a well-formed row, as long as the minimum is at least
one unit of currency. -/
theorem proper_request (hmin : 1 ≤ settings.minimumTopupAmount) {method : String}
    (hmethod : method ≠ "" ∧ Blank.trimText method = method) (now : Moment) (account : Int)
    (amount : Amount) (reference : Option String) :
    (request settings now account amount method reference).Asks Statement.IsProper := by
  refine asks_bind_done fun q hquote => ?_
  obtain ⟨cents, credits⟩ := q
  obtain ⟨-, hcents, -, hcredits⟩ := quote_eq_ok_iff.mp hquote
  -- the quote has checked the amount and the cents, the body the method
  have hrow : Statement.IsProper (.append
      (Journal.topUpDraft account credits cents method reference now)) := by
    refine fun id => ⟨hcredits, Or.inl ?_⟩
    exact
      { kind := rfl
        status := ⟨.pending, rfl⟩
        item := rfl
        note := rfl
        cents := ⟨cents, rfl, by omega⟩
        method := ⟨method, rfl, hmethod⟩
        updated := ⟨fun _ => rfl, fun _ => rfl⟩ }
  exact asks_bind (asks_exec hrow) fun _ => asks_bind (asks_exec trivial) fun _ => asks_done _

/-- A settlement changes a row only from pending. -/
theorem proper_settle (now : Moment) (id : Int) (approved : Bool) :
    (settle now id approved).Asks Statement.IsProper := by
  have hget : ∀ lock, (Journal.get id lock).Asks Statement.IsProper := fun lock =>
    (Journal.reads_get id lock).mono fun _ hq => Statement.IsQuiet.isProper (Or.inl hq)
  have hupdate : (Journal.updateStatus id (verdict approved) now).Asks Statement.IsProper := by
    refine asks_bind (hget true) fun row => ?_
    refine asks_bind_done fun current _ => asks_bind_done fun kind _ => asks_bind_done ?_
    intro _ hmove
    -- the rule for moves lets only pending rows be settled
    obtain ⟨-, rfl, hnew⟩ := Status.requireMove_eq_ok (Failure.mapError_eq_ok.mp hmove)
    have hsettle : Statement.IsProper (.settle id Status.pending.text
        (verdict approved).text now) := by
      refine ⟨rfl, ?_⟩
      cases approved with
      | true => exact Or.inl rfl
      | false => exact Or.inr rfl
    refine asks_bind (asks_exec hsettle) fun moved => ?_
    split <;> exact asks_done _
  refine asks_bind (hget false) fun located => asks_bind hupdate fun row => ?_
  have hcommit : (do
      exec .commit
      return row : Script Transaction).Asks Statement.IsProper :=
    asks_bind (asks_exec trivial) fun _ => asks_done _
  cases approved with
  | true =>
      refine asks_bind (asks_bind (asks_exec trivial) fun done => ?_) fun _ => hcommit
      split <;> exact asks_done _
  | false => exact hcommit

end TopUps

/-! ## Requests -/

namespace Http

variable {request : Request}

theorem proper_handle (hmin : 1 ≤ settings.minimumTopupAmount) (route : Route) :
    (handle settings now request route).Asks Statement.IsProper := by
  have hquiet : ∀ q : Statement, q.IsQuiet → q.IsProper := fun _ hq => hq.isProper
  cases route with
  | topUp =>
      refine asks_withBody fun body => asks_forCaller hquiet fun caller => ?_
      refine asks_withData fun data hdata => ?_
      obtain ⟨fields, -, hfields⟩ := Data.ofBody_eq_ok.mp hdata
      have hmethod := TopUpRequest.method_of_ofFields hfields
      exact asks_bind (TopUps.proper_request hmin hmethod now caller.account _ _) fun _ =>
        asks_done _
  | purchase item =>
      refine asks_forCaller hquiet fun caller => asks_withData fun id _ => ?_
      refine asks_bind (Checkout.proper_purchase now caller.account id) ?_
      rintro (⟨i, t, left⟩ | d) <;> exact asks_done _
  | settle transaction =>
      refine asks_withBody fun body => asks_bind (asks_done _) fun _ => ?_
      refine asks_unitOfWork hquiet (asks_withData fun data _ => ?_)
      exact asks_bind (TopUps.proper_settle now data.1 data.2) fun _ => asks_done _
  | _ =>
      -- no other route appends a row or settles one
      exact asks_handle hquiet rfl

theorem proper_serve (hmin : 1 ≤ settings.minimumTopupAmount) :
    (serve settings now request).Asks Statement.IsProper :=
  asks_serve (proper_handle hmin)

end Http

/-! ## Runs -/

namespace Ledger

def visit (l : Ledger) : Http.Visit → Ledger
  | .request faults request => (l.serve (.failing faults) request).2
  | .edit item change => (l.editItem item change).2
  | .clock now => l.setClock now

def visitAll (l : Ledger) (visits : List Http.Visit) : Ledger := visits.foldl visit l

/-- What a run relies on and keeps: constraints, well-formed rows, and a minimum for top-ups. -/
structure IsSound (l : Ledger) : Prop where
  lawful : l.store.Lawful
  rows : l.store.IsWellFormed
  minimum : 1 ≤ l.settings.minimumTopupAmount

theorem IsSound.visit {l : Ledger} (h : l.IsSound) (v : Http.Visit) : (l.visit v).IsSound := by
  cases v with
  | request faults request =>
      obtain ⟨hl, hw⟩ := wellFormed_run (f := faults) (Http.proper_serve h.minimum) h.lawful h.rows
      exact ⟨hl, hw, h.minimum⟩
  | edit item change => exact ⟨⟨h.lawful.log, h.lawful.pairs, h.lawful.payments⟩, h.rows, h.minimum⟩
  | clock now => exact ⟨h.lawful, h.rows, h.minimum⟩

theorem IsSound.visitAll {l : Ledger} (h : l.IsSound) (visits : List Http.Visit) :
    (l.visitAll visits).IsSound := by
  induction visits generalizing l with
  | nil => exact h
  | cons v visits ih => exact ih (h.visit v)

/-! ## Reading -/

/-- A script that asks for one statement yields a result, unless a fault strikes the statement. -/
def Yields {α : Type} (l : Ledger) (p : Script α) (q : Statement) (a : α) : Prop :=
  ∀ f : Faults, (l.run (.failing f) p).1 =
    match f.strike? [] q with
    | some e => .error e
    | none => .ok a

/-- What can be read about an account, whatever its history is. -/
structure Readable (l : Ledger) (account : Int) : Prop where
  history : ∀ limit, ∃ records,
    l.Yields (Journal.history account limit) (.history account limit) records
  stats : ∀ now, ∃ stats, l.Yields (Journal.stats account now) (.history account none) stats
  counts : ∃ counts, l.Yields Journal.purchaseCounts .tallies counts

variable {l : Ledger}

theorem yields_read {q : Statement} {reply : q.Reply} (hq : q.isReading = true)
    (h : q.answer l.store = .ok (reply, [])) : l.Yields (exec q) q reply :=
  fun _ => (comes_read hq h (Session.start l.store) rfl rfl).1

/-- What is made of the result of a script without a further statement. -/
theorem Yields.bind_done {α β : Type} {p : Script α} {q : Statement} {a : α} {b : β}
    {k : α → Script β} (h : l.Yields p q a) (hk : k a = done (.ok b)) : l.Yields (p >>= k) q b := by
  intro f
  have hp := h f
  unfold Ledger.run at hp ⊢
  rw [run_bind]
  cases hstrike : f.strike? [] q with
  | some e =>
      rw [hstrike] at hp
      rcases hrun : p.run (.failing f) (Session.start l.store) with ⟨r, st⟩
      rw [hrun] at hp
      obtain rfl : r = .error e := hp
      rfl
  | none =>
      rw [hstrike] at hp
      rcases hrun : p.run (.failing f) (Session.start l.store) with ⟨r, st⟩
      rw [hrun] at hp
      obtain rfl : r = .ok a := hp
      simp only [hk]
      rfl

/-- The rows of a listing are rows of the log. -/
theorem mem_of_mem_history {s : Store} {account : Int} {limit : Option Int}
    {row : Transaction × Option String} (h : row ∈ s.history account limit) :
    row.1 ∈ s.transactions := by
  have hall : row ∈ s.history account none := by
    unfold Store.history Store.upTo at h
    dsimp only at h
    split at h
    · exact h
    · split at h
      · exact h
      · exact List.mem_of_mem_take h
  exact (Store.mem_history.mp hall).1

theorem isWorded_of_isWellFormed {t : Transaction} (h : t.IsWellFormed) : t.IsWorded := by
  rcases h.columns with htopUp | hpurchase
  · exact ⟨⟨_, htopUp.kind⟩, htopUp.status⟩
  · exact ⟨⟨_, hpurchase.kind⟩, hpurchase.status.elim (fun hs => ⟨_, hs⟩) fun hs => ⟨_, hs⟩⟩

theorem readable_of_isWellFormed (h : l.store.IsWellFormed) (account : Int) :
    l.Readable account := by
  have hhistory : ∀ limit, ∃ records,
      l.Yields (Journal.history account limit) (.history account limit) records := by
    intro limit
    obtain ⟨records, hrecords⟩ : ∃ records,
        (l.store.history account limit).mapM Journal.record = .ok records :=
      Failure.mapM_isOk.mpr fun row hrow =>
        Journal.record_of_isWorded (isWorded_of_isWellFormed (h _ (mem_of_mem_history hrow)))
    exact ⟨records, (yields_read rfl rfl).bind_done (congrArg done hrecords)⟩
  refine ⟨hhistory, fun now => ?_, _, yields_read rfl rfl⟩
  obtain ⟨records, hrecords⟩ := hhistory none
  exact ⟨_, hrecords.bind_done rfl⟩

end Ledger

/-- **Rows stay well formed.** Whatever is requested of a ledger with well-formed rows, and whatever
fails meanwhile, its rows are well formed at every later point, if top-ups have a minimum. So what
is read of them fails only where the storage does. -/
theorem rows_stay_well_formed {l : Ledger} (hl : l.store.Lawful) (hw : l.store.IsWellFormed)
    (hmin : 1 ≤ l.settings.minimumTopupAmount) (visits : List Http.Visit) :
    (l.visitAll visits).store.IsWellFormed ∧
      ∀ account, (l.visitAll visits).Readable account := by
  have hsound := Ledger.IsSound.visitAll ⟨hl, hw, hmin⟩ visits
  exact ⟨hsound.rows, Ledger.readable_of_isWellFormed hsound.rows⟩

/-- The caller's request for a top-up. -/
def Http.Request.deposit : Http.Request where
  method := "POST"
  target := ⟨["", "api", "v1", "credits", "top-up"], []⟩
  headers := [("Authorization", "Bearer key")]
  body := some "\x7b\"amount\": 1.5, \"method\": \" cash \"\x7d"

/-- A top-up is requested, and an order fails under way. -/
def Http.Visit.depositAndOrder : List Visit :=
  [.request {} .deposit, .clock 5, .request .lost .order]

theorem rows_stay_well_formed_counter :
    Ledger.counter.store.Lawful ∧ Ledger.counter.store.IsWellFormed ∧
      1 ≤ Ledger.counter.settings.minimumTopupAmount ∧
      (Ledger.counter.visitAll Http.Visit.depositAndOrder).store.transactions.map
          (fun t => (t.kind, t.status, t.method, t.cents)) =
        [("topup", "pending", some "cash", some 150), ("purchase", "failed", none, none)] ∧
      (Ledger.counter.visitAll Http.Visit.depositAndOrder).store.IsWellFormed := by
  have hl : Ledger.counter.store.Lawful := by decide
  have hw : Ledger.counter.store.IsWellFormed := fun t ht => absurd ht List.not_mem_nil
  have hmin : 1 ≤ Ledger.counter.settings.minimumTopupAmount := by decide
  exact ⟨hl, hw, hmin, by decide +kernel, (rows_stay_well_formed hl hw hmin _).1⟩

end Scrip
