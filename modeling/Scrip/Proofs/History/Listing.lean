import Mathlib.Data.List.Permutation
import Mathlib.Tactic.FinCases
import Scrip.Http.Server
import Scrip.Proofs.History.Totals
import Scrip.Proofs.Store.Newest
import Scrip.Proofs.Work.Calm
set_option autoImplicit false

/-! # The listing of a history

The history of an account has one record for each of its transactions and none for any other, the
newest first. A limit cuts it off after some records; the statistics are those of the whole of it.
Nothing is lost or doubled when the titles of items are looked up, since a transaction without an
item, or whose item is gone, is listed without a title.
-/

namespace Scrip

/-- What a record tells of a row of the log: all that was entered, its state, and the title of its
item if that is in the catalog. -/
structure Record.Shows (s : Store) (t : Transaction) (r : Record) : Prop where
  id : r.id = t.id
  kind : r.kind.text = t.kind
  amount : r.amount = t.amount
  status : r.status.text = t.status
  createdAt : r.createdAt = .bare t.createdAt
  item : r.item = t.item
  method : r.paymentMethod = t.method
  cents : r.moneyCents = t.cents
  title : ∀ title, r.itemTitle = some title ↔
    ∃ item ∈ s.items, t.item = some item.id ∧ item.title = title

namespace Store

variable {s : Store} {account : Int}

/-- With distinct ids an item is what is found under its id. -/
theorem item?_eq_some_iff (hitems : (s.items.map (·.id)).Nodup) {id : Int} {item : Item} :
    s.item? id = some item ↔ item ∈ s.items ∧ item.id = id := by
  constructor
  · intro h
    exact ⟨List.mem_of_find?_eq_some h, id_of_item? h⟩
  · rintro ⟨hmem, rfl⟩
    obtain ⟨found, hfound⟩ : ∃ found, s.item? item.id = some found :=
      Option.isSome_iff_exists.mp (List.find?_isSome.mpr ⟨item, hmem, beq_self_eq_true _⟩)
    obtain rfl : found = item :=
      List.inj_on_of_nodup_map hitems (List.mem_of_find?_eq_some hfound) hmem (id_of_item? hfound)
    exact hfound

theorem titleOf_eq_some_iff (hitems : (s.items.map (·.id)).Nodup) {t : Transaction}
    {title : String} : s.titleOf t = some title ↔
      ∃ item ∈ s.items, t.item = some item.id ∧ item.title = title := by
  unfold titleOf
  cases t.item with
  | none => simp
  | some id =>
      simp only [Option.map_eq_some_iff, item?_eq_some_iff hitems, Option.some.injEq, and_assoc,
        eq_comm (a := id)]

/-- The rows of the log that a history lists, in its order. -/
def rowsOf (s : Store) (account : Int) : List Transaction :=
  (s.transactions.filter (·.account == account)).mergeSort isNewer

theorem rowsOf_perm (s : Store) (account : Int) :
    (s.rowsOf account).Perm (s.transactions.filter (·.account == account)) :=
  List.mergeSort_perm _ isNewer

theorem rowsOf_pairwise (hlog : (s.transactions.map (·.id)).Nodup) (account : Int) :
    (s.rowsOf account).Pairwise Transaction.NewerThan :=
  pairwise_newerThan id (hlog.sublist (List.filter_sublist.map _))

theorem history_none (s : Store) (account : Int) :
    s.history account none = (s.rowsOf account).map fun t => (t, s.titleOf t) := rfl

theorem history_some (s : Store) (account : Int) {n : Int} (hn : 0 ≤ n) :
    s.history account (some n) = (s.history account none).take n.toNat := by
  have hlimit : ¬ n < 0 := Int.not_lt.mpr hn
  simp only [history, upTo, if_neg hlimit]

end Store

namespace Journal

variable {s : Store} {account : Int}

theorem calm_history (s : Store) (account : Int) (limit : Option Int) :
    (history account limit).Calm ⟨s, []⟩ ((s.history account limit).mapM record) ⟨s, []⟩ :=
  Script.calm_bind (Script.calm_read rfl rfl) (Script.calm_done _)

/-- A record is of its row. -/
theorem shows_of_record (hitems : (s.items.map (·.id)).Nodup) {t : Transaction} {r : Record}
    (h : record (t, s.titleOf t) = .ok r) : r.Shows s t := by
  obtain ⟨hkind, hstatus, -⟩ := record_eq_ok h
  obtain ⟨kind, -, h⟩ := Failure.bind_eq_ok.mp h
  obtain ⟨status, -, h⟩ := Failure.bind_eq_ok.mp h
  obtain rfl := Except.ok.inj h
  exact ⟨rfl, hkind.symm, rfl, hstatus.symm, rfl, rfl, rfl, rfl,
    fun title => Store.titleOf_eq_some_iff hitems⟩

/-- A beginning of the rows gives a beginning of the records. -/
theorem mapM_record_take {rows : List (Transaction × Option String)} {records : List Record}
    (h : rows.mapM record = .ok records) (n : Nat) :
    (rows.take n).mapM record = .ok (records.take n) :=
  Failure.mapM_eq_ok.mpr (List.forall₂_take n (Failure.mapM_eq_ok.mp h))

end Journal

/-- What is asked about the history of an account, and the records that answer it. -/
structure Ledger.Lists (l : Ledger) (account : Int) (records : List Record) : Prop where
  whole : (l.run .calm (Journal.history account none)).1 = .ok records
  rows : ∃ rows : List Transaction,
    rows.Perm (l.store.transactions.filter (·.account == account)) ∧
      rows.Pairwise Transaction.NewerThan ∧ List.Forall₂ (Record.Shows l.store) rows records
  limited : ∀ n : Int, 0 ≤ n →
    (l.run .calm (Journal.history account (some n))).1 = .ok (records.take n.toNat)
  stats : ∀ now, (l.run .calm (Journal.stats account now)).1 = .ok (Stats.ofRecords records now)

namespace Ledger

variable {l : Ledger} {account : Int}

theorem run_history (limit : Option Int) : (l.run .calm (Journal.history account limit)).1 =
    (l.store.history account limit).mapM Journal.record :=
  congrArg Prod.fst (run_calm (Journal.calm_history l.store account limit))

theorem exists_lists (hlog : (l.store.transactions.map (·.id)).Nodup)
    (hitems : (l.store.items.map (·.id)).Nodup)
    (hwords : ∀ t ∈ l.store.transactions, t.account = account → t.IsWorded) :
    ∃ records, l.Lists account records := by
  obtain ⟨records, hrecords⟩ : ∃ records,
      (l.store.history account none).mapM Journal.record = .ok records := by
    refine Failure.mapM_isOk.mpr fun row hrow => ?_
    obtain ⟨ht, haccount, -⟩ := Store.mem_history.mp hrow
    exact Journal.record_of_isWorded (hwords row.1 ht haccount)
  refine ⟨records, (run_history none).trans hrecords, ?_, fun n hn => ?_, fun now => ?_⟩
  · refine ⟨l.store.rowsOf account, l.store.rowsOf_perm account,
      Store.rowsOf_pairwise hlog account, ?_⟩
    have hrows := Failure.mapM_eq_ok.mp hrecords
    rw [Store.history_none, List.forall₂_map_left_iff] at hrows
    exact hrows.imp fun t r hr => Journal.shows_of_record hitems hr
  · rw [run_history, Store.history_some l.store account hn]
    exact Journal.mapM_record_take hrecords n.toNat
  · show l.report account now = _
    rw [report_eq, hrecords]
    rfl

end Ledger

/-- The limit of listings is no part of the question for the statistics. -/
theorem Http.serve_stats_of_limit {request : Http.Request}
    (hroute : Http.Route.find request.method request.target.segments = .route .stats)
    (settings : Settings) (now : Moment) (limit : Int) :
    Http.serve { settings with transactionHistoryLimit := limit } now request =
      Http.serve settings now request := by
  unfold Http.serve Http.respond
  rw [hroute]
  rfl

/-- **Histories are complete**, ordered, and cut off only at their ends. The statistics do not
depend on where, in whatever conditions they are asked for. -/
theorem history_is_complete {l : Ledger} {account : Int}
    (hlog : (l.store.transactions.map (·.id)).Nodup) (hitems : (l.store.items.map (·.id)).Nodup)
    (hwords : ∀ t ∈ l.store.transactions, t.account = account → t.IsWorded) :
    (∃ records, l.Lists account records) ∧
      ∀ (request : Http.Request) (c : Conditions) (limit : Int),
        Http.Route.find request.method request.target.segments = .route .stats →
          (({ l with settings := { l.settings with transactionHistoryLimit := limit } } :
            Ledger).serve c request).1 = (l.serve c request).1 := by
  refine ⟨Ledger.exists_lists hlog hitems hwords, fun request c limit hroute => ?_⟩
  unfold Ledger.serve
  dsimp only
  rw [Http.serve_stats_of_limit hroute]
  rfl

/-- A ledger with a top-up and two purchases of one account, one of an item that is gone, and with
a purchase of another account at the same time. -/
def Ledger.archive : Ledger where
  store :=
    { accounts := [⟨1, 10⟩, ⟨2, 0⟩]
      items := [⟨7, "Notes", 4, none, none, false, none, none⟩]
      logins := [⟨"key", 1, 0⟩]
      transactions :=
        [(Journal.purchaseDraft 1 7 4 .completed none 3).row 4,
          (Journal.purchaseDraft 2 7 4 .completed none 3).row 5,
          (Journal.topUpDraft 1 5 50 "manual" none 0).row 1,
          (Journal.purchaseDraft 1 8 2 .failed none 3).row 6] }
  settings := {}
  now := 3

/-- A question for statistics. -/
def Http.Request.summary : Http.Request where
  method := "GET"
  target := ⟨["", "api", "v1", "transactions", "stats"], []⟩
  headers := [("Authorization", "Bearer key")]

theorem history_is_complete_archive :
    (Ledger.archive.store.transactions.map (·.id)).Nodup ∧
      (Ledger.archive.store.items.map (·.id)).Nodup ∧
      (∀ t ∈ Ledger.archive.store.transactions, t.account = 1 → t.IsWorded) ∧
      (∃ records, Ledger.archive.Lists 1 records ∧
        records.map (fun r => (r.id, r.itemTitle)) = [(6, none), (4, some "Notes"), (1, none)]) ∧
      (({ Ledger.archive with settings := { transactionHistoryLimit := 1 } } : Ledger).serve .calm
        .summary).1 = (Ledger.archive.serve .calm .summary).1 := by
  have hlog : (Ledger.archive.store.transactions.map (·.id)).Nodup := by decide
  have hitems : (Ledger.archive.store.items.map (·.id)).Nodup := by decide
  have hwords : ∀ t ∈ Ledger.archive.store.transactions, t.account = 1 → t.IsWorded := by
    intro t ht _
    fin_cases ht
    · exact ⟨⟨.purchase, rfl⟩, .completed, rfl⟩
    · exact ⟨⟨.purchase, rfl⟩, .completed, rfl⟩
    · exact ⟨⟨.topup, rfl⟩, .pending, rfl⟩
    · exact ⟨⟨.purchase, rfl⟩, .failed, rfl⟩
  obtain ⟨⟨records, hrecords⟩, hstats⟩ := history_is_complete hlog hitems hwords
  refine ⟨hlog, hitems, hwords, ⟨records, hrecords, ?_⟩, hstats .summary .calm 1 (by decide)⟩
  have hwhole : (Ledger.archive.run .calm (Journal.history 1 none)).1.toOption.map
      (·.map fun r => (r.id, r.itemTitle)) = some [(6, none), (4, some "Notes"), (1, none)] := by
    cbv
  rw [hrecords.whole] at hwhole
  exact Option.some.inj hwhole

end Scrip
