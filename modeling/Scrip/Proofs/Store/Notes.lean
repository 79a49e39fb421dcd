import Scrip.Proofs.Store.Lookup
import Scrip.Work.Statement
import Mathlib.Data.List.Basic
set_option autoImplicit false

/-! # Notes

The note of a failed purchase is the one internal text that the log keeps. Without it a store gives
the same answers, but for the notes in whole rows: nothing is decided by a note, and no other row or
table depends on one.
-/

namespace Scrip

def Transaction.unnoted (t : Transaction) : Transaction := { t with note := none }

/-- The rows do not differ but in notes. -/
def Transaction.SameRow (t t' : Transaction) : Prop := t'.unnoted = t.unnoted

theorem Transaction.SameRow.eq {t t' : Transaction} (h : t.SameRow t') :
    t' = { t with note := t'.note } := by
  obtain ⟨id, account, kind, amount, item, status, method, reference, cents, note, createdAt,
    updatedAt⟩ := t'
  obtain ⟨rfl, rfl, rfl, rfl, rfl, rfl, rfl, rfl, rfl, -, rfl, rfl⟩ := Transaction.mk.inj h
  rfl

theorem Transaction.SameRow.exists_note {t t' : Transaction} (h : t.SameRow t') :
    ∃ note, t' = { t with note := note } :=
  ⟨_, h.eq⟩

def Transaction.IsFailedPurchase (t : Transaction) : Prop :=
  t.kind = Kind.purchase.text ∧ t.status = Status.failed.text

theorem Transaction.SameRow.eq_or_isFailedPurchase {t t' : Transaction} (h : t.SameRow t')
    (ht : t.note = none ∨ t.IsFailedPurchase) (ht' : t'.note = none ∨ t'.IsFailedPurchase) :
    t' = t ∨ t.IsFailedPurchase := by
  by_cases hfailed : t.IsFailedPurchase
  · exact Or.inr hfailed
  · -- neither is a failed purchase, so neither has a note
    have hfailed' : ¬ t'.IsFailedPurchase := by
      rw [h.eq]
      exact hfailed
    refine Or.inl ?_
    rw [h.eq, ht'.resolve_right hfailed', ← ht.resolve_right hfailed]

/-- A log is known from its rows without their notes, and the notes. -/
theorem Transaction.log_eq {ts ts' : List Transaction} (hrows : ts'.map unnoted = ts.map unnoted)
    (hnotes : ts'.map (·.note) = ts.map (·.note)) : ts' = ts := by
  induction ts generalizing ts' with
  | nil => exact List.map_eq_nil_iff.mp hrows
  | cons t ts ih =>
      cases ts' with
      | nil => cases hrows
      | cons t' ts' =>
          obtain ⟨hrow, hrest⟩ := List.cons.inj hrows
          obtain ⟨hnote, hnotes⟩ := List.cons.inj hnotes
          have hsame : t' = { t with note := t'.note } := SameRow.eq hrow
          rw [ih hrest hnotes, hsame, show t'.note = t.note from hnote]

def Draft.unnoted (d : Draft) : Draft := { d with note := none }

def Write.unnoted : Write → Write
  | .append row => .append row.unnoted
  | w => w

def Statement.unnoted : Statement → Statement
  | .append draft => .append draft.unnoted
  | q => q

def Store.unnoted (s : Store) : Store :=
  { s with transactions := s.transactions.map Transaction.unnoted }

namespace Store

variable {s s' s'' : Store}

/-! ## Reading -/

theorem item?_unnoted (s : Store) (id : Int) : s.unnoted.item? id = s.item? id := rfl

theorem transaction?_unnoted (s : Store) (id : Int) :
    s.unnoted.transaction? id = (s.transaction? id).map Transaction.unnoted :=
  List.find?_map

theorem ids_unnoted (s : Store) :
    s.unnoted.transactions.map (·.id) = s.transactions.map (·.id) := by
  simp [unnoted, Function.comp_def, Transaction.unnoted]

theorem tallies_unnoted (s : Store) : s.unnoted.tallies = s.tallies := by
  have hsold : s.unnoted.soldItems = s.soldItems := by
    simp only [soldItems, unnoted, List.filter_map, List.filterMap_map]
    rfl
  rw [tallies, hsold]
  rfl

theorem history_unnoted (s : Store) (account : Int) (limit : Option Int) :
    s.unnoted.history account limit =
      (s.history account limit).map (Prod.map Transaction.unnoted id) := by
  have hrows : (s.unnoted.transactions.filter (·.account == account)).mergeSort isNewer =
      ((s.transactions.filter (·.account == account)).mergeSort isNewer).map
        Transaction.unnoted := by
    have hsort := List.map_mergeSort (r := isNewer) (s := isNewer) (f := Transaction.unnoted)
      (l := s.transactions.filter (·.account == account)) fun _ _ _ _ => rfl
    rw [hsort, unnoted, List.filter_map]
    rfl
  have hupTo : ∀ rows : List (Transaction × Option String),
      upTo limit (rows.map (Prod.map Transaction.unnoted id)) =
        (upTo limit rows).map (Prod.map Transaction.unnoted id) := by
    intro rows
    unfold upTo
    split
    · rfl
    · split
      · rfl
      · exact List.map_take.symm
  rw [history, history, hrows, ← hupTo, List.map_map, List.map_map]
  rfl

theorem shelf_unnoted (s : Store) (account : Int) :
    s.unnoted.shelf account = (s.shelf account).map (Prod.map id Transaction.unnoted) := by
  have hsort : ∀ entries : List (Item × Transaction),
      (entries.mergeSort fun a b => isNewer a.2 b.2).map (Prod.map id Transaction.unnoted) =
        (entries.map (Prod.map id Transaction.unnoted)).mergeSort fun a b => isNewer a.2 b.2 :=
    fun entries => List.map_mergeSort fun _ _ _ _ => rfl
  rw [shelf, shelf, hsort, List.map_filterMap]
  congr 1
  refine List.filterMap_congr fun o _ => ?_
  rw [transaction?_unnoted, item?_unnoted]
  cases s.item? o.item with
  | none => rfl
  | some item =>
      cases s.transaction? o.transaction with
      | none => rfl
      | some t =>
          dsimp only [Option.map_some]
          split <;> rfl

/-! ## Writing -/

theorem unnoted_apply (s : Store) (w : Write) :
    (s.apply w).unnoted = s.unnoted.apply w.unnoted := by
  cases w with
  | balance account change => rfl
  | own row => rfl
  | append row => simp [unnoted, apply, Write.unnoted]
  | status id status time =>
      have hrow : ∀ t : Transaction,
          (restate id status time t).unnoted = restate id status time t.unnoted := by
        intro t
        by_cases hid : t.id = id <;> simp [restate, Transaction.unnoted, hid]
      simp only [unnoted, apply, Write.unnoted, changeStatus_eq_map, List.map_map,
        Function.comp_def, hrow]

theorem unnoted_applyAll (s : Store) (ws : List Write) :
    (s.applyAll ws).unnoted = s.unnoted.applyAll (ws.map Write.unnoted) := by
  induction ws generalizing s with
  | nil => rfl
  | cons w ws ih => rw [applyAll_cons, ih, unnoted_apply, List.map_cons, applyAll_cons]

/-! ## Stores that differ in notes -/

def SameButNotes (s s' : Store) : Prop := s'.unnoted = s.unnoted

theorem SameButNotes.refl (s : Store) : s.SameButNotes s := rfl

theorem SameButNotes.eq (h : s.SameButNotes s') :
    s' = { s with transactions := s'.transactions } := by
  obtain ⟨accounts, items, logins, transactions, ownerships⟩ := s'
  obtain ⟨rfl, rfl, rfl, -, rfl⟩ := Store.mk.inj h
  rfl

theorem SameButNotes.items (h : s.SameButNotes s') : s'.items = s.items := by
  rw [h.eq]

theorem SameButNotes.withItems (h : s.SameButNotes s') (items : List Item) :
    Store.SameButNotes { s with items := items } { s' with items := items } := by
  have hedited := congrArg (fun s : Store => { s with items := items }) h
  exact hedited

theorem SameButNotes.applyAll (h : s.SameButNotes s') {ws ws' : List Write}
    (hws : ws'.map Write.unnoted = ws.map Write.unnoted) :
    (s.applyAll ws).SameButNotes (s'.applyAll ws') := by
  rw [SameButNotes, unnoted_applyAll, unnoted_applyAll, h, hws]

/-! ## New notes -/

/-- The old rows have kept their notes, and at most one row is new. That one has no note unless it
is a failed purchase. -/
def NotedBy (s s' : Store) : Prop :=
  ∃ (old : List Transaction) (new : Option Transaction), s'.transactions = old ++ new.toList ∧
    old.map (·.note) = s.transactions.map (·.note) ∧
      ∀ row ∈ new, row.note = none ∨ row.IsFailedPurchase

theorem notedBy_of_notes
    (h : s'.transactions.map (·.note) = s.transactions.map (·.note)) : s.NotedBy s' :=
  ⟨s'.transactions, none, (List.append_nil _).symm, h, fun _ hrow => by cases hrow⟩

theorem notedBy_of_append {row : Transaction} (h : s'.transactions = s.transactions ++ [row])
    (hrow : row.note = none ∨ row.IsFailedPurchase) : s.NotedBy s' := by
  refine ⟨s.transactions, some row, h, rfl, ?_⟩
  rintro _ ⟨⟩
  exact hrow

/-- The stores are the same, or all they differ in is the note of a failed purchase, the last row
of the log. -/
def NoteApart (s s' : Store) : Prop :=
  s' = s ∨ ∃ (rows : List Transaction) (row : Transaction) (note : Option String),
    row.IsFailedPurchase ∧ s.transactions = rows ++ [row] ∧
      s' = { s with transactions := rows ++ [{ row with note := note }] }

/-- Two stores that one store may have become, the same but for notes. -/
theorem SameButNotes.noteApart {origin : Store} (h : s.SameButNotes s') (hs : origin.NotedBy s)
    (hs' : origin.NotedBy s') : s.NoteApart s' := by
  obtain ⟨old, new, hlog, hold, hnew⟩ := hs
  obtain ⟨old', new', hlog', hold', hnew'⟩ := hs'
  -- the old rows are the same on both sides, and so are the new ones but for notes
  have hrows : (old' ++ new'.toList).map Transaction.unnoted =
      (old ++ new.toList).map Transaction.unnoted := by
    rw [← hlog, ← hlog']
    exact congrArg Store.transactions h
  rw [List.map_append, List.map_append] at hrows
  have hlength : old'.length = old.length := by
    have := congrArg List.length (hold'.trans hold.symm)
    simpa using this
  obtain ⟨hrowsOld, hrowsNew⟩ := List.append_inj hrows (by simpa using hlength)
  obtain rfl : old' = old := Transaction.log_eq hrowsOld (hold'.trans hold.symm)
  have hstore : ∀ rows, s'.transactions = rows → s' = { s with transactions := rows } := by
    rintro rows rfl
    exact h.eq
  cases new with
  | none =>
      cases new' with
      | none => exact Or.inl (hstore _ (hlog'.trans hlog.symm))
      | some row' => cases hrowsNew
  | some row =>
      cases new' with
      | none => cases hrowsNew
      | some row' =>
          have hrow : row.SameRow row' := (List.cons.inj hrowsNew).1
          rcases hrow.eq_or_isFailedPurchase (hnew row rfl) (hnew' row' rfl) with rfl | hfailed
          · exact Or.inl (hstore _ (hlog'.trans hlog.symm))
          · refine Or.inr ⟨old', row, row'.note, hfailed, hlog, ?_⟩
            rw [← hrow.eq]
            exact hstore _ hlog'

end Store

/-! ## Answers -/

namespace Statement

/-- The reply to a statement, but for notes. -/
def veil : (q : Statement) → q.Reply → q.Reply
  | .append _, row => Transaction.unnoted row
  | .find _ _, row => Option.map Transaction.unnoted row
  | .shelf _, entries => List.map (Prod.map id Transaction.unnoted) entries
  | .history _ _, rows => List.map (Prod.map Transaction.unnoted id) rows
  | _, reply => reply

/-- An answer, but for notes in the reply. -/
abbrev veiled (q : Statement) (answer : Except Failure (q.Reply × List Write)) :
    Except Failure (q.Reply × List Write) :=
  answer.map (Prod.map q.veil id)

/-- No answer depends on notes. -/
theorem answer_unnoted (q : Statement) (s : Store) :
    q.veiled (q.answer s.unnoted) = q.veiled (q.answer s) := by
  cases q with
  | append draft =>
      show veiled (.append draft) (.ok (answerAppend s.unnoted draft)) = _
      rw [answerAppend, s.ids_unnoted]
      rfl
  | settle id current new time =>
      have hsame : answerSettle s.unnoted id current new time =
          answerSettle s id current new time := by
        rw [answerSettle, answerSettle, s.transaction?_unnoted]
        cases s.transaction? id <;> rfl
      exact congrArg (fun answer => Except.ok (Prod.map _ _ answer)) hsame
  | find id lock =>
      show veiled (.find id lock) (.ok (s.unnoted.transaction? id, [])) = _
      rw [s.transaction?_unnoted]
      show Except.ok (Option.map _ (Option.map _ _), _) = _
      rw [Option.map_map]
      rfl
  | shelf account =>
      show veiled (.shelf account) (.ok (s.unnoted.shelf account, [])) = _
      rw [s.shelf_unnoted]
      show Except.ok (List.map _ (List.map _ _), _) = _
      rw [List.map_map]
      rfl
  | history account limit =>
      show veiled (.history account limit) (.ok (s.unnoted.history account limit, [])) = _
      rw [s.history_unnoted]
      show Except.ok (List.map _ (List.map _ _), _) = _
      rw [List.map_map]
      rfl
  | tallies => exact congrArg (fun counts => Except.ok (counts, _)) s.tallies_unnoted
  | _ => rfl

/-- Stores that do not differ but in notes give answers that do not differ but in notes. -/
theorem answer_of_sameButNotes {s s' : Store} (h : s.SameButNotes s') (q : Statement) :
    q.veiled (q.answer s') = q.veiled (q.answer s) := by
  rw [← q.answer_unnoted s', h, q.answer_unnoted s]

end Statement

end Scrip
