import Scrip.Proofs.Ledger.Run
import Scrip.Proofs.Work.Crew
set_option autoImplicit false

/-! # The history is append-only

What was once entered in the log or in the registry is there at every later point. A row of the
log keeps what was entered; its state changes only when a pending top-up is settled, and so at
most once. Ownerships do not change at all. This holds of a ledger from event to event, and of a
crew from statement to statement.
-/

namespace Scrip

/-! ## Two points -/

/-- What may be found later in the place of a row of the log: all that was entered is the same,
and the state is as well, unless a pending top-up has been settled. -/
structure Transaction.Lasts (t t' : Transaction) : Prop where
  id : t'.id = t.id
  account : t'.account = t.account
  kind : t'.kind = t.kind
  amount : t'.amount = t.amount
  item : t'.item = t.item
  method : t'.method = t.method
  reference : t'.reference = t.reference
  cents : t'.cents = t.cents
  note : t'.note = t.note
  createdAt : t'.createdAt = t.createdAt
  state : (t'.status = t.status ∧ t'.updatedAt = t.updatedAt) ∨
    (t.kind = Kind.topup.text ∧ t.status = Status.pending.text ∧
      (t'.status = Status.completed.text ∨ t'.status = Status.failed.text))

theorem Transaction.Continues.lasts {t t' : Transaction} (h : t.Continues t') : t.Lasts t' := by
  rcases h with rfl | ⟨⟨hkind, hstatus⟩, new, time, hnew, rfl⟩
  · exact ⟨rfl, rfl, rfl, rfl, rfl, rfl, rfl, rfl, rfl, rfl, Or.inl ⟨rfl, rfl⟩⟩
  · refine ⟨rfl, rfl, rfl, rfl, rfl, rfl, rfl, rfl, rfl, rfl, Or.inr ⟨hkind, hstatus, ?_⟩⟩
    cases new with
    | pending => exact absurd rfl hnew
    | completed => exact Or.inl rfl
    | failed => exact Or.inr rfl

theorem LogGrows.lasts {ts ts' : List Transaction} (h : LogGrows ts ts') {t : Transaction}
    (ht : t ∈ ts) : ∃ t' ∈ ts', t.Lasts t' := by
  induction h with
  | new added => cases ht
  | @old x x' xs xs' row rest ih =>
      rcases List.mem_cons.mp ht with rfl | ht
      · exact ⟨x', List.mem_cons_self, row.lasts⟩
      · obtain ⟨t', ht', hlasts⟩ := ih ht
        exact ⟨t', List.mem_cons_of_mem x' ht', hlasts⟩

/-- A later store has every row and every ownership of an earlier one. -/
structure Store.Remembers (later earlier : Store) : Prop where
  log : ∀ t ∈ earlier.transactions, ∃ t' ∈ later.transactions, t.Lasts t'
  registry : ∀ o ∈ earlier.ownerships, o ∈ later.ownerships

namespace Store

variable {s s' s'' : Store}

/-- What is owned stays owned. -/
theorem Remembers.owns (h : s'.Remembers s) {account item : Int}
    (howns : s.owns account item = true) : s'.owns account item = true := by
  obtain ⟨o, ho, hmatch⟩ := List.any_eq_true.mp howns
  exact List.any_eq_true.mpr ⟨o, h.registry o ho, hmatch⟩

/-- The row that is found later under the id of a row is what became of it. -/
theorem Remembers.lasts (h : s'.Remembers s) (hl : s'.Lawful) {t t' : Transaction}
    (ht : t ∈ s.transactions) (ht' : t' ∈ s'.transactions) (hid : t'.id = t.id) :
    t.Lasts t' := by
  obtain ⟨u, hu, hlasts⟩ := h.log t ht
  obtain rfl : u = t' := List.inj_on_of_nodup_map hl.log hu ht' (hlasts.id.trans hid.symm)
  exact hlasts

/-- A state that has changed once does not change again. -/
theorem Remembers.settled (h : s'.Remembers s) (h' : s''.Remembers s') (hl' : s'.Lawful)
    (hl'' : s''.Lawful) {t t' t'' : Transaction} (ht : t ∈ s.transactions)
    (ht' : t' ∈ s'.transactions) (ht'' : t'' ∈ s''.transactions) (hid : t'.id = t.id)
    (hid' : t''.id = t'.id) (hmoved : t'.status ≠ t.status) : t''.status = t'.status := by
  rcases (h.lasts hl' ht ht' hid).state with ⟨hsame, -⟩ | ⟨-, -, hsettled⟩
  · exact absurd hsame hmoved
  · rcases (h'.lasts hl'' ht' ht'' hid').state with ⟨hsame, -⟩ | ⟨-, hpending, -⟩
    · exact hsame
    · rw [hpending] at hsettled
      rcases hsettled with hword | hword <;> exact absurd hword (by decide)

end Store

/-! ## Runs of a ledger -/

/-- What lies between two points of a run, apart from the catalog and the balances. -/
def Store.Extends (s' s : Store) : Prop :=
  LogGrows s.transactions s'.transactions ∧ s.ownerships <+: s'.ownerships

theorem Store.Grows.extends {s s' : Store} (h : s.Grows s') : s'.Extends s := ⟨h.log, h.registry⟩

theorem Store.Extends.remembers {s s' : Store} (h : s'.Extends s) : s'.Remembers s :=
  ⟨fun _ ht => LogGrows.lasts h.1 ht, fun _ ho => h.2.subset ho⟩

theorem kept_extends (origin : Store) : Kept fun s => s.Extends origin where
  deed := by
    intro s w h hl hd _
    have hgrows := (hd.grows hl).extends
    exact ⟨h.1.trans hgrows.1, h.2.trans hgrows.2⟩
  catalog := fun _ _ h => h

namespace Ledger

variable {l : Ledger} {es es' : List Event}

theorem afterAll_append (l : Ledger) (es es' : List Event) :
    l.afterAll (es ++ es') = (l.afterAll es).afterAll es' := List.foldl_append

theorem lawful_afterAll (hl : l.store.Lawful) (hes : ∀ e ∈ es, e.isOffered = true) :
    (l.afterAll es).store.Lawful :=
  (keep_afterAll (P := fun _ => True) ⟨fun _ _ _ _ _ _ => trivial, fun _ _ _ => trivial⟩ hes hl
    trivial).1

theorem remembers_afterAll (hl : l.store.Lawful) (hes : ∀ e ∈ es, e.isOffered = true) :
    (l.afterAll es).store.Remembers l.store :=
  (keep_afterAll (kept_extends l.store) hes hl
    ⟨LogGrows.refl _, List.prefix_refl _⟩).2.remembers

end Ledger

/-- **The history is append-only.** Of three points of a run, each remembers the ones before: all
rows with what was entered, their states but for settled top-ups, and all ownerships. So a state
changes at most once, and an item once owned stays owned. -/
theorem history_is_append_only {l : Ledger} {es es' es'' : List Event} (hl : l.store.Lawful)
    (hes : ∀ e ∈ es ++ es' ++ es'', e.isOffered = true) :
    (l.afterAll (es ++ es')).store.Remembers (l.afterAll es).store ∧
    (∀ t ∈ (l.afterAll es).store.transactions, ∀ t' ∈ (l.afterAll (es ++ es')).store.transactions,
      ∀ t'' ∈ (l.afterAll (es ++ es' ++ es'')).store.transactions,
        t'.id = t.id → t''.id = t.id → t'.status ≠ t.status → t''.status = t'.status) ∧
    (∀ account item, (l.afterAll es).store.owns account item = true →
      (l.afterAll (es ++ es')).store.owns account item = true) := by
  have hfirst : ∀ e ∈ es, e.isOffered = true := fun e he =>
    hes e (List.mem_append_left _ (List.mem_append_left _ he))
  have hsecond : ∀ e ∈ es', e.isOffered = true := fun e he =>
    hes e (List.mem_append_left _ (List.mem_append_right _ he))
  have hthird : ∀ e ∈ es'', e.isOffered = true := fun e he => hes e (List.mem_append_right _ he)
  have hl₁ := Ledger.lawful_afterAll hl hfirst
  have h₁ := Ledger.remembers_afterAll hl₁ hsecond
  have hl₂ := Ledger.lawful_afterAll hl₁ hsecond
  have h₂ := Ledger.remembers_afterAll hl₂ hthird
  have hl₃ := Ledger.lawful_afterAll hl₂ hthird
  simp only [Ledger.afterAll_append]
  refine ⟨h₁, ?_, fun account item howns => h₁.owns howns⟩
  intro t ht t' ht' t'' ht'' hid hid' hmoved
  exact h₁.settled h₂ hl₂ hl₃ ht ht' ht'' hid (hid'.trans hid.symm) hmoved

theorem history_is_append_only_day :
    Ledger.kiosk.store.Lawful ∧
      (∀ e ∈ Event.day.take 1 ++ Event.day.drop 1 ++ [.work {} (.settle 1 false)],
        e.isOffered = true) ∧
      (Ledger.kiosk.afterAll (Event.day.take 1 ++ Event.day.drop 1)).store.Remembers
        (Ledger.kiosk.afterAll (Event.day.take 1)).store ∧
      (Ledger.kiosk.afterAll (Event.day.take 1 ++ Event.day.drop 1)).store.transactions.map
        (·.status) = ["completed", "failed", "completed"] := by
  have hl : Ledger.kiosk.store.Lawful := by decide
  have hes : ∀ e ∈ Event.day.take 1 ++ Event.day.drop 1 ++ [.work {} (.settle 1 false)],
      e.isOffered = true := by decide
  exact ⟨hl, hes, (history_is_append_only hl hes).1, by decide +kernel⟩

/-! ## Crews -/

namespace Crew

variable {c c' : Crew}

theorem grows_step (h : c.Sound) (step : Step c c') : c.store.Grows c'.store := by
  cases step with
  | begin settings now op offered => exact Store.Grows.refl c.store
  | @reply i q next pending after reply job does free lawful =>
      rw [store_move]
      split
      · rename_i hcommitted
        obtain ⟨ds, hsafe⟩ := h.jobs _ _ job
        exact ((hsafe c.store (Others.refl _ _) reply after does).1 hcommitted).grows h.lawful
      · exact Store.Grows.refl c.store

/-- **Interleaved operations do not take anything back either**, from any statement of any of
them to any later one. -/
theorem remembers_reaches {origin : Store} (hl : origin.Lawful) (h : Reaches (idle origin) c)
    (h' : Reaches c c') : c'.store.Remembers c.store := by
  have hgrows : c'.Sound ∧ c.store.Grows c'.store := by
    induction h' with
    | refl => exact ⟨(sound_reaches hl h).1, Store.Grows.refl _⟩
    | next run step ih =>
        obtain ⟨hsound, hgrows⟩ := ih
        exact ⟨sound_step hsound step, hgrows.trans (grows_step hsound step)⟩
  exact hgrows.2.extends.remembers

end Crew

end Scrip
