import Scrip.Proofs.History.Word
import Scrip.Proofs.Store.Lookup
set_option autoImplicit false

/-! # Growth of a store

A store grows when nothing of it is lost: the log and the registry only get new rows at their
ends, and the one change of an old row is that a pending top-up is settled. Accounts stay, with
any balances, and so does the catalog. Whatever was read from the log remains true of the store
after growth but for the state of a top-up that was pending.
-/

namespace Scrip

/-- A top-up whose payment has not been verified. -/
def Transaction.IsPending (t : Transaction) : Prop :=
  t.kind = Kind.topup.text ∧ t.status = Status.pending.text

theorem Transaction.not_isPending {t : Transaction} (h : t.status = Status.completed.text) :
    ¬ t.IsPending := fun hp =>
  absurd (h.symm.trans hp.2) (by decide)

/-- What may have become of a row of the log: nothing, or the settlement of a pending top-up. -/
def Transaction.Continues (t t' : Transaction) : Prop :=
  t' = t ∨ (t.IsPending ∧ ∃ (s : Status) (time : Option Moment), s ≠ .pending ∧
    t' = { t with status := s.text, updatedAt := time })

namespace Transaction.Continues

variable {t t' t'' : Transaction}

theorem refl (t : Transaction) : t.Continues t := Or.inl rfl

theorem id_eq (h : t.Continues t') : t'.id = t.id := by
  rcases h with rfl | ⟨-, s, time, -, rfl⟩ <;> rfl

theorem account_eq (h : t.Continues t') : t'.account = t.account := by
  rcases h with rfl | ⟨-, s, time, -, rfl⟩ <;> rfl

/-- A settled top-up is pending no more, so a row changes at most once. -/
theorem trans (h : t.Continues t') (h' : t'.Continues t'') : t.Continues t'' := by
  rcases h with rfl | ⟨hp, s, time, hs, rfl⟩
  · exact h'
  · rcases h' with rfl | ⟨⟨-, hp'⟩, -⟩
    · exact Or.inr ⟨hp, s, time, hs, rfl⟩
    · exact absurd (Status.text_inj.mp hp') hs

end Transaction.Continues

/-- The log after some time: old rows in their places, new ones after them. -/
inductive LogGrows : List Transaction → List Transaction → Prop where
  | new (added : List Transaction) : LogGrows [] added
  | old {t t' : Transaction} {ts ts' : List Transaction} (row : t.Continues t')
      (rest : LogGrows ts ts') : LogGrows (t :: ts) (t' :: ts')

namespace LogGrows

variable {ts ts' ts'' : List Transaction}

theorem refl (ts : List Transaction) : LogGrows ts ts := by
  induction ts with
  | nil => exact new []
  | cons t ts ih => exact old (Transaction.Continues.refl t) ih

theorem trans (h : LogGrows ts ts') (h' : LogGrows ts' ts'') : LogGrows ts ts'' := by
  induction h generalizing ts'' with
  | new added => exact new ts''
  | old row rest ih =>
      cases h' with
      | old row' rest' => exact old (row.trans row') (ih rest')

theorem append (ts added : List Transaction) : LogGrows ts (ts ++ added) := by
  induction ts with
  | nil => exact new added
  | cons t ts ih => exact old (Transaction.Continues.refl t) ih

/-- Rows that go on one by one, none being added. -/
theorem map {f : Transaction → Transaction} (h : ∀ t ∈ ts, t.Continues (f t)) :
    LogGrows ts (ts.map f) := by
  induction ts with
  | nil => exact new []
  | cons t ts ih =>
      exact old (h t List.mem_cons_self) (ih fun x hx => h x (List.mem_cons_of_mem t hx))

/-- What is found under an id goes on. -/
theorem find? (h : LogGrows ts ts') {id : Int} {t : Transaction}
    (ht : ts.find? (·.id == id) = some t) :
    ∃ t', ts'.find? (·.id == id) = some t' ∧ t.Continues t' := by
  induction h with
  | new added => simp at ht
  | @old x x' xs xs' row rest ih =>
      by_cases hx : x.id = id
      · have hx' : x'.id = id := row.id_eq.trans hx
        rw [List.find?_cons_of_pos (by simpa using hx)] at ht
        obtain rfl := Option.some.inj ht
        exact ⟨x', List.find?_cons_of_pos (by simpa using hx'), row⟩
      · have hx' : x'.id ≠ id := by rw [row.id_eq]; exact hx
        rw [List.find?_cons_of_neg (by simpa using hx)] at ht
        rw [List.find?_cons_of_neg (by simpa using hx')]
        exact ih ht

end LogGrows

/-- Nothing of a store is lost. -/
structure Store.Grows (s s' : Store) : Prop where
  items : s'.items = s.items
  logins : s'.logins = s.logins
  accounts : s'.accounts.map (·.id) = s.accounts.map (·.id)
  log : LogGrows s.transactions s'.transactions
  registry : s.ownerships <+: s'.ownerships

namespace Store.Grows

variable {s s' s'' : Store}

theorem refl (s : Store) : s.Grows s where
  items := rfl
  logins := rfl
  accounts := rfl
  log := LogGrows.refl s.transactions
  registry := List.prefix_refl s.ownerships

theorem trans (h : s.Grows s') (h' : s'.Grows s'') : s.Grows s'' where
  items := h'.items.trans h.items
  logins := h'.logins.trans h.logins
  accounts := h'.accounts.trans h.accounts
  log := h.log.trans h'.log
  registry := h.registry.trans h'.registry

theorem item? (h : s.Grows s') (id : Int) : s'.item? id = s.item? id := by
  unfold Store.item?
  rw [h.items]

theorem transaction? (h : s.Grows s') {id : Int} {t : Transaction}
    (ht : s.transaction? id = some t) : ∃ t', s'.transaction? id = some t' ∧ t.Continues t' :=
  h.log.find? ht

end Store.Grows

end Scrip
