import Scrip.Proofs.Store.Lookup
import Scrip.Work.Database
import Mathlib.Data.List.Nodup
set_option autoImplicit false

/-! # Answers of single statements

For each statement that changes something, what a successful reply means for the store and for
the pending writes.
-/

namespace Scrip.Statement

variable {view : Store} {ws : List Write}

/-- A statement that only reads answers from what it sees, and writes nothing. -/
theorem yields_of_isReading {q : Statement} (hq : q.isReading = true) {reply : q.Reply}
    (h : q.Yields view reply ws) : ws = [] ∧ q.answer view = .ok (reply, []) := by
  cases q <;> first
    | (obtain ⟨rfl, rfl⟩ := Prod.mk.inj (Except.ok.inj h); exact ⟨rfl, rfl⟩)
    | cases hq

theorem positive_eq_ok {amount : Quantity} {n : Int} (h : amount.positive = .ok n) :
    amount = .whole n ∧ 0 < n := by
  cases amount with
  | whole m =>
      by_cases hm : 0 < m
      · rw [Quantity.positive, if_pos hm] at h
        obtain rfl := Except.ok.inj h
        exact ⟨rfl, hm⟩
      · rw [Quantity.positive, if_neg hm] at h
        cases h
  | other spelling => cases h

theorem yields_debit {account : Int} {amount : Quantity} {reply : Bool}
    (h : Yields view (.debit account amount) reply ws) :
    (reply = false ∧ ws = []) ∨
      (reply = true ∧ ∃ n held, amount = .whole n ∧ 0 < n ∧ ws = [.balance account (-n)] ∧
        view.balance? account = some held ∧ n ≤ held) := by
  replace h : answerDebit view account amount = .ok (reply, ws) := h
  unfold answerDebit at h
  split at h
  · cases h
  · rename_i n hn
    obtain ⟨rfl, hpos⟩ := positive_eq_ok hn
    split at h
    · cases h
      exact Or.inl ⟨rfl, rfl⟩
    · rename_i held hb
      split at h
      · rename_i hle
        cases h
        exact Or.inr ⟨rfl, n, held, rfl, hpos, rfl, hb, hle⟩
      · cases h
        exact Or.inl ⟨rfl, rfl⟩

theorem yields_credit {account : Int} {amount : Quantity} {reply : Bool}
    (h : Yields view (.credit account amount) reply ws) :
    (reply = false ∧ ws = []) ∨
      (reply = true ∧ ∃ n held, amount = .whole n ∧ 0 < n ∧ ws = [.balance account n] ∧
        view.balance? account = some held) := by
  replace h : answerCredit view account amount = .ok (reply, ws) := h
  unfold answerCredit at h
  split at h
  · cases h
  · rename_i n hn
    obtain ⟨rfl, hpos⟩ := positive_eq_ok hn
    split at h
    · cases h
      exact Or.inl ⟨rfl, rfl⟩
    · rename_i held hb
      cases h
      exact Or.inr ⟨rfl, n, held, rfl, hpos, rfl, hb⟩

theorem yields_settle {id : Int} {current new : String} {time : Moment} {reply : Bool}
    (h : Yields view (.settle id current new time) reply ws) :
    (reply = false ∧ ws = []) ∨
      (reply = true ∧ ws = [.status id new (some time)] ∧
        ∃ t, view.transaction? id = some t ∧ t.status = current) := by
  replace h : answerSettle view id current new time = (reply, ws) := Except.ok.inj h
  unfold answerSettle at h
  split at h
  · cases h
    exact Or.inl ⟨rfl, rfl⟩
  · rename_i t ht
    split at h
    · rename_i hst
      cases h
      exact Or.inr ⟨rfl, rfl, t, ht, hst⟩
    · cases h
      exact Or.inl ⟨rfl, rfl⟩

/-- The answers of a session alone are among those that a database may give. -/
theorem yields_of_answer {q : Statement} {reply : q.Reply}
    (h : q.answer view = .ok (reply, ws)) : q.Yields view reply ws := by
  cases q with
  | append draft =>
      obtain ⟨rfl, rfl⟩ := Prod.mk.inj (Except.ok.inj h)
      exact ⟨_, Store.nextId_notMem _, rfl, rfl⟩
  | grant account item transaction =>
      replace h : answerGrant view account item transaction = .ok (reply, ws) := h
      unfold answerGrant at h
      split at h
      · cases h
      · rename_i hfree
        cases h
        simp only [Bool.or_eq_true, not_or, Bool.not_eq_true] at hfree
        exact ⟨hfree.1, hfree.2, _, rfl, rfl⟩
  | _ => exact h

/-- A database in which nothing fails does what a database may do. -/
theorem does_respond (store : Store) (pending : List Write) (q : Statement) :
    q.Does (fun _ _ => True) store pending (q.respond store pending).1
      (q.respond store pending).2 := by
  unfold respond
  cases ha : q.answer (store.applyAll pending) with
  | error e => exact Or.inl ⟨Or.inr ha, rfl⟩
  | ok answer => exact ⟨answer.2, yields_of_answer ha, rfl⟩

/-! ## Uniqueness -/

theorem lawful_balance {s : Store} (h : s.Lawful) (account change : Int) :
    (s.apply (.balance account change)).Lawful := ⟨h.log, h.pairs, h.payments⟩

theorem lawful_status {s : Store} (h : s.Lawful) (id : Int) (status : String)
    (time : Option Moment) : (s.apply (.status id status time)).Lawful where
  log := by
    have hids : (s.transactions.map (Store.restate id status time)).map (·.id) =
        s.transactions.map (·.id) := by
      simp [List.map_map, Function.comp_def]
    show ((s.transactions.map (Store.restate id status time)).map (·.id)).Nodup
    rw [hids]
    exact h.log
  pairs := h.pairs
  payments := h.payments

theorem lawful_append {s : Store} (h : s.Lawful) {row : Transaction}
    (hnew : row.id ∉ s.transactions.map (·.id)) : (s.apply (.append row)).Lawful where
  log := by
    show ((s.transactions ++ [row]).map (·.id)).Nodup
    rw [List.map_append, List.map_singleton, ← List.concat_eq_append]
    exact List.Nodup.concat hnew h.log
  pairs := h.pairs
  payments := h.payments

theorem lawful_own {s : Store} (h : s.Lawful) {row : Ownership}
    (hpair : s.owns row.account row.item = false)
    (hpaid : s.ownerships.any (·.transaction == row.transaction) = false) :
    (s.apply (.own row)).Lawful where
  log := h.log
  pairs := by
    show ((s.ownerships ++ [row]).map fun o => (o.account, o.item)).Nodup
    rw [List.map_append, List.map_singleton, ← List.concat_eq_append]
    refine List.Nodup.concat (fun hm => ?_) h.pairs
    obtain ⟨o, ho, heq⟩ := List.mem_map.mp hm
    obtain ⟨ha, hi⟩ := Prod.mk.inj heq
    have := List.any_eq_false.mp hpair o ho
    simp [ha, hi] at this
  payments := by
    show ((s.ownerships ++ [row]).map (·.transaction)).Nodup
    rw [List.map_append, List.map_singleton, ← List.concat_eq_append]
    refine List.Nodup.concat (fun hm => ?_) h.payments
    obtain ⟨o, ho, heq⟩ := List.mem_map.mp hm
    have := List.any_eq_false.mp hpaid o ho
    simp [heq] at this

/-- No statement breaks the uniqueness constraints in what its session sees. -/
theorem yields_lawful {q : Statement} {reply : q.Reply} (h : q.Yields view reply ws)
    (hl : view.Lawful) : (view.applyAll ws).Lawful := by
  -- only five statements write at all
  by_cases hq : q.isReading = true
  · obtain ⟨rfl, -⟩ := yields_of_isReading hq h
    exact hl
  · cases q with
    | append draft =>
        obtain ⟨id, hid, rfl, rfl⟩ := h
        exact lawful_append hl hid
    | grant account item transaction =>
        obtain ⟨hpair, hpaid, own, rfl, rfl⟩ := h
        exact lawful_own hl hpair hpaid
    | credit account amount =>
        rcases yields_credit h with ⟨-, rfl⟩ | ⟨-, n, held, -, -, rfl, -⟩
        · exact hl
        · exact lawful_balance hl account n
    | debit account amount =>
        rcases yields_debit h with ⟨-, rfl⟩ | ⟨-, n, held, -, -, rfl, -⟩
        · exact hl
        · exact lawful_balance hl account (-n)
    | settle id current new time =>
        rcases yields_settle h with ⟨-, rfl⟩ | ⟨-, rfl, -⟩
        · exact hl
        · exact lawful_status hl _ _ _
    | _ =>
        first
          | exact absurd rfl hq
          | (obtain ⟨-, rfl⟩ := Prod.mk.inj (Except.ok.inj h)
             exact hl)

/-- The pending writes of a session that works alone on a store: they break no uniqueness
constraint, and the rows that they append have new ids. -/
structure Fits (s : Store) (pending : List Write) : Prop where
  lawful : s.Lawful → (s.applyAll pending).Lawful
  fresh : ∀ row, .append row ∈ pending → row.id ∉ s.transactions.map (·.id)

theorem Fits.nil (s : Store) : Fits s [] where
  lawful := id
  fresh := fun _ h => absurd h List.not_mem_nil

/-- Writes that keep the uniqueness constraints fit. -/
theorem Fits.of_lawful {s : Store} {pending : List Write} (h : (s.applyAll pending).Lawful) :
    Fits s pending where
  lawful := fun _ => h
  fresh := by
    intro row hrow hid
    have hlog := h.log
    rw [Store.ids_applyAll, List.nodup_append] at hlog
    exact hlog.2.2 _ hid _ (Store.mem_newIds hrow) rfl

section

variable {may : Statement → Failure → Prop} {s : Store} {pending after : List Write}
  {q : Statement} {reply : Except Failure q.Reply}

theorem works_of_isReading {reply : q.Reply} (hq : q.isReading = true)
    (h : q.Works s pending reply after) : after = pending := by
  have hends : q.endsWork = false := by
    cases q <;> first | rfl | cases hq
  obtain ⟨ws, hy, rfl⟩ := h
  obtain ⟨rfl, -⟩ := yields_of_isReading hq hy
  rw [hends, if_neg (by simp), List.append_nil]

/-- After a statement that only reads the same writes are pending, and nothing was committed. -/
theorem does_of_isReading (hq : q.isReading = true) (h : q.Does may s pending reply after) :
    after = pending ∧ q.committed reply = false := by
  have hclose : q ≠ .close := by
    rintro rfl
    cases hq
  have hcommit : q ≠ .commit := by
    rintro rfl
    cases hq
  cases reply with
  | error e =>
      rcases h with ⟨-, rfl⟩ | ⟨-, -, reply, hw⟩
      · exact ⟨if_neg hclose, rfl⟩
      · exact ⟨works_of_isReading hq hw, rfl⟩
  | ok reply => exact ⟨works_of_isReading hq h, beq_eq_false_iff_ne.mpr hcommit⟩

/-- A commit that fails has no effect. -/
theorem does_commit_error {e : Failure} (h : Does may s pending .commit (.error e) after) :
    after = pending := by
  rcases h with ⟨-, rfl⟩ | ⟨-, hcommit, -⟩
  · rfl
  · exact absurd rfl hcommit

/-- A session that ends has ended even if that fails. -/
theorem does_close_error {e : Failure} (h : Does may s pending .close (.error e) after) :
    may .close e ∧ after = [] := by
  rcases h with ⟨hmay | hanswer, rfl⟩ | ⟨hmay, -, reply, ws, -, rfl⟩
  · exact ⟨hmay, rfl⟩
  · cases hanswer
  · exact ⟨hmay, rfl⟩

/-- Nothing is pending after a commit. -/
theorem does_committed (h : q.Does may s pending reply after) (hc : q.committed reply = true) :
    q = .commit ∧ after = [] := by
  cases reply with
  | error e => cases hc
  | ok reply =>
      obtain ⟨ws, -, rfl⟩ := h
      have hq : q = .commit := by simpa [committed] using hc
      subst hq
      exact ⟨rfl, rfl⟩

/-- A row that a statement appends has an id that its session does not see. -/
theorem yields_fresh {reply : q.Reply} (h : q.Yields view reply ws) :
    ∀ row, .append row ∈ ws → row.id ∉ view.transactions.map (·.id) := by
  intro row hrow
  cases q with
  | append draft =>
      obtain ⟨id, hid, rfl, rfl⟩ := h
      obtain rfl := Write.append.inj (List.mem_singleton.mp hrow)
      exact hid
  | grant account item transaction =>
      obtain ⟨-, -, own, rfl, rfl⟩ := h
      simp at hrow
  | credit account amount =>
      rcases yields_credit h with ⟨-, rfl⟩ | ⟨-, n, held, -, -, rfl, -⟩ <;> simp at hrow
  | debit account amount =>
      rcases yields_debit h with ⟨-, rfl⟩ | ⟨-, n, held, -, -, rfl, -⟩ <;> simp at hrow
  | settle id current new time =>
      rcases yields_settle h with ⟨-, rfl⟩ | ⟨-, rfl, -⟩ <;> simp at hrow
  | _ =>
      obtain ⟨-, rfl⟩ := Prod.mk.inj (Except.ok.inj h)
      simp at hrow

/-- Pending writes go on fitting, statement after statement. -/
theorem Fits.works (h : Fits s pending) {reply : q.Reply} (hw : q.Works s pending reply after) :
    Fits s after := by
  obtain ⟨ws, hy, rfl⟩ := hw
  split
  · exact Fits.nil s
  · constructor
    · intro hl
      rw [Store.applyAll_append]
      exact yields_lawful hy (h.lawful hl)
    · intro row hrow
      rcases List.mem_append.mp hrow with hrow | hrow
      · exact h.fresh row hrow
      · intro hid
        refine yields_fresh hy row hrow ?_
        rw [Store.ids_applyAll]
        exact List.mem_append_left _ hid

theorem Fits.does (h : Fits s pending) (hd : q.Does may s pending reply after) :
    Fits s after := by
  cases reply with
  | error e =>
      rcases hd with ⟨-, rfl⟩ | ⟨-, -, reply, hw⟩
      · split
        · exact Fits.nil s
        · exact h
      · exact h.works hw
  | ok reply => exact h.works hd

end

end Scrip.Statement
