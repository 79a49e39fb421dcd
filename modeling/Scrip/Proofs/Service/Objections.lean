import Scrip.Proofs.History.Totals
import Scrip.Proofs.Work.Undisturbed
import Scrip.Service.TopUps
set_option autoImplicit false

/-! # Objections to a settlement

What can stand against the settlement of a top-up (`TopUps.Objection`): there is no such
transaction, or it is no pending top-up, or its amount cannot be credited, or not to its account. In
calm conditions the objection is raised, and without one the top-up is settled. The script handles
no failure, so that the same holds under faults unless one of them stops it.
-/

namespace Scrip

open Script

/-! ## The log and the balance -/

namespace Journal

variable {a : Standing} {id : Int} {t : Transaction} {new : Status} {now : Moment}

theorem calm_get (h : a.view.transaction? id = some t) (lock : Bool) :
    (get id lock).Calm a (.ok t) a := by
  refine calm_bind (calm_read rfl rfl) ?_
  rw [h]
  exact calm_done _

theorem calm_get_missing (h : a.view.transaction? id = none) (lock : Bool) :
    (get id lock).Calm a (.error (.refused (.notFound "Transaction" (toString id)))) a := by
  refine calm_bind (calm_read rfl rfl) ?_
  rw [h]
  exact calm_done _

/-- A pending top-up may move. -/
theorem requireMove_pending (id : Int) (hnew : new ≠ .pending) :
    Status.requireMove id .topup .pending new = .ok () := by
  cases new with
  | pending => exact absurd rfl hnew
  | completed => rfl
  | failed => rfl

/-- Only a pending top-up may move. -/
theorem requireMove_refused {kind : Kind} {current : Status} (id : Int)
    (h : ¬ (kind = .topup ∧ current = .pending)) :
    Status.requireMove id kind current new =
      .error (.invalidTransition id current.text new.text) := by
  refine if_neg fun hmove => h ?_
  simp only [Status.mayMove, Bool.and_eq_true, beq_iff_eq] at hmove
  exact hmove.1

theorem calm_updateStatus (h : a.view.transaction? id = some t) (hp : t.IsPending)
    (hnew : new ≠ .pending) :
    (updateStatus id new now).Calm a
      (.ok { t with status := new.text, updatedAt := some now })
      ⟨a.store, a.pending ++ [.status id new.text (some now)]⟩ := by
  have hanswer : Statement.answer a.view (.settle id Status.pending.text new.text now) =
      .ok (true, [.status id new.text (some now)]) := by
    simp [Statement.answer, Statement.answerSettle, h, hp.2]
  refine calm_bind (calm_get h true) ?_
  rw [hp.1, hp.2, Status.read_text, Kind.read_text]
  refine calm_bind (calm_done _) (calm_bind (calm_done _) ?_)
  rw [requireMove_pending id hnew]
  exact calm_bind (calm_done _) (calm_bind (calm_exec hanswer) (calm_done _))

theorem calm_updateStatus_refused (h : a.view.transaction? id = some t) (hw : t.IsWorded)
    (hp : ¬ t.IsPending) :
    (updateStatus id new now).Calm a
      (.error (.refused (.invalidTransition id t.status new.text))) a := by
  obtain ⟨⟨kind, hkind⟩, current, hcurrent⟩ := hw
  have hmove : ¬ (kind = .topup ∧ current = .pending) := by
    rintro ⟨rfl, rfl⟩
    exact hp ⟨hkind, hcurrent⟩
  refine calm_bind (calm_get h true) ?_
  rw [hkind, hcurrent, Status.read_text, Kind.read_text]
  refine calm_bind (calm_done _) (calm_bind (calm_done _) ?_)
  rw [requireMove_refused id hmove]
  exact calm_bind_error (calm_done _)

end Journal

namespace Credits

variable {a : Standing} {account held n : Int}

theorem calm_add (hn : 0 < n) (h : a.view.balance? account = some held) :
    (add account (.whole n)).Calm a (.ok ()) ⟨a.store, a.pending ++ [.balance account n]⟩ := by
  have hanswer : Statement.answer a.view (.credit account (.whole n)) =
      .ok (true, [.balance account n]) := by
    simp [Statement.answer, Statement.answerCredit, Quantity.positive, hn, h]
  exact calm_bind (calm_exec hanswer) (calm_done _)

theorem calm_add_refused {q : Quantity} {reason : Refusal} (h : q.positive = .error reason) :
    (add account q).Calm a (.error (.refused reason)) a := by
  have hanswer : Statement.answer a.view (.credit account q) = .error (.refused reason) := by
    simp [Statement.answer, Statement.answerCredit, h]
  exact calm_bind_error (calm_exec_error (by simp) hanswer)

theorem calm_add_tiny (hn : n ≤ 0) :
    (add account (.whole n)).Calm a (.error (.refused (Quantity.refusal (toString n)))) a :=
  calm_add_refused (if_neg (Int.not_lt.mpr hn))

theorem calm_add_absent (hn : 0 < n) (h : a.view.balance? account = none) :
    (add account (.whole n)).Calm a (.error (.refused (.accountNotFound account))) a := by
  have hanswer : Statement.answer a.view (.credit account (.whole n)) = .ok (false, []) := by
    simp [Statement.answer, Statement.answerCredit, Quantity.positive, hn, h]
  exact calm_bind (calm_idle rfl hanswer) (calm_done _)

end Credits

namespace TopUps

variable {s : Store} {id : Int} {approved : Bool} {t : Transaction} {reason : Refusal}
  {now : Moment}

theorem verdict_ne_pending (approved : Bool) : verdict approved ≠ .pending := by
  cases approved <;> decide

/-- What stands against the settlement of a top-up. -/
inductive Objection (s : Store) (id : Int) (approved : Bool) : Refusal → Prop where
  | missing (unknown : s.transaction? id = none) :
      Objection s id approved (.notFound "Transaction" (toString id))
  | settled {t : Transaction} (found : s.transaction? id = some t) (settled : ¬ t.IsPending) :
      Objection s id approved (.invalidTransition id t.status (verdict approved).text)
  | amount {t : Transaction} (found : s.transaction? id = some t) (pending : t.IsPending)
      (paid : approved = true) (tiny : t.amount ≤ 0) :
      Objection s id approved (Quantity.refusal (toString t.amount))
  | account {t : Transaction} (found : s.transaction? id = some t) (pending : t.IsPending)
      (paid : approved = true) (positive : 0 < t.amount) (absent : s.balance? t.account = none) :
      Objection s id approved (.accountNotFound t.account)

/-- A pending top-up that can be settled: if it is approved, its amount can be credited. -/
structure Acceptable (s : Store) (id : Int) (approved : Bool) (t : Transaction) : Prop where
  found : s.transaction? id = some t
  pending : t.IsPending
  positive : approved = true → 0 < t.amount
  funds : approved = true → ∃ held, s.balance? t.account = some held

/-- There are no other objections. -/
theorem acceptable_of_no_objection (h : ∀ reason, ¬ Objection s id approved reason) :
    ∃ t, Acceptable s id approved t := by
  cases hfound : s.transaction? id with
  | none => exact absurd (Objection.missing hfound) (h _)
  | some t =>
      have hpending : t.IsPending := by
        by_contra hsettled
        exact h _ (Objection.settled hfound hsettled)
      have hpositive : approved = true → 0 < t.amount := by
        intro hpaid
        by_contra htiny
        exact h _ (Objection.amount hfound hpending hpaid (Int.not_lt.mp htiny))
      refine ⟨t, hfound, hpending, hpositive, fun hpaid => ?_⟩
      rw [← Option.isSome_iff_exists, ← Option.ne_none_iff_isSome]
      exact fun habsent =>
        h _ (Objection.account hfound hpending hpaid (hpositive hpaid) habsent)

/-- A settlement survives no failure. -/
theorem passesOn_settle : (settle now id approved).PassesOn := by
  have hget : ∀ lock, (Journal.get id lock).PassesOn := by
    intro lock
    refine passesOn_bind (passesOn_exec _) fun row => ?_
    cases row with
    | none => exact passesOn_done _
    | some t => exact passesOn_done _
  have hadd : ∀ account n, (Credits.add account n).PassesOn := by
    intro account n
    refine passesOn_bind (passesOn_exec _) fun done => ?_
    cases done <;> exact passesOn_done _
  have hend : ∀ row : Transaction, (do exec .commit; return row : Script Transaction).PassesOn :=
    fun row => passesOn_bind (passesOn_exec .commit) fun _ => passesOn_done _
  refine passesOn_bind (hget false) fun located => passesOn_bind ?_ fun row => ?_
  · refine passesOn_bind (hget true) fun row => passesOn_bind (passesOn_done _) fun current => ?_
    refine passesOn_bind (passesOn_done _) fun kind => passesOn_bind (passesOn_done _) fun _ => ?_
    refine passesOn_bind (passesOn_exec _) fun moved => ?_
    cases moved <;> exact passesOn_done _
  · cases approved with
    | true => exact passesOn_bind (hadd _ _) fun _ => hend row
    | false => exact hend row

theorem calm_locate (found : s.transaction? id = some t) :
    (Journal.get id false).Calm ⟨s, []⟩ (.ok t) ⟨s, []⟩ :=
  Journal.calm_get (a := ⟨s, []⟩) found false

/-- A pending top-up gets its new state first. -/
theorem calm_mark (found : s.transaction? id = some t) (pending : t.IsPending) :
    (Journal.updateStatus id (verdict approved) now).Calm ⟨s, []⟩
      (.ok { t with status := (verdict approved).text, updatedAt := some now })
      ⟨s, [.status id (verdict approved).text (some now)]⟩ :=
  Journal.calm_updateStatus found pending (verdict_ne_pending approved)

/-- In calm conditions an objection is raised. -/
theorem calm_settle_objection (hw : ∀ t ∈ s.transactions, t.IsWorded)
    (h : Objection s id approved reason) :
    ∃ b, (settle now id approved).Calm ⟨s, []⟩ (.error (.refused reason)) b := by
  cases h with
  | missing unknown =>
      exact ⟨_, calm_bind_error (Journal.calm_get_missing (a := ⟨s, []⟩) unknown false)⟩
  | settled found settled =>
      have hworded := hw _ (Store.mem_of_transaction? found)
      exact ⟨_, calm_bind (calm_locate found)
        (calm_bind_error (Journal.calm_updateStatus_refused (a := ⟨s, []⟩) found hworded settled))⟩
  | amount found pending paid tiny =>
      subst paid
      exact ⟨_, calm_bind (calm_locate found)
        (calm_bind (calm_mark found pending) (calm_bind_error (Credits.calm_add_tiny tiny)))⟩
  | account found pending paid positive absent =>
      subst paid
      exact ⟨_, calm_bind (calm_locate found) (calm_bind (calm_mark found pending)
        (calm_bind_error (Credits.calm_add_absent positive absent)))⟩

/-- In calm conditions what can be settled is settled. -/
theorem calm_settle_acceptable (h : Acceptable s id approved t) :
    ∃ b, (settle now id approved).Calm ⟨s, []⟩
      (.ok { t with status := (verdict approved).text, updatedAt := some now }) b := by
  have hcommit : ∀ (row : Transaction) (a : Standing),
      (do exec .commit; return row : Script Transaction).Calm a (.ok row) (a.after .commit []) :=
    fun row a => calm_bind (calm_exec rfl) (calm_done _)
  cases approved with
  | true =>
      obtain ⟨held, hfunds⟩ := h.funds rfl
      exact ⟨_, calm_bind (calm_locate h.found) (calm_bind (calm_mark h.found h.pending)
        (calm_bind (Credits.calm_add (h.positive rfl) hfunds) (hcommit _ _)))⟩
  | false =>
      exact ⟨_, calm_bind (calm_locate h.found)
        (calm_bind (calm_mark h.found h.pending) (hcommit _ _))⟩

end TopUps

end Scrip
