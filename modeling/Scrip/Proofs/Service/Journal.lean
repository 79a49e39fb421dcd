import Scrip.Proofs.Work.Safe
import Scrip.Service.Journal
set_option autoImplicit false

/-! # The transaction log in a session

What looking up and settling a transaction may do to the course of a session. A settlement adds
its write only when the row is a pending top-up at that moment, and then the row is what was
read before, for only its state could have changed.
-/

namespace Scrip

/-- A row of the log that is still pending has not changed. -/
theorem Transaction.Continues.eq_of_pending {t t' : Transaction} (h : t.Continues t')
    (hp : t'.status = Status.pending.text) : t' = t := by
  rcases h with rfl | ⟨-, s, time, hs, rfl⟩
  · rfl
  · exact absurd (Status.text_inj.mp hp) hs

namespace Journal

open Script

variable {may : Statement → Failure → Prop} {c : Course} {now : Moment} {id : Int}

theorem safe_get {lock : Bool} {Q : Except Failure Transaction → Course → Prop}
    (fails : ∀ s e, Others c.pending c.store s → Q (.error e) (c.on s))
    (works : ∀ s t, Others c.pending c.store s →
      (s.applyAll c.pending).transaction? id = some t → Q (.ok t) (c.on s)) :
    Safe may (get id lock) Q c := by
  refine safe_bind (safe_read rfl fails ?_)
  intro s reply hs ha
  obtain rfl := (Prod.mk.inj (Except.ok.inj ha)).1
  cases ht : (s.applyAll c.pending).transaction? id with
  | none => exact fails s _ hs
  | some t => exact works s t hs ht

/-- A new state is written only to a row that is still pending when it is written, whatever has
happened since it was read. -/
theorem safe_updateStatus {new : Status} {Q : Except Failure Transaction → Course → Prop}
    (hp : c.pending = [])
    (fails : ∀ s e after, Others [] c.store s → Q (.error e) ⟨s, after, c.deeds⟩)
    (works : ∀ s t, Others [] c.store s → s.transaction? id = some t → t.IsPending →
      new ≠ .pending → Q (.ok { t with status := new.text, updatedAt := some now })
        ⟨s, [.status id new.text (some now)], c.deeds⟩) :
    Safe may (updateStatus id new now) Q c := by
  have hon : ∀ {s s'}, Others c.pending c.store s → Others c.pending s s' →
      Others [] c.store s' := by
    intro s s' hs hs'
    rw [hp] at hs hs'
    exact hs.trans hs'
  refine safe_bind (safe_get ?_ ?_)
  · intro s e hs
    exact fails s e c.pending (hon hs (Others.refl _ _))
  intro s t hs ht
  rw [hp, Store.applyAll_nil] at ht
  have failed := fun e => fails s e c.pending (hon hs (Others.refl _ _))
  -- the words of the row must be known, and the move must be allowed
  refine safe_bind ?_
  show Then _ may Q (Status.read t.status) (c.on s)
  cases hstatus : Status.read t.status with
  | error e => exact failed e
  | ok current =>
  refine safe_bind ?_
  show Then _ may Q (Kind.read t.kind) (c.on s)
  cases hkind : Kind.read t.kind with
  | error e => exact failed e
  | ok kind =>
  refine safe_bind ?_
  show Then _ may Q ((Status.requireMove id kind current new).mapError .refused) (c.on s)
  cases hmove : Status.requireMove id kind current new with
  | error r => exact failed _
  | ok _ =>
  obtain ⟨rfl, rfl, hnew⟩ := Status.requireMove_eq_ok hmove
  refine safe_bind (safe_settle ?_ ?_ ?_)
  · intro s' e after hs'
    exact fails s' e after (hon hs hs')
  · intro s' hs'
    exact fails s' _ c.pending (hon hs hs')
  · intro s' t' hs' ht' hst
    replace ht' : (s'.applyAll c.pending).transaction? id = some t' := ht'
    rw [hp, Store.applyAll_nil] at ht'
    obtain ⟨t'', ht'', hgoes⟩ := hs'.grows.transaction? ht
    obtain rfl : t'' = t' := by
      rw [show s'.transaction? id = some t'' from ht''] at ht'
      exact Option.some.inj ht'
    obtain rfl := hgoes.eq_of_pending hst
    have h := works s' t'' (hon hs hs') ht' ⟨Kind.read_eq_ok.mp hkind, hst⟩ hnew
    show Q _ ⟨s', c.pending ++ [.status id new.text (some now)], c.deeds⟩
    rw [hp]
    exact h

end Journal

end Scrip
