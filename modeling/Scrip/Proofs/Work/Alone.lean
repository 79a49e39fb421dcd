import Scrip.Ledger
import Scrip.Proofs.Work.Safe
set_option autoImplicit false

/-! # A session alone

A session that works alone, under any faults, is one of the courses that a safe script allows.
So what a safe script has committed at the end of a run is a sequence of deeds, each done to the
store that the one before has left, and its postcondition holds (`Script.Safe.run`).
-/

namespace Scrip

/-- The failures that some faults can give a statement. -/
def Strikes (f : Faults) (q : Statement) (e : Failure) : Prop :=
  ∃ before, f.early before q = some e ∨ f.late before q = some e

/-! ## Single statements -/

namespace Session

variable (st : Session) (q : Statement)

theorem pending_succeed (ws : List Write) :
    (st.succeed q ws).pending = if q.endsWork then [] else st.pending ++ ws := by
  cases q <;> rfl

theorem committed_succeed (ws : List Write) :
    (st.succeed q ws).committed = if q = .commit then st.view else st.committed := by
  cases q <;> rfl

theorem pending_suffer : (st.suffer q).pending = if q = .close then [] else st.pending := by
  cases q <;> rfl

theorem committed_suffer : (st.suffer q).committed = st.committed := by
  cases q <;> rfl

variable (f : Faults)

/-- What a session alone does with a statement, a database may do. -/
theorem execute_does :
    q.Does (Strikes f) st.committed st.pending
      (st.execute (.failing f) q).1 (st.execute (.failing f) q).2.pending := by
  unfold execute Conditions.failing
  cases hearly : f.early st.trace q with
  | some e =>
      simp only [hearly]
      exact Or.inl ⟨Or.inl ⟨st.trace, Or.inl hearly⟩, pending_suffer _ q⟩
  | none =>
      simp only [hearly]
      cases ha : q.answer (view { st with trace := q :: st.trace }) with
      | error e => exact Or.inl ⟨Or.inr ha, pending_suffer _ q⟩
      | ok answer =>
          obtain ⟨reply, ws⟩ := answer
          have hworks : q.Works st.committed st.pending reply
              (succeed { st with trace := q :: st.trace } q ws).pending :=
            ⟨ws, Statement.yields_of_answer ha, pending_succeed _ q ws⟩
          by_cases hq : q = .commit
          · simp only [if_pos hq]
            exact hworks
          · simp only [if_neg hq]
            cases hlate : f.late st.trace q with
            | some e => exact Or.inr ⟨⟨st.trace, Or.inr hlate⟩, hq, reply, hworks⟩
            | none => exact hworks

/-- The committed store changes with a commit only. -/
theorem execute_committed :
    (st.execute (.failing f) q).2.committed =
      if q.committed (st.execute (.failing f) q).1 then st.view else st.committed := by
  unfold execute Conditions.failing
  cases hearly : f.early st.trace q with
  | some e =>
      simp only [hearly]
      exact committed_suffer _ q
  | none =>
      simp only [hearly]
      cases ha : q.answer (view { st with trace := q :: st.trace }) with
      | error e => exact committed_suffer _ q
      | ok answer =>
          obtain ⟨reply, ws⟩ := answer
          by_cases hq : q = .commit
          · subst hq
            rfl
          · have hsame : (succeed { st with trace := q :: st.trace } q ws).committed =
                st.committed := (committed_succeed _ q ws).trans (if_neg hq)
            simp only [if_neg hq]
            cases hlate : f.late st.trace q with
            | some e => exact hsame
            | none =>
                refine hsame.trans ?_
                rw [if_neg (by simpa [Statement.committed] using hq)]

end Session

/-! ## Runs -/

/-- The end of a run of a safe script satisfies the postcondition in a course that stands where
the session stands. -/
theorem Script.Safe.run {α : Type} {f : Faults}
    {p : Script α} {Q : Except Failure α → Course → Prop} {c : Course} {origin : Store}
    {st : Session} (h : p.Safe (Strikes f) Q c) (hstore : st.committed = c.store)
    (hpending : st.pending = c.pending) (hdeeds : Deeds origin c.deeds c.store)
    (hfits : Statement.Fits c.store c.pending) :
    ∃ c', Q (p.run (.failing f) st).1 c' ∧
      (p.run (.failing f) st).2.committed = c'.store ∧ Deeds origin c'.deeds c'.store := by
  -- session and course stand at the same store with the same writes after every statement
  induction p generalizing c st with
  | done r => exact ⟨c, h, hstore, hdeeds⟩
  | ask q next ih =>
      have hd := st.execute_does q f
      have hc := st.execute_committed q f
      simp only [Script.run]
      set reply := (st.execute (.failing f) q).1
      set st' := (st.execute (.failing f) q).2
      rw [hstore, hpending] at hd
      obtain ⟨hdeed, hsafe⟩ := h c.store (Others.refl _ _) reply st'.pending hd
      cases hb : q.committed reply with
      | true =>
          obtain ⟨rfl, hafter⟩ := Statement.does_committed hd hb
          rw [hb, if_pos rfl, Session.view, hstore, hpending] at hc
          rw [hb, hafter] at hsafe
          exact ih reply hsafe hc hafter (hdeeds.last (hdeed hb) hfits) (Statement.Fits.nil _)
      | false =>
          rw [hb, if_neg (by simp), hstore] at hc
          rw [hb] at hsafe
          exact ih reply hsafe hc rfl hdeeds (hfits.does hd)

/-- A safe script alone on a store: its postcondition holds at the end, and what it has committed
leads from the store before to the store after. -/
theorem Ledger.run_of_safe {α : Type} {f : Faults}
    {p : Script α} {P : Except Failure α → List (Store × List Write) → Prop} (l : Ledger)
    (h : p.Safe (Strikes f) (fun r c => P r c.deeds) (.fresh l.store)) :
    ∃ ds, P (l.run (.failing f) p).1 ds ∧
      Deeds l.store ds (l.run (.failing f) p).2.store := by
  have hstart : (Session.start l.store).committed = (Course.fresh l.store).store := rfl
  obtain ⟨c, hP, hstore, hdeeds⟩ :=
    h.run hstart rfl (Deeds.none l.store) (Statement.Fits.nil l.store)
  refine ⟨c.deeds, hP, ?_⟩
  show Deeds l.store c.deeds (p.run (.failing f) (Session.start l.store)).2.committed
  rw [hstore]
  exact hdeeds

end Scrip
