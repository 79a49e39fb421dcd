import Scrip.Proofs.Work.Run
import Mathlib.Data.Option.Basic
set_option autoImplicit false

/-! # Sessions in lockstep

Two sessions execute statements that correspond, one after the other, and are struck by faults that
correspond. As long as the answers of the database do so too, the statements fail on both sides or
on neither, and what relation the two stores stand in passes from statement to statement
(`Session.Lockstep.execute`). Which statements, failures and stores correspond is left open.
-/

namespace Scrip

variable {A : Statement → Statement → Prop} {E : Failure → Failure → Prop}
  {R : Store → Store → Prop}

/-- Statements that correspond do the same to a session. -/
structure Statement.Congruent (A : Statement → Statement → Prop) : Prop where
  commit_iff : ∀ {q q'}, A q q' → (q' = .commit ↔ q = .commit)
  close_iff : ∀ {q q'}, A q q' → (q' = .close ↔ q = .close)
  endsWork_eq : ∀ {q q'}, A q q' → q'.endsWork = q.endsWork

/-- Faults that strike statements that correspond on both sides or on neither. -/
structure Faults.Correspond (A : Statement → Statement → Prop) (E : Failure → Failure → Prop)
    (f f' : Faults) : Prop where
  early : ∀ {before before' q q'}, List.Forall₂ A before before' → A q q' →
    Option.Rel E (f.early before q) (f'.early before' q')
  late : ∀ {before before' q q'}, List.Forall₂ A before before' → A q q' →
    Option.Rel E (f.late before q) (f'.late before' q')

/-! ## Results -/

/-- Results that are values in one relation, or failures in another. -/
inductive Paired {α α' : Type} (E : Failure → Failure → Prop) (V : α → α' → Prop) :
    Except Failure α → Except Failure α' → Prop where
  | ok {a : α} {a' : α'} (h : V a a') : Paired E V (.ok a) (.ok a')
  | error {e e' : Failure} (h : E e e') : Paired E V (.error e) (.error e')

namespace Paired

variable {α α' : Type} {V W : α → α' → Prop} {r : Except Failure α} {r' : Except Failure α'}

theorem mono (h : Paired E V r r') (hV : ∀ a a', V a a' → W a a') : Paired E W r r' := by
  cases h with
  | ok h => exact .ok (hV _ _ h)
  | error h => exact .error h

theorem eq_map {g : α → α'} (h : Paired Eq (fun a a' => a' = g a) r r') : r' = r.map g := by
  cases h with
  | ok h => exact congrArg Except.ok h
  | error h => exact congrArg Except.error h.symm

end Paired

/-! ## Sessions -/

namespace Session

variable {f f' : Faults} {st st' : Session} {q q' : Statement}

/-- Two sessions have executed statements that correspond, and what they have committed stands in
a relation, as does what they see. -/
structure Lockstep (A : Statement → Statement → Prop) (R : Store → Store → Prop)
    (st st' : Session) : Prop where
  trace : List.Forall₂ A st.trace st'.trace
  committed : R st.committed st'.committed
  view : R st.view st'.view

theorem lockstep_start {s s' : Store} (h : R s s') : (start s).Lockstep A R (start s') :=
  ⟨.nil, h, h⟩

variable (hA : Statement.Congruent A) (h : st.Lockstep A R st') (hq : A q q')

include hA h hq

theorem Lockstep.suffer : (st.suffer q).Lockstep A R (st'.suffer q') where
  trace := by
    rw [trace_suffer, trace_suffer]
    exact h.trace
  committed := by
    rw [committed_suffer, committed_suffer]
    exact h.committed
  view := by
    simp only [view_suffer, hA.close_iff hq]
    split
    · exact h.committed
    · exact h.view

theorem Lockstep.succeed {ws ws' : List Write}
    (hws : R (st.view.applyAll ws) (st'.view.applyAll ws')) :
    (st.succeed q ws).Lockstep A R (st'.succeed q' ws') where
  trace := by
    rw [trace_succeed, trace_succeed]
    exact h.trace
  committed := by
    simp only [committed_succeed, hA.commit_iff hq]
    split
    · exact h.view
    · exact h.committed
  view := by
    simp only [view_succeed, hA.commit_iff hq, hA.endsWork_eq hq]
    split
    · exact h.view
    · split
      · exact h.committed
      · exact hws

/-- Corresponding statements get corresponding replies, from the database or from the faults. -/
theorem Lockstep.execute (hf : Faults.Correspond A E f f') {S : q.Reply → q'.Reply → Prop}
    (ha : Paired E (fun a a' => S a.1 a'.1 ∧ R (st.view.applyAll a.2) (st'.view.applyAll a'.2))
      (q.answer st.view) (q'.answer st'.view)) :
    Paired E S (st.execute (.failing f) q).1 (st'.execute (.failing f') q').1 ∧
      (st.execute (.failing f) q).2.Lockstep A R (st'.execute (.failing f') q').2 := by
  have hseen : ({ st with trace := q :: st.trace } : Session).Lockstep A R
      { st' with trace := q' :: st'.trace } := ⟨.cons hq h.trace, h.committed, h.view⟩
  unfold Session.execute Conditions.failing
  simp only [hA.commit_iff hq]
  -- the faults strike both statements or neither, early as late
  have hearly := hf.early h.trace hq
  have hlate := hf.late h.trace hq
  generalize f.early st.trace q = early, f'.early st'.trace q' = early' at hearly ⊢
  generalize f.late st.trace q = late, f'.late st'.trace q' = late' at hlate ⊢
  rw [show st.view = Session.view { st with trace := q :: st.trace } from rfl,
    show st'.view = Session.view { st' with trace := q' :: st'.trace } from rfl] at ha
  generalize q.answer (Session.view _) = answer, q'.answer (Session.view _) = answer' at ha ⊢
  cases hearly with
  | some he => exact ⟨.error he, hseen.suffer hA hq⟩
  | none =>
      cases ha with
      | error he => exact ⟨.error he, hseen.suffer hA hq⟩
      | ok ha =>
          obtain ⟨hreply, hws⟩ := ha
          have hafter := hseen.succeed hA hq hws
          by_cases hc : q = .commit
          · simp only [if_pos hc]
            exact ⟨.ok hreply, hafter⟩
          · simp only [if_neg hc]
            cases hlate with
            | some he => exact ⟨.error he, hafter⟩
            | none => exact ⟨.ok hreply, hafter⟩

end Session

end Scrip
