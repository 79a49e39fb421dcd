import Scrip.Proofs.Work.Calm
set_option autoImplicit false

/-! # Runs that a fault ends

A script that handles no failure of a statement ends with the first one (`Script.PassesOn`). So
under faults it either runs as in calm conditions, or it ends in the failure that a fault has given
to a statement of the run. A unit of work adds its own end: there a storage fault becomes a refusal,
and the failure of a rollback takes the place of the first one.
-/

namespace Scrip

namespace Faults

variable {α : Type} {f : Faults} {r : Except Failure α} {asked asked' : List Statement}

/-- A fault has struck one of the statements that were executed, which are given latest first. -/
def Hits (f : Faults) (asked : List Statement) (e : Failure) : Prop :=
  ∃ q before, q :: before <:+ asked ∧ (f.early before q = some e ∨ f.late before q = some e)

/-- The result is the failure that a fault has given to a statement. -/
def Stops (f : Faults) (asked : List Statement) (r : Except Failure α) : Prop :=
  ∃ e, f.Hits asked e ∧ r = .error e

/-- The result is the failure that a fault has given to a statement, or what a unit of work makes
of it. -/
def Spoils (f : Faults) (asked : List Statement) (r : Except Failure α) : Prop :=
  ∃ e, f.Hits asked e ∧ (r = .error e ∨ r = .error e.atEnd)

theorem Hits.later {e : Failure} (h : f.Hits asked e) (hasked : asked <:+ asked') :
    f.Hits asked' e := by
  obtain ⟨q, before, hsuffix, hstruck⟩ := h
  exact ⟨q, before, hsuffix.trans hasked, hstruck⟩

theorem Stops.spoils (h : f.Stops asked r) : f.Spoils asked r := by
  obtain ⟨e, hhits, hr⟩ := h
  exact ⟨e, hhits, Or.inl hr⟩

end Faults

/-- A statement that no fault strikes is executed as in calm conditions. -/
theorem Session.execute_calm_or_struck (st : Session) (f : Faults) (q : Statement) :
    st.execute (.failing f) q = st.execute .calm q ∨
      ∃ e, (f.early st.trace q = some e ∨ f.late st.trace q = some e) ∧
        (st.execute (.failing f) q).1 = .error e := by
  unfold execute Conditions.failing Conditions.calm
  cases hearly : f.early st.trace q with
  | some e =>
      simp only [hearly]
      exact Or.inr ⟨e, Or.inl rfl, rfl⟩
  | none =>
      simp only [hearly]
      cases q.answer (view { st with trace := q :: st.trace }) with
      | error e => exact Or.inl rfl
      | ok answer =>
          by_cases hq : q = .commit
          · simp only [if_pos hq]
            exact Or.inl trivial
          · simp only [if_neg hq]
            cases hlate : f.late st.trace q with
            | some e => exact Or.inr ⟨e, Or.inr rfl, rfl⟩
            | none => exact Or.inl rfl

namespace Script

variable {α β : Type} {f : Faults} {p : Script α} {st : Session}

/-- The statements of a run come after those before it. -/
theorem trace_run (p : Script α) (f : Faults) (st : Session) :
    st.trace <:+ (p.run (.failing f) st).2.trace := by
  induction p generalizing st with
  | done r => exact List.suffix_refl _
  | ask q next ih =>
      have hstep : st.trace <:+ (st.execute (.failing f) q).2.trace := by
        rw [st.execute_trace]
        exact List.suffix_cons q st.trace
      exact hstep.trans (ih _ _)

/-- A statement that fails ends the script with its failure. -/
def PassesOn : Script α → Prop
  | done _ => True
  | ask _ next => (∀ e, next (.error e) = done (.error e)) ∧ ∀ r, (next r).PassesOn

theorem passesOn_done (r : Except Failure α) : (done r).PassesOn := trivial

theorem passesOn_exec (q : Statement) : (exec q).PassesOn :=
  ⟨fun _ => rfl, fun r => passesOn_done r⟩

theorem passesOn_bind {k : α → Script β} (hp : p.PassesOn) (hk : ∀ a, (k a).PassesOn) :
    (p >>= k).PassesOn := by
  induction p with
  | done r =>
      cases r with
      | ok a => exact hk a
      | error e => exact passesOn_done _
  | ask q next ih =>
      refine ⟨fun e => ?_, fun r => ih r (hp.2 r)⟩
      show (next (.error e)).bind k = done (.error e)
      rw [hp.1 e]
      rfl

/-- Unless a fault stops the script, it runs as in calm conditions. -/
theorem PassesOn.run (h : p.PassesOn) (f : Faults) (st : Session) :
    p.run (.failing f) st = p.run .calm st ∨
      f.Stops (p.run (.failing f) st).2.trace (p.run (.failing f) st).1 := by
  induction p generalizing st with
  | done r => exact Or.inl rfl
  | ask q next ih =>
      have htrace := st.execute_trace f q
      simp only [Script.run]
      rcases st.execute_calm_or_struck f q with hsame | ⟨e, hstruck, hr⟩
      · rw [hsame]
        exact ih _ (h.2 _) _
      · rw [hr, h.1 e]
        exact Or.inr ⟨e, ⟨q, st.trace, htrace ▸ List.suffix_refl _, hstruck⟩, rfl⟩

/-- Unless a fault stops the script, it ends as in calm conditions. -/
theorem PassesOn.ends (h : p.PassesOn) {a b : Standing} {r : Except Failure α}
    (hcalm : p.Calm a r b) (hst : st.standing = a) :
    Ends (.failing f) p
      (fun r' st' => r' = r ∧ st'.standing = b ∨ f.Stops st'.trace r') st := by
  rcases h.run f st with hsame | hstops
  · refine Or.inl ?_
    rw [hsame]
    exact hcalm st hst
  · exact Or.inr hstops

/-! ## Units of work -/

theorem ends_closeWith_or_stops (e : Failure) (st : Session) :
    Ends (.failing f) (closeWith e : Script α)
      (fun r st' => r = .error e ∨ f.Stops st'.trace r) st := by
  have hpasses : (closeWith e : Script α).PassesOn :=
    passesOn_bind (passesOn_exec .close) fun _ => passesOn_done _
  exact (hpasses.ends (calm_closeWith e) rfl).mono fun r st' h => h.imp_left And.left

theorem ends_abandon_or_stops (e : Failure) (st : Session) :
    Ends (.failing f) (abandon e : Script α)
      (fun r st' => r = .error e ∨ f.Stops st'.trace r) st := by
  refine ends_bind (ends_attempt ?_)
  refine ((passesOn_exec .rollback).ends (calm_exec rfl) rfl).mono ?_
  rintro _ st' (⟨rfl, -⟩ | ⟨e', hhits, rfl⟩)
  · exact ends_closeWith_or_stops e st'
  · have hlater := trace_run (closeWith e' : Script α) f st'
    rcases ends_closeWith_or_stops (f := f) (α := α) e' st' with hr | hstops
    · exact Or.inr ⟨e', hhits.later hlater, hr⟩
    · exact Or.inr hstops

theorem ends_conclude_or_stops (r : Except Failure α) (st : Session) :
    Ends (.failing f) (conclude r)
      (fun r' st' => r' = r.mapError Failure.atEnd ∨ f.Stops st'.trace r') st := by
  match r with
  | .ok a =>
      have hpasses : (conclude (.ok a)).PassesOn :=
        passesOn_bind (passesOn_exec .close) fun _ => passesOn_done _
      exact (hpasses.ends (calm_conclude (.ok a)) rfl).mono fun r st' h => h.imp_left And.left
  | .error (.refused r) => exact ends_abandon_or_stops _ st
  | .error (.storage f m) => exact ends_abandon_or_stops _ st
  | .error (.crash k m) => exact ends_closeWith_or_stops _ st

/-- A unit of work ends as in calm conditions unless a fault spoils it. -/
theorem PassesOn.ends_unitOfWork (h : p.PassesOn) {s : Store} {b : Standing}
    {r : Except Failure α} (hcalm : p.Calm ⟨s, []⟩ r b) (st : Session)
    (hst : st.standing = ⟨s, []⟩) : Ends (.failing f) (unitOfWork p)
      (fun r' st' => r' = r.mapError Failure.atEnd ∨ f.Spoils st'.trace r') st := by
  refine ends_bind (((passesOn_exec .connect).ends (calm_exec rfl) hst).mono ?_)
  rintro _ st₁ (⟨rfl, hst₁⟩ | ⟨e, hhits, rfl⟩)
  · dsimp only [GoesOn]
    refine ends_bind (ends_attempt ((h.ends hcalm hst₁).mono ?_))
    rintro r₁ st₂ (⟨rfl, -⟩ | ⟨e, hhits, rfl⟩)
    · exact (ends_conclude_or_stops r₁ st₂).mono fun r _ h => h.imp_right Faults.Stops.spoils
    · -- the first failure is what the unit ends in, unless its own end fails as well
      have hlater := trace_run (conclude (.error e : Except Failure α)) f st₂
      rcases ends_conclude_or_stops (f := f) (.error e : Except Failure α) st₂ with hr | hstops
      · exact Or.inr ⟨e, hhits.later hlater, Or.inr hr⟩
      · exact Or.inr hstops.spoils
  · exact Or.inr ⟨e, hhits, Or.inl rfl⟩

end Script

namespace Ledger

variable {α : Type} {l : Ledger}

def asked (l : Ledger) (c : Conditions) (script : Script α) : List Statement :=
  (script.run c (Session.start l.store)).2.trace

/-- What a unit of work comes to on a ledger, under any faults. -/
theorem run_failing {p : Script α} {r : Except Failure α} {b : Standing} (h : p.PassesOn)
    (hcalm : p.Calm ⟨l.store, []⟩ r b) (f : Faults) :
    (l.run (.failing f) (Script.unitOfWork p)).1 = r.mapError Failure.atEnd ∨
      f.Spoils (l.asked (.failing f) (Script.unitOfWork p))
        (l.run (.failing f) (Script.unitOfWork p)).1 :=
  h.ends_unitOfWork hcalm (Session.start l.store) rfl

end Ledger

end Scrip
