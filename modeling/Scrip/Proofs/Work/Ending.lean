import Scrip.Proofs.Work.Run
import Scrip.Work.Faults
set_option autoImplicit false

/-! # The end of a unit of work

What the work of a unit has committed, and the failure that it ended in, are what the unit leaves
and ends in, as long as the session is closed without a fault once something has been committed.
Before that a fault at the end is harmless, for nothing has been committed. A fault of the rollback
takes the place of the failure that it follows.
-/

namespace Scrip

namespace Faults

/-- Once something has been committed, the session is closed without a failure. -/
def SparesClose (f : Faults) : Prop :=
  ∀ before, f.HasCommitted before → f.early before .close = none ∧ f.late before .close = none

/-- Faults by name spare the close of a session, for none of them strikes it. -/
theorem sparesClose_named (early late : List Fault) :
    SparesClose
      { early := (Conditions.ofFaults early []).fault
        late := (Conditions.ofFaults late []).fault } := by
  have hclose : ∀ faults before, (Conditions.ofFaults faults []).fault before .close = none := by
    intro faults before
    refine Option.map_eq_none_iff.mpr (List.find?_eq_none.mpr fun fault _ => ?_)
    cases fault.site <;> exact Bool.false_ne_true
  exact fun before _ => ⟨hclose early before, hclose late before⟩

/-- Some rollback ends in a refusal, which is the ledger's own word. -/
def Refuses (f : Faults) (r : Refusal) : Prop :=
  ∃ before, f.early before .rollback = some (.refused r) ∨
    f.late before .rollback = some (.refused r)

end Faults

namespace Script

variable {α : Type} {f : Faults} {s : Store} {Q : Except Failure α → Store → Prop} {st : Session}

/-- What work must have established so that its unit of work ends as `Q` says: if it has failed,
nothing was committed, or it ended in a refusal that `Q` allows, and so does it allow whatever a
rollback may end in. -/
def Concludes (f : Faults) (s : Store) (Q : Except Failure α → Store → Prop)
    (r : Except Failure α) (s' : Store) : Prop :=
  match r with
  | .ok a => Q (.ok a) s'
  | .error e => s' = s ∨ ∃ r, e = .refused r ∧ Q (.error (.refused r)) s' ∧
      ∀ e', (∀ r', e' = .refused r' → f.Refuses r') → Q (.error e') s'

/-- A fault at the close of a session means that nothing has been committed. -/
theorem committed_of_close_error (hf : f.SparesClose) (hst : st.Since f s) {e : Failure}
    (h : f.early st.trace .close = some e ∨ f.late st.trace .close = some e ∨
      Statement.close.answer st.view = .error e) : st.committed = s := by
  refine hst fun hcommitted => ?_
  obtain ⟨hearly, hlate⟩ := hf _ hcommitted
  rw [hearly, hlate] at h
  rcases h with h | h | h <;> cases h

theorem refuses_of_rollback_error {r : Refusal}
    (h : f.early st.trace .rollback = some (.refused r) ∨
      f.late st.trace .rollback = some (.refused r) ∨
      Statement.rollback.answer st.view = .error (.refused r)) : f.Refuses r := by
  rcases h with h | h | h
  · exact ⟨_, Or.inl h⟩
  · exact ⟨_, Or.inr h⟩
  · cases h

theorem since_of_trace {st' : Session} {q : Statement} (hst : st.Since f s)
    (hcommitted : st'.committed = st.committed) (htrace : st'.trace = q :: st.trace) :
    st'.Since f s := by
  intro h
  rw [htrace] at h
  exact hcommitted.trans (hst fun hbefore => h (Or.inr hbefore))

variable (hf : f.SparesClose) (hkeep : ∀ e, Q (.error e) s)

include hf hkeep

/-- The close of a session commits nothing, and if it fails nothing was committed before. -/
theorem ends_close {rest : Script α} (hst : st.Since f s)
    (hrest : ∀ st', st'.committed = st.committed →
      Ends (.failing f) rest (fun r st'' => Q r st''.committed) st') :
    Ends (.failing f) (exec .close >>= fun _ => rest) (fun r st' => Q r st'.committed) st := by
  refine ends_bind (ends_exec (by decide) ?_ ?_)
  · intro e st' hwhy hcommitted _
    show Q (.error e) st'.committed
    rw [hcommitted, committed_of_close_error hf hst hwhy]
    exact hkeep e
  · intro _ st' hcommitted _
    exact hrest st' hcommitted

theorem ends_closeWith {e : Failure} (hst : st.Since f s) (hQ : Q (.error e) st.committed) :
    Ends (.failing f) (closeWith e : Script α) (fun r st' => Q r st'.committed) st := by
  refine ends_close hf hkeep hst fun st' hcommitted => ?_
  show Q (.error e) st'.committed
  rw [hcommitted]
  exact hQ

/-- A rollback that fails replaces the failure of the work by its own. -/
theorem ends_abandon {r : Refusal} (hst : st.Since f s)
    (hQ : st.committed = s ∨ (Q (.error (.refused r)) st.committed ∧
      ∀ e', (∀ r', e' = .refused r' → f.Refuses r') → Q (.error e') st.committed)) :
    Ends (.failing f) (abandon (.refused r) : Script α) (fun r st' => Q r st'.committed) st := by
  refine ends_bind (ends_attempt (ends_exec (by decide) ?_ ?_))
  · -- the rollback fails, so the work ends in whatever it has ended in
    intro e' st' hwhy hcommitted htrace
    refine ends_closeWith hf hkeep (since_of_trace hst hcommitted htrace) ?_
    rw [hcommitted]
    rcases hQ with hsame | ⟨-, hfault⟩
    · rw [hsame]
      exact hkeep e'
    · refine hfault e' ?_
      rintro r' rfl
      exact refuses_of_rollback_error hwhy
  · intro _ st' hcommitted htrace
    refine ends_closeWith hf hkeep (since_of_trace hst hcommitted htrace) ?_
    rw [hcommitted]
    rcases hQ with hsame | ⟨hrefused, -⟩
    · rw [hsame]
      exact hkeep _
    · exact hrefused

/-- The end of a unit of work commits nothing of its own. -/
theorem ends_conclude {r : Except Failure α} (hst : st.Since f s)
    (hr : Concludes f s Q r st.committed) :
    Ends (.failing f) (conclude r) (fun r st' => Q r st'.committed) st := by
  match r, hr with
  | .ok a, hr =>
      refine ends_close hf hkeep hst fun st' hcommitted => ?_
      show Q (.ok a) st'.committed
      rw [hcommitted]
      exact hr
  | .error (.refused r), hr =>
      refine ends_abandon hf hkeep hst (hr.imp_right ?_)
      rintro ⟨r', heq, hQ⟩
      obtain rfl := Failure.refused.inj heq
      exact hQ
  | .error (.storage f m), hr =>
      refine ends_abandon hf hkeep hst (Or.inl (hr.resolve_right ?_))
      rintro ⟨r', heq, -⟩
      cases heq
  | .error (.crash k m), hr =>
      -- without a rollback, so the failure of the work is the one that callers see
      have hsame : st.committed = s := by
        refine hr.resolve_right ?_
        rintro ⟨r', heq, -⟩
        cases heq
      exact ends_closeWith hf hkeep hst (hsame ▸ hkeep _)

/-- A unit of work ends as its work has established. -/
theorem ends_unitOfWork {work : Script α} (hst : st.Fresh f s)
    (hwork : ∀ st', st'.Fresh f s →
      Ends (.failing f) work (fun r st'' => Concludes f s Q r st''.committed) st') :
    Ends (.failing f) (unitOfWork work) (fun r st' => Q r st'.committed) st := by
  refine ends_bind (((reads_exec rfl).ends_fresh hst).mono ?_)
  rintro (e | _) st₁ hst₁
  · show Q (.error e) st₁.committed
    rw [hst₁.store]
    exact hkeep e
  · dsimp only [GoesOn]
    exact ends_bind (ends_attempt (ends_conclude hf hkeep (since_run work hst₁.since)
      (hwork st₁ hst₁)))

end Script

end Scrip
