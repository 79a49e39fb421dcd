import Scrip.Proofs.Work.Alone
import Scrip.Proofs.Work.Reads
import Scrip.Work.Script
set_option autoImplicit false

/-! # Runs of a session alone

`Script.Ends` is the postcondition of one run of a script, on the result and the session at its
end. It sees the statements so far, which `Script.Safe` does not: a session none of whose commits
has come about has committed nothing (`Session.Since`), so a failure at its end does no harm.
-/

namespace Scrip

/-- The statement neither writes nor commits. -/
def Statement.IsQuiet (q : Statement) : Prop := q.isReading = true ∨ q = .rollback ∨ q = .close

theorem Statement.IsQuiet.ne_commit {q : Statement} (h : q.IsQuiet) : q ≠ .commit := by
  rintro rfl
  rcases h with h | h | h <;> cases h

/-! ## Postconditions of runs -/

namespace Script

variable {α β : Type} {c : Conditions} {st : Session}

theorem run_bind (p : Script α) (k : α → Script β) (st : Session) :
    (p >>= k).run c st = match p.run c st with
      | (.ok a, st') => (k a).run c st'
      | (.error e, st') => (.error e, st') := by
  induction p generalizing st with
  | done r => cases r <;> rfl
  | ask q next ih => exact ih (st.execute c q).1 (st.execute c q).2

theorem run_attempt (p : Script α) (st : Session) :
    p.attempt.run c st = (.ok (p.run c st).1, (p.run c st).2) := by
  induction p generalizing st with
  | done r => rfl
  | ask q next ih => exact ih (st.execute c q).1 (st.execute c q).2

/-- How a unit of work ends whose first part fails is decided without its second part. -/
theorem run_unitOfWork_of_error {p : Script α} (k k' : α → Script β)
    (h : ∀ st', (exec .connect).run c st = (.ok (), st') → ∃ e, (p.run c st').1 = .error e) :
    (unitOfWork (p >>= k)).run c st = (unitOfWork (p >>= k')).run c st := by
  unfold unitOfWork
  rw [run_bind, run_bind]
  rcases hconnect : (exec .connect).run c st with ⟨e | _, st'⟩
  · rfl
  · obtain ⟨e, he⟩ := h st' hconnect
    have hfirst : ∀ k : α → Script β, (p >>= k).run c st' = (.error e, (p.run c st').2) := by
      intro k
      rw [run_bind]
      rcases hp : p.run c st' with ⟨r, st''⟩
      rw [hp] at he
      obtain rfl : r = .error e := he
      rfl
    dsimp only
    rw [run_bind, run_bind, run_attempt, run_attempt, hfirst k, hfirst k']

/-- The result of a run and the session at its end satisfy a postcondition. -/
def Ends (c : Conditions) (p : Script α) (Q : Except Failure α → Session → Prop)
    (st : Session) : Prop :=
  Q (p.run c st).1 (p.run c st).2

theorem Ends.mono {p : Script α} {Q Q' : Except Failure α → Session → Prop}
    (h : Ends c p Q st) (hQ : ∀ r st', Q r st' → Q' r st') : Ends c p Q' st :=
  hQ _ _ h

/-- The postcondition of the first part of a script that goes on with its result. -/
def GoesOn (c : Conditions) (f : α → Script β) (Q : Except Failure β → Session → Prop)
    (r : Except Failure α) (st : Session) : Prop :=
  match r with
  | .ok a => Ends c (f a) Q st
  | .error e => Q (.error e) st

theorem ends_bind {p : Script α} {f : α → Script β} {Q : Except Failure β → Session → Prop}
    (h : Ends c p (GoesOn c f Q) st) : Ends c (p >>= f) Q st := by
  unfold Ends at h ⊢
  rw [run_bind]
  revert h
  rcases p.run c st with ⟨e | a, st'⟩ <;> exact id

/-- What the second part of a script establishes whatever the first one has come to. -/
theorem ends_bind_any {p : Script α} {f : α → Script β} {Q : Except Failure β → Session → Prop}
    (fails : ∀ e st', Q (.error e) st') (works : ∀ a st', Ends c (f a) Q st') :
    Ends c (p >>= f) Q st := by
  refine ends_bind ?_
  unfold Ends
  cases (p.run c st).1 with
  | error e => exact fails e _
  | ok a => exact works a _

theorem ends_attempt {p : Script α} {Q : Except Failure (Except Failure α) → Session → Prop}
    (h : Ends c p (fun r st' => Q (.ok r) st') st) : Ends c p.attempt Q st := by
  unfold Ends at h ⊢
  rw [run_attempt]
  exact h

end Script

/-! ## What a session has committed -/

namespace Session

variable {f : Faults} {st : Session} {q : Statement}

theorem view_succeed (st : Session) (q : Statement) (ws : List Write) :
    (st.succeed q ws).view =
      if q = .commit then st.view else if q.endsWork then st.committed
      else st.view.applyAll ws := by
  cases q <;> simp [succeed, view, discard, Statement.endsWork, Store.applyAll_append]

theorem view_suffer (st : Session) (q : Statement) :
    (st.suffer q).view = if q = .close then st.committed else st.view := by
  cases q <;> simp [suffer, view, discard]

theorem trace_succeed (st : Session) (q : Statement) (ws : List Write) :
    (st.succeed q ws).trace = st.trace := by
  cases q <;> rfl

theorem trace_suffer (st : Session) (q : Statement) : (st.suffer q).trace = st.trace := by
  cases q <;> rfl

/-- What a statement other than a commit can do. It fails without effect, except that a session
that ends has ended; or it has its effect, though it may fail all the same. -/
theorem execute_cases (st : Session) (f : Faults) (hq : q ≠ .commit) :
    (∃ e, (st.execute (.failing f) q).1 = .error e ∧
      (st.execute (.failing f) q).2.view = if q = .close then st.committed else st.view) ∨
    ∃ reply ws, q.answer st.view = .ok (reply, ws) ∧
      ((st.execute (.failing f) q).1 = .ok reply ∨ ∃ e, (st.execute (.failing f) q).1 = .error e) ∧
      (st.execute (.failing f) q).2.view =
        if q.endsWork then st.committed else st.view.applyAll ws := by
  unfold execute Conditions.failing
  simp only [if_neg hq]
  cases f.early st.trace q with
  | some e => exact Or.inl ⟨e, rfl, view_suffer _ q⟩
  | none =>
      cases ha : q.answer (view { st with trace := q :: st.trace }) with
      | error e => exact Or.inl ⟨e, rfl, view_suffer _ q⟩
      | ok answer =>
          obtain ⟨reply, ws⟩ := answer
          have hview := (view_succeed { st with trace := q :: st.trace } q ws).trans (if_neg hq)
          refine Or.inr ⟨reply, ws, ha, ?_⟩
          cases f.late st.trace q with
          | some e => exact ⟨Or.inr ⟨e, rfl⟩, hview⟩
          | none => exact ⟨Or.inl rfl, hview⟩

theorem execute_trace (st : Session) (f : Faults) (q : Statement) :
    (st.execute (.failing f) q).2.trace = q :: st.trace := by
  unfold execute Conditions.failing
  cases hearly : f.early st.trace q with
  | some e =>
      simp only [hearly]
      cases q <;> rfl
  | none =>
      simp only [hearly]
      cases ha : q.answer (view { st with trace := q :: st.trace }) with
      | error e => cases q <;> rfl
      | ok answer =>
          cases hlate : f.late st.trace q <;> cases q <;> simp [succeed, discard]

/-- Why a statement fails: a fault strikes it, early or late, or it asks for the impossible. -/
theorem execute_error {e : Failure} (h : (st.execute (.failing f) q).1 = .error e) :
    f.early st.trace q = some e ∨ f.late st.trace q = some e ∨ q.answer st.view = .error e := by
  unfold execute Conditions.failing at h
  cases hearly : f.early st.trace q with
  | some e' =>
      simp only [hearly] at h
      obtain rfl := Except.error.inj h
      exact Or.inl rfl
  | none =>
      simp only [hearly] at h
      cases ha : q.answer (view { st with trace := q :: st.trace }) with
      | error e' =>
          rw [ha] at h
          obtain rfl := Except.error.inj h
          exact Or.inr (Or.inr ha)
      | ok answer =>
          rw [ha] at h
          by_cases hq : q = .commit
          · simp only [if_pos hq] at h
            cases h
          · simp only [if_neg hq] at h
            cases hlate : f.late st.trace q with
            | none =>
                rw [hlate] at h
                cases h
            | some e' =>
                rw [hlate] at h
                obtain rfl := Except.error.inj h
                exact Or.inr (Or.inl rfl)

theorem execute_committed_of_ne (hq : q ≠ .commit) :
    (st.execute (.failing f) q).2.committed = st.committed := by
  rw [execute_committed, if_neg]
  cases (st.execute (.failing f) q).1 with
  | ok reply => simpa [Statement.committed] using hq
  | error e => simp [Statement.committed]

/-- A statement that is struck early has no effect on the committed store. -/
theorem execute_committed_of_early {e : Failure} (h : f.early st.trace q = some e) :
    (st.execute (.failing f) q).2.committed = st.committed := by
  unfold execute Conditions.failing
  simp only [h]
  cases q <;> rfl

end Session

/-- Some commit among the statements, latest first, was not struck. -/
def Faults.HasCommitted (f : Faults) : List Statement → Prop
  | [] => False
  | q :: before => (q = .commit ∧ f.early before q = none) ∨ f.HasCommitted before

namespace Session

variable {f : Faults} {st : Session} {q : Statement} {s : Store}

/-- Unless a commit has come about, the committed store is still the given one. -/
def Since (f : Faults) (s : Store) (st : Session) : Prop :=
  ¬ f.HasCommitted st.trace → st.committed = s

theorem Since.start (f : Faults) (s : Store) : (Session.start s).Since f s := fun _ => rfl

theorem Since.execute (h : st.Since f s) : (st.execute (.failing f) q).2.Since f s := by
  intro htrace
  rw [execute_trace] at htrace
  have hbefore : st.committed = s := h fun hcommitted => htrace (Or.inr hcommitted)
  rw [← hbefore]
  by_cases hq : q = .commit
  · have hstruck : f.early st.trace q ≠ none := fun hnone => htrace (Or.inl ⟨hq, hnone⟩)
    obtain ⟨e, he⟩ := Option.ne_none_iff_exists'.mp hstruck
    exact execute_committed_of_early he
  · exact execute_committed_of_ne hq

/-- Nothing has been committed to the given store, and nothing is pending. -/
structure Fresh (f : Faults) (s : Store) (st : Session) : Prop where
  store : st.committed = s
  pending : st.pending = []
  since : st.Since f s

theorem Fresh.start (f : Faults) (s : Store) : (Session.start s).Fresh f s :=
  ⟨rfl, rfl, Since.start f s⟩

end Session

namespace Script

variable {α β : Type} {f : Faults} {st : Session}

theorem since_run {s : Store} (p : Script α) (h : st.Since f s) :
    (p.run (.failing f) st).2.Since f s := by
  induction p generalizing st with
  | done r => exact h
  | ask q next ih => exact ih (st.execute (.failing f) q).1 h.execute

/-- A statement other than a commit. -/
theorem ends_exec {q : Statement} {Q : Except Failure q.Reply → Session → Prop}
    (hq : q ≠ .commit)
    (fails : ∀ e st', f.early st.trace q = some e ∨ f.late st.trace q = some e ∨
      q.answer st.view = .error e → st'.committed = st.committed →
      st'.trace = q :: st.trace → Q (.error e) st')
    (works : ∀ reply st', st'.committed = st.committed → st'.trace = q :: st.trace →
      Q (.ok reply) st') :
    Ends (.failing f) (exec q) Q st := by
  have hcommitted : (st.execute (.failing f) q).2.committed = st.committed :=
    Session.execute_committed_of_ne hq
  have htrace := st.execute_trace f q
  show Q (st.execute (.failing f) q).1 (st.execute (.failing f) q).2
  cases hr : (st.execute (.failing f) q).1 with
  | ok reply => exact works reply _ hcommitted htrace
  | error e => exact fails e _ (Session.execute_error hr) hcommitted htrace

/-- A statement that only reads. -/
theorem ends_read {q : Statement} {Q : Except Failure q.Reply → Session → Prop}
    (hq : q.isReading = true) (fails : ∀ e st', Q (.error e) st')
    (works : ∀ reply st', q.answer st.view = .ok (reply, []) → Q (.ok reply) st') :
    Ends (.failing f) (exec q) Q st := by
  have hcommit : q ≠ .commit := by
    rintro rfl
    cases hq
  show Q (st.execute (.failing f) q).1 (st.execute (.failing f) q).2
  rcases st.execute_cases f hcommit with ⟨e, hr, -⟩ | ⟨reply, ws, ha, hr | ⟨e, hr⟩, -⟩
  · rw [hr]
    exact fails e _
  · obtain ⟨rfl, ha⟩ := Statement.yields_of_isReading hq (Statement.yields_of_answer ha)
    rw [hr]
    exact works reply _ ha
  · rw [hr]
    exact fails e _

/-- What every statement of a script keeps is kept by its run. -/
theorem Asks.ends {P : Statement → Prop} {I : Session → Prop} {p : Script α} (h : p.Asks P)
    (hstep : ∀ q st, P q → I st → I (st.execute (.failing f) q).2) (hst : I st) :
    Ends (.failing f) p (fun _ st' => I st') st := by
  induction p generalizing st with
  | done r => exact hst
  | ask q next ih => exact ih _ (h.2 _) (hstep q st h.1 hst)

/-- What holds of the committed store and of what the session sees is kept by a script if its
statements keep it with what they write. -/
theorem Asks.keeps {P : Statement → Prop} {I : Store → Prop} {p : Script α} (h : p.Asks P)
    (hstep : ∀ q view reply ws, P q → I view → q.Yields view reply ws → I (view.applyAll ws))
    (hst : I st.committed ∧ I st.view) :
    Ends (.failing f) p (fun _ st' => I st'.committed ∧ I st'.view) st := by
  refine Asks.ends h (fun q st' hq hst' => ?_) hst
  have hworks : ∀ reply after, q.Works st'.committed st'.pending reply after →
      I (st'.committed.applyAll after) := by
    rintro reply _ ⟨ws, hy, rfl⟩
    split
    · exact hst'.1
    · rw [Store.applyAll_append]
      exact hstep q st'.view reply ws hq hst'.2 hy
  have hdoes := st'.execute_does q f
  have hcommitted := st'.execute_committed q f
  cases hc : q.committed (st'.execute (.failing f) q).1 with
  | true =>
      obtain ⟨-, hafter⟩ := Statement.does_committed hdoes hc
      rw [hc, if_pos rfl] at hcommitted
      rw [Session.view, hafter, hcommitted]
      exact ⟨hst'.2, hst'.2⟩
  | false =>
      rw [hc, if_neg Bool.false_ne_true] at hcommitted
      rw [Session.view, hcommitted]
      refine ⟨hst'.1, ?_⟩
      cases hr : (st'.execute (.failing f) q).1 with
      | ok reply =>
          rw [hr] at hdoes
          exact hworks reply _ hdoes
      | error e =>
          rw [hr] at hdoes
          rcases hdoes with ⟨-, hafter⟩ | ⟨-, -, reply, hw⟩
          · rw [hafter]
            split
            · exact hst'.1
            · exact hst'.2
          · exact hworks reply _ hw

/-- Reading changes neither what is committed nor what is pending. -/
theorem Reads.ends {p : Script α} (h : p.Reads) :
    Ends (.failing f) p
      (fun _ st' => st'.committed = st.committed ∧ st'.pending = st.pending) st := by
  refine Asks.ends h (fun q st' hq hst' => ?_) ⟨rfl, rfl⟩
  obtain ⟨hpending, hcommitted⟩ := Statement.does_of_isReading hq (st'.execute_does q f)
  have hstore : (st'.execute (.failing f) q).2.committed = st'.committed := by
    rw [st'.execute_committed, if_neg (by simp [hcommitted])]
  exact ⟨hstore.trans hst'.1, hpending.trans hst'.2⟩

theorem Reads.ends_fresh {p : Script α} (h : p.Reads) {s : Store} (hst : st.Fresh f s) :
    Ends (.failing f) p (fun _ st' => st'.Fresh f s) st :=
  ⟨h.ends.1.trans hst.store, h.ends.2.trans hst.pending, since_run p hst.since⟩

/-- What a safe script establishes, it establishes in a run on a store with nothing pending. -/
theorem Safe.ends {p : Script α} {P : Except Failure α → List (Store × List Write) → Prop}
    {s : Store} (h : Safe (Strikes f) p (fun r c => P r c.deeds) (.fresh s))
    (hst : st.Fresh f s) :
    Ends (.failing f) p (fun r st' => ∃ ds, P r ds ∧ Deeds s ds st'.committed) st := by
  obtain ⟨c, hP, hc, hdeeds⟩ := h.run hst.store hst.pending (Deeds.none s) (Statement.Fits.nil s)
  exact ⟨c.deeds, hP, hc ▸ hdeeds⟩

/-! ## Scripts without a commit -/

/-- A unit of work asks for what its work asks for, and for statements that write nothing. -/
theorem asks_unitOfWork {P : Statement → Prop} (hP : ∀ q : Statement, q.IsQuiet → P q)
    {work : Script α} (h : work.Asks P) : (unitOfWork work).Asks P := by
  have hclose : P .close := hP .close (Or.inr (Or.inr rfl))
  have hcloseWith : ∀ e, (closeWith e : Script α).Asks P := fun e =>
    asks_bind (asks_exec hclose) fun _ => asks_done _
  have habandon : ∀ e, (abandon e : Script α).Asks P := by
    intro e
    refine asks_bind (asks_attempt (asks_exec (hP .rollback (Or.inr (Or.inl rfl))))) ?_
    rintro (e' | _) <;> exact hcloseWith _
  refine asks_bind (asks_exec (hP .connect (Or.inl rfl))) fun _ => asks_bind (asks_attempt h) ?_
  intro r
  match r with
  | .ok a => exact asks_bind (asks_exec hclose) fun _ => asks_done _
  | .error (.refused r) => exact habandon _
  | .error (.storage f m) => exact habandon _
  | .error (.crash k m) => exact hcloseWith _

def NeverCommits (p : Script α) : Prop := p.Asks (· ≠ .commit)

/-- A script that asks for no commit does no deed. -/
theorem NeverCommits.safe {may : Statement → Failure → Prop} {p : Script α} (h : p.NeverCommits)
    (c : Course) : Safe may p (fun _ c' => c'.deeds = c.deeds) c := by
  induction p generalizing c with
  | done r => rfl
  | ask q next ih =>
      intro s _ reply after _
      have hc : q.committed reply = false := by
        cases reply with
        | error e => rfl
        | ok a => exact beq_eq_false_iff_ne.mpr h.1
      rw [hc]
      exact ⟨fun h => (by cases h), ih reply (h.2 reply) ⟨s, after, c.deeds⟩⟩

theorem NeverCommits.ends {p : Script α} (h : p.NeverCommits) :
    Ends (.failing f) p (fun _ st' => st'.committed = st.committed) st :=
  Asks.ends h (fun _ _ hq hst => (Session.execute_committed_of_ne hq).trans hst) rfl

end Script

end Scrip
