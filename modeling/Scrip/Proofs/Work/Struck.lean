import Scrip.Proofs.Work.Run
set_option autoImplicit false

/-! # Reading under faults

A session that only reads goes on seeing the same store, whatever fails. So what a script that
reads comes to depends on two things alone: what its session sees, and the statements that were
executed before, for by these the faults decide where they strike. `Script.Comes` says what a
script comes to and which statements it leaves, with one rule for each way to build a script.
-/

namespace Scrip

/-- The failure that the faults give to a statement after some others, if they strike it. -/
def Faults.strike? (f : Faults) (before : List Statement) (q : Statement) : Option Failure :=
  (f.early before q).or (f.late before q)

namespace Session

variable {f : Faults} {st : Session} {q : Statement} {reply : q.Reply}

/-- A statement that reads leaves the view, also when it fails. -/
theorem view_execute_read (hq : q.isReading = true) (h : q.answer st.view = .ok (reply, [])) :
    (st.execute (.failing f) q).2.view = st.view := by
  have hcommit : q ≠ .commit := by
    rintro rfl
    cases hq
  have hclose : q ≠ .close := by
    rintro rfl
    cases hq
  have hends : q.endsWork = false := by
    cases q <;> first | rfl | cases hq
  rcases st.execute_cases f hcommit with ⟨e, -, hview⟩ | ⟨reply', ws, ha, -, hview⟩
  · rw [hview, if_neg hclose]
  · obtain ⟨-, rfl⟩ := Prod.mk.inj (Except.ok.inj (ha.symm.trans h))
    rw [hview, hends]
    rfl

/-- A statement that reads fails exactly where it is struck. -/
theorem execute_read (hq : q.isReading = true) (h : q.answer st.view = .ok (reply, [])) :
    (st.execute (.failing f) q).1 =
      match f.strike? st.trace q with
      | some e => .error e
      | none => .ok reply := by
  have hcommit : q ≠ .commit := by
    rintro rfl
    cases hq
  have hanswer : q.answer (view { st with trace := q :: st.trace }) = .ok (reply, []) := h
  unfold execute Conditions.failing Faults.strike?
  cases hearly : f.early st.trace q with
  | some e => simp only [hearly, Option.some_or]
  | none =>
      simp only [hearly, hanswer, if_neg hcommit, Option.none_or]
      cases f.late st.trace q <;> rfl

end Session

namespace Script

variable {α β : Type} {f : Faults} {v : Store} {before middle after : List Statement} {p : Script α}
  {k : α → Script β}

/-- In every session that sees `v` after the statements `before`, the script comes to the result
`r`, and the statements are then those of `after`. -/
def Comes (f : Faults) (v : Store) (p : Script α) (before : List Statement) (r : Except Failure α)
    (after : List Statement) : Prop :=
  ∀ st : Session, st.view = v → st.trace = before →
    Ends (.failing f) p (fun r' st' => r' = r ∧ st'.view = v ∧ st'.trace = after) st

theorem comes_done (r : Except Failure α) : Comes f v (done r) before r before :=
  fun _ hv ht => ⟨rfl, hv, ht⟩

theorem comes_bind {a : α} {r : Except Failure β} (hp : Comes f v p before (.ok a) middle)
    (hk : Comes f v (k a) middle r after) : Comes f v (p >>= k) before r after := by
  intro st hv ht
  refine ends_bind ((hp st hv ht).mono ?_)
  rintro _ st' ⟨rfl, hv', ht'⟩
  exact hk st' hv' ht'

/-- A failure ends the script. -/
theorem comes_bind_error {e : Failure} (hp : Comes f v p before (.error e) after) :
    Comes f v (p >>= k) before (.error e) after := by
  intro st hv ht
  refine ends_bind ((hp st hv ht).mono ?_)
  rintro _ st' ⟨rfl, hst'⟩
  exact ⟨rfl, hst'⟩

theorem comes_attempt {r : Except Failure α} (hp : Comes f v p before r after) :
    Comes f v p.attempt before (.ok r) after := by
  intro st hv ht
  refine ends_attempt ((hp st hv ht).mono ?_)
  rintro _ st' ⟨rfl, hst'⟩
  exact ⟨rfl, hst'⟩

/-! ## Single statements -/

variable {q : Statement} {reply : q.Reply}

theorem comes_read (hq : q.isReading = true) (h : q.answer v = .ok (reply, [])) :
    Comes f v (exec q) before
      (match f.strike? before q with
        | some e => .error e
        | none => .ok reply) (q :: before) := by
  rintro st rfl rfl
  exact ⟨Session.execute_read hq h, Session.view_execute_read hq h, st.execute_trace f q⟩

theorem comes_struck {e : Failure} (hq : q.isReading = true) (h : q.answer v = .ok (reply, []))
    (hstrike : f.strike? before q = some e) :
    Comes f v (exec q) before (.error e) (q :: before) := by
  have hread : Comes f v (exec q) before _ (q :: before) := comes_read hq h
  rwa [hstrike] at hread

theorem comes_spared (hq : q.isReading = true) (h : q.answer v = .ok (reply, []))
    (hstrike : f.strike? before q = none) :
    Comes f v (exec q) before (.ok reply) (q :: before) := by
  have hread : Comes f v (exec q) before _ (q :: before) := comes_read hq h
  rwa [hstrike] at hread

end Script

end Scrip
