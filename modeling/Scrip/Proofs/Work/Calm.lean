import Scrip.Proofs.Work.Run
set_option autoImplicit false

/-! # Calm runs

When nothing fails and nobody else works on the store, the course of a script is determined by where
its session stands. `Script.Calm` says how a script ends then, with one rule for each way to build
a script; a unit of work ends as its work does, except that a storage fault becomes a refusal.
-/

namespace Scrip

/-- Where a session stands: the store that it has committed, and its pending writes. -/
structure Standing where
  store : Store
  pending : List Write := []

namespace Standing

def view (a : Standing) : Store := a.store.applyAll a.pending

def after (a : Standing) (q : Statement) (ws : List Write) : Standing where
  store := if q = .commit then a.view else a.store
  pending := if q.endsWork then [] else a.pending ++ ws

end Standing

namespace Session

def standing (st : Session) : Standing := ⟨st.committed, st.pending⟩

theorem standing_succeed (st : Session) (q : Statement) (ws : List Write) :
    (st.succeed q ws).standing = st.standing.after q ws := by
  rw [standing, committed_succeed, pending_succeed]
  rfl

theorem execute_calm {st : Session} {q : Statement} {reply : q.Reply} {ws : List Write}
    (h : q.answer st.standing.view = .ok (reply, ws)) :
    (st.execute .calm q).1 = .ok reply ∧
      (st.execute .calm q).2.standing = st.standing.after q ws := by
  have hanswer : q.answer (view { st with trace := q :: st.trace }) = .ok (reply, ws) := h
  simp only [execute, Conditions.calm, hanswer, true_and]
  exact standing_succeed { st with trace := q :: st.trace } q ws

theorem execute_calm_error {st : Session} {q : Statement} {e : Failure} (hq : q ≠ .close)
    (h : q.answer st.standing.view = .error e) :
    (st.execute .calm q).1 = .error e ∧ (st.execute .calm q).2.standing = st.standing := by
  have hanswer : q.answer (view { st with trace := q :: st.trace }) = .error e := h
  simp only [execute, Conditions.calm, hanswer, true_and]
  rw [standing, committed_suffer, pending_suffer, if_neg hq]
  rfl

end Session

/-- The failure of a unit of work whose work has failed. -/
def Failure.atEnd : Failure → Failure
  | refused r => .refused r
  | storage f _ => .refused f.refusal
  | crash k m => .crash k m

namespace Script

variable {α β : Type} {a b c : Standing} {p : Script α}

/-- In a calm run the script ends in the result `r`, and its session comes from `a` to `b`. -/
def Calm (p : Script α) (a : Standing) (r : Except Failure α) (b : Standing) : Prop :=
  ∀ st : Session, st.standing = a →
    Ends .calm p (fun r' st' => r' = r ∧ st'.standing = b) st

theorem calm_done (r : Except Failure α) : (done r).Calm a r a := fun _ hst => ⟨rfl, hst⟩

theorem calm_exec {q : Statement} {reply : q.Reply} {ws : List Write}
    (h : q.answer a.view = .ok (reply, ws)) : (exec q).Calm a (.ok reply) (a.after q ws) := by
  rintro st rfl
  exact Session.execute_calm h

/-- A statement that asks for the impossible. -/
theorem calm_exec_error {q : Statement} {e : Failure} (hq : q ≠ .close)
    (h : q.answer a.view = .error e) : (exec q).Calm a (.error e) a := by
  rintro st rfl
  exact Session.execute_calm_error hq h

/-- A statement that does not end the work and writes nothing. -/
theorem calm_idle {q : Statement} {reply : q.Reply} (hq : q.endsWork = false)
    (h : q.answer a.view = .ok (reply, [])) : (exec q).Calm a (.ok reply) a := by
  have hafter : a.after q [] = a := by
    have hcommit : q ≠ .commit := by
      rintro rfl
      cases hq
    simp [Standing.after, hcommit, hq]
  have hexec := calm_exec h
  rwa [hafter] at hexec

theorem calm_read {q : Statement} {reply : q.Reply} (hq : q.isReading = true)
    (h : q.answer a.view = .ok (reply, [])) : (exec q).Calm a (.ok reply) a :=
  calm_idle (by cases q <;> first | rfl | cases hq) h

theorem calm_bind {k : α → Script β} {x : α} {r : Except Failure β} (hp : p.Calm a (.ok x) b)
    (hk : (k x).Calm b r c) : (p >>= k).Calm a r c := by
  intro st hst
  refine ends_bind ((hp st hst).mono ?_)
  rintro _ st' ⟨rfl, hst'⟩
  exact hk st' hst'

theorem calm_bind_error {k : α → Script β} {e : Failure} (hp : p.Calm a (.error e) b) :
    (p >>= k).Calm a (.error e) b := by
  intro st hst
  refine ends_bind ((hp st hst).mono ?_)
  rintro _ st' ⟨rfl, hst'⟩
  exact ⟨rfl, hst'⟩

theorem calm_attempt {r : Except Failure α} (hp : p.Calm a r b) : p.attempt.Calm a (.ok r) b := by
  intro st hst
  refine ends_attempt ((hp st hst).mono ?_)
  rintro _ st' ⟨rfl, hst'⟩
  exact ⟨rfl, hst'⟩

/-! ## Units of work -/

theorem calm_closeWith (e : Failure) : (closeWith e : Script α).Calm a (.error e) ⟨a.store, []⟩ :=
  calm_bind (calm_exec (q := .close) rfl) (calm_done _)

theorem calm_abandon (e : Failure) : (abandon e : Script α).Calm a (.error e) ⟨a.store, []⟩ :=
  calm_bind (calm_attempt (calm_exec (q := .rollback) rfl)) (calm_closeWith e)

theorem calm_conclude (r : Except Failure α) :
    (conclude r).Calm a (r.mapError Failure.atEnd) ⟨a.store, []⟩ := by
  match r with
  | .ok x => exact calm_bind (calm_exec (q := .close) rfl) (calm_done _)
  | .error (.refused r) => exact calm_abandon _
  | .error (.storage f m) => exact calm_abandon _
  | .error (.crash k m) => exact calm_closeWith _

theorem calm_unitOfWork {r : Except Failure α} {s : Store} (hp : p.Calm ⟨s, []⟩ r b) :
    (unitOfWork p).Calm ⟨s, []⟩ (r.mapError Failure.atEnd) ⟨b.store, []⟩ :=
  calm_bind (calm_exec (q := .connect) rfl) (calm_bind (calm_attempt hp) (calm_conclude r))

end Script

/-- What is done on a ledger in calm conditions. -/
theorem Ledger.run_calm {α : Type} {l : Ledger} {p : Script α} {r : Except Failure α} {b : Standing}
    (h : p.Calm ⟨l.store, []⟩ r b) : l.run .calm p = (r, { l with store := b.store }) := by
  obtain ⟨hr, hb⟩ := h (Session.start l.store) rfl
  have hstore : (p.run .calm (Session.start l.store)).2.committed = b.store :=
    congrArg Standing.store hb
  rw [Ledger.run, ← hr, ← hstore]

end Scrip
