import Scrip.Proofs.Work.Safe
import Scrip.Work.Script
set_option autoImplicit false

/-! # Safe units of work

The end of a unit of work commits nothing and leaves nothing pending, however it goes. So a
postcondition on what has been committed passes from the work to the unit of work, if it allows
for the failure of the session's end after work that succeeded, and for any failure after work
that failed.
-/

namespace Scrip.Script

variable {α : Type} {may : Statement → Failure → Prop} {c : Course}
  {P : Except Failure α → List (Store × List Write) → Prop}

/-- A postcondition on the committed work, for a session at its end. -/
def Closed (P : Except Failure α → List (Store × List Write) → Prop) (r : Except Failure α)
    (c : Course) : Prop :=
  c.pending = [] ∧ P r c.deeds

/-- What work must have established so that its unit of work ends as it should. -/
def Ready (may : Statement → Failure → Prop)
    (P : Except Failure α → List (Store × List Write) → Prop) (r : Except Failure α)
    (c : Course) : Prop :=
  match r with
  | .ok a => P (.ok a) c.deeds ∧ ∀ e, may .close e → P (.error e) c.deeds
  | .error _ => ∀ e, P (.error e) c.deeds

theorem safe_closeWith {e : Failure} (h : ∀ e', P (.error e') c.deeds) :
    Safe may (closeWith e) (Closed P) c := by
  refine safe_bind (safe_close ?_ ?_)
  · intro s e' _ _
    exact ⟨rfl, h e'⟩
  · intro s _
    exact ⟨rfl, h e⟩

theorem safe_abandon {e : Failure} (h : ∀ e', P (.error e') c.deeds) :
    Safe may (abandon e) (Closed P) c := by
  refine safe_bind (safe_attempt (safe_discard (Or.inl rfl) ?_ ?_))
  · intro s e' after _
    exact safe_closeWith h
  · intro s _ _
    exact safe_closeWith h

/-- The end of a unit of work keeps what the work has committed. -/
theorem safe_conclude {r : Except Failure α} (h : Ready may P r c) :
    Safe may (conclude r) (Closed P) c := by
  cases r with
  | ok a =>
      refine safe_bind (safe_close ?_ ?_)
      · intro s e _ he
        exact ⟨rfl, h.2 e he⟩
      · intro s _
        exact ⟨rfl, h.1⟩
  | error e =>
      cases e with
      | refused r => exact safe_abandon h
      | storage f m => exact safe_abandon h
      | crash k m => exact safe_closeWith h

theorem safe_unitOfWork {work : Script α} {s : Store} {ds : List (Store × List Write)}
    (connect : ∀ e, P (.error e) ds)
    (h : ∀ s', Others [] s s' → Safe may work (Ready may P) ⟨s', [], ds⟩) :
    Safe may (unitOfWork work) (Closed P) ⟨s, [], ds⟩ := by
  refine safe_bind (safe_read rfl ?_ ?_)
  · intro s' e _
    exact ⟨rfl, connect e⟩
  · intro s' _ hs _
    refine safe_bind (safe_attempt ((h s' hs).mono ?_))
    intro r c hr
    exact safe_conclude hr

end Scrip.Script
