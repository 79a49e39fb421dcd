import Scrip.Proofs.Work.Safe
set_option autoImplicit false

/-! # The statements of a script

`Script.Asks` says of all statements that a script can ask, whatever the replies are, that they
satisfy a property. A script whose statements neither write nor end a unit of work leaves a session
as it stands.
-/

namespace Scrip

namespace Script

variable {α β : Type} {P P' : Statement → Prop}

/-- Every statement that the script asks satisfies a property. -/
def Asks (P : Statement → Prop) : Script α → Prop
  | done _ => True
  | ask q next => P q ∧ ∀ reply, (next reply).Asks P

theorem asks_done (r : Except Failure α) : (done r).Asks P := trivial

theorem asks_exec {q : Statement} (hq : P q) : (exec q).Asks P := ⟨hq, asks_done⟩

theorem asks_bind {p : Script α} {k : α → Script β} (h : p.Asks P) (hk : ∀ a, (k a).Asks P) :
    (p >>= k).Asks P := by
  induction p with
  | done r =>
      cases r with
      | ok a => exact hk a
      | error e => exact asks_done _
  | ask q next ih => exact ⟨h.1, fun reply => ih reply (h.2 reply)⟩

/-- A result that is there without any statement. -/
theorem asks_bind_done {r : Except Failure α} {k : α → Script β}
    (hk : ∀ a, r = .ok a → (k a).Asks P) : (done r >>= k).Asks P := by
  cases r with
  | ok a => exact hk a rfl
  | error e => exact asks_done _

theorem asks_attempt {p : Script α} (h : p.Asks P) : p.attempt.Asks P := by
  induction p with
  | done r => exact asks_done _
  | ask q next ih => exact ⟨h.1, fun reply => ih reply (h.2 reply)⟩

theorem Asks.mono {p : Script α} (h : p.Asks P) (hP : ∀ q, P q → P' q) : p.Asks P' := by
  induction p with
  | done r => exact asks_done r
  | ask q next ih => exact ⟨hP q h.1, fun reply => ih reply (h.2 reply)⟩

/-! ## Reading -/

def Reads (p : Script α) : Prop := p.Asks (·.isReading = true)

theorem reads_exec {q : Statement} (hq : q.isReading = true) : (exec q).Reads := asks_exec hq

/-- Reading is safe, and the session goes on as it stood. -/
theorem Reads.safe {may : Statement → Failure → Prop} {p : Script α} (h : p.Reads) {c : Course}
    {Q : Except Failure α → Course → Prop}
    (hQ : ∀ r s, Others c.pending c.store s → Q r (c.on s)) : Safe may p Q c := by
  induction p generalizing c with
  | done r => exact hQ r c.store (Others.refl _ _)
  | ask q next ih =>
      intro s hs reply after hd
      obtain ⟨rfl, hc⟩ := Statement.does_of_isReading h.1 hd
      rw [hc]
      refine ⟨fun h => (by cases h), ih reply (h.2 reply) ?_⟩
      intro r s' hs'
      exact hQ r s' (hs.trans hs')

end Script

end Scrip
