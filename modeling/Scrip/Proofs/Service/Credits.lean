import Scrip.Proofs.Work.Safe
import Scrip.Service.Credits
set_option autoImplicit false

/-! # Credits in a session

What the scripts on balances may do to the course of a session: reading leaves it as it stands,
and only a debit that is covered and a credit to an account that exists add a write.
-/

namespace Scrip.Credits

open Script

variable {may : Statement → Failure → Prop} {c : Course} {account n : Int}

theorem safe_balance {Q : Except Failure Int → Course → Prop}
    (fails : ∀ s e, Others c.pending c.store s → Q (.error e) (c.on s))
    (works : ∀ s held, Others c.pending c.store s →
      (s.applyAll c.pending).balance? account = some held → Q (.ok held) (c.on s)) :
    Safe may (balance account) Q c := by
  refine safe_bind (safe_read rfl fails ?_)
  intro s reply hs ha
  obtain rfl := (Prod.mk.inj (Except.ok.inj ha)).1
  cases hb : (s.applyAll c.pending).balance? account with
  | none => exact fails s _ hs
  | some held => exact works s held hs hb

theorem safe_lockBalance {Q : Except Failure Int → Course → Prop}
    (fails : ∀ s e, Others c.pending c.store s → Q (.error e) (c.on s))
    (works : ∀ s held, Others c.pending c.store s →
      (s.applyAll c.pending).balance? account = some held → Q (.ok held) (c.on s)) :
    Safe may (lockBalance account) Q c := by
  refine safe_bind (safe_read rfl fails ?_)
  intro s reply hs ha
  obtain rfl := (Prod.mk.inj (Except.ok.inj ha)).1
  cases hb : (s.applyAll c.pending).balance? account with
  | none => exact fails s _ hs
  | some held => exact works s held hs hb

theorem safe_deduct {Q : Except Failure Bool → Course → Prop}
    (fails : ∀ s e after, Others c.pending c.store s → Q (.error e) ⟨s, after, c.deeds⟩)
    (refuses : ∀ s, Others c.pending c.store s → Q (.ok false) (c.on s))
    (works : ∀ s held, Others c.pending c.store s → 0 < n →
      (s.applyAll c.pending).balance? account = some held → n ≤ held →
      Q (.ok true) ⟨s, c.pending ++ [.balance account (-n)], c.deeds⟩) :
    Safe may (deduct account (.whole n)) Q c := by
  refine safe_bind (safe_debit fails ?_ works)
  -- the account is read again, only to tell whether it exists
  intro s hs
  refine safe_bind (safe_balance ?_ ?_)
  · intro s' e hs'
    exact fails s' e c.pending (hs.trans hs')
  · intro s' _ hs' _
    exact refuses s' (hs.trans hs')

theorem safe_add {Q : Except Failure Unit → Course → Prop}
    (fails : ∀ s e after, Others c.pending c.store s → Q (.error e) ⟨s, after, c.deeds⟩)
    (works : ∀ s held, Others c.pending c.store s → 0 < n →
      (s.applyAll c.pending).balance? account = some held →
      Q (.ok ()) ⟨s, c.pending ++ [.balance account n], c.deeds⟩) :
    Safe may (add account (.whole n)) Q c :=
  safe_bind (safe_credit fails (fun s hs => fails s _ c.pending hs) works)

end Scrip.Credits
