import Scrip.Http.Server
import Scrip.Proofs.History.Word
import Scrip.Purchase.Rules
import Scrip.Recommendation.Picks
import Scrip.Service.Identity
import Scrip.Service.Journal
import Scrip.Service.TopUps
set_option autoImplicit false

/-! # Cancellations

A cancellation comes from outside only: no computation of the ledger itself ends in one.
-/

namespace Scrip

def Uncancelled {α : Type} (r : Except Failure α) : Prop :=
  ∀ e, r = .error e → e.isCancellation = false

section

variable {α β : Type}

theorem uncancelled_ok (a : α) : Uncancelled (.ok a) := fun _ h => (by cases h)

theorem uncancelled_error {e : Failure} (h : e.isCancellation = false) :
    Uncancelled (.error e : Except Failure α) := by
  intro e' he'
  obtain rfl := Except.error.inj he'
  exact h

theorem uncancelled_mapError (r : Except Refusal α) : Uncancelled (r.mapError .refused) := by
  cases r with
  | ok a => exact uncancelled_ok a
  | error r => exact uncancelled_error rfl

theorem uncancelled_bind {r : Except Failure α} {f : α → Except Failure β} (h : Uncancelled r)
    (hf : ∀ a, Uncancelled (f a)) : Uncancelled (r >>= f) := by
  cases r with
  | ok a => exact hf a
  | error e => exact uncancelled_error (h e rfl)

theorem uncancelled_mapM {f : α → Except Failure β} (hf : ∀ a, Uncancelled (f a)) (as : List α) :
    Uncancelled (as.mapM f) := by
  induction as with
  | nil => exact uncancelled_ok []
  | cons a as ih =>
      rw [List.mapM_cons]
      exact uncancelled_bind (hf a) fun b => uncancelled_bind ih fun bs => uncancelled_ok _

end

/-! ## Words and records -/

theorem uncancelled_readWord {α : Type} (kind : String) (ofText? : String → Option α)
    (word : String) : Uncancelled (Failure.readWord kind ofText? (.text word)) := by
  unfold Failure.readWord
  dsimp only
  cases ofText? word with
  | none => exact uncancelled_error rfl
  | some a => exact uncancelled_ok a

theorem Kind.uncancelled_read (word : String) : Uncancelled (Kind.read word) :=
  uncancelled_readWord _ _ word

theorem Status.uncancelled_read (word : String) : Uncancelled (Status.read word) :=
  uncancelled_readWord _ _ word

theorem Journal.uncancelled_record (row : Transaction × Option String) :
    Uncancelled (record row) :=
  uncancelled_bind (Kind.uncancelled_read _) fun _ =>
    uncancelled_bind (Status.uncancelled_read _) fun _ => uncancelled_ok _

/-! ## Money -/

namespace Money

theorem uncancelled_display (cents : Int) : Uncancelled (display cents) := by
  unfold display
  split
  · exact uncancelled_error rfl
  · split
    · exact uncancelled_error rfl
    · exact uncancelled_ok _

theorem uncancelled_cents (amount : Amount) : Uncancelled (cents amount) := by
  cases amount with
  | infinite negative => exact uncancelled_error rfl
  | nan signaling => cases signaling <;> exact uncancelled_error rfl
  | finite d =>
      show Uncancelled (centsOfDecimal d)
      unfold centsOfDecimal
      split
      · exact uncancelled_error rfl
      · split
        · exact uncancelled_error rfl
        · split
          · exact uncancelled_ok _
          · exact uncancelled_error rfl

end Money

theorem Record.uncancelled_view (r : Record) : Uncancelled r.view := by
  unfold Record.view
  dsimp only
  split
  · exact uncancelled_ok _
  · rename_i cents _
    refine uncancelled_bind ?_ fun money => uncancelled_ok _
    have h := Money.uncancelled_display cents
    cases hd : Money.display cents with
    | ok text => exact uncancelled_ok _
    | error e => exact uncancelled_error (h e hd)

theorem TopUps.uncancelled_quote (settings : Settings) (amount : Amount) :
    Uncancelled (quote settings amount) := by
  refine uncancelled_bind (Money.uncancelled_cents amount) fun cents =>
    uncancelled_bind (uncancelled_mapError _) fun _ => ?_
  dsimp only
  split
  · exact uncancelled_error rfl
  · exact uncancelled_ok _

/-! ## Declines -/

/-- A decline without a refusal of its own is a crash, and no cancellation. -/
theorem Purchase.Decline.not_isCancellation (d : Decline) : d.failure.isCancellation = false := by
  unfold failure refusal
  split
  · rfl
  · rename_i e he
    split at he
    · cases he
    · cases he
    · cases he
    · split at he
      · cases he
      · obtain rfl := Except.error.inj he
        rfl

/-! ## Callers -/

theorem Identity.uncancelled_cutoff (now : Moment) (ttlSeconds : Int) :
    Uncancelled (cutoff now ttlSeconds) := by
  unfold cutoff
  dsimp only
  split
  · exact uncancelled_ok _
  · exact uncancelled_error rfl

theorem Http.Guard.uncancelled_check (configured given : Option String) :
    Uncancelled (check configured given) := by
  unfold check
  dsimp only
  split
  · exact uncancelled_error rfl
  · split
    · exact uncancelled_error rfl
    · split
      · rename_i e he
        unfold sameToken at he
        split at he
        · cases he
        · obtain rfl := Except.error.inj he
          exact uncancelled_error rfl
      · exact uncancelled_ok _
      · exact uncancelled_error rfl

/-! ## Recommendations -/

namespace Recommendation

theorem uncancelled_ranked (t : Tier) (s : Signals) (candidates : List Item) :
    Uncancelled (t.ranked s candidates) := by
  unfold Tier.ranked
  dsimp only
  split
  · cases t <;> exact uncancelled_error rfl
  · split
    · exact uncancelled_error rfl
    · exact uncancelled_ok _

/-- Picking may crash, but it is not cancelled. -/
theorem uncancelled_collect (catalog : List Item) (s : Signals) (tiers : List Tier) (wanted : Nat)
    (excluded : List Int) : Uncancelled (collect catalog s wanted excluded tiers) := by
  induction tiers generalizing wanted excluded with
  | nil => exact uncancelled_ok []
  | cons t ts ih =>
      unfold collect
      split
      · exact uncancelled_ok []
      · split
        · exact ih wanted excluded
        · split
          · rename_i e he
            exact uncancelled_error (uncancelled_ranked t s _ e he)
          · dsimp only
            split
            · rename_i e he
              exact uncancelled_error (ih _ _ e he)
            · exact uncancelled_ok _

theorem uncancelled_recommend (catalog : List Item) (s : Signals) (limit : Int) :
    Uncancelled (recommend catalog s limit) :=
  uncancelled_collect catalog s Tier.standard limit.toNat s.owned

end Recommendation

end Scrip
