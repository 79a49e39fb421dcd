import Scrip.Proofs.Recommendation.Ranking
import Scrip.Proofs.Work.Run
import Scrip.Recommendation.Picks
import Scrip.Service.Suggestions
set_option autoImplicit false

/-! # Owned items are not recommended

No tier picks an item that is excluded, and the items that the account owns are excluded from the
beginning. They are read in the first statement of a recommendation, and no failure of what comes
after it makes the script forget them.
-/

namespace Scrip

/-! ## The pipeline -/

namespace Recommendation

variable {catalog : List Item} {s : Signals} {tiers : List Tier}

/-- A tier ranks some of its candidates. -/
theorem mem_of_ranked {t : Tier} {candidates items : List Item}
    (h : t.ranked s candidates = .ok items) : ∀ item ∈ items, item ∈ candidates := by
  unfold Tier.ranked at h
  dsimp only at h
  split at h
  · cases h
  · split at h
    · cases h
    · obtain rfl := Except.ok.inj h
      intro item hitem
      exact List.mem_of_mem_filter ((t.order_perm s _).mem_iff.mp hitem)

/-- What is excluded is not picked. -/
theorem not_excluded_of_collect {wanted : Nat} {excluded : List Int} {picks : List Pick}
    (h : collect catalog s wanted excluded tiers = .ok picks) :
    ∀ p ∈ picks, p.item.id ∉ excluded := by
  induction tiers generalizing wanted excluded picks with
  | nil =>
      obtain rfl := Except.ok.inj h
      simp
  | cons t ts ih =>
      unfold collect at h
      split at h
      · obtain rfl := Except.ok.inj h
        simp
      · split at h
        · exact ih h
        · split at h
          · cases h
          · rename_i items hitems
            dsimp only at h
            split at h
            · cases h
            · rename_i rest hrest
              obtain rfl := Except.ok.inj h
              intro p hp
              rcases List.mem_append.mp hp with hp | hp
              · obtain ⟨item, hitem, rfl⟩ := List.mem_map.mp hp
                have hcandidate := mem_of_ranked hitems item (List.mem_of_mem_take hitem)
                simp only [candidates, List.mem_filter, Bool.and_eq_true, Bool.not_eq_true',
                  List.contains_eq_mem, decide_eq_false_iff_not] at hcandidate
                exact hcandidate.2.2
              · -- later tiers exclude even more
                intro hexcluded
                exact ih hrest p hp (List.mem_append_right _ hexcluded)

/-- An item that the account owns is not among the recommendations. -/
theorem not_owned_of_recommend {limit : Int} {picks : List Pick}
    (h : recommend catalog s limit tiers = .ok picks) : ∀ p ∈ picks, p.item.id ∉ s.owned :=
  not_excluded_of_collect h

end Recommendation

/-! ## The service -/

namespace Suggestions

open Script

variable {f : Faults} {st : Session} {account : Int}

/-- Signals that are known have the right owned items. -/
def Knows (ids : List Int) (r : Except Failure Signals) : Prop :=
  ∀ known, r = .ok known → known.owned = ids

/-- The owned items are known, whatever other signals are absent. -/
theorem ends_signals :
    Ends (.failing f) (signals account) (fun r _ => Knows (st.view.ownedIds account) r) st := by
  refine ends_bind (ends_read rfl (fun e _ _ h => (by cases h)) ?_)
  intro owned st' ha
  obtain rfl : st.view.ownedIds account = owned := (Prod.mk.inj (Except.ok.inj ha)).1
  have fails : ∀ (e : Failure) (_ : Session), Knows (st.view.ownedIds account) (.error e) :=
    fun e _ _ h => (by cases h)
  have works : ∀ subjects levels counts,
      Knows (st.view.ownedIds account) (.ok ⟨st.view.ownedIds account, subjects, levels, counts⟩) :=
    fun _ _ _ known h => (Except.ok.inj h) ▸ rfl
  refine ends_bind_any (Q := fun r _ => Knows _ r) fails fun subjects _ => ?_
  refine ends_bind_any (Q := fun r _ => Knows _ r) fails fun levels _ => ?_
  exact ends_bind_any (Q := fun r _ => Knows _ r) fails fun counts _ => works _ _ _

theorem ends_recommend (limit : Int) :
    Ends (.failing f) (recommend account limit)
      (fun r _ => ∀ picks, r = .ok picks →
        ∀ p ∈ picks, p.item.id ∉ st.view.ownedIds account) st := by
  refine ends_bind (ends_signals.mono ?_)
  rintro (e | known) st' hknown
  · intro picks h
    cases h
  · dsimp only [GoesOn]
    refine ends_bind_any (fun e _ _ h => (by cases h)) fun catalog _ => ?_
    intro picks h p hp
    rw [← hknown known rfl]
    exact Recommendation.not_owned_of_recommend h p hp

end Suggestions

end Scrip
