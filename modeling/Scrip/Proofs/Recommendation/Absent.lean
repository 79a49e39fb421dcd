import Scrip.Proofs.Recommendation.ClosedForm
set_option autoImplicit false

/-! # Absent signals

A tier whose signal is absent is passed over, and a tier whose signal is empty is asked but accepts
nothing. For the recommendations this is the same (`recommend_without`), and as long as the tier
is asked that needs no signal, the items that may be picked fill them up to the limit.
-/

namespace Scrip

namespace Signals

/-- The signals that may be absent, by their sources. -/
inductive Source where
  | subjects
  | levels
  | counts
deriving DecidableEq, Repr

def without (s : Signals) (lost : Source → Bool) : Signals where
  owned := s.owned
  subjects := if lost .subjects then none else s.subjects
  levels := if lost .levels then none else s.levels
  counts := if lost .counts then none else s.counts

def emptied (s : Signals) (lost : Source → Bool) : Signals where
  owned := s.owned
  subjects := if lost .subjects then some [] else s.subjects
  levels := if lost .levels then some [] else s.levels
  counts := if lost .counts then some [] else s.counts

/-- Two callers of whom the tiers know the same, except that signals of the first one may be absent
where those of the second one are empty. -/
structure Lacks (s s' : Signals) : Prop where
  owned : s.owned = s'.owned
  popularity : ∀ id, s.popularity id = s'.popularity id
  accepts : ∀ (t : Tier) item, t.accepts s item = t.accepts s' item
  available : ∀ t : Tier, t.isAvailable s = true → t.isAvailable s' = true

/-- Taking signals away and emptying them leave the same for the tiers to know. -/
theorem lacks_without (s : Signals) (lost : Source → Bool) :
    (s.without lost).Lacks (s.emptied lost) := by
  have hpopularity : ∀ id, (s.without lost).popularity id = (s.emptied lost).popularity id := by
    intro id
    by_cases h : lost .counts <;> simp [popularity, without, emptied, h, countIn]
  refine ⟨rfl, hpopularity, fun t item => ?_, fun t => ?_⟩
  · cases t with
    | subject => by_cases h : lost .subjects <;> simp [Tier.accepts, without, emptied, h]
    | level => by_cases h : lost .levels <;> simp [Tier.accepts, without, emptied, h]
    | popularity => simp [Tier.accepts, hpopularity]
    | recency => rfl
  · cases t with
    | subject => by_cases h : lost .subjects <;> simp [Tier.isAvailable, without, emptied, h]
    | level => by_cases h : lost .levels <;> simp [Tier.isAvailable, without, emptied, h]
    | popularity => by_cases h : lost .counts <;> simp [Tier.isAvailable, without, emptied, h]
    | recency => exact id

end Signals

namespace Tier

variable {t : Tier} {s s' : Signals}

/-- Without its signal a tier accepts no item. -/
theorem not_accepts (h : t.isAvailable s = false) (item : Item) : t.accepts s item = false := by
  cases t with
  | subject =>
      have hnone : s.subjects = none := by simpa [isAvailable] using h
      cases hitem : item.subject <;> simp [accepts, hnone, hitem, isAmong]
  | level =>
      have hnone : s.levels = none := by simpa [isAvailable] using h
      cases hitem : item.level <;> simp [accepts, hnone, hitem, isAmong]
  | popularity =>
      have hnone : s.counts = none := by simpa [isAvailable] using h
      simp [accepts, Signals.popularity, hnone]
  | recency => cases h

theorem order_lacks (h : s.Lacks s') (items : List Item) : t.order s items = t.order s' items := by
  have hrank : ∀ item, t.rank s item = t.rank s' item := by
    intro item
    cases t with
    | popularity => simp [rank, h.popularity]
    | _ => rfl
  simp [order, hrank]

/-- An available tier ranks the same items in the same order, or fails in the same way. -/
theorem ranked_lacks (h : s.Lacks s') (ha : t.isAvailable s = true) (candidates : List Item) :
    t.ranked s candidates = t.ranked s' candidates := by
  have haccepts : t.accepts s = t.accepts s' := funext (h.accepts t)
  simp [ranked, ha, h.available t ha, haccepts, order_lacks h]

/-- A tier that is passed over for want of its signal ranks nothing when the signal is empty. -/
theorem ranked_eq_nil (h : s.Lacks s') (ha : t.isAvailable s = false)
    (ha' : t.isAvailable s' = true) (candidates : List Item) :
    t.ranked s' candidates = .ok [] := by
  have hnone : candidates.filter (t.accepts s') = [] := by
    refine List.filter_eq_nil_iff.mpr fun item _ => ?_
    simp [← h.accepts t item, not_accepts ha item]
  simp [ranked, ha', hnone, clash, order]

end Tier

namespace Recommendation

variable {catalog : List Item} {s s' : Signals} {tiers : List Tier}

/-- A tier without its signal is passed over; with an empty one it accepts nothing. -/
theorem collect_lacks (h : s.Lacks s') (wanted : Nat) (excluded : List Int) :
    collect catalog s wanted excluded tiers = collect catalog s' wanted excluded tiers := by
  induction tiers generalizing wanted excluded with
  | nil => rfl
  | cons t ts ih =>
      by_cases hw : wanted = 0
      · simp [collect, hw]
      cases ha : t.isAvailable s with
      | true =>
          have hranked := Tier.ranked_lacks h ha (candidates catalog excluded)
          simp only [collect, ha, h.available t ha, hranked, h.popularity, ih]
      | false =>
          -- the first caller passes the tier over; it adds nothing for the second one
          have hpass : collect catalog s wanted excluded (t :: ts) =
              collect catalog s' wanted excluded ts := by
            simp [collect, hw, ha, ih]
          rw [hpass]
          cases ha' : t.isAvailable s' with
          | false => simp [collect, hw, ha']
          | true =>
              have hnil := Tier.ranked_eq_nil h ha ha' (candidates catalog excluded)
              simp only [collect, hw, ha', hnil, List.take_nil, List.map_nil, List.length_nil,
                Nat.sub_zero, List.nil_append, if_false, Bool.not_true, Bool.false_eq_true]
              cases collect catalog s' wanted excluded ts <;> rfl

/-- Absent signals count as empty ones. -/
theorem recommend_without (s : Signals) (lost : Signals.Source → Bool) (limit : Int) :
    recommend catalog (s.without lost) limit tiers =
      recommend catalog (s.emptied lost) limit tiers :=
  collect_lacks (s.lacks_without lost) limit.toNat s.owned

/-! ## Filling up -/

/-- Where the tier is asked that needs no signal, nothing is left over. -/
theorem left_eq_candidates (h : .recency ∈ tiers) (excluded : List Int) :
    left catalog s excluded tiers = candidates catalog excluded := by
  refine List.filter_eq_self.mpr fun item _ => ?_
  exact List.find?_isSome.mpr ⟨.recency, h, rfl⟩

/-- There are as many recommendations as are asked for, or as items that may be picked. -/
theorem length_recommend (hids : (catalog.map (·.id)).Nodup) (hdates : Comparable catalog)
    (h : .recency ∈ tiers) (s : Signals) (limit : Int) :
    ∃ picks, recommend catalog s limit tiers = .ok picks ∧
      picks.length = min limit.toNat (candidates catalog s.owned).length := by
  refine ⟨_, collect_eq hdates limit.toNat, ?_⟩
  have hlength : (harvest catalog s s.owned tiers).length =
      (candidates catalog s.owned).length := by
    calc (harvest catalog s s.owned tiers).length
        = ((harvest catalog s s.owned tiers).map (·.item)).length := (List.length_map _).symm
      _ = (left catalog s s.owned tiers).length := (harvest_perm hids).length_eq
      _ = (candidates catalog s.owned).length := by rw [left_eq_candidates h]
  rw [List.length_take, hlength]

end Recommendation

end Scrip
