import Mathlib.Data.List.Permutation
import Scrip.Proofs.Recommendation.Unowned
set_option autoImplicit false

/-! # The turns of the tiers

Each tier has its turn, in which it draws at most as many items as are still wanted, none of them
excluded; what it has drawn is excluded afterwards (`collect_cons`). The excluded ids carry both
main statements. A smaller limit cuts the turns off at some place, and before that place nothing is
different. And what was picked in one turn is not picked in a later one, not even in that of the
same tier. An item that stands in the catalog twice may be picked twice, but in one turn only.
-/

namespace Scrip.Recommendation

variable {catalog : List Item} {s : Signals} {tiers : List Tier} {t : Tier} {excluded : List Int}
  {m n : Nat} {items : List Item} {picks : List Pick}

/-! ## One turn -/

/-- What a tier draws for itself, of `wanted` items at most. -/
def draw (catalog : List Item) (s : Signals) (wanted : Nat) (excluded : List Int) (t : Tier) :
    Except Failure (List Item) :=
  if wanted = 0 ∨ t.isAvailable s = false then .ok []
  else (t.ranked s (candidates catalog excluded)).map (·.take wanted)

def pickOf (s : Signals) (t : Tier) (item : Item) : Pick := ⟨item, t, s.popularity item.id⟩

theorem collect_zero (catalog : List Item) (s : Signals) (excluded : List Int)
    (tiers : List Tier) : collect catalog s 0 excluded tiers = .ok [] := by
  cases tiers <;> rfl

/-- The first tier draws, and the others go on without what it has drawn. -/
theorem collect_cons (catalog : List Item) (s : Signals) (wanted : Nat) (excluded : List Int)
    (t : Tier) (tiers : List Tier) :
    collect catalog s wanted excluded (t :: tiers) =
      (draw catalog s wanted excluded t).bind fun items =>
        (collect catalog s (wanted - items.length) (items.map (·.id) ++ excluded) tiers).map
          (items.map (pickOf s t) ++ ·) := by
  unfold draw
  by_cases hw : wanted = 0
  · subst hw
    rw [if_pos (Or.inl rfl), collect_zero]
    show _ = (collect catalog s 0 excluded tiers).map _
    rw [collect_zero]
    rfl
  cases ha : t.isAvailable s with
  | false =>
      rw [if_pos (Or.inr rfl), collect, if_neg hw, ha]
      show collect catalog s wanted excluded tiers =
        (collect catalog s wanted excluded tiers).map ([] ++ ·)
      cases collect catalog s wanted excluded tiers <;> rfl
  | true =>
      rw [if_neg (by simp [hw]), collect, if_neg hw, ha]
      cases t.ranked s (candidates catalog excluded) with
      | error e => rfl
      | ok items =>
          simp only [Except.map, Except.bind]
          cases collect catalog s (wanted - (items.take wanted).length)
            ((items.take wanted).map (·.id) ++ excluded) tiers <;> rfl

theorem collect_cons_eq_ok : collect catalog s n excluded (t :: tiers) = .ok picks ↔
    ∃ items rest, draw catalog s n excluded t = .ok items ∧
      collect catalog s (n - items.length) (items.map (·.id) ++ excluded) tiers = .ok rest ∧
      picks = items.map (pickOf s t) ++ rest := by
  rw [collect_cons]
  cases draw catalog s n excluded t with
  | error e => simp [Except.bind]
  | ok items =>
      show Except.map _ (collect catalog s _ _ tiers) = _ ↔ _
      simp only [Except.ok.injEq, exists_and_left, exists_eq_left']
      cases collect catalog s (n - items.length) (items.map (·.id) ++ excluded) tiers with
      | error e => simp [Except.map]
      | ok rest => simp [Except.map, eq_comm]

/-- What a tier may draw: candidates, and not more than wanted. -/
theorem draw_spec (h : draw catalog s n excluded t = .ok items) :
    items.length ≤ n ∧ ∀ item ∈ items,
      item ∈ catalog ∧ item.published = true ∧ item.id ∉ excluded := by
  unfold draw at h
  split at h
  · obtain rfl := Except.ok.inj h
    simp
  · cases hranked : t.ranked s (candidates catalog excluded) with
    | error e =>
        rw [hranked] at h
        cases h
    | ok all =>
        rw [hranked] at h
        obtain rfl := Except.ok.inj h
        refine ⟨List.length_take_le n all, fun item hitem => ?_⟩
        have hcandidate := mem_of_ranked hranked item (List.mem_of_mem_take hitem)
        simpa [candidates] using hcandidate

/-- A tier that is asked for fewer items draws the first of those that it draws otherwise. -/
theorem draw_take (h : draw catalog s n excluded t = .ok items) (hle : m ≤ n) :
    draw catalog s m excluded t = .ok (items.take m) := by
  unfold draw at h ⊢
  by_cases hm : m = 0
  · rw [if_pos (Or.inl hm), hm, List.take_zero]
  by_cases ha : t.isAvailable s = false
  · rw [if_pos (Or.inr ha)] at h ⊢
    obtain rfl := Except.ok.inj h
    rw [List.take_nil]
  · rw [if_neg (by simp [ha]; omega)] at h
    rw [if_neg (by simp [ha, hm])]
    cases hranked : t.ranked s (candidates catalog excluded) with
    | error e =>
        rw [hranked] at h
        cases h
    | ok all =>
        rw [hranked] at h
        obtain rfl := Except.ok.inj h
        show Except.ok (all.take m) = _
        rw [List.take_take, Nat.min_eq_left hle]

/-! ## Smaller limits -/

/-- A smaller limit gives the beginning of what a greater one gives. -/
theorem collect_take (h : collect catalog s n excluded tiers = .ok picks) (hle : m ≤ n) :
    collect catalog s m excluded tiers = .ok (picks.take m) := by
  induction tiers generalizing m n excluded picks with
  | nil =>
      obtain rfl := Except.ok.inj h
      rw [List.take_nil]
      rfl
  | cons t ts ih =>
      obtain ⟨items, rest, hdraw, hrest, rfl⟩ := collect_cons_eq_ok.mp h
      refine collect_cons_eq_ok.mpr ⟨items.take m, rest.take (m - items.length),
        draw_take hdraw hle, ?_, ?_⟩
      · by_cases hlong : m ≤ items.length
        · -- the limit is reached in this turn, so the others draw nothing
          rw [List.length_take, Nat.min_eq_left hlong, Nat.sub_self, collect_zero,
            Nat.sub_eq_zero_of_le hlong, List.take_zero]
        · rw [List.take_of_length_le (by omega)]
          exact ih hrest (by omega)
      · rw [List.take_append, List.map_take, List.length_map]

/-- There are not more picks than wanted, for the limit itself cuts nothing off. -/
theorem length_le_of_collect (h : collect catalog s n excluded tiers = .ok picks) :
    picks.length ≤ n := by
  have hsame := Except.ok.inj (h.symm.trans (collect_take h (Nat.le_refl n)))
  rw [hsame]
  exact List.length_take_le n picks

/-- Only published items of the catalog are picked. -/
theorem offered_of_collect (h : collect catalog s n excluded tiers = .ok picks) :
    ∀ p ∈ picks, p.item ∈ catalog ∧ p.item.published = true := by
  induction tiers generalizing n excluded picks with
  | nil =>
      obtain rfl := Except.ok.inj h
      simp
  | cons t ts ih =>
      obtain ⟨items, rest, hdraw, hrest, rfl⟩ := collect_cons_eq_ok.mp h
      intro p hp
      rcases List.mem_append.mp hp with hp | hp
      · obtain ⟨item, hitem, rfl⟩ := List.mem_map.mp hp
        obtain ⟨hcatalog, hpublished, -⟩ := (draw_spec hdraw).2 item hitem
        exact ⟨hcatalog, hpublished⟩
      · exact ih hrest p hp

/-! ## All turns -/

/-- The picks of the tiers in a list, turn by turn. Asking the first tiers alone gives the first
turns, so each turn is what one place of the list adds. No id is picked in two turns. -/
structure InTurn (ask : List Tier → Except Failure (List Pick)) (tiers : List Tier)
    (turns : List (List Pick)) : Prop where
  asked : List.Forall₂ (fun t turn => ∀ p ∈ turn, p.tier = t) tiers turns
  firsts : ∀ k, ask (tiers.take k) = .ok (turns.take k).flatten
  apart : turns.Pairwise fun turn later => ∀ p ∈ turn, ∀ q ∈ later, p.item.id ≠ q.item.id

theorem InTurn.flatten {ask : List Tier → Except Failure (List Pick)} {turns : List (List Pick)}
    (h : InTurn ask tiers turns) : ask tiers = .ok turns.flatten := by
  have hall := h.firsts tiers.length
  rwa [List.take_length, h.asked.length_eq, List.take_length] at hall

/-- The picks of all tiers divide into the turns of each. -/
theorem exists_inTurn (h : collect catalog s n excluded tiers = .ok picks) :
    ∃ turns, InTurn (collect catalog s n excluded) tiers turns := by
  induction tiers generalizing n excluded picks with
  | nil =>
      refine ⟨[], .nil, fun k => ?_, .nil⟩
      rw [List.take_nil, List.take_nil]
      rfl
  | cons t ts ih =>
      obtain ⟨items, rest, hdraw, hrest, -⟩ := collect_cons_eq_ok.mp h
      obtain ⟨turns, hturns⟩ := ih hrest
      refine ⟨items.map (pickOf s t) :: turns, .cons ?_ hturns.asked, fun k => ?_,
        .cons ?_ hturns.apart⟩
      · intro p hp
        obtain ⟨item, -, rfl⟩ := List.mem_map.mp hp
        rfl
      · cases k with
        | zero => rfl
        | succ k => exact collect_cons_eq_ok.mpr ⟨items, _, hdraw, hturns.firsts k, rfl⟩
      · -- the ids of this turn are excluded from all later ones
        intro later hlater p hp q hq heq
        obtain ⟨item, hitem, rfl⟩ := List.mem_map.mp hp
        have hmem := List.mem_flatten.mpr ⟨later, hlater, hq⟩
        refine not_excluded_of_collect hturns.flatten q hmem ?_
        rw [← heq]
        exact List.mem_append_left _ (List.mem_map_of_mem hitem)

/-! ## The limit of the recommendations -/

/-- **Stopping early is truncating.** Whenever there are recommendations up to a limit, those up to
a smaller limit are the first of them. There are not more than the limit allows, each of them is a
published item of the catalog that the account does not own, and no two places in the list of tiers
have picked one id. Ids may occur in the catalog repeatedly, and its dates may be of both kinds. -/
theorem recommend_take {limit : Int} (h : recommend catalog s limit tiers = .ok picks) :
    (∀ m ≤ limit, recommend catalog s m tiers = .ok (picks.take m.toNat)) ∧
      picks.length ≤ limit.toNat ∧
      (∀ p ∈ picks, p.item ∈ catalog ∧ p.item.published = true ∧ p.item.id ∉ s.owned) ∧
      ∃ turns, InTurn (recommend catalog s limit ·) tiers turns ∧ picks = turns.flatten := by
  refine ⟨fun m hm => collect_take h (Int.toNat_le_toNat hm), length_le_of_collect h, ?_, ?_⟩
  · intro p hp
    obtain ⟨hcatalog, hpublished⟩ := offered_of_collect h p hp
    exact ⟨hcatalog, hpublished, not_owned_of_recommend h p hp⟩
  · obtain ⟨turns, hturns⟩ := exists_inTurn h
    exact ⟨turns, hturns, Except.ok.inj (h.symm.trans hturns.flatten)⟩

/-- A catalog in which one item stands twice and dates with and without an offset meet. -/
def rummage : List Item :=
  [⟨3, "Groups", 2, some "algebra", none, true, some (.utc 10), none⟩,
    ⟨2, "Rings", 2, some "algebra", none, true, none, none⟩,
    ⟨3, "Groups", 4, some "algebra", none, true, some (.utc 30), none⟩,
    ⟨1, "Sets", 5, some "logic", none, true, some (.bare 20), none⟩,
    ⟨4, "Waves", 3, some "physics", none, false, some (.bare 40), none⟩,
    ⟨6, "Knots", 5, some "topology", none, true, some (.utc 10), none⟩,
    ⟨7, "Braids", 5, some "topology", none, true, some (.bare 10), none⟩]

/-- A caller who has bought in one subject. -/
def algebraist : Signals where
  owned := [5]
  subjects := some ["algebra"]
  counts := some [(1, 4), (2, 9)]

/-- The subject is asked twice, and the last tier would fail on the dates if it were reached. -/
theorem recommend_take_rummage :
    (recommend rummage algebraist 4 [.subject, .popularity, .subject, .recency]).toOption.map
        (·.map fun p => (p.item.id, p.item.price, p.tier)) =
        some [(3, 4, .subject), (3, 2, .subject), (2, 2, .subject), (1, 5, .popularity)] ∧
      recommend rummage algebraist 5 [.subject, .popularity, .subject, .recency] =
        .error .wrongType ∧
      ∃ picks, recommend rummage algebraist 4 [.subject, .popularity, .subject, .recency] =
          .ok picks ∧
        recommend rummage algebraist 1 [.subject, .popularity, .subject, .recency] =
          .ok (picks.take 1) ∧
        recommend rummage algebraist (-1) [.subject, .popularity, .subject, .recency] = .ok [] := by
  obtain ⟨picks, hpicks⟩ : ∃ picks, recommend rummage algebraist 4
      [.subject, .popularity, .subject, .recency] = .ok picks := ⟨_, by cbv⟩
  have htake := (recommend_take hpicks).1
  exact ⟨by cbv, by cbv, picks, hpicks, htake 1 (by decide), htake (-1) (by decide)⟩

end Scrip.Recommendation
