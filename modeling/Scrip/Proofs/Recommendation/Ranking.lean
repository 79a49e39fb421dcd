import Scrip.Recommendation.Tier
set_option autoImplicit false

/-! # The order of a tier

Sorting is stable: entries that the order does not tell apart stay in their order. So the two sorts
of a tier, first by id and then by rank, put the accepted items in one order, that of
`Tier.precedes`.
-/

namespace Scrip

variable {α : Type}

/-- Sorting keeps what held of earlier and later entries before, among those that the order does
not tell apart. The entries are told apart by their positions, for one may occur twice. -/
theorem pairwise_mergeSort_stable {le : α → α → Bool} {R : α → α → Prop}
    (trans : ∀ a b c, le a b = true → le b c = true → le a c = true)
    (total : ∀ a b, (le a b || le b a) = true) {l : List α} (h : l.Pairwise R) :
    (l.mergeSort le).Pairwise fun a b => le a b = true ∧ (le b a = true → R a b) := by
  have hsorted := List.pairwise_mergeSort (List.zipIdxLE_trans trans) (List.zipIdxLE_total total)
    l.zipIdx
  have hperm := List.mergeSort_perm l.zipIdx (List.zipIdxLE le)
  have hpositions : (l.zipIdx.mergeSort (List.zipIdxLE le)).Pairwise fun a b => a.2 ≠ b.2 := by
    have hnodup : (l.zipIdx.map Prod.snd).Nodup := by
      rw [List.zipIdx_map_snd]
      exact List.nodup_range'
    exact List.pairwise_map.mp ((hperm.map Prod.snd).nodup_iff.mpr hnodup)
  -- with their positions the entries are sorted by the order and then by position
  rw [← List.mergeSort_zipIdx, List.pairwise_map]
  refine (hsorted.and hpositions).imp_of_mem ?_
  rintro ⟨a, i⟩ ⟨b, j⟩ ha hb ⟨hle, hne⟩
  have hi := List.mk_mem_zipIdx_iff_getElem?.mp (hperm.mem_iff.mp ha)
  have hj := List.mk_mem_zipIdx_iff_getElem?.mp (hperm.mem_iff.mp hb)
  simp only [List.zipIdxLE] at hle
  split at hle
  · rename_i hab
    refine ⟨hab, fun hba => ?_⟩
    rw [if_pos hba, decide_eq_true_eq] at hle
    obtain ⟨hi', rfl⟩ := List.getElem?_eq_some_iff.mp hi
    obtain ⟨hj', rfl⟩ := List.getElem?_eq_some_iff.mp hj
    exact List.pairwise_iff_getElem.mp h i j hi' hj' (Nat.lt_of_le_of_ne hle hne)
  · cases hle

namespace Tier

/-! ## Ranks -/

theorem atLeast_total (x y : Option Int) : (atLeast x y || atLeast y x) = true := by
  cases x <;> cases y <;> simp [atLeast]
  omega

theorem atLeast_trans {x y z : Option Int} (h : atLeast x y = true) (h' : atLeast y z = true) :
    atLeast x z = true := by
  cases x <;> cases y <;> cases z <;> simp_all [atLeast]
  omega

theorem atLeast_antisymm {x y : Option Int} (h : atLeast x y = true) (h' : atLeast y x = true) :
    x = y := by
  cases x <;> cases y <;> simp_all [atLeast]
  omega

theorem atLeast_refl (x : Option Int) : atLeast x x = true := by
  simpa using atLeast_total x x

/-! ## The order -/

/-- Whether an item comes no later than another in a tier: its rank is greater, or the ranks are
the same and its id is no greater. -/
def precedes (t : Tier) (s : Signals) (a b : Item) : Bool :=
  atLeast (t.rank s a) (t.rank s b) && (t.rank s a != t.rank s b || decide (a.id ≤ b.id))

variable {t : Tier} {s : Signals} {a b c : Item}

theorem precedes_iff : t.precedes s a b = true ↔
    atLeast (t.rank s a) (t.rank s b) = true ∧ (t.rank s a = t.rank s b → a.id ≤ b.id) := by
  simp [precedes, Decidable.imp_iff_not_or]

theorem precedes_total (t : Tier) (s : Signals) (a b : Item) :
    (t.precedes s a b || t.precedes s b a) = true := by
  simp only [Bool.or_eq_true, precedes_iff]
  by_cases hrank : t.rank s a = t.rank s b
  · rw [hrank]
    simp only [atLeast_refl, true_and, true_implies]
    omega
  · have htotal : atLeast (t.rank s a) (t.rank s b) = true ∨
        atLeast (t.rank s b) (t.rank s a) = true := by simpa using atLeast_total _ _
    exact htotal.imp (fun h => ⟨h, fun heq => absurd heq hrank⟩)
      fun h => ⟨h, fun heq => absurd heq.symm hrank⟩

theorem precedes_trans (h : t.precedes s a b = true) (h' : t.precedes s b c = true) :
    t.precedes s a c = true := by
  rw [precedes_iff] at h h' ⊢
  refine ⟨atLeast_trans h.1 h'.1, fun hrank => ?_⟩
  have hab : t.rank s a = t.rank s b := atLeast_antisymm h.1 (hrank ▸ h'.1)
  have hbc : t.rank s b = t.rank s c := hab ▸ hrank
  exact Int.le_trans (h.2 hab) (h'.2 hbc)

/-- Only items of one id hold the same place. -/
theorem id_eq_of_precedes (h : t.precedes s a b = true) (h' : t.precedes s b a = true) :
    a.id = b.id := by
  rw [precedes_iff] at h h'
  have hrank := atLeast_antisymm h.1 h'.1
  exact Int.le_antisymm (h.2 hrank) (h'.2 hrank.symm)

/-! ## Dates -/

/-- Dates clash if and only if some date has an offset and some other has none. -/
theorem clash_iff {items : List Item} : clash items = true ↔ ∃ a ∈ items, ∃ b ∈ items, ∃ x y,
    a.publishedAt = some x ∧ b.publishedAt = some y ∧ x.offset.isSome ≠ y.offset.isSome := by
  simp only [clash, Bool.and_eq_true, Bool.not_eq_true', List.all_eq_false, List.any_eq_true,
    List.mem_filterMap]
  constructor
  · rintro ⟨⟨x, ⟨a, ha, hx⟩, hsome⟩, ⟨y, ⟨b, hb, hy⟩, hnone⟩⟩
    exact ⟨a, ha, b, hb, x, y, hx, hy, fun heq => hnone (heq ▸ hsome)⟩
  · rintro ⟨a, ha, b, hb, x, y, hx, hy, hne⟩
    -- the one of the two dates that has an offset comes first
    by_cases hsome : x.offset.isSome = true
    · exact ⟨⟨x, ⟨a, ha, hx⟩, hsome⟩, ⟨y, ⟨b, hb, hy⟩, fun h => hne (hsome.trans h.symm)⟩⟩
    · have hyo : y.offset.isSome = true :=
        eq_true_of_ne_false fun h => hne ((Bool.eq_false_iff.mpr hsome).trans h.symm)
      exact ⟨⟨y, ⟨b, hb, hy⟩, hyo⟩, ⟨x, ⟨a, ha, hx⟩, hsome⟩⟩

/-! ## The order of the accepted items -/

theorem order_perm (t : Tier) (s : Signals) (accepted : List Item) :
    (t.order s accepted).Perm accepted :=
  (List.mergeSort_perm _ _).trans (List.mergeSort_perm _ _)

/-- The two sorts of a tier, of entries that have an item each. What held of earlier and later
entries before still holds among those of equal rank and id. -/
theorem pairwise_sorts (t : Tier) (s : Signals) (item : α → Item) {R : α → α → Prop}
    {entries : List α} (h : entries.Pairwise R) :
    ((entries.mergeSort fun a b => decide ((item a).id ≤ (item b).id)).mergeSort
      fun a b => atLeast (t.rank s (item a)) (t.rank s (item b))).Pairwise fun a b =>
        atLeast (t.rank s (item a)) (t.rank s (item b)) = true ∧
          (atLeast (t.rank s (item b)) (t.rank s (item a)) = true →
            (item a).id ≤ (item b).id ∧ ((item b).id ≤ (item a).id → R a b)) := by
  -- each sort keeps among equal entries what the one before it has established
  have hids : (entries.mergeSort fun a b => decide ((item a).id ≤ (item b).id)).Pairwise
      fun a b => (item a).id ≤ (item b).id ∧ ((item b).id ≤ (item a).id → R a b) := by
    refine (pairwise_mergeSort_stable ?_ ?_ h).imp fun hab =>
      ⟨of_decide_eq_true hab.1, fun hba => hab.2 (decide_eq_true hba)⟩
    · simp only [decide_eq_true_eq]
      omega
    · simp only [Bool.or_eq_true, decide_eq_true_eq]
      omega
  refine pairwise_mergeSort_stable ?_ ?_ hids
  · exact fun _ _ _ => atLeast_trans
  · exact fun _ _ => atLeast_total _ _

theorem order_pairwise (t : Tier) (s : Signals) (accepted : List Item) :
    (t.order s accepted).Pairwise fun a b => t.precedes s a b = true := by
  have hnone : accepted.Pairwise fun _ _ => True := List.pairwise_of_forall fun _ _ => trivial
  refine (t.pairwise_sorts s (fun item => item) hnone).imp fun {a b} h => ?_
  exact precedes_iff.mpr ⟨h.1, fun hrank => (h.2 (hrank ▸ atLeast_refl _)).1⟩

end Tier

end Scrip
