import Mathlib.Data.List.Basic
import Mathlib.Data.List.Nodup
import Mathlib.Data.List.Permutation
import Scrip.Proofs.Recommendation.Ranking
import Scrip.Recommendation.Picks
set_option autoImplicit false

/-! # The closed form of the recommendations

Asking the tiers in turn, each without what the earlier ones have picked, comes to the same as
giving every item of interest to the first available tier that accepts it, and sorting them by
these tiers and within each by its order (`ranking`). Both lists hold the same items in the same
order, and an order that tells items of different ids apart puts them in one way only.
-/

namespace Scrip.Recommendation

variable {catalog : List Item} {s : Signals} {tiers ts : List Tier} {t : Tier} {excluded : List Int}

/-! ## The ranking -/

/-- Whether an available tier accepts an item. -/
def takes (s : Signals) (item : Item) (t : Tier) : Bool := t.isAvailable s && t.accepts s item

/-- The first available tier that accepts an item. -/
def taker (s : Signals) (tiers : List Tier) (item : Item) : Option Tier :=
  tiers.find? (takes s item)

/-- The position of that tier. -/
def place (s : Signals) (tiers : List Tier) (item : Item) : Nat := tiers.findIdx (takes s item)

/-- Whether an item comes no later than another: its place is earlier, or it is the same and so
does the tier order them. -/
def precedes (s : Signals) (tiers : List Tier) (a b : Item) : Bool :=
  decide (place s tiers a < place s tiers b) ||
    (place s tiers a == place s tiers b && (taker s tiers a).all fun t => t.precedes s a b)

/-- Whether an item is published, not owned, and accepted by an available tier. -/
def isWanted (s : Signals) (tiers : List Tier) (item : Item) : Bool :=
  item.published && !s.owned.contains item.id && (taker s tiers item).isSome

def pick? (s : Signals) (tiers : List Tier) (item : Item) : Option Pick :=
  (taker s tiers item).map fun t => ⟨item, t, s.popularity item.id⟩

/-- All recommendations of a catalog, best first. -/
def ranking (catalog : List Item) (s : Signals) (tiers : List Tier) : List Pick :=
  ((catalog.filter (isWanted s tiers)).mergeSort (precedes s tiers)).filterMap (pick? s tiers)

/-! ## The order of the ranking -/

variable {a b c : Item}

theorem taker_eq_of_place_eq (h : place s tiers a = place s tiers b) :
    taker s tiers a = taker s tiers b := by
  rw [taker, taker, List.find?_eq_getElem?_findIdx, List.find?_eq_getElem?_findIdx]
  exact congrArg (tiers[·]?) h

theorem precedes_iff : precedes s tiers a b = true ↔
    place s tiers a < place s tiers b ∨ (place s tiers a = place s tiers b ∧
      ∀ t, taker s tiers a = some t → t.precedes s a b = true) := by
  simp [precedes, Option.all_eq_true]

/-- Any two items can be compared. -/
theorem precedes_total (s : Signals) (tiers : List Tier) (a b : Item) :
    (precedes s tiers a b || precedes s tiers b a) = true := by
  simp only [Bool.or_eq_true, precedes_iff]
  rcases Nat.lt_trichotomy (place s tiers a) (place s tiers b) with h | h | h
  · exact Or.inl (Or.inl h)
  · rw [taker_eq_of_place_eq h]
    cases taker s tiers b with
    | none => exact Or.inl (Or.inr ⟨h, fun _ ht => (by cases ht)⟩)
    | some t =>
        have htotal : t.precedes s a b = true ∨ t.precedes s b a = true := by
          simpa using t.precedes_total s a b
        refine htotal.imp (fun hab => Or.inr ⟨h, ?_⟩) fun hba => Or.inr ⟨h.symm, ?_⟩
        · rintro _ ⟨⟩
          exact hab
        · rintro _ ⟨⟩
          exact hba
  · exact Or.inr (Or.inl h)

theorem precedes_trans (h : precedes s tiers a b = true) (h' : precedes s tiers b c = true) :
    precedes s tiers a c = true := by
  rw [precedes_iff] at h h' ⊢
  rcases h with h | ⟨h, hab⟩
  · rcases h' with h' | ⟨h', -⟩ <;> omega
  · rcases h' with h' | ⟨h', hbc⟩
    · omega
    · refine Or.inr ⟨h.trans h', fun t ht => Tier.precedes_trans (hab t ht) (hbc t ?_)⟩
      rw [← taker_eq_of_place_eq h]
      exact ht

theorem mergeSort_pairwise (s : Signals) (tiers : List Tier) (items : List Item) :
    (items.mergeSort (precedes s tiers)).Pairwise fun a b => precedes s tiers a b = true := by
  have htrans : ∀ a b c, precedes s tiers a b = true → precedes s tiers b c = true →
      precedes s tiers a c = true := fun _ _ _ => precedes_trans
  exact List.pairwise_mergeSort htrans (precedes_total s tiers) items

theorem id_eq_of_precedes (ht : (taker s tiers a).isSome = true)
    (h : precedes s tiers a b = true) (h' : precedes s tiers b a = true) : a.id = b.id := by
  rw [precedes_iff] at h h'
  obtain ⟨t, ht⟩ := Option.isSome_iff_exists.mp ht
  have hplace : place s tiers a = place s tiers b := by omega
  rcases h with h | ⟨-, h⟩
  · omega
  · rcases h' with h' | ⟨-, h'⟩
    · omega
    · refine Tier.id_eq_of_precedes (h t ht) (h' t ?_)
      rw [← taker_eq_of_place_eq hplace]
      exact ht

/-- Wanted items stand in an order in one way only. -/
theorem eq_of_perm {l l' : List Item} (hids : (l.map (·.id)).Nodup)
    (hwanted : ∀ item ∈ l, isWanted s tiers item = true)
    (hl : l.Pairwise fun a b => precedes s tiers a b = true)
    (hl' : l'.Pairwise fun a b => precedes s tiers a b = true) (h : l.Perm l') : l = l' := by
  refine h.eq_of_pairwise ?_ hl hl'
  intro a b ha hb hab hba
  have htaken : (taker s tiers a).isSome = true := by
    have := hwanted a ha
    simp only [isWanted, Bool.and_eq_true] at this
    exact this.2
  exact List.inj_on_of_nodup_map hids ha (h.mem_iff.mpr hb) (id_eq_of_precedes htaken hab hba)

/-! ## One tier more -/

theorem taker_cons_of_takes (h : takes s a t = true) : taker s (t :: ts) a = some t :=
  List.find?_cons_of_pos h

theorem taker_cons_of_not (h : takes s a t = false) : taker s (t :: ts) a = taker s ts a :=
  List.find?_cons_of_neg (by simp [h])

theorem place_cons_of_takes (h : takes s a t = true) : place s (t :: ts) a = 0 := by
  simp [place, List.findIdx_cons, h]

theorem place_cons_of_not (h : takes s a t = false) :
    place s (t :: ts) a = place s ts a + 1 := by
  simp [place, List.findIdx_cons, h]

theorem precedes_cons_of_takes (ha : takes s a t = true) (hb : takes s b t = true) :
    precedes s (t :: ts) a b = t.precedes s a b := by
  simp [precedes, place_cons_of_takes, taker_cons_of_takes, ha, hb]

theorem precedes_cons_of_not (ha : takes s a t = false) (hb : takes s b t = false) :
    precedes s (t :: ts) a b = precedes s ts a b := by
  simp [precedes, place_cons_of_not, taker_cons_of_not, ha, hb]

theorem precedes_cons_of_takes_of_not (ha : takes s a t = true) (hb : takes s b t = false) :
    precedes s (t :: ts) a b = true := by
  simp [precedes, place_cons_of_takes, place_cons_of_not, ha, hb]

/-! ## Asking the tiers without a limit -/

def chosen (catalog : List Item) (s : Signals) (excluded : List Int) (t : Tier) : List Item :=
  t.order s ((candidates catalog excluded).filter fun item => takes s item t)

/-- What the tiers pick in turn when nothing limits them. -/
def harvest (catalog : List Item) (s : Signals) : List Int → List Tier → List Pick
  | _, [] => []
  | excluded, t :: ts =>
    let items := chosen catalog s excluded t
    items.map (fun i => ⟨i, t, s.popularity i.id⟩) ++
      harvest catalog s (items.map (·.id) ++ excluded) ts

theorem mem_candidates {item : Item} : item ∈ candidates catalog excluded ↔
    item ∈ catalog ∧ item.published = true ∧ item.id ∉ excluded := by
  simp [candidates]

theorem mem_chosen {item : Item} : item ∈ chosen catalog s excluded t ↔
    item ∈ candidates catalog excluded ∧ takes s item t = true := by
  rw [chosen, (t.order_perm s _).mem_iff, List.mem_filter]

theorem id_mem_chosen (hids : (catalog.map (·.id)).Nodup) {item : Item} (h : item ∈ catalog) :
    item.id ∈ (chosen catalog s excluded t).map (·.id) ↔
      item ∈ chosen catalog s excluded t := by
  refine ⟨fun hid => ?_, fun hitem => List.mem_map_of_mem hitem⟩
  obtain ⟨other, hother, heq⟩ := List.mem_map.mp hid
  obtain rfl : other = item :=
    List.inj_on_of_nodup_map hids (mem_candidates.mp (mem_chosen.mp hother).1).1 h heq
  exact hother

def left (catalog : List Item) (s : Signals) (excluded : List Int) (tiers : List Tier) :
    List Item :=
  (candidates catalog excluded).filter fun item => (taker s tiers item).isSome

/-- What is left for the later tiers are the items left that the first one does not accept. -/
theorem left_chosen (hids : (catalog.map (·.id)).Nodup) :
    left catalog s ((chosen catalog s excluded t).map (·.id) ++ excluded) ts =
      (left catalog s excluded (t :: ts)).filter fun item => !takes s item t := by
  rw [left, left, candidates, candidates, List.filter_filter, List.filter_filter,
    List.filter_filter]
  refine List.filter_congr fun item hitem => ?_
  have hid : item.id ∈ (chosen catalog s excluded t).map (·.id) ↔
      (item.published = true ∧ item.id ∉ excluded) ∧ takes s item t = true := by
    rw [id_mem_chosen hids hitem, mem_chosen, mem_candidates]
    simp [hitem]
  rw [Bool.eq_iff_iff]
  cases htakes : takes s item t with
  | true =>
      simp only [htakes, and_true] at hid
      grind
  | false =>
      simp only [htakes, Bool.false_eq_true, and_false, iff_false] at hid
      simp [hid, taker_cons_of_not htakes]

theorem chosen_perm : (chosen catalog s excluded t).Perm
    ((left catalog s excluded (t :: ts)).filter fun item => takes s item t) := by
  rw [left, List.filter_filter]
  refine (t.order_perm s _).trans (List.Perm.of_eq (List.filter_congr fun item _ => ?_))
  cases htakes : takes s item t with
  | true => simp [taker_cons_of_takes htakes]
  | false => rfl

theorem harvest_perm (hids : (catalog.map (·.id)).Nodup) :
    ((harvest catalog s excluded tiers).map (·.item)).Perm (left catalog s excluded tiers) := by
  induction tiers generalizing excluded with
  | nil => simp [harvest, left, taker]
  | cons t ts ih =>
      have hitems : ((harvest catalog s excluded (t :: ts)).map (·.item)) =
          chosen catalog s excluded t ++ (harvest catalog s
            ((chosen catalog s excluded t).map (·.id) ++ excluded) ts).map (·.item) := by
        simp [harvest, Function.comp_def]
      rw [hitems]
      refine (chosen_perm.append ?_).trans (List.filter_append_perm (fun item => takes s item t) _)
      rw [← left_chosen hids]
      exact ih

/-- What the later tiers pick the first one does not accept. -/
theorem not_takes_of_mem_harvest (hids : (catalog.map (·.id)).Nodup) {p : Pick}
    (h : p ∈ harvest catalog s ((chosen catalog s excluded t).map (·.id) ++ excluded) ts) :
    takes s p.item t = false := by
  have hmem := (harvest_perm hids).mem_iff.mp (List.mem_map_of_mem h)
  rw [left_chosen hids, List.mem_filter] at hmem
  simpa using hmem.2

/-- Later turns come later in the order, and in its turn each tier has an order of its own. -/
theorem harvest_pairwise (hids : (catalog.map (·.id)).Nodup) :
    (harvest catalog s excluded tiers).Pairwise
      fun p q => precedes s tiers p.item q.item = true := by
  induction tiers generalizing excluded with
  | nil => exact List.Pairwise.nil
  | cons t ts ih =>
      rw [harvest, List.pairwise_append, List.pairwise_map]
      refine ⟨?_, ?_, ?_⟩
      · refine (t.order_pairwise s _).imp_of_mem fun ha hb h => ?_
        rw [precedes_cons_of_takes (mem_chosen.mp ha).2 (mem_chosen.mp hb).2]
        exact h
      · refine ih.imp_of_mem fun hp hq h => ?_
        rw [precedes_cons_of_not (not_takes_of_mem_harvest hids hp)
          (not_takes_of_mem_harvest hids hq)]
        exact h
      · intro p hp q hq
        obtain ⟨item, hitem, rfl⟩ := List.mem_map.mp hp
        exact precedes_cons_of_takes_of_not (mem_chosen.mp hitem).2
          (not_takes_of_mem_harvest hids hq)

theorem pick?_of_mem_harvest (hids : (catalog.map (·.id)).Nodup) {p : Pick}
    (h : p ∈ harvest catalog s excluded tiers) : pick? s tiers p.item = some p := by
  induction tiers generalizing excluded with
  | nil => cases h
  | cons t ts ih =>
      rw [harvest] at h
      rcases List.mem_append.mp h with h | h
      · obtain ⟨item, hitem, rfl⟩ := List.mem_map.mp h
        rw [pick?, taker_cons_of_takes (mem_chosen.mp hitem).2]
        rfl
      · rw [pick?, taker_cons_of_not (not_takes_of_mem_harvest hids h)]
        exact ih h

/-! ## The closed form -/

theorem filter_isWanted : catalog.filter (isWanted s tiers) = left catalog s s.owned tiers := by
  rw [left, candidates, List.filter_filter]
  refine List.filter_congr fun item _ => ?_
  rw [isWanted, Bool.and_comm]

theorem nodup_filter_ids (hids : (catalog.map (·.id)).Nodup) (keep : Item → Bool) :
    ((catalog.filter keep).map (·.id)).Nodup :=
  hids.sublist (List.filter_sublist.map _)

theorem items_harvest (hids : (catalog.map (·.id)).Nodup) :
    (harvest catalog s s.owned tiers).map (·.item) =
      (catalog.filter (isWanted s tiers)).mergeSort (precedes s tiers) := by
  have hperm : ((harvest catalog s s.owned tiers).map (·.item)).Perm
      (catalog.filter (isWanted s tiers)) := filter_isWanted ▸ harvest_perm hids
  have hsort := List.mergeSort_perm (catalog.filter (isWanted s tiers)) (precedes s tiers)
  refine eq_of_perm ?_ ?_ ?_ (mergeSort_pairwise s tiers _) (hperm.trans hsort.symm)
  · exact (hperm.map (·.id)).nodup_iff.mpr (nodup_filter_ids hids _)
  · exact fun item hitem => (List.mem_filter.mp (hperm.mem_iff.mp hitem)).2
  · exact List.pairwise_map.mpr (harvest_pairwise hids)

theorem harvest_eq_ranking (hids : (catalog.map (·.id)).Nodup) :
    harvest catalog s s.owned tiers = ranking catalog s tiers := by
  have hpicks : ∀ p ∈ harvest catalog s s.owned tiers, pick? s tiers p.item = some p :=
    fun p hp => pick?_of_mem_harvest hids hp
  rw [ranking, ← items_harvest hids, List.filterMap_map]
  exact (List.filterMap_some.symm.trans (List.filterMap_congr hpicks).symm)

/-- The ranking does not depend on the order of the catalog. -/
theorem ranking_perm {catalog' : List Item} (hids : (catalog.map (·.id)).Nodup)
    (h : catalog.Perm catalog') : ranking catalog' s tiers = ranking catalog s tiers := by
  have hkept := h.filter (isWanted s tiers)
  have hsort := List.mergeSort_perm (catalog.filter (isWanted s tiers)) (precedes s tiers)
  have hsort' := List.mergeSort_perm (catalog'.filter (isWanted s tiers)) (precedes s tiers)
  have hitems : (catalog.filter (isWanted s tiers)).mergeSort (precedes s tiers) =
      (catalog'.filter (isWanted s tiers)).mergeSort (precedes s tiers) := by
    refine eq_of_perm ?_ ?_ (mergeSort_pairwise s tiers _) (mergeSort_pairwise s tiers _)
      (hsort.trans (hkept.trans hsort'.symm))
    · exact (hsort.map (·.id)).nodup_iff.mpr (nodup_filter_ids hids _)
    · exact fun item hitem => (List.mem_filter.mp (hsort.mem_iff.mp hitem)).2
  rw [ranking, ranking, hitems]

theorem nodup_ranking (hids : (catalog.map (·.id)).Nodup) :
    ((ranking catalog s tiers).map (·.item.id)).Nodup := by
  have hitems : (ranking catalog s tiers).map (·.item.id) =
      ((catalog.filter (isWanted s tiers)).mergeSort (precedes s tiers)).map (·.id) := by
    rw [← items_harvest hids, harvest_eq_ranking hids, List.map_map]
    rfl
  have hsort := List.mergeSort_perm (catalog.filter (isWanted s tiers)) (precedes s tiers)
  rw [hitems]
  exact (hsort.map (·.id)).nodup_iff.mpr (nodup_filter_ids hids _)

/-! ## Up to a limit -/

/-- The dates of some items can be compared: none of them has an offset, or all have one. -/
def Comparable (items : List Item) : Prop :=
  (∀ item ∈ items, ∀ date, item.publishedAt = some date → date.offset = none) ∨
    ∀ item ∈ items, ∀ date, item.publishedAt = some date → date.offset ≠ none

theorem not_clash {items : List Item} (h : Comparable catalog) (hsub : ∀ i ∈ items, i ∈ catalog) :
    Tier.clash items = false := by
  refine Bool.eq_false_iff.mpr fun hclash => ?_
  obtain ⟨a, ha, b, hb, x, y, hx, hy, hne⟩ := Tier.clash_iff.mp hclash
  rcases h with h | h
  · rw [h a (hsub a ha) x hx, h b (hsub b hb) y hy] at hne
    exact hne rfl
  · have hxo := Option.isSome_iff_ne_none.mpr (h a (hsub a ha) x hx)
    have hyo := Option.isSome_iff_ne_none.mpr (h b (hsub b hb) y hy)
    exact hne (hxo.trans hyo.symm)

/-- An available tier ranks without failure. -/
theorem ranked_eq (h : Comparable catalog) (ha : t.isAvailable s = true) :
    t.ranked s (candidates catalog excluded) = .ok (chosen catalog s excluded t) := by
  have hclash : Tier.clash ((candidates catalog excluded).filter (t.accepts s)) = false :=
    not_clash h fun i hi => (mem_candidates.mp (List.mem_of_mem_filter hi)).1
  simp [Tier.ranked, chosen, takes, ha, hclash]

theorem chosen_eq_nil (ha : t.isAvailable s = false) : chosen catalog s excluded t = [] := by
  have hperm := t.order_perm s ((candidates catalog excluded).filter fun item => takes s item t)
  simpa [chosen, takes, ha] using hperm

/-- Asking the tiers up to a limit gives the beginning of what they pick without it. -/
theorem collect_eq (h : Comparable catalog) (wanted : Nat) :
    collect catalog s wanted excluded tiers =
      .ok ((harvest catalog s excluded tiers).take wanted) := by
  induction tiers generalizing wanted excluded with
  | nil => simp [collect, harvest]
  | cons t ts ih =>
      by_cases hw : wanted = 0
      · simp [collect, hw]
      cases ha : t.isAvailable s with
      | false =>
          simp [collect, hw, ha, ih, harvest, chosen_eq_nil ha]
      | true =>
          have hstep : collect catalog s wanted excluded (t :: ts) = .ok
              (((chosen catalog s excluded t).take wanted).map
                (fun i => ⟨i, t, s.popularity i.id⟩) ++
              (harvest catalog s (((chosen catalog s excluded t).take wanted).map (·.id) ++
                excluded) ts).take
                  (wanted - ((chosen catalog s excluded t).take wanted).length)) := by
            simp [collect, hw, ha, ranked_eq h ha, ih]
          rw [hstep, harvest, List.take_append, List.map_take, List.length_map, List.length_take]
          by_cases hlong : wanted ≤ (chosen catalog s excluded t).length
          · -- the limit is reached, so the later tiers are not asked
            rw [Nat.min_eq_left hlong, Nat.sub_self, Nat.sub_eq_zero_of_le hlong, List.take_zero,
              List.take_zero]
          · have hall : (chosen catalog s excluded t).length ≤ wanted := by omega
            rw [Nat.min_eq_right hall, List.take_of_length_le hall]

/-- **The recommendations have a closed form.** They are the beginning of the ranking, in which no
item occurs twice, and they do not depend on the order of the catalog. -/
theorem recommend_eq_take_ranking (hids : (catalog.map (·.id)).Nodup)
    (hdates : Comparable catalog) (limit : Int) :
    recommend catalog s limit tiers = .ok ((ranking catalog s tiers).take limit.toNat) ∧
      (((ranking catalog s tiers).take limit.toNat).map (·.item.id)).Nodup ∧
      ∀ catalog', catalog.Perm catalog' →
        recommend catalog' s limit tiers = recommend catalog s limit tiers := by
  have hclosed : ∀ {items : List Item}, (items.map (·.id)).Nodup → Comparable items →
      recommend items s limit tiers = .ok ((ranking items s tiers).take limit.toNat) := by
    intro items hids hdates
    rw [recommend, collect_eq hdates, harvest_eq_ranking hids]
  refine ⟨hclosed hids hdates, ?_, fun catalog' hperm => ?_⟩
  · exact (nodup_ranking hids).sublist ((List.take_sublist _ _).map _)
  · have hids' : (catalog'.map (·.id)).Nodup := (hperm.map (·.id)).nodup_iff.mp hids
    have hdates' : Comparable catalog' :=
      hdates.imp (fun h item hitem => h item (hperm.mem_iff.mpr hitem))
        fun h item hitem => h item (hperm.mem_iff.mpr hitem)
    rw [hclosed hids' hdates', hclosed hids hdates, ranking_perm hids hperm]

/-- A catalog with an owned item, an item that is not published, and two of the same date. -/
def shelves : List Item :=
  [⟨6, "Knots", 5, some "topology", none, true, some (.utc 10), none⟩,
    ⟨4, "Waves", 3, some "physics", none, true, none, none⟩,
    ⟨1, "Sets", 5, some "logic", none, true, some (.utc 20), none⟩,
    ⟨3, "Groups", 2, some "algebra", none, true, some (.utc 10), none⟩,
    ⟨2, "Rings", 2, some "algebra", some "hard", true, none, none⟩,
    ⟨5, "Fields", 2, some "algebra", none, false, some (.utc 30), none⟩]

/-- A caller whose levels are not known. -/
def reader : Signals where
  owned := [1]
  levels := none
  counts := some [(4, 2), (2, 7), (4, 1)]

/-- One tier is passed over, one is asked twice, and the last place is decided by the ids. -/
theorem recommend_eq_take_ranking_reader :
    (shelves.map (·.id)).Nodup ∧ Comparable shelves ∧
      (recommend shelves reader 3 [.level, .popularity, .recency, .popularity]).toOption.map
        (·.map fun p => (p.item.id, p.tier, p.popularity)) =
        some [(2, .popularity, 7), (4, .popularity, 1), (3, .recency, 0)] ∧
      recommend shelves reader 3 [.level, .popularity, .recency, .popularity] =
        .ok ((ranking shelves reader [.level, .popularity, .recency, .popularity]).take 3) := by
  have hids : (shelves.map (·.id)).Nodup := by decide
  have hdates : Comparable shelves := Or.inr (by simp [shelves, DateTime.utc])
  exact ⟨hids, hdates, by cbv, (recommend_eq_take_ranking hids hdates 3).1⟩

end Scrip.Recommendation
