import Mathlib.Data.List.Permutation
import Mathlib.Tactic.ByContra
import Scrip.Proofs.Recommendation.Ranking
set_option autoImplicit false

/-! # Stability of a tier

An item may stand among the candidates of a tier twice, so the candidates are told apart by their
positions. Between two of those that a tier accepts it decides by rank, then by id, and then by
position (`Tier.Leads`). The two sorts of a tier put them in this order, and as it leaves nothing
undecided, it determines the list that they return.
-/

namespace Scrip

/-- Whether an item was published at a later instant than another. An item without a date is later
than none, and every item with a date is later than it. -/
def Item.IsLater (a b : Item) : Prop :=
  ∃ x, a.publishedAt = some x ∧ ∀ y, b.publishedAt = some y → y.instant < x.instant

namespace Tier

variable {t : Tier} {s : Signals} {a b : Item} {candidates items ranked : List Item}

/-! ## Ranks -/

/-- Whether a tier ranks an item above another. -/
def RanksAbove (t : Tier) (s : Signals) (a b : Item) : Prop :=
  match t with
  | popularity => s.popularity b.id < s.popularity a.id
  | _ => a.IsLater b

theorem isLater_iff : a.IsLater b ↔
    atLeast (b.publishedAt.map (·.instant)) (a.publishedAt.map (·.instant)) = false := by
  unfold Item.IsLater
  cases a.publishedAt with
  | none => simp [atLeast]
  | some x => cases b.publishedAt <;> simp [atLeast]

theorem ranksAbove_iff : t.RanksAbove s a b ↔ atLeast (t.rank s b) (t.rank s a) = false := by
  cases t with
  | popularity => simp [RanksAbove, rank, atLeast]
  | subject => exact isLater_iff
  | level => exact isLater_iff
  | recency => exact isLater_iff

/-- Whether the ranks of two items can be compared: counts always can, and dates unless one of them
has an offset and the other one has none. -/
def CanCompare (t : Tier) (a b : Item) : Prop :=
  t.ranksByDate = true → ∀ x y, a.publishedAt = some x → b.publishedAt = some y →
    x.offset.isSome = y.offset.isSome

/-- A tier can rank some candidates: it has its signal, or nothing to judge, and it can compare all
that it accepts. -/
structure CanRank (t : Tier) (s : Signals) (candidates : List Item) : Prop where
  signal : t.isAvailable s = true ∨ candidates = []
  comparable : ∀ a ∈ candidates, t.accepts s a = true →
    ∀ b ∈ candidates, t.accepts s b = true → t.CanCompare a b

theorem CanRank.not_clash (h : t.CanRank s candidates) :
    (t.ranksByDate && clash (candidates.filter (t.accepts s))) = false := by
  rw [Bool.and_eq_false_imp]
  intro hdate
  refine Bool.eq_false_iff.mpr fun hclash => ?_
  obtain ⟨a, ha, b, hb, x, y, hx, hy, hne⟩ := clash_iff.mp hclash
  obtain ⟨ha, haccepts⟩ := List.mem_filter.mp ha
  obtain ⟨hb, hbccepts⟩ := List.mem_filter.mp hb
  exact hne (h.comparable a ha haccepts b hb hbccepts hdate x y hx hy)

theorem CanRank.ranked_eq (h : t.CanRank s candidates) :
    t.ranked s candidates = .ok (t.order s (candidates.filter (t.accepts s))) := by
  have hsignal : (!t.isAvailable s && !candidates.isEmpty) = false := by
    rcases h.signal with hs | hs <;> simp [hs]
  simp [ranked, hsignal, h.not_clash]

/-- A list is returned only if nothing stands against ranking. -/
theorem canRank_of_ranked (h : t.ranked s candidates = .ok ranked) : t.CanRank s candidates := by
  simp only [Tier.ranked] at h
  split at h
  · cases h
  · rename_i hsignal
    split at h
    · cases h
    · rename_i hclash
      constructor
      · cases ha : t.isAvailable s with
        | true => exact Or.inl rfl
        | false => exact Or.inr (by simpa [ha] using hsignal)
      · intro a ha haccepts b hb hbccepts hdate x y hx hy
        by_contra hne
        refine hclash ?_
        rw [hdate, Bool.true_and, clash_iff]
        exact ⟨a, List.mem_filter.mpr ⟨ha, haccepts⟩, b, List.mem_filter.mpr ⟨hb, hbccepts⟩,
          x, y, hx, hy, hne⟩

/-! ## The order of the entries -/

/-- Whether an entry comes before another in a tier. An entry is an item and its position among the
candidates. The higher rank comes first, among equal ranks the smaller id, and among entries of
equal rank and id the earlier one. -/
def Leads (t : Tier) (s : Signals) (a b : Item × Nat) : Prop :=
  t.RanksAbove s a.1 b.1 ∨
    ¬ t.RanksAbove s b.1 a.1 ∧ (a.1.id < b.1.id ∨ a.1.id = b.1.id ∧ a.2 < b.2)

theorem leads_iff {a b : Item × Nat} : t.Leads s a b ↔
    atLeast (t.rank s a.1) (t.rank s b.1) = true ∧
      (atLeast (t.rank s b.1) (t.rank s a.1) = true →
        a.1.id < b.1.id ∨ a.1.id = b.1.id ∧ a.2 < b.2) := by
  have htotal := atLeast_total (t.rank s a.1) (t.rank s b.1)
  rw [Leads, ranksAbove_iff, ranksAbove_iff]
  cases hback : atLeast (t.rank s b.1) (t.rank s a.1) with
  | true => simp
  | false => simpa [hback] using htotal

/-- Of two entries not both come before the other. -/
theorem Leads.asymm {a b : Item × Nat} (h : t.Leads s a b) (h' : t.Leads s b a) : False := by
  rw [leads_iff] at h h'
  have hab := h.2 h'.1
  have hba := h'.2 h.1
  omega

def accepted (t : Tier) (s : Signals) (candidates : List Item) : List (Item × Nat) :=
  candidates.zipIdx.filter fun e => t.accepts s e.1

theorem map_fst_accepted :
    (t.accepted s candidates).map Prod.fst = candidates.filter (t.accepts s) := by
  have h : (candidates.zipIdx.map Prod.fst).filter (t.accepts s) =
      (t.accepted s candidates).map Prod.fst := List.filter_map
  rw [← h, List.zipIdx_map_fst]

theorem accepted_pairwise (t : Tier) (s : Signals) (candidates : List Item) :
    (t.accepted s candidates).Pairwise fun a b => a.2 < b.2 := by
  have h : (candidates.zipIdx.map Prod.snd).Pairwise (· < ·) := by
    rw [List.zipIdx_map_snd]
    exact List.pairwise_lt_range'
  exact (List.pairwise_map.mp h).filter _

/-- The entries that a tier accepts stand in its order. -/
structure Lists (t : Tier) (s : Signals) (candidates : List Item)
    (entries : List (Item × Nat)) : Prop where
  perm : entries.Perm (t.accepted s candidates)
  leads : entries.Pairwise (t.Leads s)

/-- The entries can stand in one order only. -/
theorem Lists.unique {entries entries' : List (Item × Nat)} (h : t.Lists s candidates entries)
    (h' : t.Lists s candidates entries') : entries = entries' :=
  (h.perm.trans h'.perm.symm).eq_of_pairwise
    (fun _ _ _ _ hab hba => (hab.asymm hba).elim) h.leads h'.leads

theorem exists_lists (t : Tier) (s : Signals) (candidates : List Item) :
    ∃ entries, t.Lists s candidates entries ∧
      entries.map Prod.fst = t.order s (candidates.filter (t.accepts s)) := by
  have hsorted := t.pairwise_sorts s Prod.fst (t.accepted_pairwise s candidates)
  refine ⟨_, ⟨(List.mergeSort_perm _ _).trans (List.mergeSort_perm _ _), hsorted.imp ?_⟩, ?_⟩
  · rintro a b ⟨hrank, htie⟩
    refine leads_iff.mpr ⟨hrank, fun hback => ?_⟩
    obtain ⟨hid, hposition⟩ := htie hback
    omega
  · -- sorting the entries by their items and then forgetting the positions sorts the items
    rw [order, ← map_fst_accepted]
    have hfirst : ((t.accepted s candidates).mergeSort
          fun a b => decide (a.1.id ≤ b.1.id)).map Prod.fst =
        ((t.accepted s candidates).map Prod.fst).mergeSort fun a b => decide (a.id ≤ b.id) :=
      List.map_mergeSort fun _ _ _ _ => rfl
    rw [← hfirst]
    exact List.map_mergeSort fun _ _ _ _ => rfl

/-! ## What a tier returns -/

/-- What a tier returns for some candidates: those that it accepts, each as often as it stands among
them, in the order in which their entries come before each other, which is the only one. Where the
rank is the date, items without a date come last, and the others by falling instants. -/
structure RanksStably (t : Tier) (s : Signals) (candidates ranked : List Item) : Prop where
  perm : ranked.Perm (candidates.filter (t.accepts s))
  entries : ∃ entries, t.Lists s candidates entries ∧ entries.map Prod.fst = ranked
  unique : ∀ entries, t.Lists s candidates entries → entries.map Prod.fst = ranked
  undatedLast : t.ranksByDate = true → ranked.Pairwise fun a b =>
    a.publishedAt = none → b.publishedAt = none
  byInstant : t.ranksByDate = true → ranked.Pairwise fun a b =>
    ∀ x y, a.publishedAt = some x → b.publishedAt = some y → y.instant ≤ x.instant

theorem ranksAbove_of_ranksByDate (h : t.ranksByDate = true) :
    t.RanksAbove s a b ↔ a.IsLater b := by
  cases t with
  | popularity => cases h
  | subject => exact Iff.rfl
  | level => exact Iff.rfl
  | recency => exact Iff.rfl

/-- In the order of a tier no item is ranked above an earlier one. -/
theorem order_not_ranksAbove (t : Tier) (s : Signals) (items : List Item) :
    (t.order s items).Pairwise fun a b => ¬ t.RanksAbove s b a :=
  (t.order_pairwise s items).imp fun h => by simp [ranksAbove_iff, (precedes_iff.mp h).1]

/-- Sorting by id first and then stably by rank is sorting by rank, id and position. -/
theorem ranksStably_order (t : Tier) (s : Signals) (candidates : List Item) :
    t.RanksStably s candidates (t.order s (candidates.filter (t.accepts s))) where
  perm := t.order_perm s _
  entries := t.exists_lists s candidates
  unique := by
    intro entries h
    obtain ⟨entries', h', hitems⟩ := t.exists_lists s candidates
    rw [h.unique h', hitems]
  undatedLast := by
    intro hdate
    refine (t.order_not_ranksAbove s _).imp fun {a b} h ha => ?_
    rw [ranksAbove_of_ranksByDate hdate] at h
    by_contra hb
    obtain ⟨y, hy⟩ := Option.ne_none_iff_exists'.mp hb
    exact h ⟨y, hy, fun x hx => by rw [ha] at hx; cases hx⟩
  byInstant := by
    intro hdate
    refine (t.order_not_ranksAbove s _).imp fun {a b} h x y hx hy => ?_
    rw [ranksAbove_of_ranksByDate hdate] at h
    by_contra hlater
    refine h ⟨y, hy, fun x' hx' => ?_⟩
    obtain rfl := Option.some.inj (hx.symm.trans hx')
    exact Int.not_le.mp hlater

end Tier

/-- **The ranking of a tier is stable.** A tier returns a list exactly if it can rank its
candidates, and then the list is that of the accepted ones by falling rank, among equal ranks by
id, and among equal ids in their own order. -/
theorem tier_ranking_is_stable (t : Tier) (s : Signals) (candidates : List Item) :
    t.CanRank s candidates ↔
      ∃ ranked, t.ranked s candidates = .ok ranked ∧ t.RanksStably s candidates ranked := by
  constructor
  · intro h
    exact ⟨_, h.ranked_eq, t.ranksStably_order s candidates⟩
  · rintro ⟨ranked, h, -⟩
    exact Tier.canRank_of_ranked h

/-- Candidates of which one stands there twice, three have one id, and four dates of three offsets
name one instant. -/
def Tier.heap : List Item :=
  let minute := Moment.minute
  [⟨3, "Groups", 2, some "algebra", none, true, some (.utc 10), none⟩,
    ⟨1, "Sets", 2, some "algebra", none, true, none, none⟩,
    ⟨4, "Fields", 2, some "algebra", none, true, some ⟨90 * minute, some (120 * minute)⟩, none⟩,
    ⟨3, "Rings", 2, some "algebra", none, true,
      some ⟨120 * minute + 10, some (120 * minute)⟩, none⟩,
    ⟨5, "Waves", 3, some "physics", none, true, some (.bare 40), none⟩,
    ⟨3, "Groups", 2, some "algebra", none, true, some (.utc 10), none⟩,
    ⟨2, "Lattices", 2, some "algebra", none, false, some ⟨10 - minute, some (-minute)⟩, none⟩]

/-- Ids and positions decide among dates of one instant, and the item without a date comes last. -/
theorem tier_ranking_is_stable_heap :
    Tier.subject.CanRank { subjects := some ["algebra"] } Tier.heap ∧
      ∃ ranked, Tier.subject.ranked { subjects := some ["algebra"] } Tier.heap = .ok ranked ∧
        Tier.subject.RanksStably { subjects := some ["algebra"] } Tier.heap ranked ∧
        ranked.map (·.title) = ["Lattices", "Groups", "Rings", "Groups", "Fields", "Sets"] := by
  have hoffsets : ∀ a ∈ Tier.heap,
      Tier.subject.accepts { subjects := some ["algebra"] } a = true →
        a.publishedAt.all (·.offset.isSome) = true := by decide
  have hcan : Tier.subject.CanRank { subjects := some ["algebra"] } Tier.heap := by
    refine ⟨Or.inl rfl, fun a ha haccepts b hb hbccepts _ x y hx hy => ?_⟩
    have hxo := hoffsets a ha haccepts
    have hyo := hoffsets b hb hbccepts
    rw [hx] at hxo
    rw [hy] at hyo
    exact Eq.trans hxo hyo.symm
  obtain ⟨ranked, hranked, hstable⟩ := (tier_ranking_is_stable _ _ _).mp hcan
  have htitles : (Tier.subject.ranked { subjects := some ["algebra"] } Tier.heap).toOption.map
      (·.map (·.title)) =
        some ["Lattices", "Groups", "Rings", "Groups", "Fields", "Sets"] := by cbv
  rw [hranked] at htitles
  exact ⟨hcan, ranked, hranked, hstable, Option.some.inj htitles⟩

end Scrip
