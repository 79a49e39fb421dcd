import Scrip.Store.Basic
set_option autoImplicit false

/-! # Newest first

Listings are sorted by the time and then by the id of a transaction, both falling. Since ids are
distinct, no two entries hold one place, and the order is strict.
-/

namespace Scrip

/-- The transaction was entered later, or at the same time under a greater id. -/
def Transaction.NewerThan (t t' : Transaction) : Prop :=
  t'.createdAt < t.createdAt ∨ (t.createdAt = t'.createdAt ∧ t'.id < t.id)

namespace Store

variable {t t' t'' : Transaction}

theorem isNewer_iff : isNewer t t' = true ↔
    t'.createdAt < t.createdAt ∨ (t.createdAt = t'.createdAt ∧ t'.id ≤ t.id) := by
  simp [isNewer]

theorem isNewer_total (t t' : Transaction) : (isNewer t t' || isNewer t' t) = true := by
  simp only [Bool.or_eq_true, isNewer_iff]
  rcases Int.lt_trichotomy t.createdAt t'.createdAt with h | h | h
  · exact Or.inr (Or.inl h)
  · exact (Int.le_total t'.id t.id).imp (fun hid => Or.inr ⟨h, hid⟩) fun hid => Or.inr ⟨h.symm, hid⟩
  · exact Or.inl (Or.inl h)

theorem isNewer_trans (h : isNewer t t' = true) (h' : isNewer t' t'' = true) :
    isNewer t t'' = true := by
  rw [isNewer_iff] at h h' ⊢
  rcases h with h | ⟨h, hid⟩
  · rcases h' with h' | ⟨h', -⟩
    · exact Or.inl (Int.lt_trans h' h)
    · exact Or.inl (h' ▸ h)
  · rcases h' with h' | ⟨h', hid'⟩
    · exact Or.inl (h.symm ▸ h')
    · exact Or.inr ⟨h.trans h', Int.le_trans hid' hid⟩

theorem newerThan_of_isNewer (h : isNewer t t' = true) (hne : t.id ≠ t'.id) : t.NewerThan t' := by
  rcases isNewer_iff.mp h with h | ⟨h, hid⟩
  · exact Or.inl h
  · exact Or.inr ⟨h, by omega⟩

/-- Entries with different transactions stand in a strict order. -/
theorem pairwise_newerThan {α : Type} (f : α → Transaction) {entries : List α}
    (hids : (entries.map fun e => (f e).id).Nodup) :
    (entries.mergeSort fun a b => isNewer (f a) (f b)).Pairwise
      fun a b => (f a).NewerThan (f b) := by
  have htrans : ∀ a b c, isNewer (f a) (f b) = true → isNewer (f b) (f c) = true →
      isNewer (f a) (f c) = true := fun _ _ _ => isNewer_trans
  have hsorted := List.pairwise_mergeSort htrans (fun a b => isNewer_total (f a) (f b)) entries
  have hperm := List.mergeSort_perm entries fun a b => isNewer (f a) (f b)
  have hnodup := (hperm.map fun e => (f e).id).nodup_iff.mpr hids
  exact (hsorted.and (List.pairwise_map.mp hnodup)).imp fun h => newerThan_of_isNewer h.1 h.2

end Store

end Scrip
