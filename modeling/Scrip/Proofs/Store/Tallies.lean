import Scrip.Proofs.Store.Lookup
import Mathlib.Algebra.BigOperators.Group.List.Lemmas
import Mathlib.Algebra.BigOperators.Ring.Finset
import Mathlib.Data.List.Dedup
set_option autoImplicit false

/-! # Tallies

The tallies list each item that has been sold once, with the number of its sales, which add up to
the number of all sales.
-/

namespace Scrip

/-- Nothing is left twice when duplicates are erased. -/
theorem nodup_eraseDups (xs : List Int) : xs.eraseDups.Nodup := by
  match xs with
  | [] => exact List.nodup_nil
  | x :: xs =>
      rw [List.eraseDups_cons, List.nodup_cons]
      refine ⟨fun h => ?_, nodup_eraseDups _⟩
      simpa using List.mem_filter.mp (List.mem_eraseDups.mp h)
termination_by xs.length
decreasing_by exact Nat.lt_succ_of_le (List.length_filter_le _ _)

theorem eraseDups_perm_dedup (xs : List Int) : xs.eraseDups.Perm xs.dedup :=
  (List.perm_ext_iff_of_nodup (nodup_eraseDups xs) xs.nodup_dedup).mpr fun _ => by
    rw [List.mem_eraseDups, List.mem_dedup]

namespace Store

variable {s : Store} {id n : Int}

/-- The tallies in any order. -/
theorem tallies_perm (s : Store) :
    s.tallies.Perm (s.soldItems.dedup.map fun id => (id, (s.soldItems.count id : Int))) :=
  ((List.mergeSort_perm _ _).trans (eraseDups_perm_dedup _)).map _

theorem mem_tallies : (id, n) ∈ s.tallies ↔ n = s.soldItems.count id ∧ 0 < n := by
  rw [s.tallies_perm.mem_iff, List.mem_map]
  constructor
  · rintro ⟨id', hmem, h⟩
    obtain ⟨rfl, rfl⟩ := Prod.mk.inj h
    have hpos := List.count_pos_iff.mpr (List.mem_dedup.mp hmem)
    exact ⟨rfl, by omega⟩
  · rintro ⟨rfl, hpos⟩
    have hmem : id ∈ s.soldItems := List.count_pos_iff.mp (by omega)
    exact ⟨id, List.mem_dedup.mpr hmem, rfl⟩

theorem nodup_tallies (s : Store) : (s.tallies.map (·.1)).Nodup := by
  rw [(s.tallies_perm.map _).nodup_iff]
  simpa [Function.comp_def] using s.soldItems.nodup_dedup

theorem sum_tallies (s : Store) : (s.tallies.map (·.2)).sum = s.soldItems.length := by
  rw [(s.tallies_perm.map _).sum_eq, List.map_map]
  have hsum := congrArg (Nat.cast (R := Int)) (List.sum_map_count_dedup_eq_length s.soldItems)
  rw [Nat.cast_list_sum, List.map_map] at hsum
  exact hsum

end Store

end Scrip
