import Mathlib.Data.List.DropRight
import Mathlib.Data.List.TakeWhile
import Scrip.Text.Basic
set_option autoImplicit false

/-! # Trimming

Trimming takes characters of a kind away at both ends, and what is left has none of them there. So
a text that is trimmed is not changed by trimming it again.
-/

namespace Scrip.Blank

variable {p : Char → Bool} {cs before after : List Char}

/-- Neither the first nor the last of some characters is of a kind. -/
structure Bare (p : Char → Bool) (cs : List Char) : Prop where
  first : ∀ c, cs.head? = some c → p c = false
  last : ∀ c, cs.getLast? = some c → p c = false

theorem trimBy_eq_rdropWhile (p : Char → Bool) (cs : List Char) :
    trimBy p cs = (cs.dropWhile p).rdropWhile p := rfl

theorem first_of_dropWhile {c : Char} (h : (cs.dropWhile p).head? = some c) : p c = false := by
  have hfirst := List.head?_dropWhile_not p cs
  rw [h] at hfirst
  exact hfirst

theorem last_of_rdropWhile {c : Char} (h : (cs.rdropWhile p).getLast? = some c) :
    p c = false := by
  rw [List.rdropWhile, List.getLast?_reverse] at h
  exact first_of_dropWhile h

theorem bare_trimBy (p : Char → Bool) (cs : List Char) : Bare p (trimBy p cs) where
  first := by
    intro c hc
    -- what is dropped at the end leaves the first character alone, if it leaves any
    obtain ⟨rest, hrest⟩ := List.rdropWhile_prefix p (cs.dropWhile p)
    have hfirst : (cs.dropWhile p).head? = some c := by
      rw [← hrest, List.head?_append, ← trimBy_eq_rdropWhile, hc, Option.some_or]
    exact first_of_dropWhile hfirst
  last := fun _ hc => last_of_rdropWhile hc

theorem Bare.reverse (h : Bare p cs) : Bare p cs.reverse where
  first := by
    intro c hc
    rw [List.head?_reverse] at hc
    exact h.last c hc
  last := by
    intro c hc
    rw [List.getLast?_reverse] at hc
    exact h.first c hc

theorem Bare.dropWhile (h : Bare p cs) : cs.dropWhile p = cs := by
  cases cs with
  | nil => rfl
  | cons c cs => exact List.dropWhile_cons_of_neg (by simp [h.first c rfl])

theorem trimBy_of_bare (h : Bare p cs) : trimBy p cs = cs := by
  rw [trimBy, h.dropWhile, h.reverse.dropWhile, List.reverse_reverse]

theorem trimBy_idem (p : Char → Bool) (cs : List Char) : trimBy p (trimBy p cs) = trimBy p cs :=
  trimBy_of_bare (bare_trimBy p cs)

/-- What trimming takes away. -/
theorem exists_trimBy (p : Char → Bool) (cs : List Char) : ∃ before after,
    cs = before ++ trimBy p cs ++ after ∧ (∀ c ∈ before, p c = true) ∧
      ∀ c ∈ after, p c = true := by
  refine ⟨cs.takeWhile p, (cs.dropWhile p).rtakeWhile p, ?_, ?_, ?_⟩
  · rw [trimBy_eq_rdropWhile, List.append_assoc, List.rdropWhile, List.rtakeWhile,
      ← List.reverse_append, List.takeWhile_append_dropWhile, List.reverse_reverse,
      List.takeWhile_append_dropWhile]
  · exact fun c hc => List.mem_takeWhile_imp hc
  · exact fun c hc => List.mem_rtakeWhile_imp hc

/-- What stands between characters of the kind, if it is bare of them. -/
theorem trimBy_append (hbefore : ∀ c ∈ before, p c = true) (hafter : ∀ c ∈ after, p c = true)
    (h : Bare p cs) : trimBy p (before ++ cs ++ after) = cs := by
  cases cs with
  | nil =>
      have hall : ∀ c ∈ before ++ after, p c = true := fun c hc =>
        (List.mem_append.mp hc).elim (hbefore c) (hafter c)
      rw [List.append_nil, trimBy, List.dropWhile_eq_nil_iff.mpr hall]
      rfl
  | cons x xs =>
      have hx : ¬ p x = true := by simp [h.first x rfl]
      have hrev : ∀ c ∈ after.reverse, p c = true := fun c hc => hafter c (List.mem_reverse.mp hc)
      rw [trimBy, List.append_assoc, List.dropWhile_append_of_pos hbefore, List.cons_append,
        List.dropWhile_cons_of_neg hx, ← List.cons_append, List.reverse_append,
        List.dropWhile_append_of_pos hrev, h.reverse.dropWhile, List.reverse_reverse]

/-- A trimmed text stays as it is. -/
theorem trimText_trimText (s : String) : trimText (trimText s) = trimText s := by
  rw [trimText, trimText, String.toList_ofList, trim, trim, trimBy_idem]

end Scrip.Blank
