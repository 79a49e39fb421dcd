import Scrip.Http.Server
import Scrip.Proofs.Text.Blank
set_option autoImplicit false

/-! # Valid bodies

When the rules of the fields of a body accept it, and what they make of it. The method of an
accepted top-up request is a trimmed text that is not blank, and so is its reference if it has one.
-/

namespace Scrip

namespace Field

variable {α β γ : Type} {fields : List (String × Json)} {key : String}
  {rule : Json → Except Complaint α}

theorem both_eq_ok {f : α → β → γ} {x : Except (List Issue) α} {y : Except (List Issue) β} {c : γ} :
    both f x y = .ok c ↔ ∃ a b, x = .ok a ∧ y = .ok b ∧ f a b = c := by
  cases x <;> cases y <;> simp [both]

theorem placed_eq_ok {r : Except Complaint α} {a : α} : placed key r = .ok a ↔ r = .ok a := by
  cases r <;> simp [placed]

theorem check_eq_ok {a : α} :
    check fields key rule = .ok a ↔ ∃ j, Json.lookup fields key = some j ∧ rule j = .ok a := by
  unfold check
  cases Json.lookup fields key <;> simp [placed_eq_ok]

theorem checkOr_eq_ok {default a : α} : checkOr fields key default rule = .ok a ↔
    (Json.lookup fields key = none ∧ default = a) ∨
      ∃ j, Json.lookup fields key = some j ∧ rule j = .ok a := by
  unfold checkOr
  cases Json.lookup fields key <;> simp [placed_eq_ok]

/-- A text is accepted as it is. -/
theorem textUpTo_eq_ok {limit : Nat} {j : Json} {s : String} : textUpTo limit j = .ok s ↔
    j = .text s ∧ Half.occursIn s = false ∧ s.length ≤ limit := by
  cases j with
  | text s' =>
      cases hhalf : Half.occursIn s' with
      | true =>
          simp only [textUpTo, text, sound, hhalf, if_true, reduceCtorEq, Json.text.injEq,
            false_iff]
          rintro ⟨rfl, hnone, -⟩
          exact absurd (hhalf.symm.trans hnone) (by decide)
      | false =>
          by_cases hlong : limit < s'.length
          · simp only [textUpTo, text, sound, hhalf, hlong, Bool.false_eq_true, if_false, if_true,
              reduceCtorEq, Json.text.injEq, false_iff]
            rintro ⟨rfl, -, hshort⟩
            omega
          · simp only [textUpTo, text, sound, hhalf, hlong, Bool.false_eq_true, if_false,
              Except.ok.injEq, Json.text.injEq]
            exact ⟨fun h => h ▸ ⟨rfl, hhalf, by omega⟩, fun h => h.1⟩
  | _ => simp [textUpTo, text]

end Field

namespace TopUpRequest

variable {j : Json} {m : String} {fields : List (String × Json)} {data : TopUpRequest}

/-- The limit counts the characters before trimming. -/
theorem methodRule_eq_ok : methodRule j = .ok m ↔
    ∃ s, Field.textUpTo methodLimit j = .ok s ∧ m = Blank.trimText s ∧ m ≠ "" := by
  constructor
  · intro h
    unfold methodRule at h
    split at h
    · cases h
    · rename_i s hs
      split at h
      · cases h
      · dsimp only at h
        split at h
        · cases h
        · rename_i hblank
          obtain rfl := Except.ok.inj h
          exact ⟨s, hs, rfl, by simpa using hblank⟩
  · rintro ⟨s, hs, rfl, hblank⟩
    have hempty : s ≠ "" := by
      rintro rfl
      exact hblank (by decide)
    simp [methodRule, hs, hblank, hempty]

/-- A blank reference is none. -/
theorem referenceRule_eq_ok {r : Option String} : referenceRule j = .ok r ↔
    (j = .null ∧ r = none) ∨ ∃ s, Field.textUpTo referenceLimit j = .ok s ∧
      r = if Blank.trimText s = "" then none else some (Blank.trimText s) := by
  constructor
  · intro h
    unfold referenceRule at h
    split at h
    · exact Or.inl ⟨rfl, (Except.ok.inj h).symm⟩
    · split at h
      · cases h
      · rename_i s hs
        obtain rfl := Except.ok.inj h
        exact Or.inr ⟨s, hs, by simp⟩
  · rintro (⟨rfl, rfl⟩ | ⟨s, hs, rfl⟩)
    · rfl
    · obtain ⟨rfl, -⟩ := Field.textUpTo_eq_ok.mp hs
      simp [referenceRule, hs]

/-- The method of an accepted request is trimmed and not blank. -/
theorem method_of_ofFields (h : ofFields fields = .ok data) :
    data.method ≠ "" ∧ Blank.trimText data.method = data.method := by
  obtain ⟨f, reference, hf, -, rfl⟩ := Field.both_eq_ok.mp h
  obtain ⟨amount, method, -, hmethod, rfl⟩ := Field.both_eq_ok.mp hf
  obtain ⟨j, -, hrule⟩ := Field.check_eq_ok.mp hmethod
  obtain ⟨s, -, rfl, hblank⟩ := methodRule_eq_ok.mp hrule
  exact ⟨hblank, Blank.trimText_trimText s⟩

end TopUpRequest

namespace Http

/-- Only an object has fields. -/
theorem Data.ofBody_eq_ok {α : Type} {make : List (String × Json) → Except (List Issue) α}
    {body : Body} {a : α} : Data.ofBody make body = .ok a ↔
      ∃ fields, body = .value (.object fields) ∧ make fields = .ok a := by
  constructor
  · intro h
    unfold Data.ofBody at h
    split at h
    · rename_i fields
      cases hmake : make fields with
      | error issues =>
          rw [hmake] at h
          cases h
      | ok a' =>
          rw [hmake] at h
          obtain rfl := Except.ok.inj h
          exact ⟨fields, rfl, hmake⟩
    · cases h
    · cases h
  · rintro ⟨fields, rfl, hmake⟩
    show (make fields).mapError _ = .ok a
    rw [hmake]
    rfl

end Http

end Scrip
