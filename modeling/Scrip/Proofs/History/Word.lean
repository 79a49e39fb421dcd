import Scrip.History.Word
set_option autoImplicit false

/-! # Words of the log

Reading the written form of a kind or a state gives it back, and nothing else is read as one.
-/

namespace Scrip

namespace Kind

@[simp] theorem text_inj {k k' : Kind} : k.text = k'.text ↔ k = k' := by
  cases k <;> cases k' <;> decide

theorem ofText?_eq_some {word : String} {k : Kind} : ofText? word = some k ↔ word = k.text := by
  constructor
  · intro h
    unfold ofText? at h
    split at h
    · obtain rfl := Option.some.inj h
      assumption
    · split at h
      · obtain rfl := Option.some.inj h
        assumption
      · cases h
  · rintro rfl
    cases k <;> rfl

theorem read_eq_ok {word : String} {k : Kind} : Kind.read word = .ok k ↔ word = k.text :=
  Failure.readWord_eq_ok.trans ofText?_eq_some

@[simp] theorem read_text (k : Kind) : Kind.read k.text = .ok k := read_eq_ok.mpr rfl

end Kind

namespace Status

@[simp] theorem text_inj {s s' : Status} : s.text = s'.text ↔ s = s' := by
  cases s <;> cases s' <;> decide

theorem ofText?_eq_some {word : String} {s : Status} :
    ofText? word = some s ↔ word = s.text := by
  constructor
  · intro h
    unfold ofText? at h
    split at h
    · obtain rfl := Option.some.inj h
      assumption
    · split at h
      · obtain rfl := Option.some.inj h
        assumption
      · split at h
        · obtain rfl := Option.some.inj h
          assumption
        · cases h
  · rintro rfl
    cases s <;> rfl

theorem read_eq_ok {word : String} {s : Status} : Status.read word = .ok s ↔ word = s.text :=
  Failure.readWord_eq_ok.trans ofText?_eq_some

@[simp] theorem read_text (s : Status) : Status.read s.text = .ok s := read_eq_ok.mpr rfl

/-- The one move that is not refused is the settlement of a pending top-up. -/
theorem requireMove_eq_ok {id : Int} {kind : Kind} {current new : Status}
    (h : requireMove id kind current new = .ok ()) :
    kind = .topup ∧ current = .pending ∧ new ≠ .pending := by
  unfold requireMove mayMove at h
  split at h
  · rename_i hm
    simpa [and_assoc] using hm
  · cases h

end Status

end Scrip
