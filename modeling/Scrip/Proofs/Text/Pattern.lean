import Mathlib.Data.List.TakeWhile
set_option autoImplicit false

/-! # Patterns

A pattern is a row of pieces. Each takes one character of a kind, or a run of such characters that
is as long as the pieces after it allow, and the pattern must take a text from its start to its end.
`Pattern.capture` searches as a backtracking matcher does: a run starts with its greatest length and
gives characters back one at a time. `Pattern.Matches` says that a text can be divided among the
pieces at all, and the search finds a way exactly if there is one.
-/

namespace Scrip.Pattern

/-- A piece of a pattern: one character of a kind, or a run of at least some of them. A pattern
captures what its kept runs take. -/
inductive Piece where
  | one (kind : Char → Bool)
  | run (kind : Char → Bool) (least : Nat) (kept : Bool)

def atEnd (cs : List Char) : Bool := cs == [] || cs == ['\n']

/-- The lengths that a run can have at the start of a text, the greatest first. -/
def lengths (kind : Char → Bool) (least : Nat) (cs : List Char) : List Nat :=
  ((List.range ((cs.takeWhile kind).length + 1)).filter (least ≤ ·)).reverse

/-- What a run adds to what is captured after it. -/
def keep (kept : Bool) (taken captured : List Char) : List Char :=
  if kept then taken ++ captured else captured

/-- What a pattern captures of a text, by the first way to match that the search comes to. -/
def capture : List Piece → List Char → Option (List Char)
  | [], cs => if atEnd cs then some [] else none
  | .one _ :: _, [] => none
  | .one kind :: ps, c :: cs => if kind c then capture ps cs else none
  | .run kind least kept :: ps, cs =>
      (lengths kind least cs).findSome? fun n =>
        (capture ps (cs.drop n)).map (keep kept (cs.take n))

/-- A text can be divided among the pieces of a pattern, and then something is captured. -/
inductive Matches : List Piece → List Char → List Char → Prop
  | nothing {cs : List Char} (h : atEnd cs = true) : Matches [] cs []
  | one {kind : Char → Bool} {c : Char} {ps : List Piece} {cs captured : List Char}
      (hc : kind c = true) (h : Matches ps cs captured) :
      Matches (.one kind :: ps) (c :: cs) captured
  | run {kind : Char → Bool} {least : Nat} {kept : Bool} {ps : List Piece}
      {taken cs captured : List Char} (htaken : ∀ c ∈ taken, kind c = true)
      (hleast : least ≤ taken.length) (h : Matches ps cs captured) :
      Matches (.run kind least kept :: ps) (taken ++ cs) (keep kept taken captured)

variable {kind : Char → Bool} {least n : Nat} {ps : List Piece} {cs captured : List Char}

theorem matches_nil : Matches [] cs captured ↔ atEnd cs = true ∧ captured = [] := by
  constructor
  · rintro ⟨hend⟩
    exact ⟨hend, rfl⟩
  · rintro ⟨hend, rfl⟩
    exact .nothing hend

theorem matches_run {kept : Bool} : Matches (.run kind least kept :: ps) cs captured ↔
    ∃ taken rest after, cs = taken ++ rest ∧ (∀ c ∈ taken, kind c = true) ∧
      least ≤ taken.length ∧ captured = keep kept taken after ∧ Matches ps rest after := by
  constructor
  · rintro (_ | _ | ⟨htaken, hleast, h⟩)
    exact ⟨_, _, _, rfl, htaken, hleast, rfl, h⟩
  · rintro ⟨taken, rest, after, rfl, htaken, hleast, rfl, h⟩
    exact .run htaken hleast h

/-! ## The search -/

theorem mem_lengths : n ∈ lengths kind least cs ↔ least ≤ n ∧ n ≤ (cs.takeWhile kind).length := by
  simp only [lengths, List.mem_reverse, List.mem_filter, List.mem_range, decide_eq_true_eq]
  omega

/-- What a run takes are characters of its kind. -/
theorem take_of_mem_lengths (h : n ∈ lengths kind least cs) :
    (∀ c ∈ cs.take n, kind c = true) ∧ least ≤ (cs.take n).length := by
  obtain ⟨hleast, hmost⟩ := mem_lengths.mp h
  have htake : cs.take n = (cs.takeWhile kind).take n := by
    calc cs.take n = (cs.takeWhile kind ++ cs.dropWhile kind).take n := by
          rw [List.takeWhile_append_dropWhile]
      _ = (cs.takeWhile kind).take n := List.take_append_of_le_length hmost
  refine ⟨fun c hc => ?_, ?_⟩
  · rw [htake] at hc
    exact List.mem_takeWhile_imp (List.mem_of_mem_take hc)
  · rw [htake, List.length_take]
    omega

/-- Characters of the kind are no more than the run could take. -/
theorem length_mem_lengths {taken : List Char} (htaken : ∀ c ∈ taken, kind c = true)
    (hleast : least ≤ taken.length) : taken.length ∈ lengths kind least (taken ++ cs) := by
  refine mem_lengths.mpr ⟨hleast, ?_⟩
  rw [List.takeWhile_append_of_pos htaken, List.length_append]
  omega

/-- What the search captures comes from a way to divide the text. -/
theorem matches_of_capture (h : capture ps cs = some captured) : Matches ps cs captured := by
  induction ps generalizing cs captured with
  | nil =>
      simp only [capture, Option.ite_none_right_eq_some, Option.some.injEq] at h
      obtain ⟨hend, rfl⟩ := h
      exact .nothing hend
  | cons p ps ih =>
      cases p with
      | one kind =>
          cases cs with
          | nil => cases h
          | cons c cs =>
              simp only [capture, Option.ite_none_right_eq_some] at h
              exact .one h.1 (ih h.2)
      | run kind least kept =>
          obtain ⟨n, hn, hrest⟩ := List.exists_of_findSome?_eq_some h
          obtain ⟨rest, hcapture, rfl⟩ := Option.map_eq_some_iff.mp hrest
          obtain ⟨htaken, hleast⟩ := take_of_mem_lengths hn
          have hmatches : Matches (.run kind least kept :: ps) (cs.take n ++ cs.drop n)
              (keep kept (cs.take n) rest) := .run htaken hleast (ih hcapture)
          rwa [List.take_append_drop] at hmatches

/-- If there is a way to divide the text then the search finds one, if not the same. -/
theorem Matches.exists_capture (h : Matches ps cs captured) :
    ∃ found, capture ps cs = some found := by
  induction h with
  | nothing hend => exact ⟨[], if_pos hend⟩
  | one hc _ ih =>
      obtain ⟨found, hfound⟩ := ih
      exact ⟨found, (if_pos hc).trans hfound⟩
  | @run kind least kept ps taken cs captured htaken hleast _ ih =>
      obtain ⟨found, hfound⟩ := ih
      rw [← Option.isSome_iff_exists]
      refine List.findSome?_isSome_iff.mpr ⟨_, length_mem_lengths htaken hleast, ?_⟩
      rw [List.drop_left, hfound]
      rfl

end Scrip.Pattern
