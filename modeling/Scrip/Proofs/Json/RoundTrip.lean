import Mathlib.Data.List.TakeWhile
import Scrip.Json.Reader
import Scrip.Json.Writer
set_option autoImplicit false

/-! # Reading what was written

A value is plain if it holds no floating point number and if no object in it has a key twice. The
text of a plain value has no control character, and reading that text gives the value back. The
reader is followed through the writer part by part: characters, texts, whole numbers, and then
values, elements and fields together, with two units of fuel for every character that is written.
-/

namespace Scrip.Json

/-! ## Plain values -/

mutual

/-- Whether a value holds no floating point number and no key twice in an object. -/
def isPlain : Json → Bool
  | real _ => false
  | list xs => isPlainItems xs
  | object fields => decide (fields.map Prod.fst).Nodup && isPlainFields fields
  | _ => true

def isPlainItems : List Json → Bool
  | [] => true
  | x :: xs => isPlain x && isPlainItems xs

def isPlainFields : List (String × Json) → Bool
  | [] => true
  | (_, v) :: r => isPlain v && isPlainFields r

end

theorem isPlainFields_iff {fields : List (String × Json)} :
    isPlainFields fields = true ↔ ∀ p ∈ fields, isPlain p.2 = true := by
  induction fields with
  | nil => simp [isPlainFields]
  | cons p r ih => simp [isPlainFields, ih]

theorem isPlain_object {fields : List (String × Json)} :
    isPlain (object fields) = true ↔
      (fields.map Prod.fst).Nodup ∧ ∀ p ∈ fields, isPlain p.2 = true := by
  simp [isPlain, isPlainFields_iff]

/-! ## Characters -/

section Characters

variable {opening rest : List Char}

/-- A character that needs no escape stands for itself. -/
theorem readChars_plain {c : Char} (hquote : c ≠ '"') (hslash : c ≠ '\\') (hc : 0x20 ≤ c.toNat) :
    readChars opening (c :: rest) = (readChars opening rest).map fun p => (c :: p.1, p.2) := by
  rw [readChars]
  · rw [if_neg (by omega)]
  all_goals simp [hquote, hslash]

theorem readChars_short {c e : Char} (he : e ≠ 'u') (h : shortEscape? e = some c) :
    readChars opening ('\\' :: e :: rest) =
      (readChars opening rest).map fun p => (c :: p.1, p.2) := by
  rw [readChars]
  · rw [h]
  all_goals simp [he]

/-- An escaped code unit that is no first half of a pair. -/
theorem readChars_unit {a b c d : Char} {u : Nat} (hu : codeUnit? a b c d = some u)
    (hhigh : Half.isHigh u = false) (hrest : rest ≠ []) :
    readChars opening ('\\' :: 'u' :: a :: b :: c :: d :: rest) =
      (readChars opening rest).map fun p => (Half.ofUnit u :: p.1, p.2) := by
  rw [readChars.eq_def]
  simp only [hu]
  split
  · contradiction
  · exact absurd rfl hrest
  · rename_i heq
    obtain rfl := Option.some.inj heq
    rw [if_neg (by simp [hhigh])]
  · rename_i heq
    obtain rfl := Option.some.inj heq
    rfl

/-- The four digits of a control character. -/
theorem hex_control : ∀ n < 0x20, Quoted.hex 4 n =
    ['0', '0', Nat.digitChar (n / 16), Nat.digitChar (n % 16)] ∧
    codeUnit? '0' '0' (Nat.digitChar (n / 16)) (Nat.digitChar (n % 16)) = some n ∧
    Half.isHigh n = false ∧ Half.isHalf n = false := by
  decide

/-- An escaped character is read back as the character, whatever it is. -/
theorem readChars_escape (c : Char) (hrest : rest ≠ []) :
    readChars opening (escape c ++ rest) =
      (readChars opening rest).map fun p => (c :: p.1, p.2) := by
  unfold escape
  split_ifs with hquote hslash hline hreturn htab hback hfeed hcontrol
  · rw [eq_of_beq hquote]; exact readChars_short (by decide) rfl
  · rw [eq_of_beq hslash]; exact readChars_short (by decide) rfl
  · rw [eq_of_beq hline]; exact readChars_short (by decide) rfl
  · rw [eq_of_beq hreturn]; exact readChars_short (by decide) rfl
  · rw [eq_of_beq htab]; exact readChars_short (by decide) rfl
  · rw [eq_of_beq hback]; exact readChars_short (by decide) rfl
  · rw [eq_of_beq hfeed]; exact readChars_short (by decide) rfl
  · obtain ⟨hhex, hunit, hhigh, hhalf⟩ := hex_control c.toNat hcontrol
    have hc : Half.ofUnit c.toNat = c := by
      rw [Half.ofUnit, if_neg (by simp [hhalf]), Char.ofNat_toNat]
    rw [hhex]
    exact (readChars_unit hunit hhigh hrest).trans (by rw [hc])
  · exact readChars_plain (by simpa using hquote) (by simpa using hslash) (by omega)

theorem readChars_written (cs : List Char) :
    readChars opening (cs.flatMap escape ++ '"' :: rest) = .ok (cs, rest) := by
  induction cs with
  | nil => rw [List.flatMap_nil, List.nil_append, readChars]
  | cons c cs ih =>
      rw [List.flatMap_cons, List.append_assoc, readChars_escape c (by simp), ih]
      rfl

/-- A text is read back from its characters after the opening quote. -/
theorem readText_written (s : String) :
    readText (s.toList.flatMap escape ++ '"' :: rest) = .ok (s, rest) := by
  rw [readText, readChars_written]
  simp [Except.map]

end Characters

/-! ## Whole numbers -/

section Numbers

variable {rest : List Char}

/-- What may follow a value: nothing, a comma or a closing bracket. -/
def Follows (rest : List Char) : Prop :=
  ∀ c ∈ rest.head?, c = ',' ∨ c = ']' ∨ c = '\x7d'

theorem Follows.not_digit (h : Follows rest) : ∀ c ∈ rest.head?, c.isDigit = false := by
  intro c hc
  rcases h c hc with rfl | rfl | rfl <;> rfl

theorem Follows.fraction (h : Follows rest) : fraction rest = ([], rest) := by
  unfold Json.fraction
  split
  · simpa using h '.' rfl
  · rfl

theorem Follows.power (h : Follows rest) : power rest = (none, rest) := by
  cases rest with
  | nil => rfl
  | cons c r =>
      have hc : (c == 'e' || c == 'E') = false := by
        rcases h c rfl with rfl | rfl | rfl <;> rfl
      simp [Json.power, hc]

/-- Only zero is written with a zero in front. -/
theorem toDigits_head {n : Nat} {r : List Char} (h : Nat.toDigits 10 n = '0' :: r) : r = [] := by
  induction n using Nat.strongRecOn generalizing r with
  | ind n ih =>
      rcases Nat.lt_or_ge n 10 with hn | hn
      · rw [Nat.toDigits_of_lt_base hn] at h
        exact (List.cons.inj h).2.symm
      · rw [Nat.toDigits_of_base_le (by decide) hn] at h
        cases hd : Nat.toDigits 10 (n / 10) with
        | nil => exact absurd hd (List.ne_nil_of_length_pos Nat.length_toDigits_pos)
        | cons d ds =>
            rw [hd, List.cons_append, List.cons.injEq] at h
            obtain ⟨rfl, -⟩ := h
            -- a leading zero makes the quotient zero, which only one digit has
            have hds := ih (n / 10) (by omega) hd
            subst hds
            have hzero : n / 10 = 0 := by
              rw [← Nat.ofDigitChars_ten_toDigits (n := n / 10), hd]
              rfl
            omega

theorem takeWhile_digits (n : Nat) (h : Follows rest) :
    (Nat.toDigits 10 n ++ rest).takeWhile (·.isDigit) = Nat.toDigits 10 n := by
  have hall : ∀ c ∈ Nat.toDigits 10 n, c.isDigit = true :=
    fun c hc => Nat.isDigit_of_mem_toDigits (by decide) (by decide) hc
  rw [List.takeWhile_append_of_pos hall]
  cases rest with
  | nil => simp
  | cons c r => simp [h.not_digit c rfl]

theorem wholePart_written (n : Nat) (h : Follows rest) :
    wholePart (Nat.toDigits 10 n ++ rest) = Nat.toDigits 10 n := by
  unfold wholePart
  split
  · rename_i r heq
    obtain ⟨hnil, -⟩ | ⟨ds, hds, -⟩ := List.append_eq_cons_iff.mp heq
    · exact absurd hnil (List.ne_nil_of_length_pos Nat.length_toDigits_pos)
    · rw [hds, toDigits_head hds]
  · exact takeWhile_digits n h

theorem readMagnitude_written (negative : Bool) (n : Nat) (h : Follows rest) :
    readMagnitude {} negative (Nat.toDigits 10 n ++ rest) =
      .ok (int (if negative then -(n : Int) else n), rest) := by
  have hne : Nat.toDigits 10 n ≠ [] := List.ne_nil_of_length_pos Nat.length_toDigits_pos
  unfold readMagnitude
  rw [wholePart_written n h]
  simp [hne, h.fraction, h.power, Nat.ofDigitChars_ten_toDigits]

theorem ne_of_isDigit {c d : Char} (hc : c.isDigit = true) (hd : d.isDigit = false) : c ≠ d := by
  rintro rfl
  rw [hc] at hd
  cases hd

/-- Neither digits nor a minus before digits begin a name. -/
theorem names_of_isDigit {c : Char} {r : List Char} (hc : c.isDigit = true) :
    names.find? (fun n => n.1.isPrefixOf (c :: r)) = none ∧
      names.find? (fun n => n.1.isPrefixOf ('-' :: c :: r)) = none := by
  have hne (d : Char) (hd : d.isDigit = false) : d ≠ c := (ne_of_isDigit hc hd).symm
  simp [names, hne]

/-- The digits of a number, with the first apart. -/
theorem exists_toDigits (n : Nat) :
    ∃ c ds, Nat.toDigits 10 n = c :: ds ∧ c.isDigit = true := by
  cases hd : Nat.toDigits 10 n with
  | nil => exact absurd hd (List.ne_nil_of_length_pos Nat.length_toDigits_pos)
  | cons c ds =>
      have hc : c ∈ Nat.toDigits 10 n := by rw [hd]; exact List.mem_cons_self
      exact ⟨c, ds, rfl, Nat.isDigit_of_mem_toDigits (by decide) (by decide) hc⟩

/-- What follows does not continue the number. -/
theorem readAtom_written (n : Int) (h : Follows rest) :
    readAtom {} (writeInt n ++ rest) = .ok (int n, rest) := by
  obtain ⟨c, ds, hds, hc⟩ := exists_toDigits n.natAbs
  obtain ⟨hplus, hminus⟩ := names_of_isDigit (r := ds ++ rest) hc
  unfold writeInt readAtom
  split_ifs with hn
  · have hsigned : -(n.natAbs : Int) = n := by omega
    have hread := readMagnitude_written true n.natAbs h
    rw [if_pos rfl, hsigned, hds, List.cons_append] at hread
    simp only [hds, List.cons_append, hminus, readNumber, hread]
  · have hsigned : (n.natAbs : Int) = n := by omega
    have hread := readMagnitude_written false n.natAbs h
    rw [if_neg Bool.false_ne_true, hsigned, hds, List.cons_append] at hread
    have hsign : c ≠ '-' := ne_of_isDigit hc rfl
    simp only [hds, List.cons_append, hplus]
    rw [readNumber]
    · exact hread
    · simp [hsign]

end Numbers

/-! ## Values -/

section Values

variable {rest : List Char} {fuel : Nat}

theorem put_new {fields : List (String × Json)} {key : String} (value : Json)
    (h : key ∉ fields.map Prod.fst) : put fields key value = fields ++ [(key, value)] := by
  induction fields with
  | nil => rfl
  | cons p r ih =>
      rw [List.map_cons, List.mem_cons, not_or] at h
      have hne : (p.1 == key) = false := by simpa using Ne.symm h.1
      simp [put, hne, ih h.2]

theorem skip_of_not_space {c : Char} {r : List Char} (hc : isSpace c = false) :
    skip (c :: r) = c :: r := by
  simp [skip, hc]

theorem skip_blank {r : List Char} : skip (' ' :: r) = skip r := by
  simp [skip, isSpace]

/-- A written value starts neither with a blank nor with a bracket that closes a list. -/
theorem exists_write {j : Json} (hj : isPlain j = true) :
    ∃ c cs, write j = c :: cs ∧ isSpace c = false ∧ c ≠ ']' := by
  cases j with
  | null => exact ⟨'n', _, rfl, rfl, by decide⟩
  | bool b => cases b <;> exact ⟨_, _, rfl, rfl, by decide⟩
  | int n =>
      obtain ⟨c, ds, hds, hc⟩ := exists_toDigits n.natAbs
      have hne (d : Char) (hd : d.isDigit = false) : c ≠ d := ne_of_isDigit hc hd
      simp only [write, writeInt]
      split_ifs with hn
      · exact ⟨'-', _, rfl, rfl, by decide⟩
      · exact ⟨c, ds, hds, by simp [isSpace, hne], hne ']' rfl⟩
  | real x => cases hj
  | text s => exact ⟨'"', _, rfl, rfl, by decide⟩
  | list xs => cases xs <;> exact ⟨'[', _, rfl, rfl, by decide⟩
  | object fields => cases fields <;> exact ⟨'\x7b', _, rfl, rfl, by decide⟩

theorem length_write_pos {j : Json} (hj : isPlain j = true) : 0 < (write j).length := by
  obtain ⟨c, cs, hcs, -⟩ := exists_write hj
  simp [hcs]

theorem skip_write {j : Json} (hj : isPlain j = true) (r : List Char) :
    skip (write j ++ r) = write j ++ r := by
  obtain ⟨c, cs, hcs, hc, -⟩ := exists_write hj
  rw [hcs, List.cons_append, skip_of_not_space hc]

theorem readValue_atom {c : Char} {r : List Char} (hquote : c ≠ '"') (hlist : c ≠ '[')
    (hobject : c ≠ '\x7b') : readValue (fuel + 1) {} (c :: r) = readAtom {} (c :: r) := by
  rw [readValue]
  all_goals simp [hquote, hlist, hobject]

theorem readValue_int (n : Int) (h : Follows rest) :
    readValue (fuel + 1) {} (writeInt n ++ rest) = .ok (int n, rest) := by
  rw [← readAtom_written n h]
  obtain ⟨c, ds, hds, hc⟩ := exists_toDigits n.natAbs
  unfold writeInt
  split_ifs with hn
  · exact readValue_atom (by decide) (by decide) (by decide)
  · rw [hds]
    exact readValue_atom (ne_of_isDigit hc rfl) (ne_of_isDigit hc rfl) (ne_of_isDigit hc rfl)

theorem readValue_list {r : List Char} (h : (skip r).head? ≠ some ']') :
    readValue (fuel + 1) {} ('[' :: r) =
      (readItems fuel {} (skip r)).map fun p => (list p.1, p.2) := by
  simp only [readValue, Limits.inside]
  split
  · rename_i r' heq
    simp [heq] at h
  · rfl

theorem readValue_object {r : List Char} (h : (skip r).head? ≠ some '\x7d') :
    readValue (fuel + 1) {} ('\x7b' :: r) =
      (readFields fuel {} [] (skip r)).map fun p => (object p.1, p.2) := by
  simp only [readValue, Limits.inside]
  split
  · rename_i r' heq
    simp [heq] at h
  · rfl

theorem follows_writeItems (xs : List Json) (rest : List Char) :
    Follows (writeItems xs ++ rest) := by
  cases xs <;> simp [Follows, writeItems]

theorem follows_writeFields (fields : List (String × Json)) (rest : List Char) :
    Follows (writeFields fields ++ rest) := by
  rcases fields with _ | ⟨⟨k, v⟩, r⟩ <;> simp [Follows, writeFields]

theorem length_writeFields_pos (fields : List (String × Json)) :
    0 < (writeFields fields).length := by
  rcases fields with _ | ⟨⟨k, v⟩, r⟩ <;> simp [writeFields]

theorem writeText_append (s : String) (r : List Char) :
    writeText s ++ r = '"' :: (s.toList.flatMap escape ++ '"' :: r) := by
  simp [writeText]

/-! The three readers are followed together, by induction on the fuel that they share. Two units of
it for each character of the part that is read are enough, whatever follows the part. -/

mutual

/-- A written value is read back, whatever may follow it. -/
theorem readValue_written : ∀ (fuel : Nat) (j : Json) (rest : List Char), isPlain j = true →
    2 * (write j).length ≤ fuel → Follows rest →
    readValue fuel {} (write j ++ rest) = .ok (j, rest)
  | 0, j, _, hj, hfuel, _ => by
    have hpos := length_write_pos hj
    omega
  | _ + 1, null, _, _, _, _ => by
    rfl
  | _ + 1, bool b, _, _, _, _ => by
    cases b <;> simp [write, readValue, readAtom, names]
  | _ + 1, int n, _, _, _, h => readValue_int n h
  | _ + 1, real _, _, hj, _, _ => by
    cases hj
  | _ + 1, text s, _, _, _, _ => by
    rw [write, writeText_append, readValue, readText_written]
    rfl
  | _ + 1, list [], _, _, _, _ => by
    rfl
  | fuel + 1, list (x :: xs), rest, hj, hfuel, _ => by
    rw [isPlain, isPlainItems, Bool.and_eq_true] at hj
    simp only [write, List.length_cons, List.length_append] at hfuel
    have hread := readItems_written fuel x xs rest hj.1 hj.2 (by omega)
    have hskip := skip_write hj.1 (writeItems xs ++ rest)
    -- the first element is not taken for the end of an empty list
    have hhead : (write x ++ (writeItems xs ++ rest)).head? ≠ some ']' := by
      obtain ⟨c, cs, hcs, -, hc⟩ := exists_write hj.1
      simpa [hcs] using hc
    rw [write, List.cons_append, List.append_assoc, readValue_list (by rwa [hskip]), hskip, hread]
    rfl
  | _ + 1, object [], _, _, _, _ => by
    rfl
  | fuel + 1, object ((k, v) :: r), rest, hj, hfuel, _ => by
    obtain ⟨hkeys, hvalues⟩ := isPlain_object.mp hj
    simp only [write, List.length_cons, List.length_append] at hfuel
    have hread := readFields_written fuel [] k v r rest hkeys hvalues (by omega)
    rw [writeText_append] at hread
    rw [write, List.cons_append, List.append_assoc, List.cons_append, List.cons_append,
      List.append_assoc, writeText_append, readValue_object (by simp [skip, isSpace]),
      skip_of_not_space (by decide), hread]
    rfl

/-- The written elements of a list are read back. -/
theorem readItems_written : ∀ (fuel : Nat) (x : Json) (xs : List Json) (rest : List Char),
    isPlain x = true → isPlainItems xs = true →
    2 * ((write x).length + (writeItems xs).length) ≤ fuel →
    readItems fuel {} (write x ++ (writeItems xs ++ rest)) = .ok (x :: xs, rest)
  | 0, x, _, _, hx, _, hfuel => by
    have hpos := length_write_pos hx
    omega
  | fuel + 1, x, [], rest, hx, _, hfuel => by
    simp only [writeItems, List.length_singleton] at hfuel
    have hread := readValue_written fuel x (']' :: rest) hx (by omega) (by simp [Follows])
    rw [writeItems, List.singleton_append, readItems, hread]
    rfl
  | fuel + 1, x, y :: ys, rest, hx, hxs, hfuel => by
    rw [isPlainItems, Bool.and_eq_true] at hxs
    simp only [writeItems, List.length_cons, List.length_append] at hfuel
    have hread := readValue_written fuel x (writeItems (y :: ys) ++ rest) hx (by omega)
      (follows_writeItems _ rest)
    have hitems := readItems_written fuel y ys rest hxs.1 hxs.2 (by omega)
    rw [readItems, hread]
    simp only [writeItems, List.cons_append, List.append_assoc,
      skip_of_not_space (c := ',') rfl, skip_blank, skip_write hxs.1, hitems]
    rfl

/-- The written fields of an object are read back, after those that are already there. -/
theorem readFields_written : ∀ (fuel : Nat) (before : List (String × Json)) (k : String)
    (v : Json) (r : List (String × Json)) (rest : List Char),
    ((before ++ (k, v) :: r).map Prod.fst).Nodup → (∀ p ∈ (k, v) :: r, isPlain p.2 = true) →
    2 * ((write v).length + (writeFields r).length) ≤ fuel →
    readFields fuel {} before
        (writeText k ++ ':' :: ' ' :: (write v ++ (writeFields r ++ rest))) =
      .ok (before ++ (k, v) :: r, rest)
  | 0, _, _, v, _, _, _, hplain, hfuel => by
    have hpos : 0 < (write v).length := length_write_pos (hplain _ List.mem_cons_self)
    omega
  | fuel + 1, before, k, v, r, rest, hkeys, hplain, hfuel => by
    rw [List.forall_mem_cons] at hplain
    obtain ⟨hv, hplain⟩ := hplain
    have hpos := length_writeFields_pos r
    have hread := readValue_written fuel v (writeFields r ++ rest) hv (by omega)
      (follows_writeFields r rest)
    -- keys are distinct, so the reader puts the field behind those before it
    have hput : put before k v = before ++ [(k, v)] := put_new v (by
      rw [List.map_append] at hkeys
      exact fun hk => (List.nodup_append.mp hkeys).2.2 k hk k (by simp) rfl)
    simp only [writeText_append, readFields, readText_written, skip_of_not_space (c := ':') rfl,
      skip_blank, skip_write hv, hread, hput]
    rcases r with _ | ⟨⟨k', v'⟩, r⟩
    · rfl
    · simp only [writeFields, List.length_cons, List.length_append] at hfuel
      have hfields := readFields_written fuel (before ++ [(k, v)]) k' v' r rest
        (by simpa using hkeys) hplain (by omega)
      rw [writeText_append, List.append_assoc] at hfields
      simp only [writeFields, List.cons_append, List.append_assoc, writeText_append,
        skip_of_not_space (c := ',') rfl, skip_blank, skip_of_not_space (c := '"') rfl, hfields,
        List.nil_append]

end

end Values

/-! ## Whole lines -/

/-- Reading what was written gives the value back. -/
theorem read_render {j : Json} (hj : isPlain j = true) : read (render j) = .ok j := by
  have hfuel : 2 * (write j).length ≤ fuelFor (write j).length := by
    unfold fuelFor
    omega
  have hvalue := readValue_written _ j [] hj hfuel (by simp [Follows])
  have hskip := skip_write hj []
  rw [List.append_nil] at hvalue hskip
  have hall : readAll {} (write j) = .ok j := by
    rw [readAll, hskip, hvalue]
    rfl
  rw [read, readWithin, render, String.toList_ofList, hall]

/-- Different values are written differently. -/
theorem render_injective {i j : Json} (hi : isPlain i = true) (hj : isPlain j = true)
    (h : render i = render j) : i = j := by
  have hread := read_render hi
  rw [h, read_render hj] at hread
  exact (Except.ok.inj hread).symm

/-- A text without control characters. -/
def IsControlFree (cs : List Char) : Prop := ∀ c ∈ cs, 0x20 ≤ c.toNat

instance (cs : List Char) : Decidable (IsControlFree cs) :=
  List.decidableBAll (fun c : Char => 0x20 ≤ c.toNat) cs

theorem controlFree_cons {c : Char} {cs : List Char} :
    IsControlFree (c :: cs) ↔ 0x20 ≤ c.toNat ∧ IsControlFree cs := List.forall_mem_cons

theorem controlFree_append {cs ds : List Char} :
    IsControlFree (cs ++ ds) ↔ IsControlFree cs ∧ IsControlFree ds := List.forall_mem_append

theorem controlFree_hex : ∀ n < 0x20, IsControlFree (Quoted.hex 4 n) := by
  decide

theorem controlFree_escape (c : Char) : IsControlFree (escape c) := by
  unfold escape
  split_ifs with _ _ _ _ _ _ _ hcontrol
  -- the short escapes are fixed texts
  any_goals decide
  · simp only [controlFree_cons]
    exact ⟨by decide, by decide, controlFree_hex _ hcontrol⟩
  · exact controlFree_cons.mpr ⟨by omega, by decide⟩

theorem controlFree_writeText (s : String) : IsControlFree (writeText s) := by
  rw [writeText, controlFree_cons, controlFree_append]
  refine ⟨by decide, fun c hc => ?_, by decide⟩
  obtain ⟨d, -, hd⟩ := List.mem_flatMap.mp hc
  exact controlFree_escape d c hd

theorem controlFree_writeInt (n : Int) : IsControlFree (writeInt n) := by
  have hdigits : IsControlFree (Nat.toDigits 10 n.natAbs) := by
    intro c hc
    have hdigit := Nat.isDigit_of_mem_toDigits (by decide) (by decide) hc
    simp only [Char.isDigit, Bool.and_eq_true, decide_eq_true_eq] at hdigit
    exact le_trans (by decide) (UInt32.le_iff_toNat_le.mp hdigit.1)
  unfold writeInt
  split_ifs
  · exact controlFree_cons.mpr ⟨by decide, hdigits⟩
  · exact hdigits

mutual

/-- A written value has no control character. -/
theorem controlFree_write : ∀ j : Json, isPlain j = true → IsControlFree (write j)
  | null, _ => by decide
  | bool b, _ => by cases b <;> decide
  | int n, _ => controlFree_writeInt n
  | real _, hj => by cases hj
  | text s, _ => controlFree_writeText s
  | list [], _ => by decide
  | list (x :: xs), hj => by
    rw [isPlain, isPlainItems, Bool.and_eq_true] at hj
    rw [write, controlFree_cons, controlFree_append]
    exact ⟨by decide, controlFree_write x hj.1, controlFree_writeItems xs hj.2⟩
  | object [], _ => by decide
  | object ((k, v) :: r), hj => by
    rw [isPlain, isPlainFields, Bool.and_eq_true, Bool.and_eq_true] at hj
    simp only [write, controlFree_cons, controlFree_append]
    exact ⟨by decide, controlFree_writeText k, by decide, by decide, controlFree_write v hj.2.1,
      controlFree_writeFields r hj.2.2⟩

theorem controlFree_writeItems : ∀ xs : List Json, isPlainItems xs = true →
    IsControlFree (writeItems xs)
  | [], _ => by decide
  | x :: xs, hxs => by
    rw [isPlainItems, Bool.and_eq_true] at hxs
    simp only [writeItems, controlFree_cons, controlFree_append]
    exact ⟨by decide, by decide, controlFree_write x hxs.1, controlFree_writeItems xs hxs.2⟩

theorem controlFree_writeFields : ∀ r : List (String × Json), isPlainFields r = true →
    IsControlFree (writeFields r)
  | [], _ => by decide
  | (k, v) :: r, hr => by
    rw [isPlainFields, Bool.and_eq_true] at hr
    simp only [writeFields, controlFree_cons, controlFree_append]
    exact ⟨by decide, by decide, controlFree_writeText k, by decide, by decide,
      controlFree_write v hr.1, controlFree_writeFields r hr.2⟩

end

end Scrip.Json
