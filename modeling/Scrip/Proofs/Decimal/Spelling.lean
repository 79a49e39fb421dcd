import Scrip.Decimal.Amount
import Scrip.Proofs.Decimal.Value
import Scrip.Proofs.Text.Blank
set_option autoImplicit false

/-! # Spelled numbers

A text that is read as a number spells it: an optional sign, digits with an optional point, and an
optional power of ten, with blanks around and underscores anywhere. The value of such a spelling is
defined by its parts, and reading is shown to take all spellings within the bounds, and only those,
to numbers of the same value.
-/

namespace Scrip

namespace Amount

/-! ## The parts of a spelling -/

def signChars : Option Bool → List Char
  | none => []
  | some true => ['-']
  | some false => ['+']

def natural (cs : List Char) : Nat := Nat.ofDigitChars 10 cs 0

/-- A written power of ten: a letter, an optional sign and digits. -/
structure Power where
  letter : Char
  sign : Option Bool
  digits : List Char
  letter_eq : letter = 'e' ∨ letter = 'E'
  digits_ne : digits ≠ []
  digits_all : ∀ c ∈ digits, c.isDigit = true

namespace Power

def chars (p : Power) : List Char := p.letter :: (signChars p.sign ++ p.digits)

def value (p : Power) : Int := if p.sign = some true then -natural p.digits else natural p.digits

end Power

/-- A written number without its sign: digits, perhaps a point and digits after it, and perhaps a
power of ten. There is at least one digit before or after the point. -/
structure Numeral where
  whole : List Char
  fraction : Option (List Char)
  power : Option Power
  whole_all : ∀ c ∈ whole, c.isDigit = true
  fraction_all : ∀ c ∈ fraction.getD [], c.isDigit = true
  digits_ne : whole ++ fraction.getD [] ≠ []

namespace Numeral

def decimals (n : Numeral) : List Char := n.fraction.getD []

/-- The digits before the point, the point and the digits after it, and the power of ten. -/
def chars (n : Numeral) : List Char :=
  n.whole ++ (n.fraction.elim [] ('.' :: ·) ++ n.power.elim [] Power.chars)

def exponent (n : Numeral) : Int := n.power.elim 0 Power.value

/-- The digits before the point, those after it as a fraction, and the power of ten. -/
def value (n : Numeral) : ℚ :=
  (natural n.whole + natural n.decimals / 10 ^ n.decimals.length) * 10 ^ n.exponent

/-- The number as it is read. -/
def decimal (n : Numeral) (negative : Bool) : Decimal :=
  ⟨negative, natural (n.whole ++ n.decimals), n.exponent - n.decimals.length⟩

theorem value_decimal (n : Numeral) (negative : Bool) :
    (n.decimal negative).value = if negative then -n.value else n.value := by
  have hnatural : natural (n.whole ++ n.decimals) =
      10 ^ n.decimals.length * natural n.whole + natural n.decimals := by
    rw [natural, Nat.ofDigitChars_append, Nat.ofDigitChars_eq_ofDigitChars_zero]
    rfl
  have habs : (natural (n.whole ++ n.decimals) : ℚ) * 10 ^ (n.exponent - n.decimals.length) =
      n.value := by
    rw [hnatural, value, zpow_sub₀ (by norm_num), zpow_natCast]
    push_cast
    field_simp
  cases negative with
  | false => exact (Decimal.value_of_nonneg rfl).trans habs
  | true =>
      rw [if_pos rfl, ← habs]
      simp [Decimal.value, Decimal.signed, decimal]

end Numeral

/-! ## Reading numbers -/

theorem digits?_eq_some {cs : List Char} {n : Nat} :
    exponent?.digits? cs = some n ↔
      cs ≠ [] ∧ (∀ c ∈ cs, c.isDigit = true) ∧ natural cs = n := by
  unfold exponent?.digits? natural
  split
  · rename_i h
    simp only [reduceCtorEq, false_iff]
    rintro ⟨hne, hall, -⟩
    simp [hne, List.all_eq_true.mpr hall] at h
  · rename_i h
    simp only [Bool.or_eq_true, List.isEmpty_iff, Bool.not_eq_true', not_or,
      Bool.not_eq_false, List.all_eq_true] at h
    exact ⟨fun hn => ⟨h.1, h.2, Option.some.inj hn⟩, fun hn => congrArg some hn.2.2⟩

/-- Digits are read as a power of ten, for a digit is no sign. -/
theorem exponent?_of_digits {cs : List Char} (hne : cs ≠ []) (hall : ∀ c ∈ cs, c.isDigit = true) :
    exponent? cs = some (natural cs : Int) := by
  have hdigits : exponent?.digits? cs = some (natural cs) := digits?_eq_some.mpr ⟨hne, hall, rfl⟩
  unfold exponent?
  split
  · exact absurd (hall '-' List.mem_cons_self) (by decide)
  · exact absurd (hall '+' List.mem_cons_self) (by decide)
  · rw [hdigits]
    rfl

/-- A written power of ten is read, and nothing else is. -/
theorem exponent?_eq_some {letter : Char} (hletter : letter = 'e' ∨ letter = 'E')
    {cs : List Char} {e : Int} :
    exponent? cs = some e ↔ ∃ p : Power, p.chars = letter :: cs ∧ p.value = e := by
  constructor
  · have hread : ∀ (sign : Option Bool) (ds : List Char) (f : Int → Int),
        (∀ n : Nat, f n = if sign = some true then -(n : Int) else n) →
        ((exponent?.digits? ds).bind fun n => some (n : Int)).map f = some e →
          ∃ p : Power, p.chars = letter :: (signChars sign ++ ds) ∧ p.value = e := by
      intro sign ds f hf h
      obtain ⟨_, hbind, rfl⟩ := Option.map_eq_some_iff.mp h
      obtain ⟨n, hn, hcast⟩ := Option.bind_eq_some_iff.mp hbind
      obtain rfl := Option.some.inj hcast
      obtain ⟨hne, hall, rfl⟩ := digits?_eq_some.mp hn
      exact ⟨⟨letter, sign, ds, hletter, hne, hall⟩, rfl, (hf _).symm⟩
    intro h
    unfold exponent? at h
    split at h
    · exact hread (some true) _ _ (fun _ => rfl) h
    · exact hread (some false) _ _ (fun _ => rfl) h
    · exact hread none _ _ (fun _ => rfl) h
  · rintro ⟨⟨_, sign, digits, _, hne, hall⟩, hchars, rfl⟩
    obtain ⟨-, rfl⟩ := List.cons.inj hchars
    have hdigits : exponent?.digits? digits = some (natural digits) :=
      digits?_eq_some.mpr ⟨hne, hall, rfl⟩
    match sign with
    | none => exact exponent?_of_digits hne hall
    | some true =>
        show ((exponent?.digits? digits).bind fun n => some (n : Int)).map _ = _
        rw [hdigits]
        rfl
    | some false =>
        show ((exponent?.digits? digits).bind fun n => some (n : Int)).map _ = _
        rw [hdigits]
        rfl

/-- How the digits at the start are told from the rest. -/
theorem digits_append {ds rest : List Char} (hds : ∀ c ∈ ds, c.isDigit = true)
    (hrest : ∀ c, rest.head? = some c → c.isDigit = false) :
    (ds ++ rest).takeWhile (·.isDigit) = ds ∧ (ds ++ rest).drop ds.length = rest := by
  have hnone : rest.takeWhile (·.isDigit) = [] := by
    cases rest with
    | nil => rfl
    | cons c cs => simp [hrest c rfl]
  exact ⟨by rw [List.takeWhile_append_of_pos hds, hnone, List.append_nil], List.drop_left⟩

theorem drop_takeWhile (cs : List Char) :
    cs.drop (cs.takeWhile (·.isDigit)).length = cs.dropWhile (·.isDigit) := by
  have hdrop : (cs.takeWhile (·.isDigit) ++ cs.dropWhile (·.isDigit)).drop
      (cs.takeWhile (·.isDigit)).length = cs.dropWhile (·.isDigit) := List.drop_left
  rwa [List.takeWhile_append_dropWhile] at hdrop

/-- What follows the digits of a number is a power of ten, or nothing. -/
theorem power_eq_some {rest : List Char} {f : Int → Option Decimal} {d : Decimal} :
    (match rest with
      | [] => f 0
      | c :: r => if c == 'e' || c == 'E' then (exponent? r).bind f else none) = some d ↔
    ∃ power : Option Power, power.elim [] Power.chars = rest ∧
      f (power.elim 0 Power.value) = some d := by
  match rest with
  | [] =>
      refine ⟨fun h => ⟨none, rfl, h⟩, ?_⟩
      rintro ⟨_ | p, hchars, h⟩
      · exact h
      · cases hchars
  | c :: r =>
      dsimp only
      split
      · rename_i hc
        have hletter : c = 'e' ∨ c = 'E' := by simpa using hc
        rw [Option.bind_eq_some_iff]
        constructor
        · rintro ⟨e, he, h⟩
          obtain ⟨p, hchars, rfl⟩ := (exponent?_eq_some hletter).mp he
          exact ⟨some p, hchars, h⟩
        · rintro ⟨_ | p, hchars, h⟩
          · cases hchars
          · exact ⟨p.value, (exponent?_eq_some hletter).mpr ⟨p, hchars, rfl⟩, h⟩
      · rename_i hc
        refine ⟨fun h => (by cases h), ?_⟩
        rintro ⟨_ | p, hchars, -⟩
        · cases hchars
        · obtain ⟨rfl, -⟩ := List.cons.inj hchars
          exact absurd p.letter_eq (by simpa using hc)

def afterPoint : List Char → Option (List Char) × List Char
  | '.' :: r => (some (r.takeWhile (·.isDigit)), r.dropWhile (·.isDigit))
  | r => (none, r)

theorem afterPoint_of_ne {c : Char} (hc : c ≠ '.') (r : List Char) :
    afterPoint (c :: r) = (none, c :: r) := by
  unfold afterPoint
  split
  · rename_i heq
    exact absurd (List.cons.inj heq).1 hc
  · rfl

/-- The number that digits before and after a point make with a power of ten. -/
def combine (negative : Bool) (whole : List Char) (fraction : Option (List Char)) (e : Int) :
    Option Decimal :=
  if whole.isEmpty && (fraction.getD []).isEmpty then none
  else some ⟨negative, natural (whole ++ fraction.getD []), e - (fraction.getD []).length⟩

/-- Reading a number, by its parts. -/
theorem number?_append (negative : Bool) {whole rest : List Char}
    (hwhole : ∀ c ∈ whole, c.isDigit = true)
    (hrest : ∀ c, rest.head? = some c → c.isDigit = false) :
    number? negative (whole ++ rest) = match (afterPoint rest).2 with
      | [] => combine negative whole (afterPoint rest).1 0
      | c :: r => if c == 'e' || c == 'E' then
          (exponent? r).bind (combine negative whole (afterPoint rest).1) else none := by
  obtain ⟨htake, hdrop⟩ := digits_append hwhole hrest
  unfold number?
  dsimp only
  rw [htake, hdrop]
  match rest with
  | [] => rfl
  | c :: r =>
      by_cases hc : c = '.'
      · subst hc
        have hafter : afterPoint ('.' :: r) =
            (some (r.takeWhile (·.isDigit)), r.drop (r.takeWhile (·.isDigit)).length) := by
          rw [drop_takeWhile]
          rfl
        rw [hafter]
        rfl
      · rw [afterPoint_of_ne hc]
        have hcombine : combine negative whole none = fun e =>
            if whole = [] then none else some ⟨negative, natural whole, e⟩ := by
          funext e
          simp [combine]
        simp [hc, hcombine, natural]

theorem combine_eq_some {negative : Bool} {whole : List Char} {fraction : Option (List Char)}
    {e : Int} {d : Decimal} :
    combine negative whole fraction e = some d ↔ whole ++ fraction.getD [] ≠ [] ∧
      ⟨negative, natural (whole ++ fraction.getD []), e - (fraction.getD []).length⟩ = d := by
  unfold combine
  split
  · rename_i h
    simp only [Bool.and_eq_true, List.isEmpty_iff] at h
    simp [h.1, h.2]
  · rename_i h
    simp only [Bool.and_eq_true, List.isEmpty_iff] at h
    rw [Option.some_inj, Ne, List.append_eq_nil_iff]
    exact ⟨fun hd => ⟨h, hd⟩, fun hd => hd.2⟩

theorem afterPoint_spec (rest : List Char) :
    (afterPoint rest).1.elim [] ('.' :: ·) ++ (afterPoint rest).2 = rest ∧
      ∀ c ∈ (afterPoint rest).1.getD [], c.isDigit = true := by
  unfold afterPoint
  split
  · rename_i r
    exact ⟨congrArg ('.' :: ·) List.takeWhile_append_dropWhile,
      fun c hc => List.mem_takeWhile_imp hc⟩
  · exact ⟨rfl, fun c hc => (by cases hc)⟩

/-- The first character of a power of ten ends the digits, and is no point. -/
theorem power_head (power : Option Power) {c : Char}
    (h : (power.elim [] Power.chars).head? = some c) : c.isDigit = false ∧ c ≠ '.' := by
  cases power with
  | none => cases h
  | some p =>
      obtain rfl : p.letter = c := Option.some.inj h
      rcases p.letter_eq with hp | hp <;> rw [hp] <;> decide

theorem Numeral.afterPoint_chars (n : Numeral) :
    afterPoint (n.fraction.elim [] ('.' :: ·) ++ n.power.elim [] Power.chars) =
      (n.fraction, n.power.elim [] Power.chars) := by
  cases hfraction : n.fraction with
  | none =>
      show afterPoint (n.power.elim [] Power.chars) = _
      match hpower : n.power.elim [] Power.chars with
      | [] => rfl
      | c :: r =>
          have hc : c ≠ '.' := (power_head n.power (by rw [hpower]; rfl)).2
          rw [afterPoint_of_ne hc]
  | some f =>
      have hf : ∀ c ∈ f, c.isDigit = true := fun c hc => n.fraction_all c (by rwa [hfraction])
      obtain ⟨htake, hdrop⟩ := digits_append hf fun c hc => (power_head n.power hc).1
      show (some ((f ++ n.power.elim [] Power.chars).takeWhile (·.isDigit)),
        (f ++ n.power.elim [] Power.chars).dropWhile (·.isDigit)) = _
      rw [← drop_takeWhile, htake, hdrop]

/-- Numerals are read, and nothing else is. -/
theorem number?_eq_some {negative : Bool} {cs : List Char} {d : Decimal} :
    number? negative cs = some d ↔ ∃ n : Numeral, n.chars = cs ∧ n.decimal negative = d := by
  constructor
  · intro h
    have hwhole : ∀ c ∈ cs.takeWhile (·.isDigit), c.isDigit = true :=
      fun c hc => List.mem_takeWhile_imp hc
    have hcs : cs.takeWhile (·.isDigit) ++ cs.dropWhile (·.isDigit) = cs :=
      List.takeWhile_append_dropWhile
    have hrest : ∀ c, (cs.dropWhile (·.isDigit)).head? = some c → c.isDigit = false :=
      fun c hc => Blank.first_of_dropWhile hc
    -- the parts of the numeral are what the parser cuts off, one after the other
    rw [← hcs, number?_append negative hwhole hrest, power_eq_some] at h
    obtain ⟨power, hpower, h⟩ := h
    obtain ⟨hne, rfl⟩ := combine_eq_some.mp h
    obtain ⟨hchars, hfraction⟩ := afterPoint_spec (cs.dropWhile (·.isDigit))
    refine ⟨⟨_, _, power, hwhole, hfraction, hne⟩, ?_, rfl⟩
    rw [Numeral.chars, hpower, hchars, hcs]
  · rintro ⟨n, rfl, rfl⟩
    have hrest : ∀ c, (n.fraction.elim [] ('.' :: ·) ++ n.power.elim [] Power.chars).head? =
        some c → c.isDigit = false := by
      intro c hc
      cases hfraction : n.fraction with
      | none => exact (power_head n.power (by rwa [hfraction] at hc)).1
      | some f =>
          rw [hfraction] at hc
          obtain rfl : '.' = c := Option.some.inj hc
          rfl
    rw [Numeral.chars, number?_append negative n.whole_all hrest, n.afterPoint_chars,
      power_eq_some]
    exact ⟨n.power, rfl, combine_eq_some.mpr ⟨n.digits_ne, rfl⟩⟩

/-! ## Reading amounts -/

/-- A written number: a sign that may be written, and a numeral. -/
structure Spelling where
  sign : Option Bool
  numeral : Numeral

namespace Spelling

def chars (sp : Spelling) : List Char := signChars sp.sign ++ sp.numeral.chars

/-- The value of the numeral with its sign. -/
def value (sp : Spelling) : ℚ :=
  if sp.sign = some true then -sp.numeral.value else sp.numeral.value

/-- The number as it is read. -/
def decimal (sp : Spelling) : Decimal := sp.numeral.decimal (sp.sign == some true)

theorem value_decimal (sp : Spelling) : sp.decimal.value = sp.value := by
  rw [decimal, Numeral.value_decimal, value]
  simp only [beq_iff_eq]

end Spelling

/-- The characters of a text that count: those between the blanks around it, without underscores,
and with digits in their common form. -/
def counting (s : String) : List Char :=
  ((Blank.trim s.toList).filter (· != '_')).map Digit.toAscii

/-- The text spells a number of this value. -/
def Spells (s : String) (v : ℚ) : Prop := ∃ sp : Spelling, counting s = sp.chars ∧ sp.value = v

/-- The first character of a numeral is a digit or a point. -/
theorem Numeral.exists_head (n : Numeral) :
    ∃ c cs, n.chars = c :: cs ∧ (c.isDigit = true ∨ c = '.') := by
  have hdigits := n.digits_ne
  unfold chars
  cases hwhole : n.whole with
  | cons c cs => exact ⟨c, _, rfl, Or.inl (n.whole_all c (hwhole ▸ List.mem_cons_self))⟩
  | nil =>
      cases hfraction : n.fraction with
      | some f => exact ⟨'.', _, rfl, Or.inr rfl⟩
      | none =>
          rw [hwhole, hfraction] at hdigits
          exact absurd rfl hdigits

theorem toLower_of_digit {c : Char} (hc : c.isDigit = true ∨ c = '.') : c.toLower = c := by
  rcases hc with hc | rfl
  · unfold Char.toLower
    split
    · rename_i hupper
      have hdigit : c.val.toNat ≤ 57 := by
        simp only [Char.isDigit, Bool.and_eq_true, decide_eq_true_eq] at hc
        exact UInt32.le_iff_toNat_le.mp hc.2
      have hletter : 65 ≤ c.val.toNat := UInt32.le_iff_toNat_le.mp hupper.1
      omega
    · rfl
  · rfl

/-- Numerals within the bounds are read; no numeral is an infinity or a not-a-number. -/
theorem unsigned?_eq_finite {negative : Bool} {cs : List Char} {d : Decimal} :
    unsigned? negative cs = some (.finite d) ↔
      isWithinBounds d = true ∧ ∃ n : Numeral, n.chars = cs ∧ n.decimal negative = d := by
  rw [← number?_eq_some]
  constructor
  · intro h
    unfold unsigned? at h
    dsimp only at h
    split at h
    · cases h
    · split at h
      · cases h
      · split at h
        · cases h
        · obtain ⟨d', hd', hfinite⟩ := Option.map_eq_some_iff.mp h
          obtain rfl := Amount.finite.inj hfinite
          exact (Option.filter_eq_some_iff.mp hd').symm
  · rintro ⟨hbounds, hnumber⟩
    obtain ⟨n, rfl, -⟩ := number?_eq_some.mp hnumber
    -- the names of infinities and of not-a-numbers start with letters
    obtain ⟨c, cs, hcs, hc⟩ := n.exists_head
    have hletters : c ≠ 'i' ∧ c ≠ 'n' ∧ c ≠ 's' := by
      refine ⟨?_, ?_, ?_⟩ <;> rintro rfl <;> simp at hc
    rw [hcs] at hnumber ⊢
    simp [unsigned?, toLower_of_digit hc, hletters, hnumber, Option.filter, hbounds]

/-- Spellings within the bounds are read, and nothing else is. -/
theorem read?_eq_finite {s : String} {d : Decimal} : read? s = some (.finite d) ↔
    isWithinBounds d = true ∧ ∃ sp : Spelling, counting s = sp.chars ∧ sp.decimal = d := by
  unfold read?
  dsimp only
  rw [← counting]
  constructor
  · intro h
    split at h
    · rename_i r hr
      obtain ⟨hbounds, n, rfl, rfl⟩ := unsigned?_eq_finite.mp h
      exact ⟨hbounds, ⟨some true, n⟩, hr, rfl⟩
    · rename_i r hr
      obtain ⟨hbounds, n, rfl, rfl⟩ := unsigned?_eq_finite.mp h
      exact ⟨hbounds, ⟨some false, n⟩, hr, rfl⟩
    · obtain ⟨hbounds, n, hn, rfl⟩ := unsigned?_eq_finite.mp h
      exact ⟨hbounds, ⟨none, n⟩, hn.symm, rfl⟩
  · rintro ⟨hbounds, ⟨sign, n⟩, hchars, rfl⟩
    have hnumeral : ∀ negative, n.decimal negative = Spelling.decimal ⟨sign, n⟩ →
        unsigned? negative n.chars = some (.finite (Spelling.decimal ⟨sign, n⟩)) :=
      fun negative h => unsigned?_eq_finite.mpr ⟨hbounds, n, rfl, h⟩
    rw [hchars]
    match sign with
    | some true => exact hnumeral true rfl
    | some false => exact hnumeral false rfl
    | none =>
        obtain ⟨c, cs, hcs, hc⟩ := n.exists_head
        have hsigns : c ≠ '-' ∧ c ≠ '+' := by
          refine ⟨?_, ?_⟩ <;> rintro rfl <;> simp at hc
        have hchars : Spelling.chars ⟨none, n⟩ = c :: cs := hcs
        have hfalse := hnumeral false rfl
        rw [hcs] at hfalse
        rw [hchars]
        simp [hsigns, hfalse]

/-! ## Texts without ornament -/

def numeralChars : List Char := "0123456789.eE+-".toList

theorem mem_numeralChars_of_isDigit {c : Char} (hc : c.isDigit = true) : c ∈ numeralChars := by
  have hbounds : 48 ≤ c.toNat ∧ c.toNat ≤ 57 := by
    simp only [Char.isDigit, Bool.and_eq_true, decide_eq_true_eq] at hc
    exact ⟨UInt32.le_iff_toNat_le.mp hc.1, UInt32.le_iff_toNat_le.mp hc.2⟩
  have hcodes : ∀ n < 58, 48 ≤ n → Char.ofNat n ∈ numeralChars := by decide
  rw [← Char.ofNat_toNat c]
  exact hcodes c.toNat (by omega) hbounds.1

theorem mem_numeralChars_of_sign {sign : Option Bool} {c : Char} (hc : c ∈ signChars sign) :
    c ∈ numeralChars := by
  match sign, hc with
  | some true, hc => exact List.mem_singleton.mp hc ▸ by decide
  | some false, hc => exact List.mem_singleton.mp hc ▸ by decide

theorem Spelling.mem_numeralChars (sp : Spelling) : ∀ c ∈ sp.chars, c ∈ numeralChars := by
  intro c hc
  rcases List.mem_append.mp hc with hc | hc
  · exact mem_numeralChars_of_sign hc
  rcases List.mem_append.mp hc with hc | hc
  · exact mem_numeralChars_of_isDigit (sp.numeral.whole_all c hc)
  rcases List.mem_append.mp hc with hc | hc
  · cases hfraction : sp.numeral.fraction with
    | none =>
        rw [hfraction] at hc
        cases hc
    | some f =>
        rw [hfraction] at hc
        rcases List.mem_cons.mp hc with rfl | hc
        · decide
        · exact mem_numeralChars_of_isDigit
            (sp.numeral.fraction_all c (by rw [hfraction]; exact hc))
  · cases hpower : sp.numeral.power with
    | none =>
        rw [hpower] at hc
        cases hc
    | some p =>
        rw [hpower] at hc
        rcases List.mem_cons.mp hc with rfl | hc
        · rcases p.letter_eq with hp | hp <;> rw [hp] <;> decide
        rcases List.mem_append.mp hc with hc | hc
        · exact mem_numeralChars_of_sign hc
        · exact mem_numeralChars_of_isDigit (p.digits_all c hc)

/-- None of these characters is blank, an underscore, or a digit in another form. -/
theorem numeralChars_plain :
    ∀ c ∈ numeralChars, Blank.isBlank c = false ∧ c ≠ '_' ∧ Digit.toAscii c = c := by
  have hall : numeralChars.all
      (fun c => !Blank.isBlank c && c != '_' && Digit.toAscii c == c) = true := by decide
  intro c hc
  simpa [and_assoc] using List.all_eq_true.mp hall c hc

/-- Of a spelling between blanks all characters count. -/
theorem counting_of_blanks (sp : Spelling) {before after : List Char}
    (hbefore : ∀ c ∈ before, Blank.isBlank c = true)
    (hafter : ∀ c ∈ after, Blank.isBlank c = true) :
    counting (String.ofList (before ++ sp.chars ++ after)) = sp.chars := by
  have hplain : ∀ c ∈ sp.chars, Blank.isBlank c = false ∧ c ≠ '_' ∧ Digit.toAscii c = c :=
    fun c hc => numeralChars_plain c (sp.mem_numeralChars c hc)
  have hbare : Blank.Bare Blank.isBlank sp.chars :=
    ⟨fun c hc => (hplain c (List.mem_of_head? hc)).1,
      fun c hc => (hplain c (List.mem_of_getLast? hc)).1⟩
  have hfilter : sp.chars.filter (· != '_') = sp.chars :=
    List.filter_eq_self.mpr fun c hc => by simpa using (hplain c hc).2.1
  have hascii : sp.chars.map Digit.toAscii = sp.chars :=
    (List.map_congr_left fun c hc => (hplain c hc).2.2).trans (List.map_id _)
  rw [counting, String.toList_ofList, Blank.trim, Blank.trimBy_append hbefore hafter hbare, hfilter,
    hascii]

/-- A spelling between blanks spells its value. -/
theorem spells_of_blanks (sp : Spelling) {before after : List Char}
    (hbefore : ∀ c ∈ before, Blank.isBlank c = true)
    (hafter : ∀ c ∈ after, Blank.isBlank c = true) :
    Spells (String.ofList (before ++ sp.chars ++ after)) sp.value :=
  ⟨sp, counting_of_blanks sp hbefore hafter, rfl⟩

/-! ## Plain texts -/

theorem isDigit_of_mem_toDigits (n : Nat) : ∀ c ∈ Nat.toDigits 10 n, c.isDigit = true :=
  fun _ hc => Nat.isDigit_of_mem_toDigits (by decide) (by decide) hc

theorem isDigit_of_mem_zeros (k : Nat) : ∀ c ∈ List.replicate k '0', c.isDigit = true := by
  intro c hc
  rw [List.eq_of_mem_replicate hc]
  rfl

theorem natural_toDigits_zeros (n k : Nat) :
    natural (Nat.toDigits 10 n ++ List.replicate k '0') = n * 10 ^ k := by
  rw [natural, Nat.ofDigitChars_append, Nat.ofDigitChars_ten_toDigits,
    Nat.ofDigitChars_replicate_zero, mul_comm]

theorem natural_zeros_toDigits (n k : Nat) :
    natural (List.replicate k '0' ++ Nat.toDigits 10 n) = n := by
  rw [natural, Nat.ofDigitChars_append, Nat.ofDigitChars_replicate_zero, mul_zero,
    Nat.ofDigitChars_ten_toDigits]

/-- The numeral, with the sign of the number, is the plain text of the number. -/
structure Numeral.IsPlain (n : Numeral) (d : Decimal) : Prop where
  chars : d.plain = String.ofList (if d.negative then '-' :: n.chars else n.chars)
  value : (n.decimal d.negative).value = d.value

end Amount

namespace Decimal

open Amount

/-- Without decimal places the plain text is the digits and zeros. -/
theorem exists_isPlain_of_natural (d : Decimal) {k : Nat} (hk : d.exponent = k) :
    ∃ n : Numeral, n.IsPlain d := by
  refine ⟨⟨Nat.toDigits 10 d.coefficient ++ List.replicate k '0', none, none, ?_, ?_, ?_⟩, ?_, ?_⟩
  · exact fun c hc => (List.mem_append.mp hc).elim (isDigit_of_mem_toDigits _ c)
      (isDigit_of_mem_zeros k c)
  · exact fun c hc => (by cases hc)
  · simp [Nat.toDigits_ne_nil]
  · simp [plain, hk, Numeral.chars]
  · calc
      value ⟨d.negative, natural (Nat.toDigits 10 d.coefficient ++ List.replicate k '0' ++ []), 0⟩
      _ = value ⟨d.negative, d.coefficient * 10 ^ k, 0⟩ := by
        rw [List.append_nil, natural_toDigits_zeros]
      _ = value ⟨d.negative, d.coefficient, 0 + k⟩ := value_move _ _ _ _
      _ = d.value := by rw [zero_add, ← hk]

/-- Decimal places are cut off the digits, which zeros lengthen to one more than the places. -/
theorem exists_isPlain_of_places (d : Decimal) {k : Nat} (hk : d.exponent = -k)
    (hneg : ¬ 0 ≤ d.exponent) : ∃ n : Numeral, n.IsPlain d := by
  set padded := List.replicate (k + 1 - (Nat.toDigits 10 d.coefficient).length) '0' ++
    Nat.toDigits 10 d.coefficient with hpadded
  have hlength : k + 1 ≤ padded.length := by
    rw [hpadded, List.length_append, List.length_replicate]
    omega
  have hall : ∀ c ∈ padded, c.isDigit = true :=
    fun c hc => (List.mem_append.mp hc).elim (isDigit_of_mem_zeros _ c)
      (isDigit_of_mem_toDigits _ c)
  have hnatural : natural padded = d.coefficient := natural_zeros_toDigits _ _
  have hsplit : padded.take (padded.length - k) ++ padded.drop (padded.length - k) = padded :=
    List.take_append_drop _ _
  have hplaces : (padded.drop (padded.length - k)).length = k := by
    rw [List.length_drop]
    omega
  refine ⟨⟨padded.take (padded.length - k), some (padded.drop (padded.length - k)), none, ?_, ?_,
    ?_⟩, ?_, ?_⟩
  · exact fun c hc => hall c (List.mem_of_mem_take hc)
  · exact fun c hc => hall c (List.mem_of_mem_drop hc)
  · show padded.take _ ++ padded.drop _ ≠ []
    rw [hsplit]
    exact List.ne_nil_of_length_pos (by omega)
  · have hk' : (-d.exponent).toNat = k := by omega
    simp [plain, hneg, hk', Numeral.chars, ← hpadded]
  · show value ⟨d.negative, natural (padded.take _ ++ padded.drop _),
      0 - ((padded.drop _).length : Nat)⟩ = d.value
    rw [hsplit, hnatural, hplaces, zero_sub, ← hk]

theorem exists_isPlain (d : Decimal) : ∃ n : Numeral, n.IsPlain d := by
  by_cases h : 0 ≤ d.exponent
  · obtain ⟨k, hk⟩ := Int.eq_ofNat_of_zero_le h
    exact d.exists_isPlain_of_natural hk
  · exact d.exists_isPlain_of_places (k := (-d.exponent).toNat) (by omega) h

/-- The plain text of a number spells its value. -/
theorem spells_plain (d : Decimal) : Spells d.plain d.value := by
  obtain ⟨n, hplain, hvalue⟩ := d.exists_isPlain
  have hblanks : ∀ c ∈ ([] : List Char), Blank.isBlank c = true := fun _ hc => (by cases hc)
  have hspells := spells_of_blanks ⟨if d.negative then some true else none, n⟩ hblanks hblanks
  rw [← Spelling.value_decimal] at hspells
  rw [hplain, ← hvalue]
  cases hnegative : d.negative <;> simpa [hnegative, Spelling.chars, signChars,
    Spelling.decimal] using hspells

end Decimal

end Scrip
