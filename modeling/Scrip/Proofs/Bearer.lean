import Scrip.Bearer
import Scrip.Proofs.Text.Blank
import Scrip.Proofs.Text.Pattern
set_option autoImplicit false

/-! # The form of a credential

Which `Authorization` headers carry a credential, and which one, as a grammar
(`Bearer.Carries`). The parser takes exactly these headers, and so a header carries one credential
at most. It also finds what a backtracking search for the pattern of such headers captures
(`Bearer.credential?_eq_capture`).
-/

namespace Scrip.Bearer

def AllBlank (cs : List Char) : Prop := ∀ c ∈ cs, Blank.isBlank c = true

def NoBlank (cs : List Char) : Prop := ∀ c ∈ cs, Blank.isBlank c = false

/-- The characters are the word `bearer` in any letter case, blanks, and a credential. -/
def Spells (cs token : List Char) : Prop :=
  ∃ said gap, cs = said ++ gap ++ token ∧ said.map Char.toLower = word ∧
    AllBlank gap ∧ gap ≠ [] ∧ NoBlank token ∧ token ≠ []

/-- A header carries a credential: blanks around it do not count. -/
def Carries (header credential : String) : Prop :=
  ∃ before cs after, header.toList = before ++ cs ++ after ∧ AllBlank before ∧ AllBlank after ∧
    Spells cs credential.toList

/-! ## The parser -/

theorem not_isBlank_of_toLower_eq_b {c : Char} (h : c.toLower = 'b') :
    Blank.isBlank c = false := by
  refine Bool.eq_false_iff.mpr fun hblank => ?_
  have hrange : c.toNat ≤ 0x20 ∨ 0x85 ≤ c.toNat := by
    simp only [Blank.isBlank, Blank.ranges, List.any_cons, List.any_nil, Bool.or_false,
      Bool.or_eq_true, Bool.and_eq_true, decide_eq_true_eq] at hblank
    omega
  have hsame : c.toLower = c := by
    unfold Char.toLower
    split
    · -- no capital letter is blank
      rename_i hupper
      have hlow : 0x41 ≤ c.toNat := hupper.1
      have hhigh : c.toNat ≤ 0x5A := hupper.2
      omega
    · rfl
  obtain rfl : c = 'b' := hsame.symm.trans h
  exact absurd hrange (by decide)

theorem NoBlank.bare {cs : List Char} (h : NoBlank cs) : Blank.Bare Blank.isBlank cs where
  first := fun c hc => h c (List.mem_of_mem_head? hc)
  last := fun c hc => h c (List.mem_of_getLast? hc)

theorem length_of_said {said : List Char} (h : said.map Char.toLower = word) :
    said.length = word.length := by
  rw [← h, List.length_map]

/-- What spells a credential is bare of blanks at both ends. -/
theorem Spells.bare {cs token : List Char} (h : Spells cs token) :
    Blank.Bare Blank.isBlank cs := by
  obtain ⟨said, gap, rfl, hsaid, -, -, htoken, hne⟩ := h
  constructor
  · intro c hc
    cases said with
    | nil => cases hsaid
    | cons x xs =>
        obtain rfl : x = c := by simpa using hc
        exact not_isBlank_of_toLower_eq_b (List.cons.inj hsaid).1
  · intro c hc
    rw [List.getLast?_append_of_ne_nil _ hne] at hc
    exact htoken.bare.last c hc

/-- The parser of a trimmed header. -/
theorem credential?_eq_some {header token : List Char} :
    credential? header = some token ↔ Spells (Blank.trim header) token := by
  set cs := Blank.trim header with hcs
  have hparse : credential? header =
      if (cs.take word.length).map Char.toLower = word &&
          ((cs.drop word.length).dropWhile Blank.isBlank).length < (cs.drop word.length).length &&
          !((cs.drop word.length).dropWhile Blank.isBlank).isEmpty &&
          ((cs.drop word.length).dropWhile Blank.isBlank).all (!Blank.isBlank ·) then
        some ((cs.drop word.length).dropWhile Blank.isBlank)
      else none := rfl
  rw [hparse]
  constructor
  · intro h
    split at h
    · rename_i htests
      obtain rfl := Option.some.inj h
      simp only [Bool.and_eq_true, decide_eq_true_eq, Bool.not_eq_true', List.all_eq_true] at htests
      obtain ⟨⟨⟨hsaid, hshorter⟩, hne⟩, htoken⟩ := htests
      refine ⟨cs.take word.length, (cs.drop word.length).takeWhile Blank.isBlank, ?_, hsaid,
        fun c hc => List.mem_takeWhile_imp hc, ?_, htoken, ?_⟩
      · rw [List.append_assoc, List.takeWhile_append_dropWhile, List.take_append_drop]
      · -- something was dropped, so there was a blank
        intro hnone
        have hsplit := congrArg List.length
          (List.takeWhile_append_dropWhile (p := Blank.isBlank) (l := cs.drop word.length))
        rw [hnone, List.nil_append] at hsplit
        omega
      · exact List.isEmpty_eq_false_iff.mp hne
    · cases h
  · -- the word has a fixed length, so it is cut off where the grammar ends it
    rintro ⟨said, gap, heq, hsaid, hgap, hgapne, htoken, hne⟩
    have hlength := length_of_said hsaid
    have htake : cs.take word.length = said := by
      rw [heq, ← hlength, List.append_assoc, List.take_left]
    have hdrop : cs.drop word.length = gap ++ token := by
      rw [heq, ← hlength, List.append_assoc, List.drop_left]
    have hrest : (gap ++ token).dropWhile Blank.isBlank = token := by
      rw [List.dropWhile_append_of_pos hgap, htoken.bare.dropWhile]
    have hgaplength : 0 < gap.length := List.length_pos_of_ne_nil hgapne
    have hall : token.all (!Blank.isBlank ·) = true := by
      refine List.all_eq_true.mpr fun c hc => ?_
      rw [htoken c hc]
      rfl
    rw [htake, hdrop, hrest, if_pos]
    simp [hsaid, hgaplength, hall, hne]

theorem carries_iff {header credential : String} :
    Carries header credential ↔ Spells (Blank.trim header.toList) credential.toList := by
  constructor
  · rintro ⟨before, cs, after, hheader, hbefore, hafter, hspells⟩
    rw [hheader, Blank.trim, Blank.trimBy_append hbefore hafter hspells.bare]
    exact hspells
  · intro h
    obtain ⟨before, after, hheader, hbefore, hafter⟩ :=
      Blank.exists_trimBy Blank.isBlank header.toList
    exact ⟨before, _, after, hheader, hbefore, hafter, h⟩

/-! ## Headers of requests -/

/-- The header of a request, if there is one, carries a credential. -/
def CarriesIn (header : Option String) (credential : String) : Prop :=
  ∃ h, header = some h ∧ Carries h credential

/-- **The parser takes exactly the headers that carry a credential**, and gives that credential. -/
theorem extract_eq_ok {header : Option String} {credential : String} :
    extract header = .ok credential ↔ CarriesIn header credential := by
  cases header with
  | none => simp [extract, CarriesIn]
  | some h =>
      simp only [CarriesIn, Option.some.injEq, exists_eq_left', carries_iff, ← credential?_eq_some]
      by_cases hempty : h = ""
      · subst hempty
        simp [extract, credential?, Blank.trim, Blank.trimBy]
      · cases hc : credential? h.toList with
        | none => simp [extract, hempty, hc]
        | some token =>
            simp only [extract, String.isEmpty_iff, hempty, if_false, hc, Except.ok.injEq,
              Option.some.injEq]
            constructor
            · rintro rfl
              rw [String.toList_ofList]
            · rintro rfl
              rw [String.ofList_toList]

/-- A header carries one credential at most. -/
theorem CarriesIn.unique {header : Option String} {c c' : String} (h : CarriesIn header c)
    (h' : CarriesIn header c') : c = c' :=
  Except.ok.inj ((extract_eq_ok.mpr h).symm.trans (extract_eq_ok.mpr h'))

/-- Any other header is refused for want of a caller. -/
theorem extract_error {header : Option String} {r : Refusal} (h : extract header = .error r) :
    ∃ message, r = .unauthenticated message := by
  unfold extract at h
  split at h
  · exact ⟨_, (Except.error.inj h).symm⟩
  · split at h
    · exact ⟨_, (Except.error.inj h).symm⟩
    · split at h
      · cases h
      · exact ⟨_, (Except.error.inj h).symm⟩

/-! ## The pattern -/

/-- The word, blanks, the credential and blanks, `^Bearer\s+(\S+)\s*$`, in any letter case. -/
def pattern : List Pattern.Piece :=
  word.map (fun letter => .one fun c => c.toLower == letter) ++
    [.run Blank.isBlank 1 false, .run (!Blank.isBlank ·) 1 true, .run Blank.isBlank 0 false]

/-- A row of letters matches what is the same in small letters. -/
theorem matches_letters {letters : List Char} {ps : List Pattern.Piece} {cs captured : List Char} :
    Pattern.Matches (letters.map (fun letter => .one fun c => c.toLower == letter) ++ ps) cs
        captured ↔
      ∃ said rest, cs = said ++ rest ∧ said.map Char.toLower = letters ∧
        Pattern.Matches ps rest captured := by
  induction letters generalizing cs with
  | nil =>
      constructor
      · intro h
        exact ⟨[], cs, rfl, rfl, h⟩
      · rintro ⟨said, rest, rfl, hsaid, h⟩
        rw [List.map_eq_nil_iff] at hsaid
        subst hsaid
        exact h
  | cons letter letters ih =>
      constructor
      · rintro (_ | ⟨hc, h⟩)
        obtain ⟨said, rest, rfl, hsaid, hrest⟩ := ih.mp h
        exact ⟨_ :: said, rest, rfl, by rw [List.map_cons, beq_iff_eq.mp hc, hsaid], hrest⟩
      · rintro ⟨said, rest, rfl, hsaid, hrest⟩
        obtain ⟨c, said, rfl, hc, hsaid⟩ := List.map_eq_cons_iff.mp hsaid
        exact .one (beq_iff_eq.mpr hc) (ih.mpr ⟨said, rest, rfl, hsaid, hrest⟩)

theorem allBlank_of_atEnd {cs : List Char} (h : Pattern.atEnd cs = true) : AllBlank cs := by
  simp only [Pattern.atEnd, Bool.or_eq_true, beq_iff_eq] at h
  rcases h with rfl | rfl
  · exact fun c hc => absurd hc List.not_mem_nil
  · intro c hc
    obtain rfl := List.mem_singleton.mp hc
    decide

/-- The pattern matches what spells a credential, with blanks after it or without. -/
theorem matches_pattern {cs token : List Char} :
    Pattern.Matches pattern cs token ↔ ∃ spelled after, cs = spelled ++ after ∧ AllBlank after ∧
      Spells spelled token := by
  unfold pattern
  simp only [matches_letters, Pattern.matches_run, Pattern.matches_nil]
  constructor
  · rintro ⟨said, _, rfl, hsaid, gap, _, _, rfl, hgap, hgapone, rfl, token, _, _, rfl, htoken,
      htokenone, rfl, after, rest, _, rfl, hafter, -, rfl, hend, rfl⟩
    have hkept : Pattern.keep true token [] = token := List.append_nil token
    rw [hkept]
    refine ⟨said ++ gap ++ token, after ++ rest, by simp only [List.append_assoc], ?_,
      said, gap, rfl, hsaid, hgap, List.ne_nil_of_length_pos hgapone, ?_,
      List.ne_nil_of_length_pos htokenone⟩
    · exact fun c hc => (List.mem_append.mp hc).elim (hafter c) (allBlank_of_atEnd hend c)
    · exact fun c hc => by simpa using htoken c hc
  · rintro ⟨_, after, rfl, hafter, said, gap, rfl, hsaid, hgap, hgapne, htoken, hne⟩
    refine ⟨said, gap ++ token ++ after, by simp only [List.append_assoc], hsaid, gap,
      token ++ after, token, by simp only [List.append_assoc], hgap,
      List.length_pos_of_ne_nil hgapne, rfl, token, after, [], rfl, ?_,
      List.length_pos_of_ne_nil hne, (List.append_nil token).symm, after, [], [],
      (List.append_nil after).symm, hafter, Nat.zero_le _, rfl, rfl, rfl⟩
    exact fun c hc => by rw [htoken c hc]; rfl

/-- On a trimmed text the parser finds what the search for the pattern captures. -/
theorem credential?_eq_capture (header : List Char) :
    credential? header = Pattern.capture pattern (Blank.trim header) := by
  -- nothing of a trimmed text is left for the blanks at the end of the pattern
  have hspells : ∀ token, Pattern.Matches pattern (Blank.trim header) token →
      credential? header = some token := by
    intro token h
    obtain ⟨spelled, after, heq, hafter, hspelled⟩ := matches_pattern.mp h
    have htrim : Blank.trimBy Blank.isBlank (Blank.trim header) = spelled := by
      have hnone : ∀ c ∈ ([] : List Char), Blank.isBlank c = true :=
        fun c hc => absurd hc List.not_mem_nil
      rw [heq]
      exact Blank.trimBy_append hnone hafter hspelled.bare
    rw [Blank.trim, Blank.trimBy_idem] at htrim
    rw [credential?_eq_some, Blank.trim, htrim]
    exact hspelled
  cases hcapture : Pattern.capture pattern (Blank.trim header) with
  | some token => exact hspells token (Pattern.matches_of_capture hcapture)
  | none =>
      cases hcredential : credential? header with
      | none => rfl
      | some token =>
          have hmatches : Pattern.Matches pattern (Blank.trim header) token :=
            matches_pattern.mpr ⟨_, [], (List.append_nil _).symm,
              fun c hc => absurd hc List.not_mem_nil, credential?_eq_some.mp hcredential⟩
          obtain ⟨found, hfound⟩ := hmatches.exists_capture
          cases hcapture.symm.trans hfound

/-! ## Exactness -/

/-- What the parser does about a header: it takes it if the header carries a credential, which is
then the only one, and the one that the search for the pattern captures. Any other is refused. -/
structure Extracts (header : Option String) : Prop where
  accepts : ∀ credential, extract header = .ok credential ↔ CarriesIn header credential
  unique : ∀ credential credential', CarriesIn header credential →
    CarriesIn header credential' → credential = credential'
  refuses : (∀ credential, ¬ CarriesIn header credential) →
    ∃ message, extract header = .error (.unauthenticated message)
  captures : ∀ credential, CarriesIn header credential ↔ ∃ h, header = some h ∧
    Pattern.capture pattern (Blank.trim h.toList) = some credential.toList

theorem extracts (header : Option String) : Extracts header where
  accepts := fun _ => extract_eq_ok
  unique := fun _ _ h h' => h.unique h'
  refuses := by
    intro hnone
    cases h : extract header with
    | ok credential => exact absurd (extract_eq_ok.mp h) (hnone credential)
    | error r =>
        obtain ⟨message, rfl⟩ := extract_error h
        exact ⟨message, rfl⟩
  captures := fun credential => exists_congr fun h => and_congr_right fun _ => by
    rw [carries_iff, ← credential?_eq_some, credential?_eq_capture]

/-- **Exactly the headers of the form of a credential are accepted**, and the credential is what
stands in them: written with any blanks around it and the word in any letter case, it is read
back. -/
theorem extraction_is_exact (header : Option String) :
    Extracts header ∧
      ∀ before said gap after credential, header = some (String.ofList
          (before ++ said ++ gap ++ String.toList credential ++ after)) →
        AllBlank before → said.map Char.toLower = word → AllBlank gap → gap ≠ [] →
        NoBlank credential.toList → credential ≠ "" → AllBlank after →
          extract header = .ok credential := by
  refine ⟨extracts header, ?_⟩
  rintro before said gap after credential rfl hbefore hsaid hgap hgapne hcredential hne hafter
  refine extract_eq_ok.mpr ⟨_, rfl, before, said ++ gap ++ credential.toList, after, ?_, hbefore,
    hafter, said, gap, rfl, hsaid, hgap, hgapne, hcredential, ?_⟩
  · rw [String.toList_ofList]
    simp only [List.append_assoc]
  · rwa [ne_eq, String.toList_eq_nil_iff]

/-- The word in mixed letter case, and blanks beyond ASCII. -/
theorem extraction_is_exact_padded :
    extract (some "\t bEARer\u2003 kéy:7\u3000\n") = .ok "kéy:7" ∧
      (∀ credential, ¬ CarriesIn (some "Bearer two keys") credential) ∧
      ∃ message, extract (some "Bearer two keys") = .error (.unauthenticated message) := by
  have hblank : ∀ cs : List Char, cs.all Blank.isBlank = true → AllBlank cs := fun _ h =>
    List.all_eq_true.mp h
  have htwo : ∀ credential, ¬ CarriesIn (some "Bearer two keys") credential := by
    intro credential h
    have hextract := extract_eq_ok.mpr h
    rw [show extract (some "Bearer two keys") = .error malformed by decide] at hextract
    cases hextract
  refine ⟨(extraction_is_exact _).2 ['\t', ' '] "bEARer".toList ['\u2003', ' '] ['\u3000', '\n']
    "kéy:7" (by decide) (hblank _ (by decide)) (by decide) (hblank _ (by decide)) (by decide) ?_
    (by decide) (hblank _ (by decide)), htwo, (extraction_is_exact _).1.refuses htwo⟩
  have hkey : "kéy:7".toList.all (fun c => !Blank.isBlank c) = true := by decide
  exact fun c hc => by simpa using List.all_eq_true.mp hkey c hc

end Scrip.Bearer
