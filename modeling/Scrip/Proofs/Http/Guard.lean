import Scrip.Ledger
import Scrip.Proofs.Ledger.Run
set_option autoImplicit false

/-! # The guard of the administration

What the guard does about every two tokens. It lets the configured token pass and refuses all
others, as long as the two texts can be compared; where one of them is not ASCII there is no
decision, and the request ends in a crash. So whether a request for a settlement is refused as it
should be depends on the text that the client sends (`Guard.upheld_iff`). Nobody who does not pass
changes anything.
-/

namespace Scrip

open Script

namespace Http.Guard

variable {configured given : Option String}

def AllAscii (s : String) : Prop := ∀ c ∈ s.toList, c.toNat < 0x80

/-- There is a configured token, and the given one is the same text. -/
def Agree (configured given : Option String) : Prop :=
  ∃ token, token ≠ "" ∧ configured = some token ∧ given = some token

/-- Both tokens are ASCII, unless one of them is missing or empty. -/
def Comparable (configured given : Option String) : Prop :=
  ∀ token text, configured = some token → given = some text → token ≠ "" → text ≠ "" →
    AllAscii text ∧ AllAscii token

/-- Exactly the configured token passes, and everything else is refused. -/
def Upheld (configured given : Option String) : Prop :=
  (check configured given = .ok () ↔ Agree configured given) ∧
    (¬ Agree configured given →
      ∃ message, check configured given = .error (.refused (.unauthenticated message)))

/-! ## Comparing tokens -/

theorem isAscii_iff {s : String} : isAscii s = true ↔ AllAscii s := by
  simp [isAscii, AllAscii]

/-- Two texts that are ASCII are the same or not; with others the comparison crashes. -/
theorem sameToken_cases (text token : String) :
    (AllAscii text ∧ AllAscii token ∧ sameToken text token = .ok (text == token)) ∨
      (¬ (AllAscii text ∧ AllAscii token) ∧ sameToken text token = .error .wrongType) := by
  unfold sameToken
  by_cases h : (isAscii text && isAscii token) = true
  · have hascii := Bool.and_eq_true_iff.mp h
    exact Or.inl ⟨isAscii_iff.mp hascii.1, isAscii_iff.mp hascii.2, if_pos h⟩
  · refine Or.inr ⟨fun hascii => h ?_, if_neg h⟩
    exact Bool.and_eq_true_iff.mpr ⟨isAscii_iff.mpr hascii.1, isAscii_iff.mpr hascii.2⟩

/-! ## The decision -/

/-- A token that is missing or empty agrees with none. -/
theorem not_agree_of_absent (h : configured.getD "" = "" ∨ given.getD "" = "") :
    ¬ Agree configured given := by
  rintro ⟨token, hne, rfl, rfl⟩
  exact h.elim hne hne

theorem comparable_of_absent (h : configured.getD "" = "" ∨ given.getD "" = "") :
    Comparable configured given := by
  rintro token text rfl rfl htoken htext
  exact absurd h (not_or.mpr ⟨htoken, htext⟩)

/-- Where both texts are there, the comparison decides. -/
theorem check_of_present (token text : String) (htoken : token ≠ "") (htext : text ≠ "") :
    check (some token) (some text) = (sameToken text token).bind fun same =>
      if same then .ok () else .error (.refused badToken) := by
  have htoken' : ¬ token.isEmpty = true := by simpa using htoken
  have htext' : ¬ text.isEmpty = true := by simpa using htext
  refine (if_neg htoken').trans ((if_neg htext').trans ?_)
  rw [Option.getD_some, Option.getD_some]
  cases sameToken text token with
  | error e => rfl
  | ok same => cases same <;> rfl

/-- The three things that the guard can do. -/
theorem check_cases (configured given : Option String) :
    (check configured given = .ok () ∧ Agree configured given ∧ Comparable configured given) ∨
    ((∃ message, check configured given = .error (.refused (.unauthenticated message))) ∧
      ¬ Agree configured given ∧ Comparable configured given) ∨
    (check configured given = .error .wrongType ∧ ¬ Comparable configured given) := by
  by_cases hconfigured : configured.getD "" = ""
  · have hcheck : check configured given = .error (.refused disabled) := by
      simp only [check, String.isEmpty_iff, hconfigured, if_true]
    exact Or.inr (Or.inl ⟨⟨_, hcheck⟩, not_agree_of_absent (Or.inl hconfigured),
      comparable_of_absent (Or.inl hconfigured)⟩)
  by_cases hgiven : given.getD "" = ""
  · have hcheck : check configured given = .error (.refused badToken) := by
      simp only [check, hgiven, String.isEmpty_iff, hconfigured, if_false, if_true]
    exact Or.inr (Or.inl ⟨⟨_, hcheck⟩, not_agree_of_absent (Or.inr hgiven),
      comparable_of_absent (Or.inr hgiven)⟩)
  -- both texts are there, so they are compared
  match configured, given, hconfigured, hgiven with
  | some token, some text, htoken, htext =>
      rw [check_of_present token text htoken htext]
      rcases sameToken_cases text token with ⟨htextAscii, htokenAscii, hsame⟩ | ⟨hforeign, hsame⟩
      · have hcomparable : Comparable (some token) (some text) := by
          rintro _ _ ⟨⟩ ⟨⟩ - -
          exact ⟨htextAscii, htokenAscii⟩
        rw [hsame]
        by_cases heq : text = token
        · subst heq
          rw [beq_self_eq_true]
          exact Or.inl ⟨rfl, ⟨text, htext, rfl, rfl⟩, hcomparable⟩
        · rw [beq_eq_false_iff_ne.mpr heq]
          refine Or.inr (Or.inl ⟨⟨_, rfl⟩, ?_, hcomparable⟩)
          rintro ⟨_, -, ⟨⟩, ⟨⟩⟩
          exact heq rfl
      · rw [hsame]
        exact Or.inr (Or.inr ⟨rfl, fun h => hforeign (h token text rfl rfl htoken htext)⟩)

theorem check_eq_ok :
    check configured given = .ok () ↔ Agree configured given ∧ Comparable configured given := by
  rcases check_cases configured given with ⟨h, hagree, hcomparable⟩ | ⟨⟨_, h⟩, hagree, -⟩ |
    ⟨h, hcomparable⟩
  · exact iff_of_true h ⟨hagree, hcomparable⟩
  · exact iff_of_false (by simp [h]) fun hand => hagree hand.1
  · exact iff_of_false (by simp [h]) fun hand => hcomparable hand.2

theorem check_eq_refused :
    (∃ message, check configured given = .error (.refused (.unauthenticated message))) ↔
      ¬ Agree configured given ∧ Comparable configured given := by
  rcases check_cases configured given with ⟨h, hagree, -⟩ | ⟨h, hagree, hcomparable⟩ |
    ⟨h, hcomparable⟩
  · exact iff_of_false (by simp [h]) fun hand => hand.1 hagree
  · exact iff_of_true h ⟨hagree, hcomparable⟩
  · exact iff_of_false (by simp [h, Failure.wrongType]) fun hand => hcomparable hand.2

theorem check_eq_wrongType :
    check configured given = .error .wrongType ↔ ¬ Comparable configured given := by
  rcases check_cases configured given with ⟨h, -, hcomparable⟩ | ⟨⟨_, h⟩, -, hcomparable⟩ |
    ⟨h, hcomparable⟩
  · exact iff_of_false (by simp [h]) (not_not_intro hcomparable)
  · exact iff_of_false (by simp [h, Failure.wrongType]) (not_not_intro hcomparable)
  · exact iff_of_true h hcomparable

/-- The guard does as it should exactly where the two texts can be compared. -/
theorem upheld_iff : Upheld configured given ↔ Comparable configured given := by
  unfold Upheld
  rw [check_eq_ok, check_eq_refused]
  constructor
  · rintro ⟨hpasses, hrefused⟩
    by_cases hagree : Agree configured given
    · exact (hpasses.mpr hagree).2
    · exact (hrefused hagree).2
  · intro hcomparable
    exact ⟨and_iff_left hcomparable, fun hagree => ⟨hagree, hcomparable⟩⟩

end Http.Guard

/-! ## Requests for a settlement -/

namespace Http

variable {settings : Settings} {now : Moment} {request : Request} {transaction : String}

def Body.isRead : Body → Bool
  | .malformed _ => false
  | .unreadable => false
  | _ => true

theorem withBody_of_isRead (h : request.data.isRead = true) (handler : Body → Script Response) :
    withBody request handler = handler request.data := by
  unfold withBody
  cases hdata : request.data with
  | absent => rfl
  | value j => rfl
  | malformed position =>
      rw [hdata] at h
      cases h
  | unreadable =>
      rw [hdata] at h
      cases h

/-- Any other body is answered before the guard is asked. -/
theorem withBody_of_not_isRead (h : request.data.isRead = false)
    (handler : Body → Script Response) :
    ∃ response, response.status = 400 ∧ withBody request handler = Script.done (.ok response) := by
  unfold withBody
  cases hdata : request.data with
  | malformed position => exact ⟨_, rfl, rfl⟩
  | unreadable => exact ⟨_, rfl, rfl⟩
  | absent =>
      rw [hdata] at h
      cases h
  | value j =>
      rw [hdata] at h
      cases h

/-- Who passes the guard comes to the handler. -/
theorem forAdmin_of_passes
    (h : Guard.check settings.adminToken (request.header? "x-admin-token") = .ok ())
    (handler : Script Response) : forAdmin settings request handler = unitOfWork handler := by
  unfold forAdmin
  rw [h]
  rfl

/-- For nobody else is any statement executed. -/
theorem forAdmin_of_error {e : Failure}
    (h : Guard.check settings.adminToken (request.header? "x-admin-token") = .error e)
    (handler : Script Response) : forAdmin settings request handler = Script.done (.error e) := by
  unfold forAdmin
  rw [h]
  rfl

/-- The response to a handler that ends at once, with or without its body. -/
theorem serve_of_done {l : Ledger} {r : Except Failure Response} {route : Route}
    (hroute : Route.find request.method request.target.segments = .route route)
    (hhandle : handle l.settings l.now request route = Script.done r) {response : Response}
    (hr : r = .ok response ∨ ∃ e, r = .error e ∧ e.isCancellation = false ∧
      response = .ofFailure l.now e) (c : Conditions) :
    ∃ shown, l.serve c request = (.ok shown, l) ∧ shown.status = response.status := by
  have hrespond : respond l.settings l.now request = Script.done (.ok response) := by
    unfold respond
    rw [hroute]
    dsimp only
    rw [hhandle]
    rcases hr with rfl | ⟨e, rfl, he, rfl⟩
    · rfl
    · show (if e.isCancellation then _ else _) = _
      rw [he]
      rfl
  unfold Ledger.serve serve
  rw [hrespond]
  split
  · exact ⟨response.bodiless, rfl, rfl⟩
  · exact ⟨response, rfl, rfl⟩

end Http

namespace Http.Guard

variable {configured given : Option String}

/-- The request is for the settlement of a transaction, and the two tokens are those of the settings
and of its header. -/
structure Concerns (l : Ledger) (request : Request) (transaction : String)
    (configured given : Option String) : Prop where
  route : Route.find request.method request.target.segments = .route (.settle transaction)
  settings : l.settings.adminToken = configured
  header : request.header? "x-admin-token" = given

/-- What becomes of such a request, whatever the conditions are. Who passes comes to the handler in
a unit of work; who does not is answered by a status, and the ledger stays as it is. -/
structure Guards (l : Ledger) (request : Request) (transaction : String)
    (configured given : Option String) : Prop where
  unread : request.data.isRead = false → ∀ c,
    ∃ response, l.serve c request = (.ok response, l) ∧ response.status = 400
  passes : request.data.isRead = true → Agree configured given → Comparable configured given →
    handle l.settings l.now request (.settle transaction) =
      unitOfWork (settleHandler l.now transaction request.data)
  refuses : request.data.isRead = true → ¬ Agree configured given →
    Comparable configured given → ∀ c,
    ∃ response, l.serve c request = (.ok response, l) ∧ response.status = 401
  crashes : request.data.isRead = true → ¬ Comparable configured given → ∀ c,
    ∃ response, l.serve c request = (.ok response, l) ∧ response.status = 500

/-- What the guard decides about the tokens is what becomes of the request. -/
theorem Concerns.guards {l : Ledger} {request : Request} {transaction : String}
    (h : Concerns l request transaction configured given) :
    Guards l request transaction configured given := by
  obtain ⟨hroute, rfl, rfl⟩ := h
  have hhandle : ∀ hdata : request.data.isRead = true,
      handle l.settings l.now request (.settle transaction) =
        forAdmin l.settings request (settleHandler l.now transaction request.data) :=
    fun hdata => withBody_of_isRead hdata _
  refine ⟨fun hdata c => ?_, fun hdata hagree hcomparable => ?_,
    fun hdata hagree hcomparable c => ?_, fun hdata hcomparable c => ?_⟩
  · obtain ⟨response, hstatus, hdone⟩ := withBody_of_not_isRead hdata fun body =>
      forAdmin l.settings request (settleHandler l.now transaction body)
    obtain ⟨shown, hserve, hshown⟩ := serve_of_done hroute hdone (Or.inl rfl) c
    exact ⟨shown, hserve, hshown.trans hstatus⟩
  · rw [hhandle hdata]
    exact forAdmin_of_passes (check_eq_ok.mpr ⟨hagree, hcomparable⟩) _
  · obtain ⟨message, hcheck⟩ := check_eq_refused.mpr ⟨hagree, hcomparable⟩
    exact serve_of_done hroute ((hhandle hdata).trans (forAdmin_of_error hcheck _))
      (Or.inr ⟨_, rfl, rfl, rfl⟩) c
  · exact serve_of_done hroute
      ((hhandle hdata).trans (forAdmin_of_error (check_eq_wrongType.mpr hcomparable) _))
      (Or.inr ⟨_, rfl, rfl, rfl⟩) c

end Http.Guard

/-- **Only the configured token passes**, and the guard does as it should exactly where it can
compare. A request with any other token is refused, or crashes if one of the texts is not ASCII; the
store stays as it is. -/
theorem only_configured_token_passes (configured given : Option String) :
    (Http.Guard.Upheld configured given ↔ Http.Guard.Comparable configured given) ∧
    (Http.Guard.check configured given = .ok () ↔
      Http.Guard.Agree configured given ∧ Http.Guard.Comparable configured given) ∧
    (Http.Guard.check configured given = .error .wrongType ↔
      ¬ Http.Guard.Comparable configured given) ∧
    ∀ l request transaction, Http.Guard.Concerns l request transaction configured given →
      Http.Guard.Guards l request transaction configured given :=
  ⟨Http.Guard.upheld_iff, Http.Guard.check_eq_ok, Http.Guard.check_eq_wrongType,
    fun _ _ _ h => h.guards⟩

/-- A ledger with a pending top-up and a token for the administration. -/
def Ledger.office : Ledger :=
  { Ledger.kiosk with settings := { adminToken := some "open sesame" } }

/-- The approval of the top-up with a token. -/
def Http.Request.approval (token : String) : Request where
  method := "POST"
  target := ⟨["", "api", "v1", "admin", "top-ups", "1", "settle"], []⟩
  headers := [("X-Admin-Token", token)]
  body := some "\x7b\"approved\": true\x7d"

/-- The token lets the approval pass; a part of it does not, and the ledger stays as it is. -/
theorem only_configured_token_passes_office :
    Http.Guard.Concerns .office (.approval "open sesame") "1" (some "open sesame")
        (some "open sesame") ∧
      Http.Guard.check (some "open sesame") (some "open sesame") = .ok () ∧
      Http.handle Ledger.office.settings Ledger.office.now (.approval "open sesame")
          (.settle "1") = unitOfWork (Http.settleHandler Ledger.office.now "1"
            (Http.Request.approval "open sesame").data) ∧
      (Ledger.office.serve .calm (.approval "open sesame")).2.store.balance? 1 = some 15 ∧
      Http.Guard.Concerns .office (.approval "open") "1" (some "open sesame") (some "open") ∧
      ∃ response, Ledger.office.serve .calm (.approval "open") = (.ok response, .office) ∧
        response.status = 401 := by
  have hascii : Http.Guard.AllAscii "open sesame" ∧ Http.Guard.AllAscii "open" :=
    ⟨Http.Guard.isAscii_iff.mp (by decide), Http.Guard.isAscii_iff.mp (by decide)⟩
  have hright : Http.Guard.Concerns .office (.approval "open sesame") "1" (some "open sesame")
      (some "open sesame") := ⟨by decide +kernel, rfl, by decide +kernel⟩
  have hwrong : Http.Guard.Concerns .office (.approval "open") "1" (some "open sesame")
      (some "open") := ⟨by decide +kernel, rfl, by decide +kernel⟩
  have hread : (Http.Request.approval "open sesame").data.isRead = true ∧
      (Http.Request.approval "open").data.isRead = true := ⟨by decide +kernel, by decide +kernel⟩
  have hagree : Http.Guard.Agree (some "open sesame") (some "open sesame") :=
    ⟨_, by decide, rfl, rfl⟩
  have hother : ¬ Http.Guard.Agree (some "open sesame") (some "open") := by
    rintro ⟨_, -, ⟨⟩, h⟩
    exact absurd h (by decide)
  have hsame : Http.Guard.Comparable (some "open sesame") (some "open sesame") := by
    rintro _ _ ⟨⟩ ⟨⟩ - -
    exact ⟨hascii.1, hascii.1⟩
  have hpart : Http.Guard.Comparable (some "open sesame") (some "open") := by
    rintro _ _ ⟨⟩ ⟨⟩ - -
    exact ⟨hascii.2, hascii.1⟩
  obtain ⟨-, hpasses, -, hserved⟩ :=
    only_configured_token_passes (some "open sesame") (some "open sesame")
  exact ⟨hright, hpasses.mpr ⟨hagree, hsame⟩,
    (hserved _ _ _ hright).passes hread.1 hagree hsame, by decide +kernel, hwrong,
    ((only_configured_token_passes _ _).2.2.2 _ _ _ hwrong).refuses hread.2 hother hpart .calm⟩

/-- A wrong token beyond ASCII is not refused, and a right one does not pass: both crash. -/
theorem foreign_token_crashes :
    ¬ Http.Guard.Agree (some "open sesame") (some "sésame") ∧
      Http.Guard.check (some "open sesame") (some "sésame") = .error .wrongType ∧
      (Ledger.office.serve .calm (.approval "sésame")).1.toOption.map (·.status) = some 500 ∧
      Http.Guard.Agree (some "sésame") (some "sésame") ∧
      Http.Guard.check (some "sésame") (some "sésame") = .error .wrongType := by
  refine ⟨?_, by decide, by decide +kernel, ⟨_, by decide, rfl, rfl⟩, by decide⟩
  rintro ⟨_, -, ⟨⟩, h⟩
  exact absurd h (by decide)

end Scrip
