import Scrip.Http.Server
import Scrip.Proofs.Bearer
import Scrip.Proofs.Work.Calm
import Mathlib.Data.List.Nodup
set_option autoImplicit false

/-! # Callers

Who is let in by a header and the table of logins: the account of the login that has exactly the
credential that the header carries, as long as it was used after the cutoff. There is no other way
in, and whoever is refused has no handler run for them. Since nothing else is looked at, the logins
of others make no difference, and time makes a refusal only more certain.
-/

namespace Scrip

open Script

/-! ## Logins -/

namespace Store

variable {s s' : Store} {sid : String} {after after' : Moment} {account : Int}

/-- Credentials are unique, so the first login with a credential is the only one. -/
theorem login?_eq_some (hsids : (s.logins.map (·.sid)).Nodup) :
    s.login? sid after = some account ↔ ∃ login ∈ s.logins,
      login.sid = sid ∧ login.account = account ∧ after < login.lastActiveAt := by
  rw [login?, Option.map_eq_some_iff]
  constructor
  · rintro ⟨login, hfound, haccount⟩
    have htests := List.find?_some hfound
    simp only [Bool.and_eq_true, beq_iff_eq, decide_eq_true_eq] at htests
    exact ⟨login, List.mem_of_find?_eq_some hfound, htests.1, haccount, htests.2⟩
  · rintro ⟨login, hlogin, hsid, haccount, hlive⟩
    cases hfound : s.logins.find? fun l => l.sid == sid && decide (after < l.lastActiveAt) with
    | none =>
        have hnot := List.find?_eq_none.mp hfound login hlogin
        simp [hsid, hlive] at hnot
    | some other =>
        have htests := List.find?_some hfound
        simp only [Bool.and_eq_true, beq_iff_eq, decide_eq_true_eq] at htests
        -- the search may stop at another login, but not at one with another credential
        obtain rfl : other = login := List.inj_on_of_nodup_map hsids
          (List.mem_of_find?_eq_some hfound) hlogin (htests.1.trans hsid.symm)
        exact ⟨other, rfl, haccount⟩

/-- Only the logins with the credential itself are looked at. -/
theorem login?_congr
    (h : s'.logins.filter (·.sid == sid) = s.logins.filter (·.sid == sid)) (after : Moment) :
    s'.login? sid after = s.login? sid after := by
  have hfilter : ∀ s : Store, s.login? sid after =
      ((s.logins.filter (·.sid == sid)).find? fun l => decide (after < l.lastActiveAt)).map
        (·.account) := fun s => by
    simp only [login?, List.find?_filter, Bool.decide_and, Bool.decide_eq_true]
  rw [hfilter, hfilter, h]

theorem login?_eq_none_of_le (hle : after ≤ after') (h : s.login? sid after = none) :
    s.login? sid after' = none := by
  rw [login?, Option.map_eq_none_iff, List.find?_eq_none] at h ⊢
  intro login hlogin
  have hnot := h login hlogin
  simp only [Bool.and_eq_true, beq_iff_eq, decide_eq_true_eq, not_and] at hnot ⊢
  exact fun hsid hlive => hnot hsid (Int.lt_of_le_of_lt hle hlive)

end Store

/-! ## The decision -/

namespace Identity

variable {s s' : Store} {ttlSeconds : Int} {now now' : Moment} {header : Option String}

/-- Who a header names in a store, used after a moment; without anybody the refusal. -/
def named (s : Store) (after : Moment) (header : Option String) : Except Refusal Caller :=
  match Bearer.extract header with
  | .error r => .error r
  | .ok sid =>
    match s.login? sid after with
    | some account => .ok ⟨account, sid⟩
    | none => .error unknown

/-- The three ways in which a header and the table of logins can meet. -/
theorem named_cases (s : Store) (after : Moment) (header : Option String) :
    (∃ r, Bearer.extract header = .error r ∧ named s after header = .error r) ∨
    (∃ sid, Bearer.extract header = .ok sid ∧ s.login? sid after = none ∧
      named s after header = .error unknown) ∨
    ∃ sid account, Bearer.extract header = .ok sid ∧ s.login? sid after = some account ∧
      named s after header = .ok ⟨account, sid⟩ := by
  unfold named
  cases Bearer.extract header with
  | error r => exact Or.inl ⟨r, rfl, rfl⟩
  | ok sid =>
      cases hlogin : s.login? sid after with
      | none => exact Or.inr (Or.inl ⟨sid, rfl, hlogin, by simp only [hlogin]⟩)
      | some account => exact Or.inr (Or.inr ⟨sid, account, rfl, hlogin, by simp only [hlogin]⟩)

/-- Undisturbed, the header and the table of logins decide. -/
theorem calm_authenticate
    (h : Moment.isRepresentable (now - ttlSeconds * Moment.second) = true) (s : Store)
    (header : Option String) :
    (authenticate ttlSeconds now header).Calm ⟨s, []⟩
      ((named s (now - ttlSeconds * Moment.second) header).mapError .refused) ⟨s, []⟩ := by
  have hcutoff : cutoff now ttlSeconds = .ok (now - ttlSeconds * Moment.second) := by
    simp [cutoff, h]
  have hresolve : ∀ sid, (resolve ttlSeconds now sid).Calm ⟨s, []⟩
      (match s.login? sid (now - ttlSeconds * Moment.second) with
        | some account => .ok ⟨account, sid⟩
        | none => .error (.refused unknown)) ⟨s, []⟩ := by
    intro sid
    unfold resolve
    rw [hcutoff]
    refine calm_bind (calm_done _) (calm_bind (calm_read rfl rfl) ?_)
    rw [show Standing.view ⟨s, []⟩ = s from rfl]
    cases s.login? sid (now - ttlSeconds * Moment.second) <;> exact calm_done _
  unfold authenticate
  rcases named_cases s (now - ttlSeconds * Moment.second) header with
    ⟨r, hextract, hnamed⟩ | ⟨sid, hextract, hlogin, hnamed⟩ |
    ⟨sid, account, hextract, hlogin, hnamed⟩
  · rw [hextract, hnamed]
    exact calm_done _
  · have hsid := hresolve sid
    rw [hlogin] at hsid
    rw [hextract, hnamed]
    exact calm_bind (calm_done _) hsid
  · have hsid := hresolve sid
    rw [hlogin] at hsid
    rw [hextract, hnamed]
    exact calm_bind (calm_done _) hsid

/-- What the header and the table of logins come to. -/
def outcome (s : Store) (ttlSeconds : Int) (now : Moment) (header : Option String) :
    Except Failure Caller :=
  ((authenticate ttlSeconds now header).run .calm (Session.start s)).1

theorem outcome_eq (h : Moment.isRepresentable (now - ttlSeconds * Moment.second) = true) :
    outcome s ttlSeconds now header =
      (named s (now - ttlSeconds * Moment.second) header).mapError .refused :=
  (calm_authenticate h s header (Session.start s) rfl).1

/-- Telling the caller ends in the outcome and changes nothing, also when the cutoff is out of the
calendar. -/
theorem calm_outcome (s : Store) (ttlSeconds : Int) (now : Moment) (header : Option String) :
    (authenticate ttlSeconds now header).Calm ⟨s, []⟩ (outcome s ttlSeconds now header)
      ⟨s, []⟩ := by
  by_cases h : Moment.isRepresentable (now - ttlSeconds * Moment.second) = true
  · rw [outcome_eq h]
    exact calm_authenticate h s header
  · -- the cutoff fails, but not before the header was parsed
    have hcutoff : cutoff now ttlSeconds = .error .dateOutOfRange := by
      simp [cutoff, h]
    have hends : ∃ r, (authenticate ttlSeconds now header).Calm ⟨s, []⟩ r ⟨s, []⟩ := by
      unfold authenticate
      cases Bearer.extract header with
      | error r => exact ⟨_, calm_bind_error (calm_done _)⟩
      | ok sid =>
          refine ⟨.error .dateOutOfRange, calm_bind (calm_done _) ?_⟩
          unfold resolve
          rw [hcutoff]
          exact calm_bind_error (calm_done _)
    obtain ⟨r, hr⟩ := hends
    have hresult : outcome s ttlSeconds now header = r := (hr (Session.start s) rfl).1
    rwa [hresult]

/-- The header carries the credential of the caller, and the account of the caller has a login with
exactly this credential that was used within the time to live. -/
def Admits (s : Store) (ttlSeconds : Int) (now : Moment) (header : Option String)
    (caller : Caller) : Prop :=
  Bearer.CarriesIn header caller.credential ∧ ∃ login ∈ s.logins,
    login.sid = caller.credential ∧ login.account = caller.account ∧
      now - ttlSeconds * Moment.second < login.lastActiveAt

theorem named_eq_ok (hsids : (s.logins.map (·.sid)).Nodup) {caller : Caller} :
    named s (now - ttlSeconds * Moment.second) header = .ok caller ↔
      Admits s ttlSeconds now header caller := by
  obtain ⟨account, sid⟩ := caller
  unfold Admits
  rw [← Bearer.extract_eq_ok, ← Store.login?_eq_some hsids]
  rcases named_cases s (now - ttlSeconds * Moment.second) header with
    ⟨r, hextract, hnamed⟩ | ⟨sid', hextract, hlogin, hnamed⟩ |
    ⟨sid', account', hextract, hlogin, hnamed⟩
  · simp [hextract, hnamed]
  · rw [hextract, hnamed]
    constructor
    · intro h
      cases h
    · rintro ⟨hsid, h⟩
      obtain rfl := Except.ok.inj hsid
      cases hlogin.symm.trans h
  · rw [hextract, hnamed]
    constructor
    · intro h
      obtain ⟨rfl, rfl⟩ := Caller.mk.inj (Except.ok.inj h)
      exact ⟨rfl, hlogin⟩
    · rintro ⟨hsid, h⟩
      obtain rfl := Except.ok.inj hsid
      obtain rfl := Option.some.inj (hlogin.symm.trans h)
      rfl

theorem named_error {after : Moment} {r : Refusal} (h : named s after header = .error r) :
    ∃ message, r = .unauthenticated message := by
  rcases named_cases s after header with
    ⟨r', hextract, hnamed⟩ | ⟨sid, -, -, hnamed⟩ | ⟨sid, account, -, -, hnamed⟩
  · obtain rfl := Except.error.inj (hnamed.symm.trans h)
    exact Bearer.extract_error hextract
  · exact ⟨_, (Except.error.inj (hnamed.symm.trans h)).symm⟩
  · cases hnamed.symm.trans h

/-- Two stores have the same logins with the credential of a header. -/
def SameLogins (header : Option String) (s s' : Store) : Prop :=
  ∀ sid, Bearer.CarriesIn header sid →
    s'.logins.filter (·.sid == sid) = s.logins.filter (·.sid == sid)

theorem SameLogins.named (h : SameLogins header s s') (after : Moment) :
    Identity.named s' after header = Identity.named s after header := by
  unfold Identity.named
  cases hextract : Bearer.extract header with
  | error r => rfl
  | ok sid => simp only [Store.login?_congr (h sid (Bearer.extract_eq_ok.mp hextract))]

/-- Who is refused is refused later, too. -/
theorem named_later {after after' : Moment} (hle : after ≤ after') {r : Refusal}
    (h : named s after header = .error r) : ∃ r', named s after' header = .error r' := by
  rcases named_cases s after' header with
    ⟨r', -, hnamed'⟩ | ⟨sid, -, -, hnamed'⟩ | ⟨sid, account, hextract, hlogin', -⟩
  · exact ⟨r', hnamed'⟩
  · exact ⟨_, hnamed'⟩
  · rcases named_cases s after header with
      ⟨r', hextract', -⟩ | ⟨sid', hextract', hlogin, -⟩ | ⟨sid', account', -, -, hnamed⟩
    · cases hextract.symm.trans hextract'
    · obtain rfl := Except.ok.inj (hextract.symm.trans hextract')
      cases (Store.login?_eq_none_of_le hle hlogin).symm.trans hlogin'
    · cases hnamed.symm.trans h

end Identity

/-! ## Handlers -/

namespace Http

/-- A request is refused for want of a caller: in the same way whatever its handler is, and the
store stays as it is. -/
def Refuses (settings : Settings) (now : Moment) (request : Request) (s : Store) : Prop :=
  ∃ message last, last.committed = s ∧ ∀ handler,
    (forCaller settings now request handler).run .calm (Session.start s) =
      (.error (.refused (.unauthenticated message)), last)

/-- Whoever is not named by the header gets no further. -/
theorem refuses_of_named {settings : Settings} {now : Moment} {request : Request} {s : Store}
    (hcutoff : Moment.isRepresentable
      (now - settings.sessionTtlSeconds * Moment.second) = true) {r : Refusal}
    (h : Identity.named s (now - settings.sessionTtlSeconds * Moment.second)
      (request.header? "authorization") = .error r) : Refuses settings now request s := by
  obtain ⟨message, rfl⟩ := Identity.named_error h
  have hrefused := Identity.calm_authenticate hcutoff s (request.header? "authorization")
  rw [h] at hrefused
  -- how the unit of work ends is known for each handler; that the sessions are the same is not
  have hunit : ∀ handler, (forCaller settings now request handler).Calm ⟨s, []⟩
      (.error (.refused (.unauthenticated message))) ⟨s, []⟩ := fun handler =>
    calm_unitOfWork (calm_bind_error hrefused)
  have hsame : ∀ handler handler',
      (forCaller settings now request handler).run .calm (Session.start s) =
        (forCaller settings now request handler').run .calm (Session.start s) := by
    intro handler handler'
    refine run_unitOfWork_of_error handler handler' fun st' hconnect => ?_
    have hconnects : (exec .connect).Calm ⟨s, []⟩ (.ok ()) ⟨s, []⟩ := calm_exec rfl
    have hstanding : st'.standing = ⟨s, []⟩ := by
      have hcalm := (hconnects (Session.start s) rfl).2
      rw [hconnect] at hcalm
      exact hcalm
    exact ⟨_, (hrefused st' hstanding).1⟩
  have hends := hunit (fun _ => refuse .purchaseFailed) (Session.start s) rfl
  refine ⟨message, _, congrArg Standing.store hends.2, fun handler => ?_⟩
  rw [hsame handler fun _ => refuse .purchaseFailed]
  exact Prod.ext hends.1 rfl

end Http

/-! ## Who is let in -/

/-- What decides about a header: the login with the credential that it carries, and nothing else. -/
structure Identity.Decides (s : Store) (ttlSeconds : Int) (now : Moment)
    (header : Option String) : Prop where
  admits : ∀ caller, outcome s ttlSeconds now header = .ok caller ↔
    Admits s ttlSeconds now header caller
  refuses : (∀ caller, ¬ Admits s ttlSeconds now header caller) →
    (∃ message, outcome s ttlSeconds now header = .error (.refused (.unauthenticated message))) ∧
      ∀ settings request, settings.sessionTtlSeconds = ttlSeconds →
        Http.Request.header? request "authorization" = header →
          Http.Refuses settings now request s
  others : ∀ s', SameLogins header s s' →
    outcome s' ttlSeconds now header = outcome s ttlSeconds now header
  later : (∀ caller, ¬ Admits s ttlSeconds now header caller) → ∀ s' now', SameLogins header s s' →
    now ≤ now' → Moment.isRepresentable (now' - ttlSeconds * Moment.second) = true →
      ∃ message, outcome s' ttlSeconds now' header = .error (.refused (.unauthenticated message))

/-- **Only live sessions are let in**, and by their own credentials. -/
theorem only_live_sessions_are_admitted {s : Store} {ttlSeconds : Int} {now : Moment}
    (hsids : (s.logins.map (·.sid)).Nodup)
    (hcutoff : Moment.isRepresentable (now - ttlSeconds * Moment.second) = true)
    (header : Option String) : Identity.Decides s ttlSeconds now header := by
  have hnamed : (∀ caller, ¬ Identity.Admits s ttlSeconds now header caller) →
      ∃ message, Identity.named s (now - ttlSeconds * Moment.second) header =
        .error (.unauthenticated message) := by
    intro hnobody
    cases h : Identity.named s (now - ttlSeconds * Moment.second) header with
    | ok caller => exact absurd ((Identity.named_eq_ok hsids).mp h) (hnobody caller)
    | error r =>
        obtain ⟨message, rfl⟩ := Identity.named_error h
        exact ⟨message, rfl⟩
  refine ⟨fun caller => ?_, fun hnobody => ?_, fun s' hs' => ?_, ?_⟩
  · rw [Identity.outcome_eq hcutoff, ← Identity.named_eq_ok hsids]
    exact Failure.mapError_eq_ok
  · obtain ⟨message, hmessage⟩ := hnamed hnobody
    refine ⟨⟨message, ?_⟩, ?_⟩
    · rw [Identity.outcome_eq hcutoff, hmessage]
      rfl
    · rintro settings request rfl rfl
      exact Http.refuses_of_named hcutoff hmessage
  · rw [Identity.outcome_eq hcutoff, Identity.outcome_eq hcutoff, hs'.named]
  · intro hnobody s' now' hs' hnow hcutoff'
    obtain ⟨message, hmessage⟩ := hnamed hnobody
    -- a later clock moves the cutoff forward, and so leaves fewer logins live
    have hle : now - ttlSeconds * Moment.second ≤ now' - ttlSeconds * Moment.second :=
      Int.sub_le_sub_right hnow _
    obtain ⟨r, hr⟩ := Identity.named_later hle hmessage
    obtain ⟨message', rfl⟩ := Identity.named_error hr
    refine ⟨message', ?_⟩
    rw [Identity.outcome_eq hcutoff', hs'.named, hr]
    rfl

/-- Two logins whose credentials differ in the case of a letter only; one of them is old. -/
def Store.lobby : Store where
  logins := [⟨"Key", 1, 90 * Moment.second⟩, ⟨"key", 2, 40 * Moment.second⟩]

/-- The recent login is let in, and the old one is not. -/
theorem only_live_sessions_are_admitted_lobby :
    (Store.lobby.logins.map (·.sid)).Nodup ∧
      Moment.isRepresentable (100 * Moment.second - 30 * Moment.second) = true ∧
      Identity.outcome .lobby 30 (100 * Moment.second) (some " bEARER  Key ") = .ok ⟨1, "Key"⟩ ∧
      ∃ message, Identity.outcome .lobby 30 (100 * Moment.second) (some "Bearer key") =
        .error (.refused (.unauthenticated message)) := by
  have hsids : (Store.lobby.logins.map (·.sid)).Nodup := by decide
  have hcutoff : Moment.isRepresentable (100 * Moment.second - 30 * Moment.second) = true := by
    decide
  refine ⟨hsids, hcutoff, ?_, ?_⟩
  · refine ((only_live_sessions_are_admitted hsids hcutoff _).admits ⟨1, "Key"⟩).mpr ⟨?_, ?_⟩
    · exact Bearer.extract_eq_ok.mp (by decide)
    · exact ⟨⟨"Key", 1, 90 * Moment.second⟩, List.mem_cons_self, rfl, rfl, by decide⟩
  · refine ((only_live_sessions_are_admitted hsids hcutoff _).refuses ?_).1
    rintro caller ⟨hcarries, login, hlogin, hsid, -, hlive⟩
    have hkey : Bearer.CarriesIn (some "Bearer key") "key" :=
      Bearer.extract_eq_ok.mp (by decide)
    rw [hcarries.unique hkey] at hsid
    rcases List.mem_cons.mp hlogin with rfl | hlogin
    · exact absurd hsid (by decide)
    · obtain rfl := List.mem_singleton.mp hlogin
      exact absurd hlive (by decide)

end Scrip
