import Scrip.Proofs.Http.Callers
import Scrip.Proofs.Money.Exact
import Scrip.Proofs.Request.Amount
import Scrip.Proofs.Request.Body
import Scrip.Proofs.Service.Calm
import Scrip.Proofs.Service.TopUps
set_option autoImplicit false

/-! # Top-ups, from the body to the ledger

The amount of an accepted request for a top-up is a number of cents, and the conversion gives
exactly these: at most twelve digits are far from what arithmetic rounds. If the cents reach the
minimum and buy a credit, one pending row is recorded with them, and the answer spells the same
amount; if not, the request is refused and nothing changes.
-/

namespace Scrip

open Script

/-! ## What a body says -/

namespace TopUpRequest

variable {fields : List (String × Json)} {data : TopUpRequest}

/-- What the fields of a body say of a request: the amount stands for that of the request, and the
texts are those of the request once they are trimmed. -/
structure IsIn (data : TopUpRequest) (fields : List (String × Json)) : Prop where
  amount : ∃ j, Json.lookup fields "amount" = some j ∧ j.Denotes data.amount.value
  method : ∃ s, Json.lookup fields "method" = some (.text s) ∧
    data.method = Blank.trimText s ∧ data.method ≠ ""
  reference : (data.reference = none ∧ (Json.lookup fields "reference" = none ∨
      Json.lookup fields "reference" = some .null)) ∨
    ∃ s, Json.lookup fields "reference" = some (.text s) ∧
      data.reference = if Blank.trimText s = "" then none else some (Blank.trimText s)

theorem amount_of_ofFields (h : ofFields fields = .ok data) :
    ∃ j, Json.lookup fields "amount" = some j ∧ Field.amount j = .ok data.amount := by
  obtain ⟨f, reference, hf, -, rfl⟩ := Field.both_eq_ok.mp h
  obtain ⟨amount, method, hamount, -, rfl⟩ := Field.both_eq_ok.mp hf
  exact Field.check_eq_ok.mp hamount

/-- An accepted request says what the body says. -/
theorem isIn_of_ofFields (h : ofFields fields = .ok data) : data.IsIn fields := by
  obtain ⟨j, hj, hamount⟩ := amount_of_ofFields h
  obtain ⟨f, reference, hf, hreference, rfl⟩ := Field.both_eq_ok.mp h
  obtain ⟨amount, method, -, hmethod, rfl⟩ := Field.both_eq_ok.mp hf
  refine ⟨⟨j, hj, (Field.amount_eq_ok hamount).1⟩, ?_, ?_⟩
  · obtain ⟨j, hj, hrule⟩ := Field.check_eq_ok.mp hmethod
    obtain ⟨s, hs, htrimmed, hblank⟩ := methodRule_eq_ok.mp hrule
    obtain ⟨rfl, -⟩ := Field.textUpTo_eq_ok.mp hs
    exact ⟨s, hj, htrimmed, hblank⟩
  · rcases Field.checkOr_eq_ok.mp hreference with ⟨hnone, rfl⟩ | ⟨j, hj, hrule⟩
    · exact Or.inl ⟨rfl, Or.inl hnone⟩
    · rcases referenceRule_eq_ok.mp hrule with ⟨rfl, rfl⟩ | ⟨s, hs, rfl⟩
      · exact Or.inl ⟨rfl, Or.inr hj⟩
      · obtain ⟨rfl, -⟩ := Field.textUpTo_eq_ok.mp hs
        exact Or.inr ⟨s, hj, rfl⟩

/-- A number of cents is accepted beside a valid method and a valid reference, or none. -/
theorem ofFields_of_denotes {j : Json} {c : Nat} {method : String} {reference : Option String}
    (hj : Json.lookup fields "amount" = some j) (hc : 0 < c) (hlt : c < 10 ^ 12)
    (h : j.Denotes (c / 100)) (hmethod : Field.check fields "method" methodRule = .ok method)
    (hreference : Field.checkOr fields "reference" none referenceRule = .ok reference) :
    ∃ amount : Decimal, ofFields fields = .ok ⟨amount, method, reference⟩ ∧
      amount.value = c / 100 := by
  obtain ⟨amount, hamount, hvalue⟩ := Field.amount_of_denotes hc hlt h
  have hchecked : Field.check fields "amount" Field.amount = .ok amount :=
    Field.check_eq_ok.mpr ⟨j, hj, hamount⟩
  exact ⟨amount, Field.both_eq_ok.mpr ⟨_, _, Field.both_eq_ok.mpr ⟨_, _, hchecked, hmethod, rfl⟩,
    hreference, rfl⟩, hvalue⟩

end TopUpRequest

/-! ## What a number of cents buys -/

/-- The cents of an amount that is a number of cents are these. -/
theorem Money.cents_of_value {d : Decimal} {c : Nat} (hc : 0 < c) (hlt : c < 10 ^ 12)
    (h : d.value = c / 100) : cents (.finite d) = .ok c := by
  obtain ⟨m, k, hfits⟩ := Decimal.fits_of_cents hc hlt h
  have hdigits : Digit.count c ≤ 12 := (Digit.count_le_iff (by decide)).mpr hlt
  have hkept : (d.scale 100).IsKept := by
    have hplace := Decimal.count_add_exponent_of_cents hc h
    have hcount := hfits.count
    have hpower : Decimal.greatestPower = 999999 := rfl
    exact Or.inr ⟨m, k + 2, hfits.scale_hundred (by omega)⟩
  refine (cents_eq_ok_iff_of_isKept hkept).mpr ⟨?_, ?_⟩
  · rw [h]
    push_cast
    ring
  · rw [Int.natAbs_natCast]
    exact hdigits.trans (by decide)

namespace TopUps

variable {settings : Settings} {amount : Amount} {c : Nat}

/-- The cents reach the minimum and buy a credit. -/
def IsEnough (settings : Settings) (c : Nat) : Prop :=
  settings.minimumTopupAmount * 100 ≤ c ∧ 1 ≤ c * settings.creditsPerUnit / 100

theorem credits_eq (c rate : Int) : Money.credits c rate = c * rate / 100 :=
  Int.fdiv_eq_ediv_of_nonneg _ (by decide)

theorem quote_of_enough (hcents : Money.cents amount = .ok (c : Int))
    (h : IsEnough settings c) :
    quote settings amount = .ok (c, c * settings.creditsPerUnit / 100) := by
  refine quote_eq_ok_iff.mpr ⟨hcents, h.1, (credits_eq _ _).symm, ?_⟩
  have := h.2
  omega

/-- Cents that are not enough are refused for it. -/
theorem quote_of_not_enough (hcents : Money.cents amount = .ok (c : Int))
    (h : ¬ IsEnough settings c) :
    ∃ message, quote settings amount = .error (.refused (.invalidAmount message)) := by
  -- the minimum is checked before the credits
  have hquote : quote settings amount =
      (Money.requireMinimum c settings.minimumTopupAmount).mapError .refused >>= fun _ =>
        if Money.credits c settings.creditsPerUnit ≤ 0 then .error (.refused Money.buysNothing)
        else .ok ((c : Int), Money.credits c settings.creditsPerUnit) := by
    rw [quote, hcents]
    rfl
  rw [hquote]
  by_cases hminimum : (c : Int) < settings.minimumTopupAmount * 100
  · have hrefused : Money.requireMinimum c settings.minimumTopupAmount =
        .error (Money.belowMinimum settings.minimumTopupAmount) := if_pos hminimum
    rw [hrefused]
    exact ⟨_, rfl⟩
  · have haccepted : Money.requireMinimum c settings.minimumTopupAmount = .ok () :=
      if_neg hminimum
    have hcredits : Money.credits c settings.creditsPerUnit ≤ 0 := by
      rw [credits_eq]
      by_contra hpositive
      exact h ⟨by omega, by omega⟩
    rw [haccepted]
    exact ⟨_, if_pos hcredits⟩

end TopUps

/-! ## The whole request -/

/-- A request with valid data from a caller who is let in. -/
structure Ledger.Receives (l : Ledger) (request : Http.Request) (data : TopUpRequest)
    (caller : Identity.Caller) : Prop where
  data : Http.Data.ofBody TopUpRequest.ofFields request.data = .ok data
  caller : Identity.outcome l.store l.settings.sessionTtlSeconds l.now
    (request.header? "authorization") = .ok caller

def Ledger.topUp (l : Ledger) (request : Http.Request) : Except Failure Http.Response × Ledger :=
  l.run .calm (Http.handle l.settings l.now request .topUp)

/-- The row of a top-up over some cents. -/
def Ledger.topUpRow (l : Ledger) (data : TopUpRequest) (caller : Identity.Caller) (c : Nat) :
    Transaction :=
  (Journal.topUpDraft caller.account (c * l.settings.creditsPerUnit / 100) c data.method
    data.reference l.now).row l.store.newId

variable {l : Ledger} {request : Http.Request} {data : TopUpRequest} {caller : Identity.Caller}
  {c : Nat}

/-- The request comes to its handler. -/
theorem Ledger.Receives.calm_handle (h : l.Receives request data caller)
    {r : Except Failure Http.Response} {b : Standing}
    (hhandler : (do
      let t ← TopUps.request l.settings l.now caller.account (.finite data.amount) data.method
        data.reference
      ofExcept (Http.topUpAnswer t)).Calm ⟨l.store, []⟩ r b) :
    (Http.handle l.settings l.now request .topUp).Calm ⟨l.store, []⟩
      (r.mapError Failure.atEnd) ⟨b.store, []⟩ := by
  obtain ⟨fields, hbody, hfields⟩ := Http.Data.ofBody_eq_ok.mp h.data
  have hcaller := Identity.calm_outcome l.store l.settings.sessionTtlSeconds l.now
    (request.header? "authorization")
  rw [h.caller] at hcaller
  have hdata := h.data
  -- the body is read first, then the caller is looked up in the unit of work
  show (Http.withBody request _).Calm _ _ _
  unfold Http.withBody
  rw [hbody] at hdata ⊢
  refine calm_unitOfWork (calm_bind hcaller ?_)
  unfold Http.topUpHandler
  rw [hdata]
  exact hhandler

/-- Enough cents are recorded in one row, and the answer spells them. -/
theorem Ledger.Receives.recorded (h : l.Receives request data caller)
    (hcents : Money.cents (.finite data.amount) = .ok (c : Int))
    (henough : TopUps.IsEnough l.settings c) :
    ∃ response text, l.topUp request =
      (.ok response, { l with store :=
        { l.store with transactions := l.store.transactions ++ [l.topUpRow data caller c] } }) ∧
      response.body.bind (·.field? "real_amount") = some (.text text) ∧
      Amount.Spells text (c / 100) := by
  have hquote := TopUps.quote_of_enough hcents henough
  obtain ⟨text, htext, hspells⟩ := Money.display_spells (c := c) (Money.count_of_cents hcents)
  have hanswer : ∃ response, Http.topUpAnswer (l.topUpRow data caller c) = .ok response ∧
      response.body.bind (·.field? "real_amount") = some (.text text) :=
    ⟨_, Failure.bind_eq_ok.mpr ⟨text, htext, rfl⟩, by
      simp [Http.Response.success, Http.Response.json, Json.field?, Json.lookup]⟩
  obtain ⟨response, hanswer, hfield⟩ := hanswer
  have hrow : (ofExcept (Http.topUpAnswer (l.topUpRow data caller c))).Calm
      ⟨l.store.apply (.append (l.topUpRow data caller c)), []⟩ (.ok response)
      ⟨l.store.apply (.append (l.topUpRow data caller c)), []⟩ := by
    rw [hanswer]
    exact calm_done _
  have hhandle := h.calm_handle (calm_bind (TopUps.calm_request_recorded hquote data.method
    data.reference) hrow)
  exact ⟨response, text, Ledger.run_calm hhandle, hfield, hspells⟩

/-- What is not enough is refused, and nothing changes. -/
theorem Ledger.Receives.refused (h : l.Receives request data caller) {message : String}
    (hquote : TopUps.quote l.settings (.finite data.amount) =
      .error (.refused (.invalidAmount message))) :
    l.topUp request = (.error (.refused (.invalidAmount message)), l) := by
  have hhandle := h.calm_handle (calm_bind_error
    (TopUps.calm_request_refused hquote data.method data.reference))
  exact Ledger.run_calm hhandle

/-! ## Exactness -/

/-- Whole units buy their number times the rate. -/
theorem Ledger.topUpRow_of_units (l : Ledger) (data : TopUpRequest) (caller : Identity.Caller)
    {units : Int} (h : (c : Int) = 100 * units) :
    (l.topUpRow data caller c).amount = units * l.settings.creditsPerUnit := by
  calc (l.topUpRow data caller c).amount = (c : Int) * l.settings.creditsPerUnit / 100 := rfl
    _ = 100 * (units * l.settings.creditsPerUnit) / 100 := by rw [h, mul_assoc]
    _ = units * l.settings.creditsPerUnit := Int.mul_ediv_cancel_left _ (by decide)

def Ledger.rates (l : Ledger) : Money.Rates :=
  ⟨l.settings.creditsPerUnit, l.settings.minimumTopupAmount, l.settings.currency⟩

namespace TopUpRequest

variable {fields : List (String × Json)}

/-- What becomes of a request over some cents: they are those of its amount, and if they are enough
one pending row is recorded with them and the answer spells them; if not, the request is refused.
Whole units buy what the table of rates says. -/
structure IsFor (data : TopUpRequest) (c : Nat) : Prop where
  pos : 0 < c
  lt : c < 10 ^ 12
  cents : Money.cents (.finite data.amount) = .ok (c : Int)
  recorded : ∀ (l : Ledger) request caller, l.Receives request data caller →
    TopUps.IsEnough l.settings c → ∃ response text, l.topUp request =
      (.ok response, { l with store :=
        { l.store with transactions := l.store.transactions ++ [l.topUpRow data caller c] } }) ∧
      response.body.bind (·.field? "real_amount") = some (.text text) ∧
      Amount.Spells text (c / 100)
  refused : ∀ (l : Ledger) request caller, l.Receives request data caller →
    ¬ TopUps.IsEnough l.settings c → ∃ message, l.topUp request =
      (.error (.refused (.invalidAmount message)), l)
  units : ∀ (l : Ledger) caller (units : Int), (c : Int) = 100 * units →
    (l.topUpRow data caller c).amount = units * l.settings.creditsPerUnit
  samples : ∀ (l : Ledger) caller, ∀ sample ∈ l.rates.samples, (c : Int) = 100 * sample.1 →
    (l.topUpRow data caller c).amount = sample.2

/-- A request over a number of cents is one for these cents. -/
theorem isFor_of_value (hc : 0 < c) (hlt : c < 10 ^ 12) (h : data.amount.value = c / 100) :
    data.IsFor c := by
  have hcents := Money.cents_of_value hc hlt h
  constructor
  case pos => exact hc
  case lt => exact hlt
  case cents => exact hcents
  case recorded => exact fun _ _ _ hreceives => hreceives.recorded hcents
  case refused =>
    intro l request caller hreceives hnot
    obtain ⟨message, hquote⟩ := TopUps.quote_of_not_enough hcents hnot
    exact ⟨message, hreceives.refused hquote⟩
  case units => exact fun l caller _ hunits => l.topUpRow_of_units data caller hunits
  case samples =>
    intro l caller sample hsample hunits
    obtain ⟨units, -, rfl⟩ := List.mem_map.mp hsample
    exact l.topUpRow_of_units data caller hunits

end TopUpRequest

/-- **Top-ups are exact**, from the body to the ledger. The amount of an accepted request is a
number of cents, and the request one for these cents. Conversely every number of cents with at most
twelve digits is accepted, however it is written. -/
theorem topUps_are_exact (fields : List (String × Json)) :
    (∀ data, TopUpRequest.ofFields fields = .ok data →
      data.IsIn fields ∧ ∃ c : Nat, data.amount.value = c / 100 ∧ data.IsFor c) ∧
    ∀ j method reference (c : Nat), Json.lookup fields "amount" = some j →
      0 < c → c < 10 ^ 12 → j.Denotes (c / 100) →
      Field.check fields "method" TopUpRequest.methodRule = .ok method →
      Field.checkOr fields "reference" none TopUpRequest.referenceRule = .ok reference →
      ∃ amount : Decimal, TopUpRequest.ofFields fields = .ok ⟨amount, method, reference⟩ ∧
        amount.value = c / 100 ∧ TopUpRequest.IsFor ⟨amount, method, reference⟩ c := by
  constructor
  · intro data h
    obtain ⟨j, -, hamount⟩ := TopUpRequest.amount_of_ofFields h
    obtain ⟨-, c, hc, hlt, hvalue⟩ := Field.amount_eq_ok hamount
    exact ⟨TopUpRequest.isIn_of_ofFields h, c, hvalue, TopUpRequest.isFor_of_value hc hlt hvalue⟩
  · intro j method reference c hj hc hlt hdenotes hmethod hreference
    obtain ⟨amount, hfields, hvalue⟩ :=
      TopUpRequest.ofFields_of_denotes hj hc hlt hdenotes hmethod hreference
    exact ⟨amount, hfields, hvalue, TopUpRequest.isFor_of_value hc hlt hvalue⟩

/-- A caller, and one unit as the minimum. -/
def Ledger.till : Ledger where
  store := { accounts := [⟨1, 0⟩], logins := [⟨"key", 1, 0⟩] }
  settings := {}
  now := 0

/-- Twelve and a half units, with zeros and blanks around them. -/
def Http.Request.twelveAndAHalf : Request where
  method := "POST"
  target := ⟨["", "api", "v1", "credits", "top-up"], []⟩
  headers := [("Authorization", "Bearer key")]
  body := some "\x7b\"amount\": \" +012.500e0 \", \"method\": \" cash \", \"reference\": \" \"\x7d"

/-- The fields of its body. -/
def TopUpRequest.twelveAndAHalf : List (String × Json) :=
  [("amount", .text " +012.500e0 "), ("method", .text " cash "), ("reference", .text " ")]

theorem topUps_are_exact_till :
    TopUpRequest.ofFields TopUpRequest.twelveAndAHalf = .ok ⟨⟨false, 12500, -3⟩, "cash", none⟩ ∧
      Ledger.till.Receives .twelveAndAHalf ⟨⟨false, 12500, -3⟩, "cash", none⟩ ⟨1, "key"⟩ ∧
      TopUps.IsEnough Ledger.till.settings 1250 ∧
      (∃ response text, Ledger.till.topUp .twelveAndAHalf = (.ok response,
        { Ledger.till with store := { Ledger.till.store with transactions := [⟨1, 1, "topup", 125,
          none, "pending", some "cash", none, some 1250, none, 0, none⟩] } }) ∧
        response.body.bind (·.field? "real_amount") = some (.text text) ∧
        Amount.Spells text ((1250 : Nat) / 100)) ∧
      ∃ amount : Decimal,
        TopUpRequest.ofFields TopUpRequest.twelveAndAHalf = .ok ⟨amount, "cash", none⟩ ∧
        amount.value = (1250 : Nat) / 100 := by
  have hfields : TopUpRequest.ofFields TopUpRequest.twelveAndAHalf =
      .ok ⟨⟨false, 12500, -3⟩, "cash", none⟩ := by decide +kernel
  have hreceives : Ledger.till.Receives .twelveAndAHalf ⟨⟨false, 12500, -3⟩, "cash", none⟩
      ⟨1, "key"⟩ := ⟨by decide +kernel, by decide +kernel⟩
  have henough : TopUps.IsEnough Ledger.till.settings 1250 := ⟨by decide, by decide⟩
  obtain ⟨haccepted, hconverse⟩ := topUps_are_exact TopUpRequest.twelveAndAHalf
  obtain ⟨⟨⟨j, hj, hdenotes⟩, -, -⟩, c, hvalue, hfor⟩ := haccepted _ hfields
  -- the cents are those of the amount, whatever its last zero
  have hdigits : 12500 = c * 10 ^ 1 :=
    (Decimal.value_eq_cents_iff_of_le (d := ⟨false, 12500, -3⟩) rfl (by decide)).mp hvalue
  obtain rfl : c = 1250 := by omega
  refine ⟨hfields, hreceives, henough, hfor.recorded _ _ _ hreceives henough, ?_⟩
  obtain ⟨amount, hamount, hsame, -⟩ := hconverse j "cash" none 1250 hj (by decide) (by decide)
    (hvalue ▸ hdenotes) (by decide +kernel) (by decide +kernel)
  exact ⟨amount, hamount, hsame⟩

end Scrip
